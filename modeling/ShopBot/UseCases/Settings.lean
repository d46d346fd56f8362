import ShopBot.Persistence.VpnRepository

/-! # Settings, ambient values and jobs

What a use case is configured with, the values it draws from outside the database, and
the jobs it enqueues once its transaction has committed.
-/

namespace ShopBot

structure Settings where
  displayNamePrefix : String
  nodeInboundId : String
  xuiInboundId : ℕ
  nodeTaskMaxAttempts : ℕ := 5
  nodeTaskMaxAttempts_pos : 0 < nodeTaskMaxAttempts := by decide
  panelTaskMaxAttempts : ℕ := 5
  panelTaskMaxAttempts_pos : 0 < panelTaskMaxAttempts := by decide
  nodeRetryBaseSeconds : ℤ := 5
  nodeLeaseSeconds : ℤ := 60
  panelRetryBaseSeconds : ℤ := 5
  panelLeaseSeconds : ℤ := 60
  nodeHealthStaleAfterSeconds : ℤ := 180
  nodeUnavailableRetrySeconds : ℤ := 30
  mapper : RowMapper := .asWritten

/-- The clock, fresh identifiers and the random ticket seen by one transaction. -/
structure Ambient where
  now : DateTime
  clientUuid : Uuid := 0
  taskUuid : Uuid := 0
  leaseToken : Uuid := 0
  ticket : ℕ := 0
deriving DecidableEq, Repr

inductive VpnRevokeReason where
  | expiration

  | force

  | replacementCleanup
deriving DecidableEq, Repr

inductive Job where
  | provisionSubscription (subscriptionId : ℕ)

  | revokeVpnConfiguration (vpnConfigurationId : ℕ) (reason : VpnRevokeReason)

  | dispatchNodeTask (nodeTaskId : ℕ)

  | dispatchPanelProvisionTask (panelTaskId : ℕ)

  | dispatchPanelRevokeTask (panelRevokeTaskId : ℕ)

  | processPaymentEvent (paymentEventId : ℕ)
deriving DecidableEq, Repr

end ShopBot
