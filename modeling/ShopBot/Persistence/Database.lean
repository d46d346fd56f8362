import ShopBot.Domain.NodeSelection
import ShopBot.Domain.PanelTask
import ShopBot.Domain.Payment
import ShopBot.Domain.Subscription
import ShopBot.Domain.Vpn
import ShopBot.Library.Table

/-! # Database

The tables the use cases read and write. Identity columns are positions, so the
insertion order of a table is also its order by identifier and by creation time.
-/

namespace ShopBot

/-- A row of `node_status`. -/
structure NodeHealth where
  healthStatus : NodeStatus
  lastCheckedAt : Option DateTime
  activeClients : Option ℕ := none
  maxClients : Option ℕ := none
deriving DecidableEq, Repr

/-- A node with its status row and its active credential. -/
structure Node where
  isEnabled : Bool := true
  selectionWeight : ℕ := 100
  health : Option NodeHealth := none
  activeCredential : Option String := none
deriving DecidableEq, Repr

/-- An endpoint joined with the server it belongs to. -/
structure ServerEndpoint where
  serverId : ℕ
  serverIsEnabled : Bool := true
  isEnabled : Bool := true
  protocol : String := "vless"
  nodeId : Option ℕ := none
  localInboundId : Option String := none
  security : Option String := none
  sni : Option String := none
  fingerprint : Option String := none
  publicKey : Option String := none
  shortId : Option String := none
  flow : Option String := none
deriving DecidableEq, Repr

inductive NodeTaskAttemptStatus where
  | started

  | succeeded

  | failed
deriving DecidableEq, Repr

structure NodeTaskAttempt where
  nodeTaskId : ℕ
  attemptNo : ℕ
  status : NodeTaskAttemptStatus := .started
  requestPayload : NodePayload
  startedAt : DateTime
  finishedAt : Option DateTime := none
  responsePayload : Option NodeResponse := none
  errorMessage : Option String := none
deriving DecidableEq, Repr

structure ProviderTransaction where
  paymentOrderId : ℕ
  paymentAttemptId : Option ℕ
  provider : String
  transactionType : String
  providerTransactionKey : String
  transactionStatus : String
  amountMinor : ℤ
  currency : Currency
  payload : Payload
deriving DecidableEq, Repr

structure WebhookInboxRow where
  provider : String
  eventKey : String
  headers : Payload
  payload : Payload
  status : PaymentEventStatus
  processedAt : Option DateTime := none
deriving DecidableEq, Repr

structure User where
  telegramId : ℤ
  nameOrNick : String
deriving DecidableEq, Repr

@[ext]
structure Tariff where
  name : String
  price : Money
  price_pos : 0 < price.minor
  periodDays : ℕ
  periodDays_pos : 0 < periodDays
  isEnabled : Bool := true
deriving Repr

instance : DecidableEq Tariff :=
  fun _ _ => decidable_of_iff _ Tariff.ext_iff.symm

inductive AuditEventName where
  | subscriptionActivated

  | subscriptionEnded

  | paymentManuallySettled

  | paymentFailed

  | paymentExpired

  | paymentCancelled

  | refundEntitlementReconciliationRequired

  | vpnConfigurationCreated

  | vpnConfigurationActivated

  | vpnConfigurationRevoked
deriving DecidableEq, Repr

inductive AuditAggregateType where
  | subscription

  | paymentOrder

  | vpnConfiguration
deriving DecidableEq, Repr

structure AuditEvent where
  eventName : AuditEventName
  aggregateType : AuditAggregateType
  aggregateId : ℕ
deriving DecidableEq, Repr

structure Database where
  users : List User := []
  tariffs : List Tariff := []
  paymentOrders : List PaymentOrder := []
  paymentAttempts : List PaymentAttempt := []
  paymentEvents : List PaymentEvent := []
  providerTransactions : List ProviderTransaction := []
  webhookInbox : List WebhookInboxRow := []
  subscriptions : List Subscription := []
  subscriptionPeriods : List SubscriptionPeriod := []
  nodes : List Node := []
  serverEndpoints : List ServerEndpoint := []
  vpnConfigurations : List VpnConfiguration := []
  nodeTasks : List NodeTask := []
  nodeTaskAttempts : List NodeTaskAttempt := []
  panelProvisionTasks : List PanelProvisionTask := []
  panelRevokeTasks : List PanelRevokeTask := []
  auditEvents : List AuditEvent := []
deriving DecidableEq, Repr

/-- How rows of the panel provision ledger are mapped to entities: by the mapper of the
repository, or by one that passes the stored fields only. -/
inductive RowMapper where
  | asWritten

  | storedFields
deriving DecidableEq, Repr

namespace RowMapper

/-- Parameters of `PanelProvisionTask.__init__`. -/
def panelProvisionTaskParameters : List String :=
  ["id", "vpn_configuration_id", "subscription_id", "status", "idempotency_key", "payload",
    "vpn_generation", "attempts", "max_attempts", "next_retry_at", "last_error", "claimed_at",
    "lease_expires_at", "lease_token", "compensation_required", "created_at", "updated_at",
    "completed_at"]

/-- Keywords that `panel_provision_task_from_row` passes. -/
def keywords : RowMapper → List String
  | asWritten => panelProvisionTaskParameters ++ ["journal_retired_at"]
  | storedFields => panelProvisionTaskParameters

/-- A call with a keyword that is not a parameter raises before any field is set. -/
def panelProvisionTaskFromRow (mapper : RowMapper) (row : PanelProvisionTask) :
    Except Error PanelProvisionTask :=
  match mapper.keywords.find? (· ∉ panelProvisionTaskParameters) with
  | some keyword => .error (.typeError
      s!"PanelProvisionTask.__init__() got an unexpected keyword argument '{keyword}'")
  | none => .ok row

theorem asWritten_raises (row : PanelProvisionTask) :
    ∃ message, asWritten.panelProvisionTaskFromRow row = .error (.typeError message) := by
  have h : asWritten.keywords.find? (· ∉ panelProvisionTaskParameters)
      = some "journal_retired_at" := by decide
  unfold panelProvisionTaskFromRow
  rw [h]
  exact ⟨_, rfl⟩

@[simp]
theorem storedFields_fromRow (row : PanelProvisionTask) :
    storedFields.panelProvisionTaskFromRow row = .ok row := by
  have h : storedFields.keywords.find? (· ∉ panelProvisionTaskParameters) = none := by decide
  unfold panelProvisionTaskFromRow
  rw [h]

theorem fromRow_eq_ok {mapper : RowMapper} {row t : PanelProvisionTask}
    (h : mapper.panelProvisionTaskFromRow row = .ok t) : mapper = .storedFields ∧ t = row := by
  cases mapper with
  | asWritten =>
    obtain ⟨message, he⟩ := asWritten_raises row
    rw [he] at h
    cases h
  | storedFields =>
    rw [storedFields_fromRow] at h
    exact ⟨rfl, (Except.ok.inj h).symm⟩

end RowMapper

end ShopBot
