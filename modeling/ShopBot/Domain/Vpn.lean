import ShopBot.Domain.Common

/-! # VPN configurations

Status machine of a configuration. A row is stored without its identifier, which is
its position in the table. Every request to revoke raises the generation.
-/

namespace ShopBot

inductive VpnConfigurationStatus where
  | provisioning

  | active

  | failed

  | revoking

  | revokeFailed

  | revoked

  | expired

  | disabled
deriving DecidableEq, Repr

inductive VpnDesiredState where
  | active

  | revoked
deriving DecidableEq, Repr

@[ext]
structure VpnConfiguration where
  subscriptionId : ℕ
  serverEndpointId : ℕ
  clientUuid : Uuid
  displayName : String
  status : VpnConfigurationStatus
  remoteClientRef : Option String := none
  revokedAt : Option DateTime := none
  desiredState : VpnDesiredState := .active
  generation : ℕ := 1
  generation_pos : 0 < generation := by decide
deriving Repr

instance : DecidableEq VpnConfiguration :=
  fun _ _ => decidable_of_iff _ VpnConfiguration.ext_iff.symm

theorem VpnConfiguration.generation_pos_of_mem (c : VpnConfiguration) :
    ∀ g ∈ some c.generation, 0 < g :=
  fun _ h => Option.mem_some.1 h ▸ c.generation_pos

namespace VpnConfigurationStatus

/-- `VpnConfiguration.is_terminal` on the status. -/
def isTerminal : VpnConfigurationStatus → Bool
  | revoked | expired | disabled => true
  | _ => false

def text : VpnConfigurationStatus → String
  | provisioning => "provisioning"
  | active => "active"
  | failed => "failed"
  | revoking => "revoking"
  | revokeFailed => "revoke_failed"
  | revoked => "revoked"
  | expired => "expired"
  | disabled => "disabled"

end VpnConfigurationStatus

/-- `not value or not str(value).strip()`. -/
def isBlank (value : Option String) : Bool := value.all (stripText · = "")

def validateVlessEndpoint (protocol : String)
    (security sni fingerprint publicKey shortId flow : Option String) : Except Error Unit := do
  let securityValue := lowerText (stripText ((orText security none).getD "none"))
  let flowValue := lowerText (stripText (flow.getD ""))
  require (lowerText (stripText protocol) = "vless")
    (.domainValidation "Only VLESS endpoints are supported")
  if securityValue = "reality" then
    let missing := [("sni", sni), ("fingerprint", fingerprint), ("public_key", publicKey),
      ("short_id", shortId)].filter fun field => isBlank field.2
    require missing.isEmpty
      (.domainValidation ("REALITY endpoint requires: " ++ ", ".intercalate (missing.map (·.1))))
  require (flowValue ≠ "xtls-rprx-vision" || securityValue = "tls" || securityValue = "reality")
    (.domainValidation "xtls-rprx-vision requires tls or reality security")

namespace VpnConfiguration

variable {c c' : VpnConfiguration}

def isTerminal (c : VpnConfiguration) : Bool := c.status.isTerminal

def activate (c : VpnConfiguration) (remoteClientRef : Option String) :
    Except Error VpnConfiguration :=
  if c.status ≠ .provisioning then
    .error (.invalidStateTransition "Only provisioning VPN configuration can be activated")
  else if c.desiredState ≠ .active then
    .error (.invalidStateTransition "VPN configuration is no longer desired to be active")
  else
    .ok { c with
      status := .active
      remoteClientRef := orText remoteClientRef c.remoteClientRef
      revokedAt := none }

/-- The common body of the four requests to revoke: they differ in the status they
start from, in the message and in whether they clear `revoked_at`. -/
def requestRevoke (c : VpnConfiguration) (required : VpnConfigurationStatus) (message : String)
    (revokedAt : Option DateTime) : Except Error VpnConfiguration :=
  if c.status ≠ required then
    .error (.invalidStateTransition message)
  else
    .ok { c with
      desiredState := .revoked
      generation := c.generation + 1
      generation_pos := Nat.succ_pos _
      status := .revoking
      revokedAt := revokedAt }

def beginRevoke (c : VpnConfiguration) : Except Error VpnConfiguration :=
  c.requestRevoke .active "Only active VPN configuration can begin revoke" c.revokedAt

def retryRevoke (c : VpnConfiguration) : Except Error VpnConfiguration :=
  c.requestRevoke .revokeFailed "Only failed revoke can be retried" none

def cancelProvisioningForRevoke (c : VpnConfiguration) : Except Error VpnConfiguration :=
  c.requestRevoke .provisioning "Only provisioning VPN can be cancelled for revoke" none

def requestCleanupFromFailed (c : VpnConfiguration) : Except Error VpnConfiguration :=
  c.requestRevoke .failed "Only failed VPN can request cleanup" none

def revoke (c : VpnConfiguration) (now : DateTime) : Except Error VpnConfiguration :=
  if c.status ≠ .revoking then
    .error (.invalidStateTransition "Only revoking VPN configuration can be revoked")
  else if c.desiredState ≠ .revoked then
    .error (.invalidStateTransition "VPN configuration is not desired to be revoked")
  else
    .ok { c with status := .revoked, revokedAt := some now }

def failProvisioning (c : VpnConfiguration) : Except Error VpnConfiguration :=
  if c.status ≠ .provisioning then
    .error (.invalidStateTransition "Only provisioning VPN configuration can fail provisioning")
  else
    .ok { c with status := .failed }

def failRevoke (c : VpnConfiguration) : Except Error VpnConfiguration :=
  if c.status ≠ .revoking then
    .error (.invalidStateTransition "Only revoking VPN configuration can fail revoke")
  else
    .ok { c with status := .revokeFailed }

theorem activate_eq_ok {ref : Option String} : c.activate ref = .ok c' ↔
    c.status = .provisioning ∧ c.desiredState = .active ∧
      c' = { c with
        status := .active
        remoteClientRef := orText ref c.remoteClientRef
        revokedAt := none } := by
  unfold activate
  split_ifs with hs hd
  · simp [hs]
  · simp [hd]
  · simp only [ne_eq, not_not] at hs hd
    simp [hs, hd, eq_comm]

theorem requestRevoke_eq_ok {required : VpnConfigurationStatus} {message : String}
    {revokedAt : Option DateTime} : c.requestRevoke required message revokedAt = .ok c' ↔
    c.status = required ∧ c' = { c with
      desiredState := .revoked
      generation := c.generation + 1
      generation_pos := Nat.succ_pos _
      status := .revoking
      revokedAt := revokedAt } := by
  unfold requestRevoke
  split_ifs with hs
  · simp [hs]
  · simp only [ne_eq, not_not] at hs
    simp [hs, eq_comm]

theorem revoke_eq_ok {now : DateTime} : c.revoke now = .ok c' ↔
    c.status = .revoking ∧ c.desiredState = .revoked ∧
      c' = { c with status := .revoked, revokedAt := some now } := by
  unfold revoke
  split_ifs with hs hd
  · simp [hs]
  · simp [hd]
  · simp only [ne_eq, not_not] at hs hd
    simp [hs, hd, eq_comm]

theorem failProvisioning_eq_ok : c.failProvisioning = .ok c' ↔
    c.status = .provisioning ∧ c' = { c with status := .failed } := by
  unfold failProvisioning
  split_ifs with hs
  · simp [hs]
  · simp only [ne_eq, not_not] at hs
    simp [hs, eq_comm]

theorem failRevoke_eq_ok : c.failRevoke = .ok c' ↔
    c.status = .revoking ∧ c' = { c with status := .revokeFailed } := by
  unfold failRevoke
  split_ifs with hs
  · simp [hs]
  · simp only [ne_eq, not_not] at hs
    simp [hs, eq_comm]

end VpnConfiguration

end ShopBot
