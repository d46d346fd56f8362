import ShopBot.Domain.Task

/-! # Nodes and node tasks

A node task is one physical operation on a node. Its idempotency key names the
operation, the configuration, the generation and the task itself.
-/

namespace ShopBot

inductive NodeStatus where
  | unknown

  | online

  | offline

  | degraded
deriving DecidableEq, Repr

inductive NodeTaskOperation where
  | provisionClient

  | revokeClient

  | syncStatus
deriving DecidableEq, Repr

def PROVISION_SUCCESS_STATUSES : List String := ["provisioned", "already_exists"]

def REVOKE_SUCCESS_STATUSES : List String := ["revoked", "not_found_treated_as_success"]

/-- Idempotency keys of the four kinds of task, as the parts their texts are built from. -/
inductive IdempotencyKey where
  /-- `provision:vpn_configuration:…:generation:…:task:…` -/
  | provision (vpnConfigurationId generation : ℕ) (taskUuid : Uuid)

  /-- `revoke:vpn_configuration:…:generation:…:task:…` -/
  | revoke (vpnConfigurationId generation : ℕ) (taskUuid : Uuid)

  /-- `panel-provision:vpn_configuration:…` -/
  | panelProvision (vpnConfigurationId : ℕ)

  /-- `panel-revoke:vpn_configuration:…:generation:…:task:…` -/
  | panelRevoke (vpnConfigurationId generation : ℕ) (taskUuid : Uuid)
deriving DecidableEq, Repr

structure NodePayloadMetadata where
  vpnConfigurationId : ℕ
  vpnGeneration : ℕ
  compensationForTaskId : Option Uuid := none
deriving DecidableEq, Repr

/-- Request body of a node operation; a revoke carries no display name, flow or expiry. -/
structure NodePayload where
  taskId : Uuid
  idempotencyKey : IdempotencyKey
  clientUuid : Uuid
  inboundId : String
  metadata : NodePayloadMetadata
  displayName : Option String := none
  flow : Option String := none
  expiresAt : Option DateTime := none
deriving DecidableEq, Repr

/-- The keys of a node's reply that the dispatcher reads. -/
structure NodeResponse where
  status : Option String := none
  message : Option String := none
  errorCode : Option String := none
  remoteClientRef : Option String := none
deriving DecidableEq, Repr

structure NodeTask extends DurableTask where
  taskUuid : Uuid
  nodeId : ℕ
  operation : NodeTaskOperation
  idempotencyKey : IdempotencyKey
  payload : NodePayload
  vpnConfigurationId : Option ℕ := none
  subscriptionId : Option ℕ := none
  vpnGeneration : Option ℕ := none
  vpnGeneration_pos : ∀ g ∈ vpnGeneration, 0 < g := by decide
  responsePayload : Option NodeResponse := none
  remoteClientRef : Option String := none
deriving DecidableEq, Repr

namespace NodeTask

variable {t t' : NodeTask} {now : DateTime}

theorem attempts_bound_pos (t : NodeTask) : 0 < t.maxAttempts := t.maxAttempts_pos

def startAttempt (t : NodeTask) (now leaseExpiresAt : DateTime) (leaseToken : Uuid) :
    Except Error NodeTask := do
  let core ← t.toDurableTask.startAttempt "Node task is not ready for dispatch"
    "Node task lease must expire after claim time" now leaseExpiresAt leaseToken
  return { t with toDurableTask := core }

def deferWithoutAttempt (t : NodeTask) (now : DateTime) (delaySeconds : ℤ) (error : String) :
    Except Error NodeTask :=
  if t.status ≠ .pending then
    .error (.invalidStateTransition "Only pending node task can be deferred")
  else if delaySeconds ≤ 0 then
    .error (.domainValidation "Node task defer delay must be positive")
  else
    .ok { t with toDurableTask := DurableTask.clearLease { t.toDurableTask with
      nextRetryAt := some (now + seconds delaySeconds)
      lastError := some error
      updatedAt := some now } }

def acceptsRemoteStatus (t : NodeTask) (remoteStatus : String) : Bool :=
  match t.operation with
  | .provisionClient => remoteStatus ∈ PROVISION_SUCCESS_STATUSES
  | .revokeClient => remoteStatus ∈ REVOKE_SUCCESS_STATUSES
  | .syncStatus => false

def complete (t : NodeTask) (response : NodeResponse) (now : DateTime) : Except Error NodeTask := do
  let core ← t.toDurableTask.complete "Only in-progress node task can complete" now
  return { t with
    toDurableTask := core
    responsePayload := some response
    remoteClientRef := response.remoteClientRef }

def retry (t : NodeTask) (error : String) (response : Option NodeResponse) (now : DateTime)
    (baseDelaySeconds : ℤ) : NodeTask :=
  { t with
    toDurableTask := t.toDurableTask.retry now error baseDelaySeconds
    responsePayload := response }

def recoverExpiredLease (t : NodeTask) (now : DateTime) (error : String) (baseDelaySeconds : ℤ) :
    Except Error NodeTask :=
  if t.leaseIsExpired now = false then
    .error (.invalidStateTransition "Node task lease is not expired")
  else
    .ok (t.retry error none now baseDelaySeconds)

theorem startAttempt_eq_ok {leaseExpiresAt : DateTime} {token : Uuid} :
    t.startAttempt now leaseExpiresAt token = .ok t' ↔
    t.canDispatch now = true ∧ now < leaseExpiresAt ∧ t' = { t with
      status := .inProgress
      attempts := t.attempts + 1
      claimedAt := some now
      leaseExpiresAt := some leaseExpiresAt
      leaseToken := some token
      lastError := none
      updatedAt := some now } := by
  simp only [startAttempt, bind_eq_ok, DurableTask.startAttempt_eq_ok, pure, Except.pure,
    Except.ok.injEq]
  constructor
  · rintro ⟨core, ⟨hd, hl, rfl⟩, rfl⟩
    exact ⟨hd, hl, rfl⟩
  · rintro ⟨hd, hl, rfl⟩
    exact ⟨_, ⟨hd, hl, rfl⟩, rfl⟩

theorem deferWithoutAttempt_eq_ok {delay : ℤ} {error : String} :
    t.deferWithoutAttempt now delay error = .ok t' ↔
    t.status = .pending ∧ 0 < delay ∧
      t' = { t with toDurableTask := DurableTask.clearLease { t.toDurableTask with
        nextRetryAt := some (now + seconds delay)
        lastError := some error
        updatedAt := some now } } := by
  unfold deferWithoutAttempt
  split_ifs with hs hd
  · simp [hs]
  · simp [Int.not_lt.2 hd]
  · simp only [ne_eq, not_not] at hs
    simp [hs, Int.not_le.1 hd, eq_comm]

theorem complete_eq_ok {response : NodeResponse} : t.complete response now = .ok t' ↔
    t.status = .inProgress ∧ t' = { t with
      toDurableTask := DurableTask.clearLease { t.toDurableTask with
        status := .succeeded
        completedAt := some now
        updatedAt := some now
        lastError := none }
      responsePayload := some response
      remoteClientRef := response.remoteClientRef } := by
  simp only [complete, bind_eq_ok, DurableTask.complete_eq_ok, pure, Except.pure,
    Except.ok.injEq]
  constructor
  · rintro ⟨core, ⟨hs, rfl⟩, rfl⟩
    exact ⟨hs, rfl⟩
  · rintro ⟨hs, rfl⟩
    exact ⟨_, ⟨hs, rfl⟩, rfl⟩

theorem recoverExpiredLease_eq_ok {error : String} {base : ℤ} :
    t.recoverExpiredLease now error base = .ok t' ↔
    t.leaseIsExpired now = true ∧ t' = t.retry error none now base := by
  unfold recoverExpiredLease
  split_ifs with hs
  · simp [hs]
  · simp only [Bool.not_eq_false] at hs
    simp [hs, eq_comm]

end NodeTask

end ShopBot
