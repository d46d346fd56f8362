import ShopBot.Domain.Node

/-! # Panel tasks

Operations on a panel are durable tasks of two kinds. A configuration has at most one
provision task, which also owns the compensation of a provision whose outcome is not
known; revoke tasks are numbered by generation.
-/

namespace ShopBot

/-- The inbound of the endpoint, or the configured panel inbound when it names none. -/
inductive PanelInbound where
  | endpoint (localInboundId : String)

  | settings (xuiInboundId : ℕ)
deriving DecidableEq, Repr

/-- Request body of a panel operation; a revoke carries the inbound and the client only. -/
structure PanelPayload where
  xuiInboundId : PanelInbound
  clientUuid : Uuid
  displayName : Option String := none
  flow : Option String := none
  expiresAt : Option DateTime := none
deriving DecidableEq, Repr

@[ext]
structure PanelProvisionTask extends DurableTask where
  vpnConfigurationId : ℕ
  subscriptionId : ℕ
  idempotencyKey : IdempotencyKey
  payload : PanelPayload
  vpnGeneration : ℕ := 1
  vpnGeneration_pos : 0 < vpnGeneration := by decide
  compensationRequired : Bool := false
deriving Repr

instance : DecidableEq PanelProvisionTask :=
  fun _ _ => decidable_of_iff _ PanelProvisionTask.ext_iff.symm

@[ext]
structure PanelRevokeTask extends DurableTask where
  taskUuid : Uuid
  vpnConfigurationId : ℕ
  subscriptionId : ℕ
  vpnGeneration : ℕ
  vpnGeneration_pos : 0 < vpnGeneration
  idempotencyKey : IdempotencyKey
  payload : PanelPayload
deriving Repr

instance : DecidableEq PanelRevokeTask :=
  fun _ _ => decidable_of_iff _ PanelRevokeTask.ext_iff.symm

namespace PanelProvisionTask

variable {t t' : PanelProvisionTask} {now : DateTime}

def startAttempt (t : PanelProvisionTask) (now leaseExpiresAt : DateTime) (leaseToken : Uuid) :
    Except Error PanelProvisionTask := do
  let core ← t.toDurableTask.startAttempt "Panel task is not ready for dispatch"
    "Panel task lease must expire after claim time" now leaseExpiresAt leaseToken
  return { t with toDurableTask := core }

def complete (t : PanelProvisionTask) (now : DateTime) : Except Error PanelProvisionTask := do
  let core ← t.toDurableTask.complete "Only in-progress panel task can complete" now
  return { t with toDurableTask := core, compensationRequired := false }

def retry (t : PanelProvisionTask) (now : DateTime) (error : String) (baseDelaySeconds : ℤ) :
    PanelProvisionTask :=
  { t with toDurableTask := t.toDurableTask.retry now error baseDelaySeconds }

def recoverExpiredLease (t : PanelProvisionTask) (now : DateTime) (error : String) :
    Except Error PanelProvisionTask :=
  if t.leaseIsExpired now = false then
    .error (.invalidStateTransition "Panel task lease is not expired")
  else
    .ok { t with toDurableTask := t.release now error, compensationRequired := true }

def markCompensationRequired (t : PanelProvisionTask) (now : DateTime) (error : String) :
    Except Error PanelProvisionTask :=
  if t.status ≠ .inProgress then
    .error (.invalidStateTransition
      "Only in-progress panel task can require owned compensation")
  else
    .ok { t with compensationRequired := true, lastError := some error, updatedAt := some now }

def requireCompensation (t : PanelProvisionTask) (now : DateTime) (error : String) :
    PanelProvisionTask :=
  { t with toDurableTask := t.release now error, compensationRequired := true }

def compensationSucceeded (t : PanelProvisionTask) (now : DateTime) (terminalLocalState : Bool) :
    PanelProvisionTask :=
  let cleared := DurableTask.clearLease { t.toDurableTask with
    lastError := none
    updatedAt := some now }
  let core : DurableTask :=
    if terminalLocalState then { cleared with status := .cancelled, completedAt := some now }
    else if cleared.maxAttempts ≤ cleared.attempts then
      { cleared with status := .failed, completedAt := some now }
    else { cleared with status := .pending, nextRetryAt := some now, completedAt := none }
  { t with toDurableTask := core, compensationRequired := false }

theorem startAttempt_eq_ok {leaseExpiresAt : DateTime} {token : Uuid} :
    t.startAttempt now leaseExpiresAt token = .ok t' ↔
    t.canDispatch now = true ∧ now < leaseExpiresAt ∧ t' = { t with
      status := .inProgress
      attempts := t.attempts + 1
      claimedAt := some now
      leaseExpiresAt := some leaseExpiresAt
      leaseToken := some token
      lastError := none
      updatedAt := some now } := by
  simp only [startAttempt, bind_eq_ok, DurableTask.startAttempt_eq_ok, pure, Except.pure,
    Except.ok.injEq]
  constructor
  · rintro ⟨core, ⟨hd, hl, rfl⟩, rfl⟩
    exact ⟨hd, hl, rfl⟩
  · rintro ⟨hd, hl, rfl⟩
    exact ⟨_, ⟨hd, hl, rfl⟩, rfl⟩

theorem complete_eq_ok : t.complete now = .ok t' ↔
    t.status = .inProgress ∧ t' = { t with
      toDurableTask := DurableTask.clearLease { t.toDurableTask with
        status := .succeeded
        completedAt := some now
        updatedAt := some now
        lastError := none }
      compensationRequired := false } := by
  simp only [complete, bind_eq_ok, DurableTask.complete_eq_ok, pure, Except.pure,
    Except.ok.injEq]
  constructor
  · rintro ⟨core, ⟨hs, rfl⟩, rfl⟩
    exact ⟨hs, rfl⟩
  · rintro ⟨hs, rfl⟩
    exact ⟨_, ⟨hs, rfl⟩, rfl⟩

theorem recoverExpiredLease_eq_ok {error : String} :
    t.recoverExpiredLease now error = .ok t' ↔ t.leaseIsExpired now = true ∧
      t' = { t with toDurableTask := t.release now error, compensationRequired := true } := by
  unfold recoverExpiredLease
  split_ifs with hs
  · simp [hs]
  · simp only [Bool.not_eq_false] at hs
    simp [hs, eq_comm]

theorem markCompensationRequired_eq_ok {error : String} :
    t.markCompensationRequired now error = .ok t' ↔ t.status = .inProgress ∧
      t' = { t with
        compensationRequired := true
        lastError := some error
        updatedAt := some now } := by
  unfold markCompensationRequired
  split_ifs with hs
  · simp [hs]
  · simp only [ne_eq, not_not] at hs
    simp [hs, eq_comm]

theorem compensationSucceeded_status {terminal : Bool} :
    (t.compensationSucceeded now terminal).status = if terminal then .cancelled
      else if t.maxAttempts ≤ t.attempts then .failed else .pending := by
  cases terminal
  · by_cases h : t.maxAttempts ≤ t.attempts <;>
      simp [compensationSucceeded, DurableTask.clearLease, h]
  · rfl

end PanelProvisionTask

namespace PanelRevokeTask

variable {t t' : PanelRevokeTask} {now : DateTime}

def startAttempt (t : PanelRevokeTask) (now leaseExpiresAt : DateTime) (leaseToken : Uuid) :
    Except Error PanelRevokeTask := do
  let core ← t.toDurableTask.startAttempt "Panel revoke task is not ready for dispatch"
    "Panel revoke task lease must expire after claim time" now leaseExpiresAt leaseToken
  return { t with toDurableTask := core }

def complete (t : PanelRevokeTask) (now : DateTime) : Except Error PanelRevokeTask := do
  let core ← t.toDurableTask.complete "Only in-progress panel revoke task can complete" now
  return { t with toDurableTask := core }

def retry (t : PanelRevokeTask) (now : DateTime) (error : String) (baseDelaySeconds : ℤ) :
    PanelRevokeTask :=
  { t with toDurableTask := t.toDurableTask.retry now error baseDelaySeconds }

def recoverExpiredLease (t : PanelRevokeTask) (now : DateTime) (error : String) :
    Except Error PanelRevokeTask :=
  if t.leaseIsExpired now = false then
    .error (.invalidStateTransition "Panel revoke task lease is not expired")
  else
    .ok { t with toDurableTask := t.release now error }

theorem startAttempt_eq_ok {leaseExpiresAt : DateTime} {token : Uuid} :
    t.startAttempt now leaseExpiresAt token = .ok t' ↔
    t.canDispatch now = true ∧ now < leaseExpiresAt ∧ t' = { t with
      status := .inProgress
      attempts := t.attempts + 1
      claimedAt := some now
      leaseExpiresAt := some leaseExpiresAt
      leaseToken := some token
      lastError := none
      updatedAt := some now } := by
  simp only [startAttempt, bind_eq_ok, DurableTask.startAttempt_eq_ok, pure, Except.pure,
    Except.ok.injEq]
  constructor
  · rintro ⟨core, ⟨hd, hl, rfl⟩, rfl⟩
    exact ⟨hd, hl, rfl⟩
  · rintro ⟨hd, hl, rfl⟩
    exact ⟨_, ⟨hd, hl, rfl⟩, rfl⟩

theorem complete_eq_ok : t.complete now = .ok t' ↔
    t.status = .inProgress ∧ t' = { t with
      toDurableTask := DurableTask.clearLease { t.toDurableTask with
        status := .succeeded
        completedAt := some now
        updatedAt := some now
        lastError := none } } := by
  simp only [complete, bind_eq_ok, DurableTask.complete_eq_ok, pure, Except.pure,
    Except.ok.injEq]
  constructor
  · rintro ⟨core, ⟨hs, rfl⟩, rfl⟩
    exact ⟨hs, rfl⟩
  · rintro ⟨hs, rfl⟩
    exact ⟨_, ⟨hs, rfl⟩, rfl⟩

theorem recoverExpiredLease_eq_ok {error : String} :
    t.recoverExpiredLease now error = .ok t' ↔ t.leaseIsExpired now = true ∧
      t' = { t with toDurableTask := t.release now error } := by
  unfold recoverExpiredLease
  split_ifs with hs
  · simp [hs]
  · simp only [Bool.not_eq_false] at hs
    simp [hs, eq_comm]

end PanelRevokeTask

end ShopBot
