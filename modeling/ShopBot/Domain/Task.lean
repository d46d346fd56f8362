import ShopBot.Domain.Common

/-! # Durable tasks

Node tasks, panel provision tasks and panel revoke tasks share their statuses, the
attempt counter and the lease of the worker that owns the current attempt. The shared
operations take the messages that differ between the three kinds.
-/

namespace ShopBot

inductive TaskStatus where
  | pending

  | inProgress

  | succeeded

  | failed

  | cancelled
deriving DecidableEq, Repr

namespace TaskStatus

/-- The terminal statuses of a task. -/
def isTerminal : TaskStatus → Bool
  | succeeded | failed | cancelled => true
  | _ => false

/-- A task that a worker may still claim or already owns. -/
def isOpen (s : TaskStatus) : Bool := !s.isTerminal

def text : TaskStatus → String
  | pending => "pending"
  | inProgress => "in_progress"
  | succeeded => "succeeded"
  | failed => "failed"
  | cancelled => "cancelled"

end TaskStatus

@[ext]
structure DurableTask where
  status : TaskStatus := .pending
  attempts : ℕ := 0
  maxAttempts : ℕ
  maxAttempts_pos : 0 < maxAttempts
  nextRetryAt : Option DateTime := none
  lastError : Option String := none
  claimedAt : Option DateTime := none
  leaseExpiresAt : Option DateTime := none
  leaseToken : Option Uuid := none
  updatedAt : Option DateTime := none
  completedAt : Option DateTime := none
deriving Repr

instance : DecidableEq DurableTask :=
  fun _ _ => decidable_of_iff _ DurableTask.ext_iff.symm

/-- Delay before the next attempt, in seconds. -/
def retryDelaySeconds (baseDelaySeconds : ℤ) (attempts : ℕ) : ℤ :=
  min (baseDelaySeconds * 2 ^ (attempts - 1)) 300

namespace DurableTask

variable {t t' : DurableTask} {now : DateTime}

def canDispatch (t : DurableTask) (now : DateTime) : Bool :=
  t.status = .pending && t.nextRetryAt.all (· ≤ now)

def startAttempt (t : DurableTask) (notReady badLease : String) (now leaseExpiresAt : DateTime)
    (leaseToken : Uuid) : Except Error DurableTask :=
  if t.canDispatch now = false then
    .error (.invalidStateTransition notReady)
  else if leaseExpiresAt ≤ now then
    .error (.domainValidation badLease)
  else
    .ok { t with
      status := .inProgress
      attempts := t.attempts + 1
      claimedAt := some now
      leaseExpiresAt := some leaseExpiresAt
      leaseToken := some leaseToken
      lastError := none
      updatedAt := some now }

def ownsLease (t : DurableTask) (token : Uuid) (attemptNo : ℕ) : Bool :=
  t.status = .inProgress && t.leaseToken = some token && t.attempts = attemptNo

def ownsActiveLease (t : DurableTask) (token : Uuid) (attemptNo : ℕ) (now : DateTime) : Bool :=
  t.ownsLease token attemptNo && t.leaseExpiresAt.any (now < ·)

def leaseIsExpired (t : DurableTask) (now : DateTime) : Bool :=
  t.status = .inProgress && t.leaseExpiresAt.any (· ≤ now)

def clearLease (t : DurableTask) : DurableTask :=
  { t with claimedAt := none, leaseExpiresAt := none, leaseToken := none }

def complete (t : DurableTask) (message : String) (now : DateTime) : Except Error DurableTask :=
  if t.status ≠ .inProgress then
    .error (.invalidStateTransition message)
  else
    .ok (clearLease { t with
      status := .succeeded
      completedAt := some now
      updatedAt := some now
      lastError := none })

def fail (t : DurableTask) (now : DateTime) (error : String) : DurableTask :=
  clearLease { t with
    status := .failed
    lastError := some error
    completedAt := some now
    updatedAt := some now }

def retry (t : DurableTask) (now : DateTime) (error : String) (baseDelaySeconds : ℤ) :
    DurableTask :=
  if t.maxAttempts ≤ t.attempts then
    t.fail now error
  else
    clearLease { t with
      status := .pending
      nextRetryAt := some (now + seconds (retryDelaySeconds baseDelaySeconds t.attempts))
      lastError := some error
      updatedAt := some now }

/-- Return an owned task to the queue at once. -/
def release (t : DurableTask) (now : DateTime) (error : String) : DurableTask :=
  clearLease { t with
    status := .pending
    nextRetryAt := some now
    lastError := some error
    updatedAt := some now }

/-- No worker owns the task. -/
def Unleased (t : DurableTask) : Prop :=
  t.claimedAt = none ∧ t.leaseExpiresAt = none ∧ t.leaseToken = none

/-- A worker owns the task. -/
def Leased (t : DurableTask) : Prop :=
  t.claimedAt.isSome = true ∧ t.leaseExpiresAt.isSome = true ∧ t.leaseToken.isSome = true

/-- The task has just been created. -/
def Fresh (t : DurableTask) : Prop :=
  t.status = .pending ∧ t.attempts = 0 ∧ t.Unleased

theorem clearLease_unleased (t : DurableTask) : t.clearLease.Unleased := ⟨rfl, rfl, rfl⟩

theorem startAttempt_eq_ok {notReady badLease : String} {leaseExpiresAt : DateTime}
    {token : Uuid} : t.startAttempt notReady badLease now leaseExpiresAt token = .ok t' ↔
    t.canDispatch now = true ∧ now < leaseExpiresAt ∧ t' = { t with
      status := .inProgress
      attempts := t.attempts + 1
      claimedAt := some now
      leaseExpiresAt := some leaseExpiresAt
      leaseToken := some token
      lastError := none
      updatedAt := some now } := by
  unfold startAttempt
  split_ifs with hd hl
  · simp [hd]
  · simp [not_lt.2 hl]
  · simp only [Bool.not_eq_false] at hd
    simp [hd, not_le.1 hl, eq_comm]

theorem complete_eq_ok {message : String} : t.complete message now = .ok t' ↔
    t.status = .inProgress ∧ t' = clearLease { t with
      status := .succeeded
      completedAt := some now
      updatedAt := some now
      lastError := none } := by
  unfold complete
  split_ifs with hs
  · simp [hs]
  · simp only [ne_eq, not_not] at hs
    simp [hs, eq_comm]

theorem canDispatch_status (h : t.canDispatch now = true) : t.status = .pending := by
  simp only [canDispatch, Bool.and_eq_true, decide_eq_true_eq] at h
  exact h.1

theorem ownsLease_iff {token : Uuid} {n : ℕ} : t.ownsLease token n = true ↔
    t.status = .inProgress ∧ t.leaseToken = some token ∧ t.attempts = n := by
  simp [ownsLease, and_assoc]

theorem ownsActiveLease_iff {token : Uuid} {n : ℕ} : t.ownsActiveLease token n now = true ↔
    t.ownsLease token n = true ∧ ∃ e, t.leaseExpiresAt = some e ∧ now < e := by
  simp [ownsActiveLease, Option.any_eq_true]

theorem leaseIsExpired_iff : t.leaseIsExpired now = true ↔
    t.status = .inProgress ∧ ∃ e, t.leaseExpiresAt = some e ∧ e ≤ now := by
  simp [leaseIsExpired, Option.any_eq_true]

@[simp]
theorem clearLease_status : t.clearLease.status = t.status := rfl

@[simp]
theorem fail_status {error : String} : (t.fail now error).status = .failed := rfl

@[simp]
theorem release_status {error : String} : (t.release now error).status = .pending := rfl

theorem retry_status {error : String} {base : ℤ} : (t.retry now error base).status =
    if t.maxAttempts ≤ t.attempts then .failed else .pending := by
  unfold retry
  split_ifs <;> rfl

end DurableTask

end ShopBot
