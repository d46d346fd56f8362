import Mathlib.Logic.Function.Basic
import ShopBot.Domain.Common
import ShopBot.Library.Transition

/-! # The operation journal of a node agent

One row for each idempotency key: the request that claimed it first, the owner of the
current attempt and its lease, and the response once the operation is completed. Each
call is one transaction of the embedded database. Responses are stored as text by a
codec.
-/

namespace ShopBot

/-- The codec of stored responses; an empty text stands for an empty response. -/
structure ResponseCodec (R : Type) where
  dumps : R → String
  loads : String → R
  empty : R

/-- What is read back is what was written, and no response is written as an empty text. -/
structure ResponseCodec.Faithful {R : Type} (codec : ResponseCodec R) : Prop where
  loads_dumps : ∀ r, codec.loads (codec.dumps r) = r
  dumps_ne : ∀ r, codec.dumps r ≠ ""

inductive AgentOperation where
  | provision

  | revoke
deriving DecidableEq, Repr

inductive JournalStatus where
  | inProgress

  | completed

  | retryable
deriving DecidableEq, Repr

/-- What a claim asks for, under its idempotency key. -/
structure JournalRequest where
  requestHash : String
  operation : AgentOperation
  clientUuid : String
  inboundId : String
deriving DecidableEq, Repr

/-- A row of `node_operation_journal`. -/
structure JournalRow where
  request : JournalRequest
  status : JournalStatus
  responseJson : Option String := none
  ownerToken : Option Uuid := none
  leaseExpiresAt : Option DateTime := none
  lastError : Option String := none
  createdAt : DateTime
  updatedAt : DateTime
deriving DecidableEq, Repr

inductive JournalClaimKind where
  | owner

  | replay

  | conflict

  | inProgress
deriving DecidableEq, Repr

structure JournalClaim (R : Type) where
  kind : JournalClaimKind
  ownerToken : Option Uuid := none
  response : Option R := none
  reclaimed : Bool := false
deriving DecidableEq, Repr

inductive JournalRetirement where
  | alreadyRetired

  | operationInProgress

  | retired
deriving DecidableEq, Repr

/-- The rows by idempotency key. -/
abbrev Journal := String → Option JournalRow

namespace JournalRow

def ownedBy (row : JournalRow) (token : Uuid) : Bool :=
  row.status = .inProgress && row.ownerToken = some token

def hasLiveLease (row : JournalRow) (now : DateTime) : Bool :=
  row.status = .inProgress && row.leaseExpiresAt.any (now < ·)

theorem ownedBy_iff {row : JournalRow} {token : Uuid} :
    row.ownedBy token = true ↔ row.status = .inProgress ∧ row.ownerToken = some token := by
  simp [ownedBy]

theorem hasLiveLease_iff {row : JournalRow} {now : DateTime} : row.hasLiveLease now = true ↔
    row.status = .inProgress ∧ ∃ e, row.leaseExpiresAt = some e ∧ now < e := by
  simp [hasLiveLease, Option.any_eq_true]

end JournalRow

namespace NodeOperationJournal

variable {R : Type} (codec : ResponseCodec R) (leaseSeconds : ℤ)

/-- The response of a completed row. -/
def storedResponse (row : JournalRow) : R :=
  match row.responseJson with
  | none => codec.empty
  | some text => if text = "" then codec.empty else codec.loads text

def claim (j : Journal) (key : String) (request : JournalRequest) (now : DateTime)
    (ownerToken : Uuid) : JournalClaim R × Journal :=
  let leaseExpiresAt := now + seconds leaseSeconds
  match j key with
  | none => ({ kind := .owner, ownerToken := some ownerToken }, Function.update j key (some {
      request := request
      status := .inProgress
      ownerToken := some ownerToken
      leaseExpiresAt := some leaseExpiresAt
      createdAt := now
      updatedAt := now }))
  | some row =>
    if row.request ≠ request then ({ kind := .conflict }, j)
    else if row.status = .completed then
      ({ kind := .replay, response := some (storedResponse codec row) }, j)
    else if row.hasLiveLease now then ({ kind := .inProgress }, j)
    else ({ kind := .owner, ownerToken := some ownerToken, reclaimed := true },
      Function.update j key (some { row with
        status := .inProgress
        ownerToken := some ownerToken
        leaseExpiresAt := some leaseExpiresAt
        lastError := none
        updatedAt := now }))

/-- Write the row of a key, if the token owns it. -/
def updateOwned (j : Journal) (key : String) (ownerToken : Uuid)
    (write : JournalRow → JournalRow) : Bool × Journal :=
  match j key with
  | none => (false, j)
  | some row =>
    if row.ownedBy ownerToken then (true, Function.update j key (some (write row)))
    else (false, j)

def complete (j : Journal) (key : String) (ownerToken : Uuid) (response : R) (now : DateTime) :
    Bool × Journal :=
  updateOwned j key ownerToken fun row => { row with
    status := .completed
    responseJson := some (codec.dumps response)
    ownerToken := none
    leaseExpiresAt := none
    lastError := none
    updatedAt := now }

def markRetryable (j : Journal) (key : String) (ownerToken : Uuid) (error : String)
    (now : DateTime) : Bool × Journal :=
  updateOwned j key ownerToken fun row => { row with
    status := .retryable
    ownerToken := none
    leaseExpiresAt := none
    lastError := some error
    updatedAt := now }

def retire (j : Journal) (key : String) : JournalRetirement × Journal :=
  match j key with
  | none => (.alreadyRetired, j)
  | some row =>
    if row.status = .inProgress then (.operationInProgress, j)
    else (.retired, Function.update j key none)

/-! ## What a call can do -/

variable {j j' : Journal} {key : String} {request : JournalRequest} {now : DateTime}
  {ownerToken : Uuid} {row : JournalRow} {write : JournalRow → JournalRow}

theorem updateOwned_of_owned (h : j key = some row) (ho : row.ownedBy ownerToken = true) :
    updateOwned j key ownerToken write = (true, Function.update j key (some (write row))) := by
  simp [updateOwned, h, ho]

theorem updateOwned_of_not_owned (h : ∀ row, j key = some row → row.ownedBy ownerToken = false) :
    updateOwned j key ownerToken write = (false, j) := by
  unfold updateOwned
  split
  next => rfl
  next row hrow => simp [h row hrow]

theorem updateOwned_true (h : (updateOwned j key ownerToken write).1 = true) :
    ∃ row, j key = some row ∧ row.ownedBy ownerToken = true := by
  by_contra hnot
  rw [updateOwned_of_not_owned] at h
  · cases h
  · intro row hrow
    rw [← Bool.not_eq_true]
    exact fun ho => hnot ⟨row, hrow, ho⟩

/-- A call writes the row of its own key only. -/
theorem claim_other {key' : String} (hne : key' ≠ key) :
    (claim codec leaseSeconds j key request now ownerToken).2 key' = j key' := by
  unfold claim
  dsimp only
  split
  · exact Function.update_of_ne hne ..
  · split_ifs
    · rfl
    · rfl
    · rfl
    · exact Function.update_of_ne hne ..

theorem updateOwned_other {key' : String} (hne : key' ≠ key) :
    (updateOwned j key ownerToken write).2 key' = j key' := by
  unfold updateOwned
  split
  · rfl
  · split_ifs
    · exact Function.update_of_ne hne ..
    · rfl

theorem retire_other {key' : String} (hne : key' ≠ key) : (retire j key).2 key' = j key' := by
  unfold retire
  split
  · rfl
  · split_ifs
    · rfl
    · exact Function.update_of_ne hne ..

end NodeOperationJournal

/-- The calls of the agent on its journal. -/
inductive JournalCall (R : Type) where
  | claim (key : String) (request : JournalRequest) (now : DateTime) (ownerToken : Uuid)

  | complete (key : String) (ownerToken : Uuid) (response : R) (now : DateTime)

  | markRetryable (key : String) (ownerToken : Uuid) (error : String) (now : DateTime)

  | retire (key : String) (now : DateTime)

namespace JournalCall

variable {R : Type}

def key : JournalCall R → String
  | .claim key .. | .complete key .. | .markRetryable key .. | .retire key _ => key

def now : JournalCall R → DateTime
  | .claim _ _ now _ | .complete _ _ _ now | .markRetryable _ _ _ now | .retire _ now => now

/-- The token that the call draws. -/
def drawn : JournalCall R → Option Uuid
  | .claim _ _ _ ownerToken => some ownerToken
  | _ => none

end JournalCall

/-- A journal with the clock of its last call and the tokens that have been drawn. -/
structure JournalState where
  rows : Journal
  clock : DateTime
  drawn : List Uuid

namespace JournalState

variable {R : Type} (codec : ResponseCodec R) (leaseSeconds : ℤ)

/-- The rows after a call. -/
def rowsAfter (j : Journal) : JournalCall R → Journal
  | .claim key request now ownerToken =>
    (NodeOperationJournal.claim codec leaseSeconds j key request now ownerToken).2
  | .complete key ownerToken response now =>
    (NodeOperationJournal.complete codec j key ownerToken response now).2
  | .markRetryable key ownerToken error now =>
    (NodeOperationJournal.markRetryable j key ownerToken error now).2
  | .retire key _ => (NodeOperationJournal.retire j key).2

/-- Clocks do not run backwards, and a drawn token is new. -/
def exec (s : JournalState) (call : JournalCall R) : Option JournalState :=
  if call.now < s.clock ∨ ∃ token ∈ call.drawn, token ∈ s.drawn then none
  else some {
    rows := rowsAfter codec leaseSeconds s.rows call
    clock := call.now
    drawn := call.drawn.toList ++ s.drawn }

def Initial (s : JournalState) : Prop := s.rows = (fun _ => none) ∧ s.drawn = []

def Step : JournalState → JournalState → Prop := Transition.Labelled (exec codec leaseSeconds)

def Reachable : JournalState → Prop := Transition.Reachable Initial (Step codec leaseSeconds)

/-- Steps between two retirements of a key: its row is not deleted. -/
def StepBetween (key : String) : JournalState → JournalState → Prop :=
  Transition.Guarded (Step codec leaseSeconds)
    fun s s' => (s.rows key).isSome = true → (s'.rows key).isSome = true

end JournalState

end ShopBot
