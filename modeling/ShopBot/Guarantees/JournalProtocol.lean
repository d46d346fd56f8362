import ShopBot.NodeAgent.Journal

/-! # The journal protocol

What a history of calls can do to the row of one idempotency key between two of its
retirements: the request of a row never changes, an owner that has lost the row never
gets it back, and a completed row keeps its response.
-/

namespace ShopBot

open Relation NodeOperationJournal

namespace JournalState

variable {R : Type} {codec : ResponseCodec R} {leaseSeconds : ℤ} {s s' : JournalState}
  {call : JournalCall R} {key : String} {token : Uuid} {request : JournalRequest}

/-- What one call does to the row of a key. -/
inductive RowChange (call : JournalCall R) : Option JournalRow → Option JournalRow → Prop where
  | kept (row : Option JournalRow) : RowChange call row row

  | created (row : JournalRow) (token : Uuid) (drawn : token ∈ call.drawn)
      (owner : row.ownerToken = some token) : RowChange call none (some row)

  | reclaimed (row row' : JournalRow) (token : Uuid) (drawn : token ∈ call.drawn)
      (status : row.status ≠ .completed) (request : row'.request = row.request)
      (owner : row'.ownerToken = some token) : RowChange call (some row) (some row')

  | finished (row row' : JournalRow) (status : row.status = .inProgress)
      (request : row'.request = row.request) (owner : row'.ownerToken = none) :
      RowChange call (some row) (some row')

  | deleted (row : JournalRow) (status : row.status ≠ .inProgress) : RowChange call (some row) none

theorem claim_change (j : Journal) (now : DateTime) :
    RowChange (.claim key request now token : JournalCall R) (j key)
      ((claim codec leaseSeconds j key request now token).2 key) := by
  unfold claim
  dsimp only
  split
  next hnone =>
    simp only [hnone, Function.update_self]
    exact .created _ token rfl rfl
  next row hrow =>
    split_ifs with hreq hcompleted
    · exact .kept _
    · exact .kept _
    · exact .kept _
    · simp only [hrow, Function.update_self]
      exact .reclaimed row _ token rfl hcompleted rfl rfl

theorem updateOwned_change (j : Journal) {write : JournalRow → JournalRow}
    (hreq : ∀ row, (write row).request = row.request)
    (howner : ∀ row, (write row).ownerToken = none) :
    RowChange call (j key) ((updateOwned j key token write).2 key) := by
  unfold updateOwned
  split
  next hnone => exact .kept _
  next row hrow =>
    split_ifs with ho
    · simp only [hrow, Function.update_self]
      exact .finished row _ (JournalRow.ownedBy_iff.1 ho).1 (hreq row) (howner row)
    · exact .kept _

theorem retire_change (j : Journal) : RowChange call (j key) ((retire j key).2 key) := by
  unfold retire
  split
  next => exact .kept _
  next row hrow =>
    split_ifs with hs
    · exact .kept _
    · simp only [hrow, Function.update_self]
      exact .deleted row hs

theorem exec_eq_some : s.exec codec leaseSeconds call = some s' ↔
    s.clock ≤ call.now ∧ (∀ token ∈ call.drawn, token ∉ s.drawn) ∧ s' = {
      rows := rowsAfter codec leaseSeconds s.rows call
      clock := call.now
      drawn := call.drawn.toList ++ s.drawn } := by
  unfold exec
  split_ifs with h
  · simp only [false_iff, not_and]
    intro hclock hdrawn
    rcases h with h | ⟨t, ht, hmem⟩
    · exact absurd hclock (not_le.2 h)
    · exact absurd hmem (hdrawn t ht)
  · simp only [not_or, not_lt, not_exists, not_and] at h
    constructor
    · intro hs
      exact ⟨h.1, h.2, (Option.some.inj hs).symm⟩
    · rintro ⟨-, -, rfl⟩
      rfl

theorem exec_change (h : s.exec codec leaseSeconds call = some s') (key : String) :
    RowChange call (s.rows key) (s'.rows key) := by
  obtain ⟨-, -, rfl⟩ := exec_eq_some.1 h
  dsimp only
  cases call with
  | claim k request now token =>
    by_cases hk : key = k
    · subst hk
      exact claim_change s.rows now
    · rw [rowsAfter, claim_other codec leaseSeconds hk]
      exact .kept _
  | complete k token response now =>
    by_cases hk : key = k
    · subst hk
      exact updateOwned_change s.rows (fun _ => rfl) fun _ => rfl
    · rw [rowsAfter, complete, updateOwned_other hk]
      exact .kept _
  | markRetryable k token error now =>
    by_cases hk : key = k
    · subst hk
      exact updateOwned_change s.rows (fun _ => rfl) fun _ => rfl
    · rw [rowsAfter, markRetryable, updateOwned_other hk]
      exact .kept _
  | retire k now =>
    by_cases hk : key = k
    · subst hk
      exact retire_change s.rows
    · rw [rowsAfter, retire_other hk]
      exact .kept _

/-! ## What lasts -/

/-- The key belongs to a request. -/
def Holds (s : JournalState) (key : String) (request : JournalRequest) : Prop :=
  ∃ row, s.rows key = some row ∧ row.request = request

def Completed (s : JournalState) (key : String) (text : String) : Prop :=
  ∃ row, s.rows key = some row ∧ row.status = .completed ∧ row.responseJson = some text

def Owner (s : JournalState) (key : String) (token : Uuid) : Prop :=
  ∃ row, s.rows key = some row ∧ row.ownedBy token = true

/-- The token has been drawn and does not own the key: it is superseded or finished. -/
def Dismissed (s : JournalState) (key : String) (token : Uuid) : Prop :=
  token ∈ s.drawn ∧ ¬ s.Owner key token

theorem Holds.step (h : s.Holds key request)
    (hstep : StepBetween codec leaseSeconds key s s') : s'.Holds key request := by
  obtain ⟨row, hrow, rfl⟩ := h
  obtain ⟨⟨call, hexec⟩, hkeep⟩ := hstep
  have hchange := exec_change hexec key
  rw [hrow] at hchange hkeep
  unfold Holds
  generalize s'.rows key = r at hchange hkeep ⊢
  cases hchange with
  | kept => exact ⟨row, rfl, rfl⟩
  | reclaimed _ row' _ _ _ hreq _ => exact ⟨row', rfl, hreq⟩
  | finished _ row' _ hreq _ => exact ⟨row', rfl, hreq⟩
  | deleted => cases hkeep rfl

theorem Completed.step {text : String} (h : s.Completed key text)
    (hstep : StepBetween codec leaseSeconds key s s') : s'.Completed key text := by
  obtain ⟨row, hrow, hs, ht⟩ := h
  obtain ⟨⟨call, hexec⟩, hkeep⟩ := hstep
  have hchange := exec_change hexec key
  rw [hrow] at hchange hkeep
  unfold Completed
  generalize s'.rows key = r at hchange hkeep ⊢
  cases hchange with
  | kept => exact ⟨row, rfl, hs, ht⟩
  | reclaimed _ _ _ _ hne _ _ => exact absurd hs hne
  | finished _ _ hne _ _ =>
    rw [hs] at hne
    cases hne
  | deleted => cases hkeep rfl

/-- A token that has lost the key never owns it again: new owners have new tokens. -/
theorem Dismissed.step (h : s.Dismissed key token) (hstep : Step codec leaseSeconds s s') :
    s'.Dismissed key token := by
  obtain ⟨hdrawn, hnot⟩ := h
  obtain ⟨call, hexec⟩ := hstep
  have hchange := exec_change hexec key
  obtain ⟨-, hfresh, hs'⟩ := exec_eq_some.1 hexec
  refine ⟨by rw [hs']; exact List.mem_append_right _ hdrawn, ?_⟩
  rintro ⟨row', hrow', ho⟩
  have hmine := (JournalRow.ownedBy_iff.1 ho).2
  have hnew : ∀ t, t ∈ call.drawn → row'.ownerToken = some t → False := by
    intro t ht hot
    obtain rfl := Option.some.inj (hmine.symm.trans hot)
    exact hfresh token ht hdrawn
  cases hr : s.rows key with
  | none =>
    rw [hr, hrow'] at hchange
    cases hchange with
    | created _ t ht hot => exact hnew t ht hot
  | some row =>
    rw [hr, hrow'] at hchange
    cases hchange with
    | kept => exact hnot ⟨row', hr, ho⟩
    | reclaimed _ _ t ht _ _ hot => exact hnew t ht hot
    | finished _ _ _ _ hnone =>
      rw [hnone] at hmine
      cases hmine

theorem Dismissed.refuses {write : JournalRow → JournalRow} (h : s.Dismissed key token) :
    updateOwned s.rows key token write = (false, s.rows) :=
  updateOwned_of_not_owned fun row hrow => by
    rw [← Bool.not_eq_true]
    exact fun ho => h.2 ⟨row, hrow, ho⟩

/-! ## The calls -/

theorem claim_of_none (h : s.rows key = none) (now : DateTime) :
    (claim codec leaseSeconds s.rows key request now token).1 =
      { kind := .owner, ownerToken := some token } := by
  simp [claim, h]

/-- Every owner of a row that is there has reclaimed it. -/
theorem claim_reclaims (h : s.Holds key request) {request' : JournalRequest} {now : DateTime}
    (ho : (claim codec leaseSeconds s.rows key request' now token).1.kind = .owner) :
    (claim codec leaseSeconds s.rows key request' now token).1.reclaimed = true := by
  obtain ⟨row, hrow, -⟩ := h
  unfold claim at ho ⊢
  simp only [hrow] at ho ⊢
  split_ifs at ho ⊢
  rfl

theorem claim_conflict (h : s.Holds key request) {request' : JournalRequest} {now : DateTime}
    (hne : request' ≠ request) : claim codec leaseSeconds s.rows key request' now token =
      ({ kind := .conflict }, s.rows) := by
  obtain ⟨row, hrow, rfl⟩ := h
  simp [claim, hrow, hne.symm]

theorem claim_replay {response : R} {now : DateTime} (hc : codec.Faithful)
    (h : s.Holds key request) (hdone : s.Completed key (codec.dumps response)) :
    claim codec leaseSeconds s.rows key request now token =
      ({ kind := .replay, response := some response }, s.rows) := by
  obtain ⟨row, hrow, rfl⟩ := h
  obtain ⟨row', hrow', hs, ht⟩ := hdone
  cases hrow.symm.trans hrow'
  have hstored : storedResponse codec row = response := by
    rw [storedResponse, ht]
    exact (if_neg (hc.dumps_ne response)).trans (hc.loads_dumps response)
  simp [claim, hrow, hs, hstored]

/-- A successful claim leaves a row that belongs to its request and to its token. -/
theorem claim_holds {now : DateTime}
    (hexec : s.exec codec leaseSeconds (.claim key request now token) = some s')
    (ho : (claim codec leaseSeconds s.rows key request now token).1.kind = .owner) :
    s'.Holds key request ∧ s'.Owner key token := by
  obtain ⟨-, -, rfl⟩ := exec_eq_some.1 hexec
  simp only [Holds, Owner, rowsAfter]
  unfold claim at ho ⊢
  dsimp only at ho ⊢
  split at ho
  next hnone =>
    simp only [Function.update_self]
    exact ⟨⟨_, rfl, rfl⟩, _, rfl, JournalRow.ownedBy_iff.2 ⟨rfl, rfl⟩⟩
  next row hrow =>
    split_ifs at ho ⊢ with hreq
    simp only [Function.update_self]
    exact ⟨⟨_, rfl, not_not.1 hreq⟩, _, rfl, JournalRow.ownedBy_iff.2 ⟨rfl, rfl⟩⟩

/-- A successful completion stores the response and dismisses its token. -/
theorem complete_completes {response : R} {now : DateTime}
    (hexec : s.exec codec leaseSeconds (.complete key token response now) = some s')
    (ho : (complete codec s.rows key token response now).1 = true) :
    s'.Completed key (codec.dumps response) := by
  obtain ⟨-, -, rfl⟩ := exec_eq_some.1 hexec
  obtain ⟨row, hrow, howned⟩ := updateOwned_true ho
  unfold Completed
  dsimp only [rowsAfter, complete]
  simp only [updateOwned_of_owned hrow howned, Function.update_self]
  exact ⟨_, rfl, rfl, rfl⟩

theorem Completed.not_owned {text : String} (h : s.Completed key text) : ¬ s.Owner key token := by
  obtain ⟨row, hrow, hs, -⟩ := h
  rintro ⟨row', hrow', ho⟩
  cases hrow.symm.trans hrow'
  rw [(JournalRow.ownedBy_iff.1 ho).1] at hs
  cases hs

theorem updateOwned_of_completed {text : String} {write : JournalRow → JournalRow}
    (h : s.Completed key text) : updateOwned s.rows key token write = (false, s.rows) :=
  updateOwned_of_not_owned fun row hrow => by
    rw [← Bool.not_eq_true]
    exact fun ho => h.not_owned ⟨row, hrow, ho⟩

/-! ## The protocol -/

/-- The token owns the key and its lease is unexpired at `now`. -/
def LiveOwner (s : JournalState) (key : String) (token : Uuid) (now : DateTime) : Prop :=
  ∃ row, s.rows key = some row ∧ row.ownedBy token = true ∧ row.hasLiveLease now = true

/-- Reached from `s` without deleting the row of the key. -/
def Between (codec : ResponseCodec R) (leaseSeconds : ℤ) (key : String) :
    JournalState → JournalState → Prop := ReflTransGen (StepBetween codec leaseSeconds key)

/-- The protocol of one key, from one of its states on. -/
structure Protocol (codec : ResponseCodec R) (leaseSeconds : ℤ) (key : String)
    (s : JournalState) : Prop where
  /-- Once a token has completed the key, no token completes it. -/
  oneCompletion : ∀ token response now s₁, (complete codec s.rows key token response now).1 = true →
    s.exec codec leaseSeconds (.complete key token response now) = some s₁ →
    ∀ s₂, Between codec leaseSeconds key s₁ s₂ → ∀ token' response' now',
      (complete codec s₂.rows key token' response' now').1 = false

  /-- Two owners with unexpired leases are one, and no claim is granted beside them. -/
  oneOwner : ∀ token now, s.LiveOwner key token now →
    (∀ token', s.LiveOwner key token' now → token' = token) ∧
      ∀ request' token', (claim codec leaseSeconds s.rows key request' now token').1.kind ≠ .owner

  /-- A token that is superseded or finished changes nothing, ever. -/
  dismissed : ∀ token, s.Dismissed key token → ∀ s₁, ReflTransGen (Step codec leaseSeconds) s s₁ →
    ∀ response error now, complete codec s₁.rows key token response now = (false, s₁.rows) ∧
      markRetryable s₁.rows key token error now = (false, s₁.rows)

  /-- A completion, a failure and a later owner dismiss the token. -/
  dismisses : ∀ token call s₁, token ∈ s.drawn → s.exec codec leaseSeconds call = some s₁ →
    ((∃ response now, call = .complete key token response now) ∨
      (∃ error now, call = .markRetryable key token error now) ∨
      ∃ request now token', call = .claim key request now token' ∧
        (claim codec leaseSeconds s.rows key request now token').1.kind = .owner) →
    s₁.Dismissed key token

  /-- After an owner claim, claims that differ conflict, and the owners to come reclaim. -/
  claimed : ∀ request now token s₁,
    (claim codec leaseSeconds s.rows key request now token).1.kind = .owner →
    s.exec codec leaseSeconds (.claim key request now token) = some s₁ →
    ∀ s₂, Between codec leaseSeconds key s₁ s₂ →
      (∀ request' now' token', request' ≠ request →
        claim codec leaseSeconds s₂.rows key request' now' token' =
          ({ kind := .conflict }, s₂.rows)) ∧
      (∀ request' now' token',
        (claim codec leaseSeconds s₂.rows key request' now' token').1.kind = .owner →
        (claim codec leaseSeconds s₂.rows key request' now' token').1.reclaimed = true) ∧
      -- once completed, a claim that agrees replays the response
      ∀ token' response now' s₃, (complete codec s₂.rows key token' response now').1 = true →
        s₂.exec codec leaseSeconds (.complete key token' response now') = some s₃ →
        ∀ s₄, Between codec leaseSeconds key s₃ s₄ → ∀ now'' token'',
          claim codec leaseSeconds s₄.rows key request now'' token'' =
            ({ kind := .replay, response := some response }, s₄.rows)

  /-- A row in progress is not deleted. -/
  retires : ∀ row, s.rows key = some row → row.status = .inProgress →
    retire s.rows key = (.operationInProgress, s.rows)

theorem LiveOwner.unique {now : DateTime} {token' : Uuid} (h : s.LiveOwner key token now)
    (h' : s.LiveOwner key token' now) : token' = token := by
  obtain ⟨row, hrow, ho, -⟩ := h
  obtain ⟨row', hrow', ho', -⟩ := h'
  cases hrow.symm.trans hrow'
  exact Option.some.inj ((JournalRow.ownedBy_iff.1 ho').2.symm.trans (JournalRow.ownedBy_iff.1 ho).2)

theorem LiveOwner.refuses {now : DateTime} {token' : Uuid} (h : s.LiveOwner key token now) :
    (claim codec leaseSeconds s.rows key request now token').1.kind ≠ .owner := by
  obtain ⟨row, hrow, -, hlive⟩ := h
  have hs := (JournalRow.hasLiveLease_iff.1 hlive).1
  unfold claim
  simp only [hrow, hlive, hs, if_true]
  split_ifs <;> simp

/-- After its own completion or failure, and after another owner's claim, a token is no
longer the owner. -/
theorem dismissed_of_call {s₁ : JournalState} (hdrawn : token ∈ s.drawn)
    (hexec : s.exec codec leaseSeconds call = some s₁)
    (hcall : (∃ response now, call = .complete key token response now) ∨
      (∃ error now, call = .markRetryable key token error now) ∨
      ∃ request now token', call = .claim key request now token' ∧
        (claim codec leaseSeconds s.rows key request now token').1.kind = .owner) :
    s₁.Dismissed key token := by
  have hwrite : ∀ write : JournalRow → JournalRow, (∀ row, (write row).ownerToken = none) →
      ∀ row, (updateOwned s.rows key token write).2 key = some row → row.ownedBy token = false := by
    intro write hnone row hrow
    unfold updateOwned at hrow
    split at hrow
    next hr => cases hr.symm.trans hrow
    next row₀ hr =>
      split_ifs at hrow with ho
      · simp only [Function.update_self] at hrow
        cases hrow
        simp [JournalRow.ownedBy, hnone]
      · cases hr.symm.trans hrow
        simpa using ho
  have hexec' := hexec
  obtain ⟨-, hfresh, hs₁⟩ := exec_eq_some.1 hexec
  refine ⟨by rw [hs₁]; exact List.mem_append_right _ hdrawn, ?_⟩
  rintro ⟨row, hrow, ho⟩
  rcases hcall with ⟨response, now, rfl⟩ | ⟨error, now, rfl⟩ | ⟨request, now, token', rfl, hkind⟩
  · rw [hs₁] at hrow
    rw [hwrite _ (fun _ => rfl) row hrow] at ho
    cases ho
  · rw [hs₁] at hrow
    rw [hwrite _ (fun _ => rfl) row hrow] at ho
    cases ho
  · obtain ⟨-, row', hrow', ho'⟩ := claim_holds hexec' hkind
    cases hrow.symm.trans hrow'
    have hsame := (JournalRow.ownedBy_iff.1 ho).2.symm.trans (JournalRow.ownedBy_iff.1 ho').2
    obtain rfl := Option.some.inj hsame
    exact hfresh token rfl hdrawn

/-- Every key of the journal follows the protocol, in every state. -/
theorem journal_protocol (hc : codec.Faithful) (s : JournalState) (key : String) :
    s.Protocol codec leaseSeconds key where
  oneCompletion := by
    intro token response now s₁ hdone hexec s₂ hrun token' response' now'
    have hcompleted := Transition.preserves_run (fun s => s.Completed key (codec.dumps response))
      (fun _ _ h hs => h.step hs) hrun (complete_completes hexec hdone)
    rw [complete, updateOwned_of_completed hcompleted]
  oneOwner := fun token now h => ⟨fun token' h' => h.unique h', fun request' token' => h.refuses⟩
  dismissed := by
    intro token hd s₁ hrun response error now
    have hd₁ := Transition.preserves_run (fun s => s.Dismissed key token)
      (fun _ _ h hs => h.step hs) hrun hd
    exact ⟨hd₁.refuses, hd₁.refuses⟩
  dismisses := fun token call s₁ hdrawn hexec hcall => dismissed_of_call hdrawn hexec hcall
  claimed := by
    intro request now token s₁ hkind hexec s₂ hrun
    have hkept : ∀ {s₁ s₂ : JournalState}, s₁.Holds key request →
        Between codec leaseSeconds key s₁ s₂ → s₂.Holds key request :=
      fun h hr => Transition.preserves_run (fun s => s.Holds key request)
        (fun _ _ h hs => h.step hs) hr h
    have hholds := hkept (claim_holds hexec hkind).1 hrun
    refine ⟨fun request' now' token' hne => claim_conflict hholds hne,
      fun request' now' token' ho => claim_reclaims hholds ho, ?_⟩
    intro token' response now' s₃ hdone hexec' s₄ hrun' now'' token''
    have hcompleted := Transition.preserves_run (fun s => s.Completed key (codec.dumps response))
      (fun _ _ h hs => h.step hs) hrun' (complete_completes hexec' hdone)
    have hstep : StepBetween codec leaseSeconds key s₂ s₃ := by
      refine ⟨⟨_, hexec'⟩, fun _ => ?_⟩
      obtain ⟨row, hrow, -⟩ := complete_completes hexec' hdone
      rw [hrow]
      rfl
    exact claim_replay hc (hkept (hkept hholds (.single hstep)) hrun') hcompleted
  retires := by
    intro row hrow hs
    simp [retire, hrow, hs]

/-- Responses that hold a status alone, as JSON objects. -/
def statusCodec : ResponseCodec String where
  dumps status := "\x7b\"status\":\"" ++ status ++ "\"\x7d"
  loads text := .ofList (text.toList.drop 11).dropLast.dropLast
  empty := ""

theorem statusCodec_faithful : statusCodec.Faithful where
  loads_dumps status := by
    simp [statusCodec, String.toList_append]
  dumps_ne status h := by
    have := congrArg String.toList h
    simp [statusCodec, String.toList_append] at this

/-- A new journal. -/
def created : JournalState where
  rows _ := none
  clock := 0
  drawn := []

/-- The completed provision of a client is replayed. -/
theorem journal_protocol_created : ∃ s, (created.exec statusCodec 30 (.claim "key"
      ⟨"hash", .provision, "client", "1"⟩ 0 7)).bind
        (·.exec statusCodec 30 (.complete "key" 7 "provisioned" 1)) = some s ∧
    claim statusCodec 30 s.rows "key" ⟨"hash", .provision, "client", "1"⟩ 40 8 =
      ({ kind := .replay, response := some "provisioned" }, s.rows) := by
  have hprotocol : created.Protocol statusCodec 30 "key" :=
    journal_protocol statusCodec_faithful created "key"
  have hclaimed := hprotocol.claimed ⟨"hash", .provision, "client", "1"⟩ 0 7 _ rfl rfl _ .refl
  exact ⟨_, rfl, hclaimed.2.2 7 "provisioned" 1 _ rfl rfl _ .refl 40 8⟩

end JournalState

end ShopBot
