import ShopBot.Guarantees.JournalProtocol
import ShopBot.NodeAgent.Attempts

/-! # Operations take effect once

Whatever crashes, retries and lapsed leases do to the handlers of an agent, its answers agree,
and its clients are as if every operation had been executed once, between its first request and its
first success.
-/

namespace ShopBot

open Linearization NodeOperationJournal

/-! ## The journal -/

namespace JournalState

variable {R : Type} {codec : ResponseCodec R} {leaseSeconds : ℤ} {s s' : JournalState}
  {call : JournalCall R} {key : String} {token : Uuid}

theorem isSome_updateOwned {j : Journal} {key' : String} {write : JournalRow → JournalRow}
    (h : (j key).isSome = true) : ((updateOwned j key' token write).2 key).isSome = true := by
  by_cases hk : key = key'
  · subst hk
    unfold updateOwned
    split
    · exact h
    · split_ifs
      · simp
      · exact h
  · rwa [updateOwned_other hk]

theorem retire_of_not_retired {j : Journal} (h : (retire j key).1 ≠ .retired) :
    (retire j key).2 = j := by
  unfold retire at h ⊢
  split at h
  · rfl
  · split_ifs at h ⊢
    · rfl
    · exact absurd rfl h

/-- A row stays until its key is retired. -/
theorem kept_or_retired (h : s.exec codec leaseSeconds call = some s')
    (hrow : (s.rows key).isSome = true) : (s'.rows key).isSome = true ∨
      ∃ now, call = .retire key now ∧ (retire s.rows key).1 = .retired := by
  obtain ⟨-, -, rfl⟩ := exec_eq_some.1 h
  cases call with
  | claim key' request now token =>
    left
    change ((claim codec leaseSeconds s.rows key' request now token).2 key).isSome = true
    by_cases hk : key = key'
    · subst hk
      unfold claim
      dsimp only
      split
      · simp
      · split_ifs
        · exact hrow
        · exact hrow
        · exact hrow
        · simp
    · rwa [claim_other codec leaseSeconds hk]
  | complete key' token response now => exact .inl (isSome_updateOwned hrow)
  | markRetryable key' token error now => exact .inl (isSome_updateOwned hrow)
  | retire key' now =>
    by_cases hk : key = key'
    · subst hk
      by_cases hr : (retire s.rows key).1 = .retired
      · exact .inr ⟨now, rfl, hr⟩
      · left
        change ((retire s.rows key).2 key).isSome = true
        rwa [retire_of_not_retired hr]
    · left
      change ((retire s.rows key').2 key).isSome = true
      rwa [retire_other hk]

/-- A row is completed by the owner of its key. -/
theorem completed_cases {row' : JournalRow} (h : s.exec codec leaseSeconds call = some s')
    (hrow' : s'.rows key = some row') (hstatus : row'.status = .completed) :
    s.rows key = some row' ∨ ∃ token response now, call = .complete key token response now ∧
      ∃ row, s.rows key = some row ∧ row.ownedBy token = true ∧ row'.request = row.request ∧
        row'.responseJson = some (codec.dumps response) := by
  obtain ⟨-, -, rfl⟩ := exec_eq_some.1 h
  cases call with
  | claim key' request now token =>
    left
    change (claim codec leaseSeconds s.rows key' request now token).2 key = some row' at hrow'
    by_cases hk : key = key'
    · subst hk
      unfold claim at hrow'
      dsimp only at hrow'
      split at hrow'
      · simp only [Function.update_self] at hrow'
        cases hrow'
        cases hstatus
      · split_ifs at hrow'
        · exact hrow'
        · exact hrow'
        · exact hrow'
        · simp only [Function.update_self] at hrow'
          cases hrow'
          cases hstatus
    · rwa [claim_other codec leaseSeconds hk] at hrow'
  | complete key' token response now =>
    change (complete codec s.rows key' token response now).2 key = some row' at hrow'
    unfold complete at hrow'
    by_cases hk : key = key'
    · subst hk
      unfold updateOwned at hrow'
      split at hrow'
      · exact .inl hrow'
      · rename_i row hrow
        split_ifs at hrow' with ho
        · simp only [Function.update_self] at hrow'
          cases hrow'
          exact .inr ⟨token, response, now, rfl, row, hrow, ho, rfl, rfl⟩
        · exact .inl hrow'
    · rw [updateOwned_other hk] at hrow'
      exact .inl hrow'
  | markRetryable key' token error now =>
    left
    change (markRetryable s.rows key' token error now).2 key = some row' at hrow'
    unfold markRetryable at hrow'
    by_cases hk : key = key'
    · subst hk
      unfold updateOwned at hrow'
      split at hrow'
      · exact hrow'
      · split_ifs at hrow'
        · simp only [Function.update_self] at hrow'
          cases hrow'
          cases hstatus
        · exact hrow'
    · rwa [updateOwned_other hk] at hrow'
  | retire key' now =>
    left
    change (retire s.rows key').2 key = some row' at hrow'
    by_cases hk : key = key'
    · subst hk
      unfold retire at hrow'
      split at hrow'
      · exact hrow'
      · split_ifs at hrow'
        · exact hrow'
        · simp only [Function.update_self] at hrow'
          cases hrow'
    · rwa [retire_other hk] at hrow'

/-- A claim is answered from a completed row of its request. -/
theorem of_replay {request : JournalRequest} {now : DateTime}
    (h : (claim codec leaseSeconds s.rows key request now token).1.kind = .replay) :
    ∃ row, s.rows key = some row ∧ row.request = request ∧ row.status = .completed ∧
      (claim codec leaseSeconds s.rows key request now token).1.response =
        some (storedResponse codec row) := by
  unfold claim at h ⊢
  dsimp only at h ⊢
  cases hrow : s.rows key with
  | none =>
    rw [hrow] at h
    cases h
  | some row =>
    simp only [hrow] at h ⊢
    split_ifs at h ⊢ with hrequest hstatus
    exact ⟨row, rfl, not_not.1 hrequest, hstatus, rfl⟩

end JournalState

namespace NodeAgent

variable {lib : AgentPrimitives} {codec : ResponseCodec AgentOperationResponse}
  {leaseSeconds : ℤ} {punctual : Prop} {n n' : NodeAgent} {key : String} {a : AgentAttempt}

theorem owns_iff : n.owns a = true ↔ n.journal.Owner a.key a.ownerToken := by
  unfold owns JournalState.Owner
  simp only [Option.any_eq_true]

/-! ## What a change does -/

theorem mem_attempts : a ∈ n.attempts ↔ ∃ h ∈ n.handlers, h.toAgentAttempt = a := by
  simp [attempts]

theorem attempts_setHandler {i : ℕ} {h h' : AgentHandler} (hh : n.handlers[i]? = some h)
    (hattempt : h'.toAgentAttempt = h.toAgentAttempt) :
    (n.handlers.set i h').map AgentHandler.toAgentAttempt = n.attempts := by
  unfold attempts
  rw [List.map_set, hattempt]
  apply List.ext_getElem?
  intro j
  rw [List.getElem?_set]
  split_ifs with hij hlt
  · subst hij
    rw [List.getElem?_map, hh]
    rfl
  · subst hij
    simp only [List.length_map] at hlt
    rw [List.getElem?_eq_none (by simpa using hlt)]
  · rfl

/-- The history grows, by a write of an owner or by entries that are no writes. -/
theorem Change.history (h : n.Change lib codec leaseSeconds punctual n') :
    (∃ entries, n'.history = n.history ++ entries ∧ n'.panel = n.panel ∧
      ∀ e ∈ entries, write? e = none) ∨
    ∃ (i : ℕ) (h : AgentHandler) (v : Option XuiClientPayload), n.handlers[i]? = some h ∧
      n'.history = n.history ++ [.wrote ⟨h.key, h.cell, v⟩] ∧
      n'.panel = apply n.panel ⟨h.key, h.cell, v⟩ ∧
      (punctual → n.owns h.toAgentAttempt = true) ∧ n'.journal = n.journal ∧
      n'.retired = n.retired := by
  cases h with
  | unchanged => exact .inl ⟨[], (List.append_nil _).symm, rfl, by simp⟩
  | refused => exact .inl ⟨_, rfl, rfl, by simp [write?]⟩
  | declined => exact .inl ⟨_, List.append_assoc .., rfl, by simp [write?]⟩
  | granted => exact .inl ⟨_, rfl, rfl, by simp [write?]⟩
  | executed i h p hh _ howner => exact .inr ⟨i, h, _, hh, rfl, rfl, howner, rfl, rfl⟩
  | moved => exact .inl ⟨[], (List.append_nil _).symm, rfl, by simp⟩
  | overtaken => exact .inl ⟨[], (List.append_nil _).symm, rfl, by simp⟩
  | verified i h _ hh _ _ _ howner => exact .inr ⟨i, h, _, hh, rfl, rfl, fun _ => howner, rfl, rfl⟩
  | failed => exact .inl ⟨_, rfl, rfl, by simp [write?]⟩
  | completed => exact .inl ⟨_, rfl, rfl, by simp [write?]⟩
  | kept => exact .inl ⟨[], (List.append_nil _).symm, rfl, by simp⟩
  | retired => exact .inl ⟨[], (List.append_nil _).symm, rfl, by simp⟩

theorem Change.history_grows (h : n.Change lib codec leaseSeconds punctual n') :
    ∃ entries, n'.history = n.history ++ entries := by
  rcases h.history with ⟨entries, heq, -⟩ | ⟨_, _, _, _, heq, -⟩
  · exact ⟨entries, heq⟩
  · exact ⟨_, heq⟩

/-- The handlers keep their attempts, and a new attempt has been granted. -/
theorem Change.attempts (h : n.Change lib codec leaseSeconds punctual n') :
    n'.attempts = n.attempts ∨ ∃ a now, n'.attempts = n.attempts ++ [a] ∧ a.Valid lib ∧
      n.journal.exec codec leaseSeconds
        (.claim a.key (a.journalRequest lib) now a.ownerToken) = some n'.journal ∧
      (n.claimOf lib codec leaseSeconds now a).kind = .owner ∧
      n'.history = n.history ++ [.received a.key a.request] := by
  cases h with
  | granted h hvalid now journal hexec howner =>
    refine .inr ⟨h.toAgentAttempt, now, ?_, hvalid, hexec, howner, rfl⟩
    exact List.map_append
  | executed i h p hh => exact .inl (attempts_setHandler hh rfl)
  | moved i h h' hh hmoves => exact .inl (attempts_setHandler hh hmoves.attempt)
  | overtaken i h h' hh hattempt => exact .inl (attempts_setHandler hh hattempt)
  | verified i h h' hh hattempt => exact .inl (attempts_setHandler hh hattempt)
  | failed i h hh => exact .inl (attempts_setHandler hh rfl)
  | completed i h hh => exact .inl (attempts_setHandler hh rfl)
  | unchanged | refused | declined | kept | retired => exact .inl rfl

theorem Change.attempts_mono (h : n.Change lib codec leaseSeconds punctual n')
    (ha : a ∈ n.attempts) : a ∈ n'.attempts := by
  rcases h.attempts with heq | ⟨_, _, heq, -⟩
  · rwa [heq]
  · rw [heq]
    exact List.mem_append_left _ ha

theorem Change.retired_mono (h : n.Change lib codec leaseSeconds punctual n')
    (hkey : key ∉ n'.retired) : key ∉ n.retired := by
  cases h with
  | retired => exact fun hmem => hkey (List.mem_append_left _ hmem)
  | unchanged | refused | declined | granted | executed | moved | overtaken | verified | failed
    | completed | kept => exact hkey

/-- The journal makes at most one call. -/
theorem Change.journal (h : n.Change lib codec leaseSeconds punctual n') :
    n'.journal = n.journal ∨ ∃ call, n.journal.exec codec leaseSeconds call = some n'.journal := by
  cases h with
  | declined a _ now journal _ hexec => exact .inr ⟨_, hexec⟩
  | granted h _ now journal hexec => exact .inr ⟨_, hexec⟩
  | failed i h _ error now journal _ hexec => exact .inr ⟨_, hexec⟩
  | completed i h _ response _ now journal _ hexec => exact .inr ⟨_, hexec⟩
  | kept key now journal hexec => exact .inr ⟨_, hexec⟩
  | retired key now journal hexec => exact .inr ⟨_, hexec⟩
  | unchanged | refused | executed | moved | overtaken | verified => exact .inl rfl

/-- A key that has not been retired keeps its row. -/
theorem Change.isSome (h : n.Change lib codec leaseSeconds punctual n') (hkey : key ∉ n'.retired)
    (hrow : (n.journal.rows key).isSome = true) : (n'.journal.rows key).isSome = true := by
  have hcall : ∀ {call : JournalCall AgentOperationResponse} {journal : JournalState},
      n.journal.exec codec leaseSeconds call = some journal →
      (∀ now, call = .retire key now →
        (NodeOperationJournal.retire n.journal.rows key).1 ≠ .retired) →
      (journal.rows key).isSome = true := by
    intro call journal hexec hno
    rcases JournalState.kept_or_retired hexec hrow with hsome | ⟨now, heq, hretired⟩
    · exact hsome
    · exact absurd hretired (hno now heq)
  cases h with
  | declined a _ now journal _ hexec => exact hcall hexec (by simp)
  | granted h _ now journal hexec => exact hcall hexec (by simp)
  | failed i h _ error now journal _ hexec => exact hcall hexec (by simp)
  | completed i h _ response _ now journal _ hexec => exact hcall hexec (by simp)
  | kept key' now journal hexec hkept =>
    apply hcall hexec
    rintro _ ⟨⟩
    exact hkept
  | retired key' now journal hexec =>
    apply hcall hexec
    rintro _ ⟨⟩
    exact absurd (List.mem_append_right _ (List.mem_singleton_self _)) hkey
  | unchanged | refused | executed | moved | overtaken | verified => exact hrow

/-- Between two retirements of a key the journal takes a step of its protocol. -/
theorem Change.between (h : n.Change lib codec leaseSeconds punctual n') (hkey : key ∉ n'.retired) :
    n'.journal = n.journal ∨
      JournalState.StepBetween codec leaseSeconds key n.journal n'.journal := by
  rcases h.journal with heq | hstep
  · exact .inl heq
  · exact .inr ⟨hstep, fun hrow => h.isSome hkey hrow⟩

theorem Change.holds {request : JournalRequest} (h : n.Change lib codec leaseSeconds punctual n')
    (hkey : key ∉ n'.retired) (hholds : n.journal.Holds key request) :
    n'.journal.Holds key request := by
  rcases h.between hkey with heq | hstep
  · rwa [heq]
  · exact hholds.step hstep

theorem Change.completes {text : String} (h : n.Change lib codec leaseSeconds punctual n')
    (hkey : key ∉ n'.retired) (hdone : n.journal.Completed key text) :
    n'.journal.Completed key text := by
  rcases h.between hkey with heq | hstep
  · rwa [heq]
  · exact hdone.step hstep

/-- An attempt that has lost its key does not get it back. -/
theorem Change.owns (h : n.Change lib codec leaseSeconds punctual n')
    (hdrawn : a.ownerToken ∈ n.journal.drawn) (howns : n'.owns a = true) : n.owns a = true := by
  rw [owns_iff] at howns ⊢
  rcases h.journal with heq | ⟨call, hexec⟩
  · rwa [heq] at howns
  · by_contra hnot
    exact (JournalState.Dismissed.step ⟨hdrawn, hnot⟩ ⟨call, hexec⟩).2 howns

theorem Change.drawn {token : Uuid} (h : n.Change lib codec leaseSeconds punctual n')
    (htoken : token ∈ n.journal.drawn) : token ∈ n'.journal.drawn := by
  rcases h.journal with heq | ⟨call, hexec⟩
  · rwa [heq]
  · obtain ⟨-, -, hs⟩ := JournalState.exec_eq_some.1 hexec
    rw [hs]
    exact List.mem_append_right _ htoken

/-! ## The invariant -/

theorem writes_eq_of_history {entries : List AgentEntry} (h : n'.history = n.history ++ entries)
    (hno : ∀ e ∈ entries, write? e = none) : n'.writes = n.writes := by
  unfold writes
  rw [h, List.filterMap_append, List.filterMap_eq_nil_iff.2 hno, List.append_nil]

theorem writes_concat {w : Write String XuiCell (Option XuiClientPayload)}
    (h : n'.history = n.history ++ [.wrote w]) : n'.writes = n.writes ++ [w] := by
  unfold writes
  rw [h, List.filterMap_append]
  rfl

/-- The response is stored for the request. -/
def Stored (lib : AgentPrimitives) (codec : ResponseCodec AgentOperationResponse) (n : NodeAgent)
    (key : String) (request : AgentRequest) (r : AgentOperationResponse) : Prop :=
  n.journal.Completed key (codec.dumps r) ∧ ∃ a : AgentAttempt, a.Valid lib ∧ a.key = key ∧
    a.request = request ∧ n.journal.Holds key (a.journalRequest lib)

/-- What holds in every run of an agent. -/
structure Inv (lib : AgentPrimitives) (codec : ResponseCodec AgentOperationResponse)
    (n : NodeAgent) : Prop where
  wellFormed : ∀ h ∈ n.handlers, h.WellFormed lib
  valid : ∀ a ∈ n.attempts, a.Valid lib
  drawn : ∀ a ∈ n.attempts, a.ownerToken ∈ n.journal.drawn
  tokens : (n.attempts.map AgentAttempt.ownerToken).Nodup
  holds : ∀ a ∈ n.attempts, a.key ∉ n.retired → n.journal.Holds a.key (a.journalRequest lib)
  received : ∀ a ∈ n.attempts, .received a.key a.request ∈ n.history
  /-- An operation is received before it is carried out. -/
  receipts : ∀ (j : ℕ) w, n.history[j]? = some (.wrote w) →
    ∃ i < j, ∃ request, n.history[i]? = some (.received w.key request)
  writers : ∀ w ∈ n.writes, ∃ a ∈ n.attempts, a.key = w.key ∧ a.cell = w.cell
  panel : n.panel = applyAll (fun _ => none) n.writes
  stored : ∀ key row, n.journal.rows key = some row → row.status = .completed →
    ∃ r, row.responseJson = some (codec.dumps r)
  answered : ∀ key request r, .answered key request (.ok r) ∈ n.history →
    r.status ∈ request.operation.successStatuses → key ∉ n.retired →
      n.Stored lib codec key request r

theorem Initial.inv (h : n.Initial) : n.Inv lib codec := by
  obtain ⟨⟨hrows, -⟩, hpanel, hhandlers, hhistory, -⟩ := h
  have hattempts : n.attempts = [] := by
    unfold NodeAgent.attempts
    rw [hhandlers]
    rfl
  have hwrites : n.writes = [] := by
    unfold NodeAgent.writes
    rw [hhistory]
    rfl
  constructor
  · simp [hhandlers]
  · simp [hattempts]
  · simp [hattempts]
  · simp [hattempts]
  · simp [hattempts]
  · simp [hattempts]
  · simp [hhistory]
  · simp [hwrites]
  · rw [hpanel, hwrites]
    rfl
  · simp [hrows]
  · simp [hhistory]

theorem Change.wellFormed (h : n.Change lib codec leaseSeconds punctual n')
    (hinv : n.Inv lib codec) : ∀ g ∈ n'.handlers, g.WellFormed lib := by
  have hset : ∀ {i : ℕ} {g g' : AgentHandler}, n.handlers[i]? = some g →
      (g.WellFormed lib → g'.WellFormed lib) →
      ∀ f ∈ n.handlers.set i g', f.WellFormed lib := by
    intro i g g' hg hw f hf
    rcases List.mem_or_eq_of_mem_set hf with hmem | rfl
    · exact hinv.wellFormed f hmem
    · exact hw (hinv.wellFormed g (List.mem_of_getElem? hg))
  cases h with
  | granted g _ _ _ _ _ hw =>
    intro f hf
    rcases List.mem_append.1 hf with hmem | hmem
    · exact hinv.wellFormed f hmem
    · rw [List.mem_singleton.1 hmem]
      exact hw
  | executed i g p hg =>
    apply hset hg
    intro _
    constructor
    · exact fun _ => rfl
    · intro p hp
      cases hp
  | moved i g g' hg hmoves => exact hset hg hmoves.wellFormed
  | overtaken i g g' hg _ hw => exact hset hg hw
  | verified i g g' hg _ hw => exact hset hg hw
  | failed i g hg => exact hset hg AgentHandler.moves_ended.wellFormed
  | completed i g hg => exact hset hg AgentHandler.moves_ended.wellFormed
  | unchanged | refused | declined | kept | retired => exact hinv.wellFormed

theorem Change.valid (h : n.Change lib codec leaseSeconds punctual n')
    (hinv : n.Inv lib codec) : ∀ a ∈ n'.attempts, a.Valid lib := by
  rcases h.attempts with heq | ⟨a, _, heq, hvalid, -⟩
  · rw [heq]
    exact hinv.valid
  · rw [heq]
    intro b hb
    rcases List.mem_append.1 hb with hmem | hmem
    · exact hinv.valid b hmem
    · rw [List.mem_singleton.1 hmem]
      exact hvalid

theorem Change.drawn_attempts (h : n.Change lib codec leaseSeconds punctual n')
    (hinv : n.Inv lib codec) : ∀ a ∈ n'.attempts, a.ownerToken ∈ n'.journal.drawn := by
  rcases h.attempts with heq | ⟨a, now, heq, -, hexec, -⟩
  · rw [heq]
    exact fun b hb => h.drawn (hinv.drawn b hb)
  · rw [heq]
    intro b hb
    rcases List.mem_append.1 hb with hmem | hmem
    · exact h.drawn (hinv.drawn b hmem)
    · obtain ⟨-, -, hs⟩ := JournalState.exec_eq_some.1 hexec
      rw [List.mem_singleton.1 hmem, hs]
      exact List.mem_cons_self

theorem Change.tokens (h : n.Change lib codec leaseSeconds punctual n')
    (hinv : n.Inv lib codec) : (n'.attempts.map AgentAttempt.ownerToken).Nodup := by
  rcases h.attempts with heq | ⟨a, now, heq, -, hexec, -⟩
  · rw [heq]
    exact hinv.tokens
  · rw [heq, List.map_append, List.nodup_append]
    refine ⟨hinv.tokens, by simp, ?_⟩
    intro t ht t' ht'
    obtain ⟨b, hb, rfl⟩ := List.mem_map.1 ht
    rw [List.map_singleton, List.mem_singleton] at ht'
    obtain ⟨-, hfresh, -⟩ := JournalState.exec_eq_some.1 hexec
    rintro rfl
    exact hfresh b.ownerToken (by rw [ht']; rfl) (hinv.drawn b hb)

theorem Change.holds_attempts (h : n.Change lib codec leaseSeconds punctual n')
    (hinv : n.Inv lib codec) :
    ∀ a ∈ n'.attempts, a.key ∉ n'.retired → n'.journal.Holds a.key (a.journalRequest lib) := by
  rcases h.attempts with heq | ⟨a, now, heq, -, hexec, howner, -⟩
  · rw [heq]
    exact fun b hb hkey => h.holds hkey (hinv.holds b hb (h.retired_mono hkey))
  · rw [heq]
    intro b hb hkey
    rcases List.mem_append.1 hb with hmem | hmem
    · exact h.holds hkey (hinv.holds b hmem (h.retired_mono hkey))
    · rw [List.mem_singleton.1 hmem]
      exact (JournalState.claim_holds hexec howner).1

theorem Change.received (h : n.Change lib codec leaseSeconds punctual n')
    (hinv : n.Inv lib codec) : ∀ a ∈ n'.attempts, .received a.key a.request ∈ n'.history := by
  obtain ⟨entries, hgrows⟩ := h.history_grows
  rcases h.attempts with heq | ⟨a, now, heq, -, -, -, hhistory⟩
  · rw [heq, hgrows]
    exact fun b hb => List.mem_append_left _ (hinv.received b hb)
  · rw [heq, hhistory]
    intro b hb
    rcases List.mem_append.1 hb with hmem | hmem
    · exact List.mem_append_left _ (hinv.received b hmem)
    · rw [List.mem_singleton.1 hmem]
      exact List.mem_append_right _ (List.mem_singleton_self _)

theorem Change.receipts (h : n.Change lib codec leaseSeconds punctual n')
    (hinv : n.Inv lib codec) (j : ℕ) (w) (hw : n'.history[j]? = some (.wrote w)) :
    ∃ i < j, ∃ request, n'.history[i]? = some (.received w.key request) := by
  obtain ⟨entries, hgrows⟩ := h.history_grows
  rcases lt_or_ge j n.history.length with hj | hj
  · rw [hgrows, List.getElem?_append_left hj] at hw
    obtain ⟨i, hi, request, hr⟩ := hinv.receipts j w hw
    refine ⟨i, hi, request, ?_⟩
    rw [hgrows, List.getElem?_append_left (hi.trans hj)]
    exact hr
  · rcases h.history with ⟨entries, heq, -, hno⟩ | ⟨i, g, v, hg, heq, -⟩
    · rw [heq, List.getElem?_append_right hj] at hw
      cases hno _ (List.mem_of_getElem? hw)
    · -- the attempt of the handler was received when it was granted
      rw [heq, List.getElem?_append_right hj] at hw
      cases List.mem_singleton.1 (List.mem_of_getElem? hw)
      have hmem : g.toAgentAttempt ∈ n.attempts :=
        mem_attempts.2 ⟨g, List.mem_of_getElem? hg, rfl⟩
      obtain ⟨i', hi', hr⟩ := List.getElem_of_mem (hinv.received _ hmem)
      refine ⟨i', hi'.trans_le hj, g.request, ?_⟩
      rw [heq, List.getElem?_append_left hi', List.getElem?_eq_getElem hi', hr]

theorem Change.writers (h : n.Change lib codec leaseSeconds punctual n')
    (hinv : n.Inv lib codec) :
    ∀ w ∈ n'.writes, ∃ a ∈ n'.attempts, a.key = w.key ∧ a.cell = w.cell := by
  have hold : ∀ w ∈ n.writes, ∃ a ∈ n'.attempts, a.key = w.key ∧ a.cell = w.cell := by
    intro w hw
    obtain ⟨a, ha, hkeys⟩ := hinv.writers w hw
    exact ⟨a, h.attempts_mono ha, hkeys⟩
  rcases h.history with ⟨entries, heq, -, hno⟩ | ⟨i, g, v, hg, heq, -⟩
  · rw [writes_eq_of_history heq hno]
    exact hold
  · rw [writes_concat heq]
    intro w hw
    rcases List.mem_append.1 hw with hmem | hmem
    · exact hold w hmem
    · rw [List.mem_singleton.1 hmem]
      have ha := mem_attempts.2 ⟨g, List.mem_of_getElem? hg, rfl⟩
      exact ⟨g.toAgentAttempt, h.attempts_mono ha, rfl, rfl⟩

theorem Change.panel (h : n.Change lib codec leaseSeconds punctual n')
    (hinv : n.Inv lib codec) : n'.panel = applyAll (fun _ => none) n'.writes := by
  rcases h.history with ⟨entries, heq, hpanel, hno⟩ | ⟨i, g, v, -, heq, hpanel, -⟩
  · rw [writes_eq_of_history heq hno, hpanel, hinv.panel]
  · rw [writes_concat heq, applyAll_concat, hpanel, hinv.panel]

theorem Change.stored (h : n.Change lib codec leaseSeconds punctual n')
    (hinv : n.Inv lib codec) (key) (row) (hrow : n'.journal.rows key = some row)
    (hstatus : row.status = .completed) : ∃ r, row.responseJson = some (codec.dumps r) := by
  rcases h.journal with heq | ⟨call, hexec⟩
  · rw [heq] at hrow
    exact hinv.stored key row hrow hstatus
  · rcases JournalState.completed_cases hexec hrow hstatus with hold | ⟨_, r, _, -, _, -, -, -, hr⟩
    · exact hinv.stored key row hold hstatus
    · exact ⟨r, hr⟩

theorem Change.keeps_stored {request : AgentRequest} {r : AgentOperationResponse}
    (h : n.Change lib codec leaseSeconds punctual n') (hkey : key ∉ n'.retired)
    (hstored : n.Stored lib codec key request r) : n'.Stored lib codec key request r := by
  obtain ⟨hdone, a, hvalid, hak, har, hholds⟩ := hstored
  exact ⟨h.completes hkey hdone, a, hvalid, hak, har, h.holds hkey hholds⟩

/-- The response of a replay is stored. -/
theorem Inv.replayed {now : DateTime} (hinv : n.Inv lib codec) (hc : codec.Faithful)
    (hvalid : a.Valid lib) (hkind : (n.claimOf lib codec leaseSeconds now a).kind = .replay) :
    n.Stored lib codec a.key a.request
      ((n.claimOf lib codec leaseSeconds now a).response.getD codec.empty) := by
  obtain ⟨row, hrow, hrequest, hstatus, hresponse⟩ := JournalState.of_replay hkind
  obtain ⟨r, hr⟩ := hinv.stored a.key row hrow hstatus
  have hstored : storedResponse codec row = r := by
    rw [storedResponse, hr]
    exact (if_neg (hc.dumps_ne r)).trans (hc.loads_dumps r)
  constructor
  · refine ⟨row, hrow, hstatus, ?_⟩
    unfold claimOf
    rw [hresponse, hr, ← hstored]
    rfl
  · exact ⟨a, hvalid, rfl, rfl, row, hrow, hrequest⟩

/-- A success that is answered is stored. -/
theorem Change.answered (h : n.Change lib codec leaseSeconds punctual n')
    (hinv : n.Inv lib codec) (hc : codec.Faithful) (key : String) (request : AgentRequest)
    (r : AgentOperationResponse) (hmem : .answered key request (.ok r) ∈ n'.history)
    (hsuccess : r.status ∈ request.operation.successStatuses) (hkey : key ∉ n'.retired) :
    n'.Stored lib codec key request r := by
  have hmono : key ∉ n.retired := h.retired_mono hkey
  have hkeeps : n.Stored lib codec key request r → n'.Stored lib codec key request r :=
    h.keeps_stored hkey
  have hold : .answered key request (.ok r) ∈ n.history → n'.Stored lib codec key request r :=
    fun hmem => hkeeps (hinv.answered key request r hmem hsuccess hmono)
  have hholds : ∀ jr, n.journal.Holds key jr → n'.journal.Holds key jr :=
    fun _ => h.holds hkey
  cases h with
  | unchanged | moved | overtaken | kept | retired => exact hold hmem
  | refused | granted | executed | verified =>
    rcases List.mem_append.1 hmem with hmem | hmem
    · exact hold hmem
    · cases List.mem_singleton.1 hmem
  | declined b hvalid now journal answer hexec hreplayed =>
    rcases List.mem_append.1 hmem with hmem | hmem
    · rcases List.mem_append.1 hmem with hmem | hmem
      · exact hold hmem
      · cases List.mem_singleton.1 hmem
    · cases List.mem_singleton.1 hmem
      obtain ⟨hkind, rfl⟩ := hreplayed r rfl
      exact hkeeps (hinv.replayed hc hvalid hkind)
  | failed i g hg error now journal answer hexec hfailure =>
    rcases List.mem_append.1 hmem with hmem | hmem
    · exact hold hmem
    · cases List.mem_singleton.1 hmem
      have hvalid := hinv.valid _ (mem_attempts.2 ⟨g, List.mem_of_getElem? hg, rfl⟩)
      apply absurd hsuccess
      rw [← hvalid.operation]
      exact hfailure r rfl
  | completed i g hg response hstage now journal answer hexec hdone =>
    rcases List.mem_append.1 hmem with hmem | hmem
    · exact hold hmem
    · cases List.mem_singleton.1 hmem
      obtain ⟨rfl, hcompleted⟩ := hdone r rfl
      have ha := mem_attempts.2 ⟨g, List.mem_of_getElem? hg, rfl⟩
      exact ⟨JournalState.complete_completes hexec hcompleted, g.toAgentAttempt, hinv.valid _ ha,
        rfl, rfl, hholds _ (hinv.holds _ ha hmono)⟩

theorem Change.inv (h : n.Change lib codec leaseSeconds punctual n') (hinv : n.Inv lib codec)
    (hc : codec.Faithful) : n'.Inv lib codec where
  wellFormed := h.wellFormed hinv
  valid := h.valid hinv
  drawn := h.drawn_attempts hinv
  tokens := h.tokens hinv
  holds := h.holds_attempts hinv
  received := h.received hinv
  receipts := h.receipts hinv
  writers := h.writers hinv
  panel := h.panel hinv
  stored := h.stored hinv
  answered := h.answered hinv hc

theorem Reachable.inv (hc : codec.Faithful) (h : Reachable lib codec leaseSeconds n) :
    n.Inv lib codec := by
  apply Transition.Reachable.invariant (Inv lib codec) _ _ h
  · exact fun _ => Initial.inv
  · rintro m m' - hinv ⟨event, hexec⟩
    have hchange : m.Change lib codec leaseSeconds False m' := exec_change False.elim hexec
    exact hchange.inv hinv hc

/-! ## Punctual runs -/

/-- What holds as long as the panel serves owners. -/
structure PunctualInv (lib : AgentPrimitives) (n : NodeAgent) : Prop where
  applied : ∀ (i : ℕ) h, n.handlers[i]? = some h → h.applied = true →
    n.owns h.toAgentAttempt = true → h.key ∉ n.retired →
    lastOf h.key n.writes = some (h.write lib)
  completed : ∀ key row, key ∉ n.retired → n.journal.rows key = some row →
    row.status = .completed → ∃ a ∈ n.attempts, a.key = key ∧
      lastOf key n.writes = some (a.write lib)
  /-- An operation that has been answered with success is not carried out again. -/
  settled : ∀ (i j : ℕ) e w, n.history[i]? = some e → n.history[j]? = some (.wrote w) →
    isSuccess w.key e = true → w.key ∉ n.retired → j < i

theorem Initial.punctualInv (h : n.Initial) : n.PunctualInv lib := by
  obtain ⟨⟨hrows, -⟩, -, hhandlers, hhistory, -⟩ := h
  constructor
  · simp [hhandlers]
  · simp [hrows]
  · simp [hhistory]

theorem Inv.index_unique (hinv : n.Inv lib codec) {i j : ℕ} {g h : AgentHandler}
    (hg : n.handlers[i]? = some g) (hh : n.handlers[j]? = some h)
    (htoken : g.ownerToken = h.ownerToken) : i = j := by
  have hi : (n.attempts.map AgentAttempt.ownerToken)[i]? = some g.ownerToken := by
    unfold NodeAgent.attempts
    simp [hg]
  have hj : (n.attempts.map AgentAttempt.ownerToken)[j]? = some h.ownerToken := by
    unfold NodeAgent.attempts
    simp [hh]
  rw [← htoken] at hj
  exact (List.getElem?_inj (List.getElem?_eq_some_iff.1 hi).1 hinv.tokens).1 (hi.trans hj.symm)

/-- Two owners of one key are one. -/
theorem Inv.owner_unique (hinv : n.Inv lib codec) {i j : ℕ} {g h : AgentHandler}
    (hg : n.handlers[i]? = some g) (hh : n.handlers[j]? = some h) (hkey : g.key = h.key)
    (hgowns : n.owns g.toAgentAttempt = true) (hhowns : n.owns h.toAgentAttempt = true) :
    i = j := by
  obtain ⟨row, hrow, ho⟩ := owns_iff.1 hgowns
  obtain ⟨row', hrow', ho'⟩ := owns_iff.1 hhowns
  rw [hkey] at hrow
  cases hrow.symm.trans hrow'
  apply hinv.index_unique hg hh
  exact Option.some.inj
    ((JournalRow.ownedBy_iff.1 ho).2.symm.trans (JournalRow.ownedBy_iff.1 ho').2)

/-- A handler that has done its operation before a change that writes nothing. -/
theorem Change.applied_quiet {j : ℕ} {g g' : AgentHandler}
    (h : n.Change lib codec leaseSeconds punctual n') (hinv : n.Inv lib codec)
    (hp : n.PunctualInv lib) (hwrites : n'.writes = n.writes) (hg : n.handlers[j]? = some g)
    (hattempt : g'.toAgentAttempt = g.toAgentAttempt)
    (happlied : n.owns g.toAgentAttempt = true → g.applied = true)
    (howns : n'.owns g'.toAgentAttempt = true) (hkey : g'.key ∉ n'.retired) :
    lastOf g'.key n'.writes = some (g'.write lib) := by
  rw [hattempt] at howns hkey ⊢
  have hdrawn := hinv.drawn _ (mem_attempts.2 ⟨g, List.mem_of_getElem? hg, rfl⟩)
  have howns' := h.owns hdrawn howns
  rw [hwrites]
  exact hp.applied j g hg (happlied howns') howns' (h.retired_mono hkey)

/-- A write of one owner leaves the last writes of the others. -/
theorem Change.applied_write {i j : ℕ} {g h h' : AgentHandler} {v : Option XuiClientPayload}
    (hinv : n.Inv lib codec) (hp : n.PunctualInv lib) (hh : n.handlers[i]? = some h)
    (howner : n.owns h.toAgentAttempt = true)
    (hlast : h'.applied = true → v = h.payload.outcome lib)
    (hattempt : h'.toAgentAttempt = h.toAgentAttempt)
    (hg : (n.handlers.set i h')[j]? = some g) (happlied : g.applied = true)
    (howns : n.owns g.toAgentAttempt = true) (hkey : g.key ∉ n.retired) :
    lastOf g.key (n.writes ++ [⟨h.key, h.cell, v⟩]) = some (g.write lib) := by
  rw [lastOf_concat]
  rw [List.getElem?_set] at hg
  split_ifs at hg with hij hlt
  · cases hg
    rw [hattempt, if_pos rfl, hlast happlied]
    rfl
  · split_ifs with hsame
    · exact absurd (hinv.owner_unique hh hg hsame howner howns) hij
    · exact hp.applied j g hg happlied howns hkey

theorem Change.applied (h : n.Change lib codec leaseSeconds punctual n') (hpunctual : punctual)
    (hinv : n.Inv lib codec) (hp : n.PunctualInv lib) (j : ℕ) (g' : AgentHandler)
    (hg' : n'.handlers[j]? = some g') (happlied : g'.applied = true)
    (howns : n'.owns g'.toAgentAttempt = true) (hkey : g'.key ∉ n'.retired) :
    lastOf g'.key n'.writes = some (g'.write lib) := by
  have hchange := h
  -- a change of one handler that writes nothing
  have hset : ∀ {i : ℕ} {f f' : AgentHandler}, n'.writes = n.writes →
      n.handlers[i]? = some f → f'.toAgentAttempt = f.toAgentAttempt →
      (f'.applied = true → n.owns f.toAgentAttempt = true → f.applied = true) →
      (n.handlers.set i f')[j]? = some g' → lastOf g'.key n'.writes = some (g'.write lib) := by
    intro i f f' hwrites hf hattempt hback hmem
    rw [List.getElem?_set] at hmem
    split_ifs at hmem with hij hlt
    · cases hmem
      subst hij
      exact hchange.applied_quiet hinv hp hwrites hf hattempt (hback happlied) howns hkey
    · exact hchange.applied_quiet hinv hp hwrites hmem rfl (fun _ => happlied) howns hkey
  cases h with
  | unchanged | kept | retired =>
    exact hchange.applied_quiet hinv hp rfl hg' rfl (fun _ => happlied) howns hkey
  | refused =>
    apply hchange.applied_quiet hinv hp _ hg' rfl (fun _ => happlied) howns hkey
    exact writes_eq_of_history rfl (by simp [write?])
  | declined =>
    apply hchange.applied_quiet hinv hp _ hg' rfl (fun _ => happlied) howns hkey
    exact writes_eq_of_history (List.append_assoc ..) (by simp [write?])
  | granted f _ now journal _ _ _ hfresh =>
    have hwrites : NodeAgent.writes { n.withClaim journal f.toAgentAttempt with
        handlers := n.handlers ++ [f] } = n.writes :=
      writes_eq_of_history rfl (by simp [write?])
    rcases lt_or_ge j n.handlers.length with hlt | hge
    · rw [List.getElem?_append_left hlt] at hg'
      exact hchange.applied_quiet hinv hp hwrites hg' rfl (fun _ => happlied) howns hkey
    · rw [List.getElem?_append_right hge] at hg'
      cases List.mem_singleton.1 (List.mem_of_getElem? hg')
      rw [hfresh] at happlied
      cases happlied
  | executed i f p hf hflight howner =>
    have hw := hinv.wellFormed f (List.mem_of_getElem? hf)
    have hwrites : NodeAgent.writes ((n.withWrite ⟨f.key, f.cell, p.client⟩).setHandler i
        { f with inFlight := none, executed := true }) =
          n.writes ++ [⟨f.key, f.cell, p.client⟩] := writes_concat rfl
    rw [hwrites]
    exact Change.applied_write hinv hp hf (howner hpunctual) (hw.outcome hflight) rfl hg' happlied
      howns hkey
  | moved i f f' hf hmoves =>
    exact hset rfl hf hmoves.attempt (fun ha _ => hmoves.applied ha) hg'
  | overtaken i f f' hf hattempt _ howner =>
    apply hset rfl hf hattempt _ hg'
    intro _ howns'
    rw [howner] at howns'
    cases howns'
  | verified i f f' hf hattempt _ hrevoke howner =>
    have hwrites : NodeAgent.writes ((n.withWrite ⟨f.key, f.cell, none⟩).setHandler i f') =
        n.writes ++ [⟨f.key, f.cell, none⟩] := writes_concat rfl
    rw [hwrites]
    apply Change.applied_write hinv hp hf howner _ hattempt hg' happlied howns hkey
    intro ha
    exact (AgentHandler.outcome_revoke (hrevoke ha)).symm
  | failed i f hf error now journal answer =>
    have hended : f.Moves lib { f with stage := .ended } := AgentHandler.moves_ended
    apply hset _ hf hended.attempt (fun ha _ => hended.applied ha) hg'
    exact writes_eq_of_history rfl (by simp [write?])
  | completed i f hf response hstage now journal answer =>
    have hended : f.Moves lib { f with stage := .ended } := AgentHandler.moves_ended
    apply hset _ hf hended.attempt (fun ha _ => hended.applied ha) hg'
    exact writes_eq_of_history rfl (by simp [write?])

/-- A row becomes completed when a handler whose runtime has returned finishes. -/
theorem Change.completion {row : JournalRow} (h : n.Change lib codec leaseSeconds punctual n')
    (hrow : n'.journal.rows key = some row) (hstatus : row.status = .completed) :
    n.journal.rows key = some row ∨ ∃ (i : ℕ) (g : AgentHandler), n.handlers[i]? = some g ∧
      g.key = key ∧ g.applied = true ∧ n.owns g.toAgentAttempt = true ∧
      n'.writes = n.writes := by
  have hcall : ∀ {call : JournalCall AgentOperationResponse} {journal : JournalState},
      n.journal.exec codec leaseSeconds call = some journal → journal.rows key = some row →
      (∀ token response now, call ≠ .complete key token response now) →
      n.journal.rows key = some row := by
    intro call journal hexec hrow' hno
    rcases JournalState.completed_cases hexec hrow' hstatus with hold | ⟨_, _, _, heq, -⟩
    · exact hold
    · exact absurd heq (hno _ _ _)
  cases h with
  | unchanged | refused | executed | moved | overtaken | verified => exact .inl hrow
  | declined _ _ _ _ _ hexec => exact .inl (hcall hexec hrow (by simp))
  | granted _ _ _ _ hexec => exact .inl (hcall hexec hrow (by simp))
  | failed _ _ _ _ _ _ _ hexec => exact .inl (hcall hexec hrow (by simp))
  | kept _ _ _ hexec => exact .inl (hcall hexec hrow (by simp))
  | retired _ _ _ hexec => exact .inl (hcall hexec hrow (by simp))
  | completed i g hg response hstage now journal answer hexec =>
    rcases JournalState.completed_cases hexec hrow hstatus with hold | ⟨_, _, _, heq, hold⟩
    · exact .inl hold
    · cases heq
      obtain ⟨row', hrow', howned, -⟩ := hold
      refine .inr ⟨i, g, hg, rfl, ?_, owns_iff.2 ⟨row', hrow', howned⟩, ?_⟩
      · unfold AgentHandler.applied
        rw [hstage]
      · exact writes_eq_of_history rfl (by simp [write?])

theorem not_owned {row : JournalRow} (hrow : n.journal.rows a.key = some row)
    (hstatus : row.status = .completed) : n.owns a = false := by
  rw [← Bool.not_eq_true]
  intro howns
  obtain ⟨row', hrow', ho⟩ := owns_iff.1 howns
  cases hrow.symm.trans hrow'
  rw [(JournalRow.ownedBy_iff.1 ho).1] at hstatus
  cases hstatus

theorem Change.completed_writes (h : n.Change lib codec leaseSeconds punctual n')
    (hpunctual : punctual) (hp : n.PunctualInv lib) (key : String) (row : JournalRow)
    (hkey : key ∉ n'.retired) (hrow : n'.journal.rows key = some row)
    (hstatus : row.status = .completed) :
    ∃ a ∈ n'.attempts, a.key = key ∧ lastOf key n'.writes = some (a.write lib) := by
  rcases h.completion hrow hstatus with hold | ⟨i, g, hg, rfl, happlied, howns, hwrites⟩
  · obtain ⟨a, ha, rfl, hlast⟩ := hp.completed key row (h.retired_mono hkey) hold hstatus
    refine ⟨a, h.attempts_mono ha, rfl, ?_⟩
    rcases h.history with ⟨entries, heq, -, hno⟩ | ⟨i, g, v, hg, heq, -, howner, -⟩
    · rw [writes_eq_of_history heq hno, hlast]
    · rw [writes_concat heq, lastOf_concat]
      split_ifs with hsame
      · have hrow' : n.journal.rows g.toAgentAttempt.key = some row := by
          rwa [← hsame] at hold
        rw [not_owned hrow' hstatus] at howner
        cases howner hpunctual
      · exact hlast
  · refine ⟨g.toAgentAttempt, h.attempts_mono ?_, rfl, ?_⟩
    · exact mem_attempts.2 ⟨g, List.mem_of_getElem? hg, rfl⟩
    · rw [hwrites]
      exact hp.applied i g hg happlied howns (h.retired_mono hkey)

theorem Inv.success_completed (hinv : n.Inv lib codec) {e : AgentEntry} (he : e ∈ n.history)
    (hsuccess : isSuccess key e = true) (hkey : key ∉ n.retired) :
    ∃ row, n.journal.rows key = some row ∧ row.status = .completed := by
  unfold isSuccess at hsuccess
  split at hsuccess
  next key' request response =>
    rw [Bool.and_eq_true, decide_eq_true_eq, decide_eq_true_eq] at hsuccess
    obtain ⟨rfl, hstatus⟩ := hsuccess
    obtain ⟨⟨row, hrow, hdone, -⟩, -⟩ := hinv.answered key' request response he hstatus hkey
    exact ⟨row, hrow, hdone⟩
  next => cases hsuccess

theorem Change.settled (h : n.Change lib codec leaseSeconds punctual n') (hpunctual : punctual)
    (hinv : n.Inv lib codec) (hp : n.PunctualInv lib) (i j : ℕ) (e : AgentEntry) (w)
    (he : n'.history[i]? = some e) (hw : n'.history[j]? = some (.wrote w))
    (hsuccess : isSuccess w.key e = true) (hkey : w.key ∉ n'.retired) : j < i := by
  have hkey' := h.retired_mono hkey
  obtain ⟨entries, hgrows⟩ := h.history_grows
  rcases lt_or_ge j n.history.length with hj | hj
  · rcases lt_or_ge i n.history.length with hi | hi
    · rw [hgrows, List.getElem?_append_left hi] at he
      rw [hgrows, List.getElem?_append_left hj] at hw
      exact hp.settled i j e w he hw hsuccess hkey'
    · exact hj.trans_le hi
  · rcases h.history with ⟨entries, heq, -, hno⟩ | ⟨_, g, v, hg, heq, -, howner, -⟩
    · rw [heq, List.getElem?_append_right hj] at hw
      cases hno _ (List.mem_of_getElem? hw)
    · rw [heq, List.getElem?_append_right hj] at hw
      cases List.mem_singleton.1 (List.mem_of_getElem? hw)
      rcases lt_or_ge i n.history.length with hi | hi
      · -- an owner writes, and the key has been completed
        rw [heq, List.getElem?_append_left hi] at he
        obtain ⟨row, hrow, hstatus⟩ :=
          hinv.success_completed (List.mem_of_getElem? he) hsuccess hkey'
        rw [not_owned hrow hstatus] at howner
        cases howner hpunctual
      · rw [heq, List.getElem?_append_right hi] at he
        rw [List.mem_singleton.1 (List.mem_of_getElem? he)] at hsuccess
        cases hsuccess

theorem Change.punctualInv (h : n.Change lib codec leaseSeconds punctual n')
    (hpunctual : punctual) (hinv : n.Inv lib codec) (hp : n.PunctualInv lib) :
    n'.PunctualInv lib where
  applied := h.applied hpunctual hinv hp
  completed := h.completed_writes hpunctual hp
  settled := h.settled hpunctual hinv hp

theorem PunctualReachable.inv (hc : codec.Faithful)
    (h : PunctualReachable lib codec leaseSeconds n) : n.Inv lib codec ∧ n.PunctualInv lib := by
  apply Transition.Reachable.invariant (fun n => n.Inv lib codec ∧ n.PunctualInv lib) _ _ h
  · exact fun _ hi => ⟨hi.inv, hi.punctualInv⟩
  · rintro m m' - ⟨hinv, hp⟩ ⟨event, hexec⟩
    unfold execPunctual at hexec
    split_ifs at hexec with hlate
    rw [Bool.not_eq_true] at hlate
    have hchange : m.Change lib codec leaseSeconds True m' := exec_change (fun _ => hlate) hexec
    exact ⟨hchange.inv hinv hc, hchange.punctualInv trivial hinv hp⟩

/-! ## An agent -/

/-- Responses as text: fields in order, with a comma before each character of a field. -/
def fieldText (text : String) : List Char := text.toList.flatMap (fun c => [',', c]) ++ [';']

def readField : List Char → List Char × List Char
  | ',' :: c :: rest => (c :: (readField rest).1, (readField rest).2)
  | _ :: rest => ([], rest)
  | [] => ([], [])

def optionText : Option String → List Char
  | none => ['n']
  | some text => 's' :: fieldText text

def readOption : List Char → Option String × List Char
  | 's' :: rest => (some (.ofList (readField rest).1), (readField rest).2)
  | rest => (none, rest.tail)

def instantText : DateTime → String
  | .ofNat n => .ofList ('+' :: Nat.toDigits 10 n)
  | .negSucc n => .ofList ('-' :: Nat.toDigits 10 n)

def readInstant (text : String) : DateTime :=
  match text.toList with
  | '-' :: digits => .negSucc (Nat.ofDigitChars 10 digits 0)
  | _ :: digits => .ofNat (Nat.ofDigitChars 10 digits 0)
  | [] => 0

theorem readField_fieldText (text : String) (rest : List Char) :
    readField (fieldText text ++ rest) = (text.toList, rest) := by
  unfold fieldText
  induction text.toList with
  | nil => rfl
  | cons c cs ih =>
    change (c :: (readField (cs.flatMap (fun c => [',', c]) ++ [';'] ++ rest)).1,
      (readField (cs.flatMap (fun c => [',', c]) ++ [';'] ++ rest)).2) = (c :: cs, rest)
    rw [ih]

theorem readOption_optionText (text : Option String) (rest : List Char) :
    readOption (optionText text ++ rest) = (text, rest) := by
  cases text with
  | none => rfl
  | some text =>
    change (some (String.ofList (readField (fieldText text ++ rest)).1),
      (readField (fieldText text ++ rest)).2) = (some text, rest)
    rw [readField_fieldText, String.ofList_toList]

theorem readInstant_instantText (t : DateTime) : readInstant (instantText t) = t := by
  unfold readInstant instantText
  cases t with
  | ofNat n => simp [Nat.ofDigitChars_ten_toDigits]
  | negSucc n => simp [Nat.ofDigitChars_ten_toDigits]

def responseCodec : ResponseCodec AgentOperationResponse where
  dumps r := .ofList (fieldText r.status ++ (fieldText r.clientUuid ++
    (optionText r.remoteClientRef ++ (optionText (r.appliedAt.map instantText) ++
      (optionText r.errorCode ++ optionText r.message)))))
  loads text :=
    let status := readField text.toList
    let clientUuid := readField status.2
    let remoteClientRef := readOption clientUuid.2
    let appliedAt := readOption remoteClientRef.2
    let errorCode := readOption appliedAt.2
    { status := .ofList status.1
      clientUuid := .ofList clientUuid.1
      remoteClientRef := remoteClientRef.1
      appliedAt := appliedAt.1.map readInstant
      errorCode := errorCode.1
      message := (readOption errorCode.2).1 }
  empty := { status := "", clientUuid := "" }

theorem responseCodec_faithful : responseCodec.Faithful where
  loads_dumps r := by
    have hmessage : readOption (optionText r.message) = (r.message, []) := by
      simpa using readOption_optionText r.message []
    have hinstant : (r.appliedAt.map instantText).map readInstant = r.appliedAt := by
      cases r.appliedAt with
      | none => rfl
      | some t => simp [readInstant_instantText]
    simp only [responseCodec, String.toList_ofList, readField_fieldText, readOption_optionText,
      hmessage, hinstant, String.ofList_toList]
  dumps_ne r h := by
    have hchars := congrArg String.toList h
    simp [responseCodec, fieldText] at hchars

/-- An agent that is asked to provision the client `vpn-0` and to revoke it. -/
def nodePrimitives : AgentPrimitives where
  sha256 bytes := toString (bytes.foldl (fun acc b => (acc * 31 + b.toNat) % 1000003) 7)
  hmacSha256 _ _ := ""
  upper text := .ofList (text.toList.map Char.toUpper)
  fromIsoFormat _ := none
  isoFormat _ := ""
  int text := if text = "1" then some 1 else none
  readProvision body := if body = [112] then some {
    idempotencyKey := "provision:1"
    clientUuid := "client"
    displayName := "vpn-0"
    inboundId := "1" } else none
  readRevoke body := if body = [114] then some {
    idempotencyKey := "revoke:1"
    clientUuid := "client"
    inboundId := "1" } else none
  expiryMilliseconds expiresAt :=
    if expiresAt = none then .ok 0 else .error "Invalid XUI client expiry timestamp"
  statusError code := s!"HTTPStatusError: {code}"

def newAgent : NodeAgent where
  journal := { rows := fun _ => none, clock := 0, drawn := [] }
  panel _ := none

theorem newAgent_initial : newAgent.Initial := ⟨⟨rfl, rfl⟩, rfl, rfl, rfl, rfl⟩

def provisionCall : AgentRequest := ⟨.provision, [112]⟩

def revokeCall : AgentRequest := ⟨.revoke, [114]⟩

/-- The first handler dies when the client has been added. The second one removes the client and
adds it again, the third one finds it gone, and the provision is asked for once more. -/
def nodeRun : List AgentEvent :=
  let ok : XuiReply := ⟨200, .object true ""⟩
  [.receive provisionCall "provision:1" 0 1, .execute 0, .abandon 0,
    .receive provisionCall "provision:1" (seconds 61) 2, .execute 1, .reply 1 ok (seconds 61),
    .execute 1, .reply 1 ok (seconds 61), .finish 1 (seconds 62),
    .receive revokeCall "revoke:1" (seconds 63) 3, .execute 2,
    .reply 2 ⟨404, .notJson⟩ (seconds 63), .inspect 2 (seconds 63), .finish 2 (seconds 64),
    .receive provisionCall "provision:1" (seconds 70) 4]

theorem nodeRun_isSome :
    (Transition.execAll (execPunctual nodePrimitives responseCodec 60) newAgent
      nodeRun).isSome = true := by
  decide +kernel

/-- The agent after the run. -/
def servedAgent : NodeAgent :=
  (Transition.execAll (execPunctual nodePrimitives responseCodec 60) newAgent nodeRun).get
    nodeRun_isSome

theorem servedAgent_punctual : servedAgent.PunctualReachable nodePrimitives responseCodec 60 :=
  .of_execAll newAgent_initial (Option.some_get nodeRun_isSome).symm

theorem PunctualReachable.reachable (h : PunctualReachable lib codec leaseSeconds n) :
    Reachable lib codec leaseSeconds n := by
  apply Transition.Reachable.simulate id (fun _ hi => hi) _ h
  rintro m m' - ⟨event, hexec⟩
  unfold execPunctual at hexec
  split_ifs at hexec
  exact .single ⟨event, hexec⟩

/-! ## The guarantees -/

theorem claim_completed {r : AgentOperationResponse} {now : DateTime} (hc : codec.Faithful)
    (hdone : n.journal.Completed a.key (codec.dumps r))
    (hholds : n.journal.Holds a.key (a.journalRequest lib)) (hnow : n.journal.clock ≤ now)
    (hfresh : a.ownerToken ∉ n.journal.drawn) :
    n.claim lib codec leaseSeconds now a = some { n with
      journal := { rows := n.journal.rows, clock := now, drawn := a.ownerToken :: n.journal.drawn }
      history := n.history ++ [.received a.key a.request, .answered a.key a.request (.ok r)] } := by
  have hreplay : NodeOperationJournal.claim codec leaseSeconds n.journal.rows a.key
      (a.journalRequest lib) now a.ownerToken =
        ({ kind := .replay, response := some r }, n.journal.rows) :=
    JournalState.claim_replay hc hholds hdone
  have hexec : n.journal.exec codec leaseSeconds
      (.claim a.key (a.journalRequest lib) now a.ownerToken) =
        some ⟨n.journal.rows, now, a.ownerToken :: n.journal.drawn⟩ := by
    refine JournalState.exec_eq_some.2 ⟨hnow, ?_, ?_⟩
    · rintro token ⟨⟩
      exact hfresh
    · have hrows : JournalState.rowsAfter codec leaseSeconds n.journal.rows
          (.claim a.key (a.journalRequest lib) now a.ownerToken) = n.journal.rows :=
        congrArg Prod.snd hreplay
      rw [hrows]
      rfl
  unfold claim
  rw [hexec, Option.map_some]
  simp only [hreplay, answer, Option.getD_some, List.append_assoc, List.singleton_append]

/-- The writes of a key are about one client. -/
theorem Inv.one_cell (hinv : n.Inv lib codec)
    {w w' : Write String XuiCell (Option XuiClientPayload)} (hw : w ∈ n.writes)
    (hw' : w' ∈ n.writes) (hsame : w'.key = w.key) (hkey : w.key ∉ n.retired) :
    w'.cell = w.cell := by
  obtain ⟨a, ha, hak, hac⟩ := hinv.writers w hw
  obtain ⟨b, hb, hbk, hbc⟩ := hinv.writers w' hw'
  rw [← hak] at hkey
  have hkeys : b.key = a.key := hbk.trans (hsame.trans hak.symm)
  obtain ⟨row, hrow, hrequest⟩ := hinv.holds a ha hkey
  obtain ⟨row', hrow', hrequest'⟩ := hinv.holds b hb (by rwa [hkeys])
  rw [hkeys] at hrow'
  cases hrow.symm.trans hrow'
  have hjournal : a.journalRequest lib = b.journalRequest lib := hrequest.symm.trans hrequest'
  have huuid : a.payload.clientUuid = b.payload.clientUuid :=
    congrArg JournalRequest.clientUuid hjournal
  have hinbound : a.payload.inboundId = b.payload.inboundId :=
    congrArg JournalRequest.inboundId hjournal
  have hnumber : a.inboundId = b.inboundId := by
    have ha' := (hinv.valid a ha).inboundId
    rw [hinbound, (hinv.valid b hb).inboundId] at ha'
    exact (Option.some.inj ha').symm
  rw [← hbc, ← hac]
  unfold AgentAttempt.cell
  rw [huuid, hnumber]

/-- Writes come in the order of their operations: none follows a success that came before its
request. -/
theorem PunctualInv.ordered (hinv : n.Inv lib codec) (hp : n.PunctualInv lib) :
    n.writes.Pairwise fun w w' => w'.key ∉ n.retired → ¬ n.Before w'.key w.key := by
  unfold writes
  rw [List.pairwise_filterMap, List.pairwise_iff_getElem]
  intro i j hi hj hij w hw w' hw' hkey
  rintro ⟨earlier, later, heq, hsuccess, hreceipt⟩
  have hwi : n.history[i]? = some (.wrote w) := by
    rw [List.getElem?_eq_getElem hi]
    revert hw
    cases n.history[i] <;> simp [write?]
  have hwj : n.history[j]? = some (.wrote w') := by
    rw [List.getElem?_eq_getElem hj]
    revert hw'
    cases n.history[j] <;> simp [write?]
  obtain ⟨k, hki, request, hk⟩ := hinv.receipts i w hwi
  obtain ⟨e, he, hsuccess'⟩ := List.any_eq_true.1 hsuccess
  obtain ⟨m, hm, rfl⟩ := List.getElem_of_mem he
  -- the request of `w` was received after the success of `w'`
  have hlater : earlier.length ≤ k := by
    by_contra hlt
    push Not at hlt
    rw [heq, List.getElem?_append_left hlt] at hk
    rw [← Bool.not_eq_true, List.any_eq_true] at hreceipt
    exact hreceipt ⟨_, List.mem_of_getElem? hk, by simp [isReceipt]⟩
  have hme : n.history[m]? = some earlier[m] := by
    rw [heq, List.getElem?_append_left hm, List.getElem?_eq_getElem hm]
  have hjm := hp.settled m j _ w' hme hwj hsuccess' hkey
  omega

theorem exists_attempts {ws : List (Write String XuiCell (Option XuiClientPayload))}
    (h : ∀ w ∈ ws, ∃ a ∈ n.attempts, a.write lib = w) :
    ∃ order : List AgentAttempt, (∀ a ∈ order, a ∈ n.attempts) ∧
      order.map (AgentAttempt.write lib) = ws := by
  induction ws with
  | nil => exact ⟨[], by simp, rfl⟩
  | cons w ws ih =>
    obtain ⟨a, ha, hw⟩ := h w List.mem_cons_self
    obtain ⟨order, horder, hmap⟩ := ih fun v hv => h v (List.mem_cons_of_mem w hv)
    refine ⟨a :: order, ?_, ?_⟩
    · rintro b (_ | ⟨_, hb⟩)
      · exact ha
      · exact horder b hb
    · rw [List.map_cons, hw, hmap]

/-- The request of the first handler is executed when the client has been revoked. -/
def lateRun : List AgentEvent :=
  let ok : XuiReply := ⟨200, .object true ""⟩
  [.receive provisionCall "provision:1" 0 1, .receive provisionCall "provision:1" (seconds 61) 2,
    .execute 1, .reply 1 ok (seconds 61), .execute 1, .reply 1 ok (seconds 61),
    .finish 1 (seconds 62), .receive revokeCall "revoke:1" (seconds 63) 3, .execute 2,
    .reply 2 ok (seconds 63), .finish 2 (seconds 64), .execute 0]

theorem lateRun_isSome :
    (Transition.execAll (exec nodePrimitives responseCodec 60) newAgent lateRun).isSome = true := by
  decide +kernel

/-- Requests that the panel executes late are not in order: a client is back after its
revocation. -/
theorem late_request_undoes_revoke : ∃ n, Reachable nodePrimitives responseCodec 60 n ∧
    n.Before "provision:1" "revoke:1" ∧ n.history.any (isSuccess "revoke:1") = true ∧
    (n.panel (1, "client")).isSome = true := by
  refine ⟨_, .of_execAll newAgent_initial (Option.some_get lateRun_isSome).symm, ?_, ?_, ?_⟩
  · refine ⟨_, _, (List.take_append_drop 5 _).symm, ?_, ?_⟩
    · decide +kernel
    · decide +kernel
  · decide +kernel
  · decide +kernel

end NodeAgent

end ShopBot
