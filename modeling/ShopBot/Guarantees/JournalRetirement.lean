import ShopBot.Library.Backlog
import ShopBot.UseCases.RetireNodeJournalRecords

/-! # Which journal records are retired

A run retires what its nodes confirm among the first tasks, and leaves the others where they
are. So tasks that are never confirmed narrow the batch of every later run.
-/

namespace ShopBot

namespace RetireNodeJournalRecords

variable {u : RetireNodeJournalRecords} {s s' : JournalTables} {c : JournalRetirementCandidate}

/-- The node of the candidate confirms that the record is retired. -/
def confirms (u : RetireNodeJournalRecords) (c : JournalRetirementCandidate) : Bool :=
  (u.reply c).any (· ∈ SUCCESSFUL_RETIREMENT_STATUSES)

/-- All candidates there are, in the order of their tasks. -/
def backlog (s : JournalTables) : List JournalRetirementCandidate :=
  s.terminalUnretiredTasks.map (candidateOf s.db)

theorem loadCandidates_eq : u.loadCandidates s = (backlog s).take u.batchSize := by
  rw [loadCandidates, JournalTables.listTerminalUnretiredTasks, backlog, List.map_take]

theorem mem_backlog : c ∈ backlog s ↔ ∃ t, s.db.getNodeTask c.nodeTaskId = some t ∧
    t.status ∈ TERMINAL_TASK_STATUSES ∧ s.journalRetiredAt c.nodeTaskId = none ∧
    c = candidateOf s.db (t, c.nodeTaskId) := by
  simp only [backlog, JournalTables.terminalUnretiredTasks, List.mem_map, List.mem_filter,
    Prod.exists, Table.mem_select, decide_eq_true_eq, Database.getNodeTask]
  constructor
  · rintro ⟨t, i, ⟨⟨hrow, hterminal⟩, hunretired⟩, rfl⟩
    exact ⟨t, hrow, hterminal, hunretired, rfl⟩
  · rintro ⟨t, hrow, hterminal, hunretired, hc⟩
    exact ⟨t, c.nodeTaskId, ⟨⟨hrow, hterminal⟩, hunretired⟩, hc.symm⟩

theorem backlog_sorted (s : JournalTables) :
    (backlog s).Pairwise (·.nodeTaskId < ·.nodeTaskId) := by
  rw [backlog, List.pairwise_map]
  exact Table.select_sorted.filter _

/-- A backlog is known by its candidates. -/
theorem eq_of_mem_iff {l l' : List JournalRetirementCandidate}
    (h : l.Pairwise (·.nodeTaskId < ·.nodeTaskId)) (h' : l'.Pairwise (·.nodeTaskId < ·.nodeTaskId))
    (hmem : ∀ c, c ∈ l ↔ c ∈ l') : l = l' := by
  have hnodup : ∀ {l : List JournalRetirementCandidate},
      l.Pairwise (·.nodeTaskId < ·.nodeTaskId) → l.Nodup := fun h =>
    h.imp fun hlt heq => absurd hlt (by simp [heq])
  have hperm := (List.perm_ext_iff_of_nodup (hnodup h) (hnodup h')).2 hmem
  exact hperm.eq_of_pairwise (fun a b _ _ hab hba => absurd hab (by omega)) h h'

/-! ## One candidate -/

/-- The mark of a candidate takes it out of the backlog, and no other. -/
theorem mark_backlog (hc : c ∈ backlog s) (retiredAt : DateTime) :
    ∃ s', s.markTaskJournalRetired c.nodeTaskId c.idempotencyKey retiredAt = (true, s') ∧
      backlog s' = (backlog s).filter (·.nodeTaskId ≠ c.nodeTaskId) := by
  obtain ⟨t, hrow, hterminal, hunretired, hcand⟩ := mem_backlog.1 hc
  have hkey : t.idempotencyKey = c.idempotencyKey := by rw [hcand]; rfl
  refine ⟨{
    db := s.db.saveNodeTask c.nodeTaskId { t with updatedAt := some retiredAt }
    journalRetiredAt := Function.update s.journalRetiredAt c.nodeTaskId (some retiredAt) },
    ?_, ?_⟩
  · unfold JournalTables.markTaskJournalRetired
    rw [hrow]
    exact if_pos ⟨hkey, hterminal, hunretired⟩
  · refine eq_of_mem_iff (backlog_sorted _) ((backlog_sorted s).filter _) fun c' => ?_
    rw [List.mem_filter, mem_backlog, mem_backlog]
    by_cases hid : c'.nodeTaskId = c.nodeTaskId
    · simp [hid]
    · have hother : (s.db.saveNodeTask c.nodeTaskId
          { t with updatedAt := some retiredAt }).getNodeTask c'.nodeTaskId =
            s.db.getNodeTask c'.nodeTaskId := List.getElem?_set_ne (Ne.symm hid)
      simp only [hother, Function.update_of_ne hid, decide_eq_true_eq, ne_eq, hid,
        not_false_eq_true, and_true]
      rfl

theorem retireCandidate_backlog (hc : c ∈ backlog s) (clock : ℕ → DateTime)
    (result : JournalRetirementResult) :
    backlog (u.retireCandidate clock (result, s) c).2 =
      (backlog s).filter fun c' => !(u.confirms c && c'.nodeTaskId = c.nodeTaskId) := by
  obtain ⟨s', hmark, hbacklog⟩ := mark_backlog hc (clock (result.marked + result.stale))
  unfold retireCandidate confirms
  cases hreply : u.reply c with
  | none => simp
  | some status =>
    dsimp only
    split_ifs with hprogress hsuccess hretired
    · subst hprogress
      simp [SUCCESSFUL_RETIREMENT_STATUSES]
    · dsimp only
      rw [hmark]
      simp [hbacklog, hsuccess]
    · dsimp only
      rw [hmark]
      simp [hbacklog, hsuccess]
    · simp [hsuccess]

/-! ## A run -/

theorem foldl_backlog (clock : ℕ → DateTime) :
    ∀ {batch : List JournalRetirementCandidate} {result : JournalRetirementResult}
      {s : JournalTables}, (batch.map (·.nodeTaskId)).Nodup → (∀ c ∈ batch, c ∈ backlog s) →
      backlog (batch.foldl (u.retireCandidate clock) (result, s)).2 =
        (backlog s).filter fun c' => !batch.any fun c =>
          u.confirms c && c'.nodeTaskId = c.nodeTaskId
  | [], _, _, _, _ => by simp
  | c :: batch, result, s, hnodup, hbatch => by
      rw [List.map_cons, List.nodup_cons] at hnodup
      have hstep := retireCandidate_backlog (u := u) (hbatch c List.mem_cons_self) clock result
      have hrest : ∀ c' ∈ batch, c' ∈ backlog (u.retireCandidate clock (result, s) c).2 := by
        intro c' hc'
        have hne : c'.nodeTaskId ≠ c.nodeTaskId := fun heq =>
          hnodup.1 (List.mem_map.2 ⟨c', hc', heq⟩)
        rw [hstep, List.mem_filter]
        exact ⟨hbatch c' (List.mem_cons_of_mem _ hc'), by simp [hne]⟩
      rw [List.foldl_cons, foldl_backlog clock hnodup.2 hrest, hstep, List.filter_filter]
      congr 1
      funext c'
      rw [List.any_cons, Bool.not_or, Bool.and_comm]

theorem nodup_ids {l : List JournalRetirementCandidate}
    (h : l.Pairwise (·.nodeTaskId < ·.nodeTaskId)) : (l.map (·.nodeTaskId)).Nodup := by
  rw [List.Nodup, List.pairwise_map]
  exact h.imp fun hlt => Nat.ne_of_lt hlt

/-- A run is one round of the backlog. -/
theorem execute_backlog (clock : ℕ → DateTime) (s : JournalTables) :
    backlog (u.execute clock s).2 = Backlog.round u.confirms u.batchSize (backlog s) := by
  have hsorted := backlog_sorted s
  rw [← List.take_append_drop u.batchSize (backlog s), List.pairwise_append] at hsorted
  obtain ⟨hfront, -, hback⟩ := hsorted
  have hsplit : ∀ p : JournalRetirementCandidate → Bool, (backlog s).filter p =
      ((backlog s).take u.batchSize).filter p ++ ((backlog s).drop u.batchSize).filter p := by
    intro p
    rw [← List.filter_append, List.take_append_drop]
  rw [execute, loadCandidates_eq, foldl_backlog clock (nodup_ids hfront)
    (fun c hc => List.mem_of_mem_take hc), Backlog.round, hsplit]
  congr 1
  · refine List.filter_congr fun c hc => ?_
    congr 1
    rw [Bool.eq_iff_iff, List.any_eq_true]
    constructor
    · rintro ⟨c', hc', hconfirms⟩
      rw [Bool.and_eq_true, decide_eq_true_eq] at hconfirms
      obtain rfl := List.inj_on_of_nodup_map (nodup_ids hfront) hc' hc hconfirms.2.symm
      exact hconfirms.1
    · exact fun hconfirms => ⟨c, hc, by simp [hconfirms]⟩
  · rw [List.filter_eq_self]
    intro c hc
    rw [Bool.not_eq_true', List.any_eq_false]
    intro c' hc'
    have hlt := hback c' hc' c hc
    simp only [Bool.and_eq_true, decide_eq_true_eq, not_and]
    omega

/-- Consecutive runs are rounds of the backlog. -/
theorem runs_backlog (clocks : ℕ → ℕ → DateTime) (s : JournalTables) (n : ℕ) :
    backlog (u.runs clocks s n) = (Backlog.round u.confirms u.batchSize)^[n] (backlog s) := by
  induction n with
  | zero => rfl
  | succ n ih => rw [runs, execute_backlog, ih, Function.iterate_succ_apply']

/-! ## What is left -/

/-- Rows that are not marked are as they were, and so are the nodes. -/
structure Unmarked (s s' : JournalTables) : Prop where
  nodes : s'.db.nodes = s.db.nodes
  row : ∀ i, s'.journalRetiredAt i = none → s'.db.getNodeTask i = s.db.getNodeTask i
  column : ∀ i, s'.journalRetiredAt i = none → s.journalRetiredAt i = none

theorem Unmarked.refl (s : JournalTables) : Unmarked s s := ⟨rfl, fun _ _ => rfl, fun _ h => h⟩

theorem Unmarked.trans {s s' s'' : JournalTables} (h : Unmarked s s') (h' : Unmarked s' s'') :
    Unmarked s s'' where
  nodes := h'.nodes.trans h.nodes
  row i hi := (h'.row i hi).trans (h.row i (h'.column i hi))
  column i hi := h.column i (h'.column i hi)

theorem markTaskJournalRetired_unmarked (s : JournalTables) (id : ℕ) (key : IdempotencyKey)
    (retiredAt : DateTime) : Unmarked s (s.markTaskJournalRetired id key retiredAt).2 := by
  unfold JournalTables.markTaskJournalRetired
  split
  · exact .refl s
  · split_ifs
    · have hne : ∀ i, Function.update s.journalRetiredAt id (some retiredAt) i = none → i ≠ id := by
        rintro i hi rfl
        simp at hi
      refine ⟨rfl, fun i hi => List.getElem?_set_ne (hne i hi).symm, fun i hi => ?_⟩
      exact (Function.update_of_ne (hne i hi) _ _).symm.trans hi
    · exact .refl s

theorem retireCandidate_unmarked (clock : ℕ → DateTime) (p : JournalRetirementResult × JournalTables)
    (c : JournalRetirementCandidate) : Unmarked p.2 (u.retireCandidate clock p c).2 := by
  obtain ⟨result, s⟩ := p
  have hmark := fun retiredAt =>
    markTaskJournalRetired_unmarked s c.nodeTaskId c.idempotencyKey retiredAt
  unfold retireCandidate
  cases u.reply c with
  | none => exact .refl s
  | some status =>
    dsimp only
    split
    · exact .refl s
    split
    · exact .refl s
    split <;> rename_i s' hs' <;> exact (congrArg Prod.snd hs') ▸ hmark _

theorem foldl_unmarked (clock : ℕ → DateTime) :
    ∀ (batch : List JournalRetirementCandidate) (p : JournalRetirementResult × JournalTables),
      Unmarked p.2 (batch.foldl (u.retireCandidate clock) p).2
  | [], p => .refl p.2
  | c :: batch, p => (retireCandidate_unmarked clock p c).trans (foldl_unmarked clock batch _)

theorem runs_unmarked (clocks : ℕ → ℕ → DateTime) (s : JournalTables) (n : ℕ) :
    Unmarked s (u.runs clocks s n) := by
  induction n with
  | zero => exact .refl s
  | succ n ih =>
    exact ih.trans (foldl_unmarked (clocks n) _ (⟨_, _, _, _, _, _, _⟩, u.runs clocks s n))

theorem Unmarked.mem_backlog_iff (h : Unmarked s s') (hc : c ∈ backlog s) :
    c ∈ backlog s' ↔ s'.journalRetiredAt c.nodeTaskId = none := by
  obtain ⟨t, hrow, hterminal, -, hcand⟩ := mem_backlog.1 hc
  rw [mem_backlog]
  constructor
  · rintro ⟨-, -, -, hunretired, -⟩
    exact hunretired
  · intro hunretired
    refine ⟨t, (h.row _ hunretired).trans hrow, hterminal, hunretired, ?_⟩
    rw [hcand, candidateOf, candidateOf, h.nodes]

theorem Unmarked.mem_backlog_of_mem (h : Unmarked s s') (hc : c ∈ backlog s') : c ∈ backlog s := by
  obtain ⟨t, hrow, hterminal, hunretired, hcand⟩ := mem_backlog.1 hc
  refine mem_backlog.2 ⟨t, (h.row _ hunretired).symm.trans hrow, hterminal,
    h.column _ hunretired, ?_⟩
  rw [hcand, candidateOf, candidateOf, h.nodes]

/-- The rounds in which a backlog of this length would be worked off. -/
def roundsFor (u : RetireNodeJournalRecords) (length : ℕ) : ℕ :=
  (length + u.batchSize - 1) / u.batchSize

/-- Every task whose node confirms is marked within the runs that its backlog should take,
exactly when the batches get to see all of them: each batch reaches as far beyond its size as
tasks were confirmed before, and no further. -/
theorem confirmed_records_marked_iff (u : RetireNodeJournalRecords) (clocks : ℕ → ℕ → DateTime)
    (s : JournalTables) :
    (∀ c ∈ backlog s, u.confirms c = true →
        (u.runs clocks s (u.roundsFor (backlog s).length)).journalRetiredAt c.nodeTaskId ≠ none) ↔
      Backlog.served u.confirms u.batchSize (backlog s) (u.roundsFor (backlog s).length) =
        (backlog s).countP u.confirms := by
  set n := u.roundsFor (backlog s).length
  rw [← Backlog.forall_mem_rounds_iff, ← runs_backlog clocks]
  have hunmarked := runs_unmarked (u := u) clocks s n
  constructor
  · intro h c hc
    have hmem := hunmarked.mem_backlog_of_mem hc
    have hunretired := (hunmarked.mem_backlog_iff hmem).1 hc
    cases hconfirms : u.confirms c with
    | false => rfl
    | true => exact absurd hunretired (h c hmem hconfirms)
  · intro h c hc hconfirms hnone
    have hleft := (hunmarked.mem_backlog_iff hc).2 hnone
    simp [h c hleft] at hconfirms

def finishedTask (nodeId generation : ℕ) : NodeTask where
  status := .succeeded
  maxAttempts := 5
  maxAttempts_pos := Nat.succ_pos _
  taskUuid := generation
  nodeId := nodeId
  operation := .revokeClient
  idempotencyKey := .revoke 0 generation generation
  payload := {
    taskId := generation
    idempotencyKey := .revoke 0 generation generation
    clientUuid := 40
    inboundId := "vless-in"
    metadata := { vpnConfigurationId := 0, vpnGeneration := generation } }

/-- Two nodes, the first of them without a credential; it holds the first two of three finished
tasks. -/
def retirementTables : JournalTables where
  db := {
    nodes := [{}, { activeCredential := some "secret" }]
    nodeTasks := [finishedTask 0 1, finishedTask 0 2, finishedTask 1 3] }
  journalRetiredAt _ := none

/-- Batches of two; every node that can be asked confirms. -/
def confirming : RetireNodeJournalRecords where
  nodeGateway _ _ _ := some "retired"
  batchSize := 2

/-- The task of the second node is not asked for in the two runs that its backlog should take. -/
theorem confirmed_record_starves : ∃ c ∈ backlog retirementTables,
    confirming.confirms c = true ∧ confirming.roundsFor (backlog retirementTables).length = 2 ∧
      (confirming.runs (fun n _ => seconds n) retirementTables 2).journalRetiredAt
        c.nodeTaskId = none := by
  refine ⟨⟨2, .revoke 0 3 3, some { activeCredential := some "secret" }, some "secret"⟩, ?_⟩
  decide +kernel

end RetireNodeJournalRecords

end ShopBot
