import Mathlib.Algebra.BigOperators.Group.Finset.Basic
import ShopBot.Domain.NodeSelection
import ShopBot.Library.Tickets

/-! # Weighted selection of a node

The candidates of the better health class stand for their nodes, one for each node, and
the ticket draws a node by its weight.
-/

namespace ShopBot

namespace WeightedNodeSelector

/-- The eligible candidates that are online, or else those that are degraded. -/
def pool (candidates : List NodeSelectionCandidate) (now : DateTime)
    (policy : NodeAvailabilityPolicy) : List NodeSelectionCandidate :=
  let eligible := candidates.filter (policy.eligible · now)
  let online := eligible.filter (·.nodeStatus = .online)
  if online.isEmpty then eligible.filter (·.nodeStatus = .degraded) else online

/-- The candidates that stand for the nodes of the pool. -/
def nodes (candidates : List NodeSelectionCandidate) (now : DateTime)
    (policy : NodeAvailabilityPolicy) : List NodeSelectionCandidate :=
  byNode [] ((pool candidates now policy).insertionSort candidateLe)

def ticketWeight (c : NodeSelectionCandidate) : ℕ := max 1 c.selectionWeight

/-- `randbelow` is called with this bound. -/
def total (candidates : List NodeSelectionCandidate) (now : DateTime)
    (policy : NodeAvailabilityPolicy) : ℕ :=
  Tickets.total ticketWeight (nodes candidates now policy)

variable {ticket cumulative n : ℕ} {cs cs' chosen : List NodeSelectionCandidate}
  {c d : NodeSelectionCandidate} {now : DateTime} {policy : NodeAvailabilityPolicy}

/-! ## The pool -/

theorem eligible_status (h : policy.eligible c now = true) :
    c.nodeStatus = .online ∨ c.nodeStatus = .degraded := by
  unfold NodeAvailabilityPolicy.eligible at h
  split at h
  · cases h
  · split_ifs at h with h₀ h₁
    simp only [Bool.not_eq_true', Bool.not_eq_false] at h₁
    unfold NodeAvailabilityPolicy.allowsOperation at h₁
    split_ifs at h₁
    split at h₁
    · cases h₁
    · split_ifs at h₁
      simpa using h₁

theorem mem_pool : c ∈ pool cs now policy ↔ c ∈ cs ∧ policy.eligible c now = true ∧
    (c.nodeStatus = .online ∨ (c.nodeStatus = .degraded ∧
      ∀ d ∈ cs, policy.eligible d now = true → d.nodeStatus ≠ .online)) := by
  unfold pool
  dsimp only
  split_ifs with hnone
  · rw [List.isEmpty_iff, List.filter_eq_nil_iff] at hnone
    have hoff : ∀ d ∈ cs, policy.eligible d now = true → d.nodeStatus ≠ .online := by
      intro d hd he hs
      exact hnone d (List.mem_filter.2 ⟨hd, he⟩) (decide_eq_true hs)
    simp only [List.mem_filter, decide_eq_true_eq]
    constructor
    · rintro ⟨⟨hc, he⟩, hs⟩
      exact ⟨hc, he, .inr ⟨hs, hoff⟩⟩
    · rintro ⟨hc, he, hs | ⟨hs, -⟩⟩
      · exact absurd hs (hoff c hc he)
      · exact ⟨⟨hc, he⟩, hs⟩
  · have hon : ∃ d ∈ cs, policy.eligible d now = true ∧ d.nodeStatus = .online := by
      by_contra hno
      push Not at hno
      refine hnone (List.isEmpty_iff.2 (List.filter_eq_nil_iff.2 fun d hd => ?_))
      obtain ⟨hd, he⟩ := List.mem_filter.1 hd
      simpa using hno d hd he
    simp only [List.mem_filter, decide_eq_true_eq]
    constructor
    · rintro ⟨⟨hc, he⟩, hs⟩
      exact ⟨hc, he, .inl hs⟩
    · rintro ⟨hc, he, hs | ⟨-, hoff⟩⟩
      · exact ⟨⟨hc, he⟩, hs⟩
      · obtain ⟨d, hd, hed, hsd⟩ := hon
        exact absurd hsd (hoff d hd hed)

theorem pool_eq_nil : pool cs now policy = [] ↔ ∀ c ∈ cs, policy.eligible c now = false := by
  constructor
  · intro h c hc
    by_contra he
    rw [Bool.not_eq_false] at he
    have hno : ∀ d ∈ cs, policy.eligible d now = true → d.nodeStatus ≠ .online := by
      intro d hd hed hs
      have hmem : d ∈ pool cs now policy := mem_pool.2 ⟨hd, hed, .inl hs⟩
      rw [h] at hmem
      cases hmem
    have hmem : c ∈ pool cs now policy := by
      refine mem_pool.2 ⟨hc, he, ?_⟩
      rcases eligible_status he with hs | hs
      · exact .inl hs
      · exact .inr ⟨hs, hno⟩
    rw [h] at hmem
    cases hmem
  · intro h
    refine List.eq_nil_iff_forall_not_mem.2 fun c hc => ?_
    obtain ⟨hc, he, -⟩ := mem_pool.1 hc
    rw [h c hc] at he
    cases he

theorem pool_perm (h : cs.Perm cs') : (pool cs now policy).Perm (pool cs' now policy) := by
  have heligible := h.filter (policy.eligible · now)
  have honline := heligible.filter (·.nodeStatus = .online)
  unfold pool
  dsimp only
  simp only [List.isEmpty_iff]
  by_cases hnil : ((cs.filter (policy.eligible · now)).filter (·.nodeStatus = .online)) = []
  · rw [hnil] at honline
    rw [if_pos hnil, if_pos (List.nil_perm.1 honline)]
    exact heligible.filter _
  · have hnil' : (cs'.filter (policy.eligible · now)).filter (·.nodeStatus = .online) ≠ [] := by
      intro h'
      rw [h'] at honline
      exact hnil (List.perm_nil.1 honline)
    rw [if_neg hnil, if_neg hnil']
    exact honline

/-! ## One candidate for each node -/

theorem nodup_byNode (h : (chosen.map (·.nodeId)).Nodup) :
    ((byNode chosen cs).map (·.nodeId)).Nodup := by
  induction cs generalizing chosen with
  | nil => exact h
  | cons d rest ih =>
    unfold byNode
    split_ifs with hd
    · exact ih h
    · apply ih
      simp only [List.any_eq_true, decide_eq_true_eq, not_exists, not_and] at hd
      rw [List.map_append, List.nodup_append]
      refine ⟨h, by simp, ?_⟩
      rintro i hi j hj rfl
      obtain ⟨b, hb, rfl⟩ := List.mem_map.1 hi
      simp only [List.map_cons, List.map_nil, List.mem_singleton] at hj
      exact hd b hb hj

/-- No node is lost. -/
theorem mem_nodeIds_byNode :
    n ∈ (byNode chosen cs).map (·.nodeId) ↔
      n ∈ chosen.map (·.nodeId) ∨ n ∈ cs.map (·.nodeId) := by
  induction cs generalizing chosen with
  | nil => simp [byNode]
  | cons d rest ih =>
    unfold byNode
    split_ifs with hd
    · simp only [List.any_eq_true, decide_eq_true_eq] at hd
      obtain ⟨b, hb, hbd⟩ := hd
      rw [ih, List.map_cons, List.mem_cons]
      constructor
      · rintro (h | h)
        · exact .inl h
        · exact .inr (.inr h)
      · rintro (h | rfl | h)
        · exact .inl h
        · exact .inl (List.mem_map.2 ⟨b, hb, hbd⟩)
        · exact .inr h
    · rw [ih]
      simp [or_assoc]

/-- The candidate that stands for a node is the first one in the order. -/
theorem least_of_mem_byNode (hs : cs.Pairwise candidateLe) (h : c ∈ byNode chosen cs) :
    c ∈ chosen ∨ (c.nodeId ∉ chosen.map (·.nodeId) ∧
      ∀ d ∈ cs, d.nodeId = c.nodeId → c.endpointId ≤ d.endpointId) := by
  induction cs generalizing chosen with
  | nil => exact .inl h
  | cons e rest ih =>
    obtain ⟨hle, hrest⟩ := List.pairwise_cons.1 hs
    unfold byNode at h
    split_ifs at h with he
    · simp only [List.any_eq_true, decide_eq_true_eq] at he
      obtain ⟨b, hb, hbe⟩ := he
      apply (ih hrest h).imp_right
      rintro ⟨hnew, hleast⟩
      refine ⟨hnew, fun d hd hid => ?_⟩
      rcases List.mem_cons.1 hd with rfl | hd
      · exact absurd (List.mem_map.2 ⟨b, hb, hbe.trans hid⟩) hnew
      · exact hleast d hd hid
    · rcases ih hrest h with h | ⟨hnew, hleast⟩
      · rcases List.mem_append.1 h with h | h
        · exact .inl h
        · obtain rfl := List.mem_singleton.1 h
          refine .inr ⟨?_, fun d hd hid => ?_⟩
          · simpa using he
          · rcases List.mem_cons.1 hd with rfl | hd
            · exact le_rfl
            · rcases hle d hd with hlt | ⟨-, hle⟩
              · omega
              · exact hle
      · rw [List.map_append, List.mem_append, not_or] at hnew
        refine .inr ⟨hnew.1, fun d hd hid => ?_⟩
        rcases List.mem_cons.1 hd with rfl | hd
        · exact absurd (by simp [hid]) hnew.2
        · exact hleast d hd hid

instance : IsTrans NodeSelectionCandidate candidateLe := by
  constructor
  rintro a b c (hab | ⟨hab, hab'⟩) (hbc | ⟨hbc, hbc'⟩)
  · exact .inl (hab.trans hbc)
  · exact .inl (hbc ▸ hab)
  · exact .inl (hab ▸ hbc)
  · exact .inr ⟨hab.trans hbc, hab'.trans hbc'⟩

instance : Std.Total candidateLe := by
  constructor
  intro a b
  unfold candidateLe
  omega

/-- Different candidates of one position in the order are the same endpoint. -/
theorem candidateLe_antisymm (h : candidateLe c d) (h' : candidateLe d c) :
    (c.nodeId, c.endpointId) = (d.nodeId, d.endpointId) := by
  unfold candidateLe at h h'
  rw [Prod.mk.injEq]
  omega

theorem nodup_nodes : ((nodes cs now policy).map (·.nodeId)).Nodup :=
  nodup_byNode List.nodup_nil

theorem mem_nodeIds_nodes : n ∈ (nodes cs now policy).map (·.nodeId) ↔
    n ∈ (pool cs now policy).map (·.nodeId) := by
  unfold nodes
  rw [mem_nodeIds_byNode]
  simp

theorem mem_pool_of_mem_nodes (h : c ∈ nodes cs now policy) : c ∈ pool cs now policy := by
  rcases mem_of_mem_byNode h with h | h
  · cases h
  · exact (List.mem_insertionSort _).1 h

theorem least_of_mem_nodes (h : c ∈ nodes cs now policy) (hd : d ∈ pool cs now policy)
    (hid : d.nodeId = c.nodeId) : c.endpointId ≤ d.endpointId := by
  have hsorted := List.pairwise_insertionSort candidateLe (pool cs now policy)
  rcases least_of_mem_byNode hsorted h with h | ⟨-, hleast⟩
  · cases h
  · exact hleast d ((List.mem_insertionSort _).2 hd) hid

/-- Candidates of different endpoints in another order stand for their nodes alike. -/
theorem nodes_perm (hnodup : (cs.map fun c => (c.nodeId, c.endpointId)).Nodup)
    (h : cs.Perm cs') : nodes cs now policy = nodes cs' now policy := by
  unfold nodes
  congr 1
  have hpool : (pool cs now policy).Perm (pool cs' now policy) := pool_perm h
  have hsort := ((List.perm_insertionSort candidateLe _).trans hpool).trans
    (List.perm_insertionSort candidateLe _).symm
  refine hsort.eq_of_pairwise ?_ (List.pairwise_insertionSort _ _)
    (List.pairwise_insertionSort _ _)
  intro a b ha hb hab hba
  have ha' := (mem_pool.1 ((List.mem_insertionSort _).1 ha)).1
  have hb' := h.symm.subset (mem_pool.1 ((List.mem_insertionSort _).1 hb)).1
  exact List.inj_on_of_nodup_map hnodup ha' hb' (candidateLe_antisymm hab hba)

/-! ## The ticket -/

theorem pick_eq_draw : pick ticket cumulative cs = Tickets.draw ticketWeight ticket cumulative cs := by
  induction cs generalizing cumulative with
  | nil => rfl
  | cons d rest ih =>
    unfold pick Tickets.draw
    rw [ih]
    rfl

theorem select_eq : select ticket cs now policy =
    match nodes cs now policy with
    | [] => none
    | _ => (pick ticket 0 (nodes cs now policy)).orElse fun _ => (nodes cs now policy).getLast? :=
  rfl

theorem select_of_lt (h : ticket < total cs now policy) :
    select ticket cs now policy = pick ticket 0 (nodes cs now policy) := by
  have hsome := Tickets.draw_isSome (Nat.zero_le ticket)
    ((Nat.zero_add (total cs now policy)).symm ▸ h)
  rw [← pick_eq_draw] at hsome
  rw [select_eq]
  obtain ⟨c, hc⟩ := Option.isSome_iff_exists.1 hsome
  rw [hc]
  have hmem := mem_of_pick hc
  split
  next hnil =>
    rw [hnil] at hmem
    cases hmem
  next => rfl

theorem select_mem (h : select ticket cs now policy = some c) : c ∈ nodes cs now policy := by
  rw [select_eq] at h
  split at h
  · cases h
  · cases hp : pick ticket 0 (nodes cs now policy) with
    | none =>
      rw [hp] at h
      exact List.mem_of_getLast? h
    | some d =>
      rw [hp] at h
      cases h
      exact mem_of_pick hp

theorem nodes_eq_nil : nodes cs now policy = [] ↔ pool cs now policy = [] := by
  have hids : ∀ n, n ∈ (nodes cs now policy).map (·.nodeId) ↔
      n ∈ (pool cs now policy).map (·.nodeId) := fun _ => mem_nodeIds_nodes
  constructor
  · intro h
    refine List.eq_nil_iff_forall_not_mem.2 fun d hd => ?_
    have hmem := (hids d.nodeId).2 (List.mem_map_of_mem hd)
    rw [h] at hmem
    cases hmem
  · intro h
    refine List.eq_nil_iff_forall_not_mem.2 fun d hd => ?_
    have hmem := (hids d.nodeId).1 (List.mem_map_of_mem hd)
    rw [h] at hmem
    cases hmem

theorem select_eq_none : select ticket cs now policy = none ↔
    ∀ c ∈ cs, policy.eligible c now = false := by
  rw [← pool_eq_nil, ← nodes_eq_nil, select_eq]
  constructor
  · intro h
    split at h
    next hnil => exact hnil
    next hne =>
      cases hp : pick ticket 0 (nodes cs now policy) with
      | none =>
        rw [hp] at h
        exact List.getLast?_eq_none_iff.1 h
      | some d =>
        rw [hp] at h
        cases h
  · intro h
    rw [h]

/-- As many tickets choose a node as its weight says, however many endpoints it has. -/
theorem countP_select (hc : c ∈ nodes cs now policy) :
    ((List.range (total cs now policy)).countP fun ticket =>
      (select ticket cs now policy).any (·.nodeId = c.nodeId)) = ticketWeight c := by
  have hcount : ((List.range' 0 (total cs now policy)).countP fun ticket =>
      (Tickets.draw ticketWeight ticket 0 (nodes cs now policy)).any (·.nodeId = c.nodeId)) =
        Tickets.total ticketWeight ((nodes cs now policy).filter (·.nodeId = c.nodeId)) :=
    Tickets.countP_draw 0
  have hone : (nodes cs now policy).filter (fun d => decide (d.nodeId = c.nodeId)) = [c] := by
    refine List.perm_singleton.1 ((List.perm_ext_iff_of_nodup ?_ (List.nodup_singleton c)).2 ?_)
    · exact (List.Nodup.of_map _ nodup_nodes).filter _
    · intro d
      simp only [List.mem_filter, decide_eq_true_eq, List.mem_singleton]
      constructor
      · rintro ⟨hd, hid⟩
        exact List.inj_on_of_nodup_map nodup_nodes hd hc hid
      · rintro rfl
        exact ⟨hc, rfl⟩
  rw [hone, Tickets.total_cons, Tickets.total_nil, Nat.add_zero] at hcount
  rw [← hcount, List.range_eq_range']
  refine List.countP_congr fun ticket ht => ?_
  rw [List.mem_range'_1] at ht
  rw [select_of_lt (by simpa [total] using ht.2), pick_eq_draw]

/-- The bound of the ticket is the sum of the weights of the nodes of the pool. -/
theorem total_eq (weight : ℕ → ℕ) (hweight : ∀ c ∈ cs, c.selectionWeight = weight c.nodeId) :
    total cs now policy =
      ∑ n ∈ ((pool cs now policy).map (·.nodeId)).toFinset, max 1 (weight n) := by
  have hids : ((pool cs now policy).map (·.nodeId)).toFinset =
      ((nodes cs now policy).map (·.nodeId)).toFinset := by
    ext n
    rw [List.mem_toFinset, List.mem_toFinset, mem_nodeIds_nodes]
  rw [hids, List.sum_toFinset _ nodup_nodes, List.map_map]
  unfold total Tickets.total
  congr 1
  refine List.map_congr_left fun c hc => ?_
  rw [Function.comp_apply, ← hweight c (mem_pool.1 (mem_pool_of_mem_nodes hc)).1]
  rfl

/-- Weighted selection: nothing is chosen only where nothing is eligible; what is chosen is
eligible, of the better health class, and the first endpoint of its node; every node is chosen
by as many tickets as it weighs; the order of the candidates does not matter; and the walk
always ends at a candidate. -/
theorem weighted_selection (hnodup : (cs.map fun c => (c.nodeId, c.endpointId)).Nodup)
    (now : DateTime) (policy : NodeAvailabilityPolicy) :
    (∀ ticket, select ticket cs now policy = none ↔ ∀ c ∈ cs, policy.eligible c now = false) ∧
    (∀ ticket c, select ticket cs now policy = some c →
      c ∈ cs ∧ policy.eligible c now = true ∧
      (c.nodeStatus = .degraded →
        ∀ d ∈ cs, policy.eligible d now = true → d.nodeStatus ≠ .online) ∧
      ∀ d ∈ pool cs now policy, d.nodeId = c.nodeId → c.endpointId ≤ d.endpointId) ∧
    (∀ weight : ℕ → ℕ, (∀ c ∈ cs, c.selectionWeight = weight c.nodeId) →
      total cs now policy =
        ∑ n ∈ ((pool cs now policy).map (·.nodeId)).toFinset, max 1 (weight n) ∧
      ∀ n ∈ (pool cs now policy).map (·.nodeId),
        ((List.range (total cs now policy)).countP fun ticket =>
          (select ticket cs now policy).any (·.nodeId = n)) = max 1 (weight n)) ∧
    (∀ cs', cs.Perm cs' → total cs' now policy = total cs now policy ∧
      ∀ ticket, select ticket cs' now policy = select ticket cs now policy) ∧
    ∀ ticket < total cs now policy, (pick ticket 0 (nodes cs now policy)).isSome = true := by
  refine ⟨fun ticket => select_eq_none, fun ticket c h => ?_, fun weight hweight => ?_,
    fun cs' hperm => ?_, fun ticket ht => ?_⟩
  · have hmem := select_mem h
    obtain ⟨hc, he, hs⟩ := mem_pool.1 (mem_pool_of_mem_nodes hmem)
    refine ⟨hc, he, fun hdegraded => ?_, fun d hd hid => least_of_mem_nodes hmem hd hid⟩
    rcases hs with hs | ⟨-, hoff⟩
    · rw [hdegraded] at hs
      cases hs
    · exact hoff
  · refine ⟨total_eq weight hweight, fun n hn => ?_⟩
    obtain ⟨c, hc, rfl⟩ := List.mem_map.1 (mem_nodeIds_nodes.2 hn)
    rw [countP_select hc, ← hweight c (mem_pool.1 (mem_pool_of_mem_nodes hc)).1]
    rfl
  · have hnodes : nodes cs now policy = nodes cs' now policy := nodes_perm hnodup hperm
    refine ⟨by rw [total, total, hnodes], fun ticket => ?_⟩
    rw [select_eq, select_eq, hnodes]
  · rw [pick_eq_draw]
    apply Tickets.draw_isSome (Nat.zero_le ticket)
    rw [Nat.zero_add]
    exact ht

/-- Two endpoints of a light node and one of a heavy one. -/
def twoNodes : List NodeSelectionCandidate := [
  { nodeId := 1, endpointId := 4, nodeStatus := .online, isEnabled := true,
    lastCheckedAt := some 0, activeClients := some 0, maxClients := some 10,
    selectionWeight := 2 },
  { nodeId := 1, endpointId := 3, nodeStatus := .online, isEnabled := true,
    lastCheckedAt := some 0, activeClients := some 0, maxClients := some 10,
    selectionWeight := 2 },
  { nodeId := 2, endpointId := 5, nodeStatus := .online, isEnabled := true,
    lastCheckedAt := some 0, activeClients := some 0, maxClients := some 10,
    selectionWeight := 7 }]

theorem weighted_selection_twoNodes :
    ((List.range (total twoNodes 0 {})).countP fun ticket =>
      (select ticket twoNodes 0 {}).any (·.nodeId = 1)) = 2 := by
  have hweights : ∀ c ∈ twoNodes, c.selectionWeight = if c.nodeId = 1 then 2 else 7 := by decide
  have hmem : 1 ∈ (pool twoNodes 0 {}).map (·.nodeId) := by decide
  have hnodup : (twoNodes.map fun c => (c.nodeId, c.endpointId)).Nodup := by decide
  exact ((weighted_selection hnodup 0 {}).2.2.1
    (fun n => if n = 1 then 2 else 7) hweights).2 1 hmem

end WeightedNodeSelector

end ShopBot
