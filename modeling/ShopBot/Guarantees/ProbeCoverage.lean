import ShopBot.System.ProbeHistory

/-! # Coverage of probes

A claim takes the nodes that await a probe, oldest check first, as far as they have a status
row. So a node that was only registered is passed over. Leases that have not expired belong to
different nodes, and a finalisation by another token changes nothing.
-/

namespace ShopBot

/-- A prefix of a filtered list is the prefix of the list when nothing in that is dropped. -/
theorem take_filter_eq_take {α : Type*} {p : α → Bool} {l : List α} {n : ℕ} :
    (l.filter p).take n = l.take n ↔ ∀ x ∈ l.take n, p x = true := by
  induction l generalizing n with
  | nil => simp
  | cons x l ih =>
    cases n with
    | zero => simp
    | succ n =>
      by_cases hx : p x = true
      · simp [hx, ih]
      · rw [List.filter_cons_of_neg hx, List.take_succ_cons]
        constructor
        · intro h
          have hmem : x ∈ (l.filter p).take (n + 1) := by
            rw [h]
            exact List.mem_cons_self
          exact absurd (List.mem_filter.1 (List.mem_of_mem_take hmem)).2 hx
        · intro h
          exact absurd (h x List.mem_cons_self) hx

namespace NodeTables

variable {t : NodeTables} {now dueBefore : DateTime} {limit : ℕ} {uuid4 : ℕ → Uuid}

/-- An enabled node with no check newer than `dueBefore` and no unexpired lease. -/
def awaitsProbe (t : NodeTables) (now dueBefore : DateTime) (nodeId : ℕ) : Bool :=
  t.nodes[nodeId]?.any (·.isEnabled) && (t.lastCheckedAt nodeId).all (· ≤ dueBefore)
    && (t.probeLeaseExpiresAt nodeId).all (· ≤ now)

/-- Nodes that were never checked come first, then the oldest check, then the identifier. -/
def probeKey (t : NodeTables) (nodeId : ℕ) : WithBot DateTime ×ₗ ℕ :=
  toLex (t.lastCheckedAt nodeId, nodeId)

/-- The nodes that await a probe, in the order in which they should get one. -/
def awaitingProbe (t : NodeTables) (now dueBefore : DateTime) : List ℕ :=
  ((List.range t.nodes.length).filter (t.awaitsProbe now dueBefore)).insertionSort
    fun a b => t.probeKey a ≤ t.probeKey b

theorem probeKey_injective : Function.Injective t.probeKey :=
  fun _ _ h => congrArg (fun k => (ofLex k).2) h

theorem awaitingProbe_sorted :
    (t.awaitingProbe now dueBefore).Pairwise fun a b => t.probeKey a ≤ t.probeKey b :=
  List.pairwise_insertionSort _ _

/-- Sorting keeps the order of what is selected afterwards. -/
theorem filter_sorted (p : ℕ → Bool) (l : List ℕ) :
    (l.insertionSort fun a b => t.probeKey a ≤ t.probeKey b).filter p =
      (l.filter p).insertionSort fun a b => t.probeKey a ≤ t.probeKey b := by
  have hperm : ((l.insertionSort fun a b => t.probeKey a ≤ t.probeKey b).filter p).Perm
      ((l.filter p).insertionSort fun a b => t.probeKey a ≤ t.probeKey b) :=
    ((List.perm_insertionSort _ _).filter p).trans (List.perm_insertionSort _ _).symm
  refine hperm.eq_of_pairwise ?_ ?_ (List.pairwise_insertionSort _ _)
  · intro a b _ _ hab hba
    exact probeKey_injective (le_antisymm hab hba)
  · exact (List.pairwise_insertionSort _ _).filter p

theorem probeTarget_key {r : ProbeTarget} (h : r ∈ t.probeTargets) :
    r.key = t.probeKey r.nodeId := by
  rw [ProbeTarget.key, probeKey, lastCheckedAt, (mem_probeTargets h).2]
  rfl

theorem probeTarget_isDue {r : ProbeTarget} (h : r ∈ t.probeTargets) :
    r.isDue now dueBefore = t.awaitsProbe now dueBefore r.nodeId := by
  obtain ⟨hnode, hstatus⟩ := mem_probeTargets h
  simp only [ProbeTarget.isDue, awaitsProbe, lastCheckedAt, probeLeaseExpiresAt, hnode, hstatus]
  rfl

/-- The due targets are the nodes that await a probe and have a status row. -/
theorem dueProbeTargets_nodeIds :
    (t.dueProbeTargets now dueBefore limit).map ProbeTarget.nodeId =
      ((t.awaitingProbe now dueBefore).filter fun id => (t.nodeStatus id).isSome).take limit := by
  have hfilter : (t.probeTargets.filter (·.isDue now dueBefore)).map ProbeTarget.nodeId =
      ((List.range t.nodes.length).filter (t.awaitsProbe now dueBefore)).filter
        fun id => (t.nodeStatus id).isSome := by
    rw [List.filter_comm, ← probeTargets_nodeIds, List.filter_map]
    congr 1
    exact List.filter_congr fun r hr => probeTarget_isDue hr
  have hsort := List.map_insertionSort (fun a b : ProbeTarget => a.key ≤ b.key)
    (fun a b => t.probeKey a ≤ t.probeKey b) ProbeTarget.nodeId
    (t.probeTargets.filter (·.isDue now dueBefore)) fun a ha b hb => by
      rw [probeTarget_key (List.mem_of_mem_filter ha), probeTarget_key (List.mem_of_mem_filter hb)]
  rw [dueProbeTargets, List.map_take, hsort, hfilter, awaitingProbe, filter_sorted]

theorem mem_awaitingProbe {id : ℕ} :
    id ∈ t.awaitingProbe now dueBefore ↔ t.awaitsProbe now dueBefore id = true := by
  rw [awaitingProbe, List.mem_insertionSort, List.mem_filter, List.mem_range]
  constructor
  · exact fun h => h.2
  · intro h
    refine ⟨?_, h⟩
    by_contra hlen
    rw [awaitsProbe, List.getElem?_eq_none (Nat.le_of_not_lt hlen)] at h
    cases h

/-- An enabled node that has no status row yet awaits a probe, and no claim takes it. -/
theorem unreported_passed_over {id : ℕ} {node : NodeRow} (hnode : t.nodes[id]? = some node)
    (henabled : node.isEnabled = true) (hstatus : t.nodeStatus id = none) :
    id ∈ t.awaitingProbe now dueBefore ∧
      id ∉ (t.probeClaims now dueBefore limit uuid4).map NodeProbeClaim.nodeId := by
  constructor
  · rw [mem_awaitingProbe, awaitsProbe, lastCheckedAt, probeLeaseExpiresAt, hnode, hstatus]
    simp [henabled]
  · rw [probeClaims_nodeIds, dueProbeTargets_nodeIds]
    intro hmem
    have hsome := (List.mem_filter.1 (List.mem_of_mem_take hmem)).2
    rw [hstatus] at hsome
    cases hsome

/-- A claim covers the nodes that await a probe when each of those it would take has a row. -/
theorem claims_cover_iff : (t.probeClaims now dueBefore limit uuid4).map NodeProbeClaim.nodeId =
    (t.awaitingProbe now dueBefore).take limit ↔
      ∀ id ∈ (t.awaitingProbe now dueBefore).take limit, (t.nodeStatus id).isSome = true := by
  rw [probeClaims_nodeIds, dueProbeTargets_nodeIds]
  exact take_filter_eq_take

end NodeTables

namespace ProbeHistory

variable {h h' : ProbeHistory} {l l' : ProbeLease} {now : DateTime}

/-- Every lease that is held is the one its node has in `node_status`. -/
structure Inv (h : ProbeHistory) : Prop where
  current : ∀ l ∈ h.grants, l.token ∉ h.returned → h.clock < l.expiresAt →
    h.tables.probeLeaseToken l.nodeId = some l.token ∧
      h.tables.probeLeaseExpiresAt l.nodeId = some l.expiresAt
  issued : ∀ id token, h.tables.probeLeaseToken id = some token → ∃ l ∈ h.grants, l.token = token
  returned : ∀ token ∈ h.returned, ∃ l ∈ h.grants, l.token = token
  distinct : (h.grants.map ProbeLease.token).Nodup

theorem Inv.sameLeases {t : NodeTables} (hinv : h.Inv) (hsame : h.tables.SameLeases t) :
    Inv { h with tables := t } := by
  obtain ⟨hcurrent, hissued, hreturned, hdistinct⟩ := hinv
  rw [← hsame.token] at hcurrent hissued
  rw [← hsame.expiresAt] at hcurrent
  exact ⟨hcurrent, hissued, hreturned, hdistinct⟩

/-! ## Claims -/

section Claims

variable {t : NodeTables} {dueBefore : DateTime} {limit id : ℕ} {leaseSeconds : ℤ}
  {uuid4 : ℕ → Uuid} {claim : NodeProbeClaim}

theorem claimed_lease (hclaim : claim ∈ t.probeClaims now dueBefore limit uuid4) :
    let t' := (t.claimDueProbeTargets now dueBefore limit leaseSeconds uuid4).2
    t'.probeLeaseToken claim.nodeId = some claim.leaseToken ∧
      t'.probeLeaseExpiresAt claim.nodeId = some (now + seconds leaseSeconds) := by
  obtain ⟨hdue, hid, -⟩ := NodeTables.mem_probeClaims hclaim
  have hnodup : ((t.probeClaims now dueBefore limit uuid4).map NodeProbeClaim.nodeId).Nodup := by
    rw [NodeTables.probeClaims_nodeIds]
    exact NodeTables.dueProbeTargets_nodup
  have hrow := (NodeTables.mem_probeTargets (NodeTables.mem_dueProbeTargets hdue).1).2
  rw [← hid] at hrow
  have hlease := @NodeTables.leaseProbes_claimed t _ claim (now + seconds leaseSeconds) hnodup hclaim
  rw [hrow] at hlease
  constructor
  · exact congrArg (Option.bind · NodeStatusRow.probeLeaseToken) hlease
  · exact congrArg (Option.bind · NodeStatusRow.probeLeaseExpiresAt) hlease

theorem unclaimed_lease
    (hid : id ∉ (t.probeClaims now dueBefore limit uuid4).map NodeProbeClaim.nodeId) :
    let t' := (t.claimDueProbeTargets now dueBefore limit leaseSeconds uuid4).2
    t'.probeLeaseToken id = t.probeLeaseToken id ∧
      t'.probeLeaseExpiresAt id = t.probeLeaseExpiresAt id := by
  have hrow := @NodeTables.leaseProbes_other t id _ (now + seconds leaseSeconds) hid
  constructor
  · exact congrArg (Option.bind · NodeStatusRow.probeLeaseToken) hrow
  · exact congrArg (Option.bind · NodeStatusRow.probeLeaseExpiresAt) hrow

/-- A node with an unexpired lease is not claimed. -/
theorem unexpired_unclaimed {expiresAt : DateTime}
    (hlease : t.probeLeaseExpiresAt id = some expiresAt) (hnow : now < expiresAt) :
    id ∉ (t.probeClaims now dueBefore limit uuid4).map NodeProbeClaim.nodeId := by
  rw [NodeTables.probeClaims_nodeIds]
  intro hid
  obtain ⟨r, hr, rfl⟩ := List.mem_map.1 hid
  obtain ⟨htarget, hdue⟩ := NodeTables.mem_dueProbeTargets hr
  rw [NodeTables.probeTarget_isDue htarget, NodeTables.awaitsProbe, hlease] at hdue
  simp only [Option.all_some, Bool.and_eq_true, decide_eq_true_eq] at hdue
  exact absurd hdue.2 (not_le.2 hnow)

end Claims

theorem Inv.claim {dueBefore : DateTime} {limit : ℕ} {leaseSeconds : ℤ} {uuid4 : ℕ → Uuid}
    (hinv : h.Inv) (hclock : h.clock ≤ now) (distinct : Function.Injective uuid4)
    (fresh : ∀ i, ∀ l ∈ h.grants, l.token ≠ uuid4 i) : Inv { h with
      tables := (h.tables.claimDueProbeTargets now dueBefore limit leaseSeconds uuid4).2
      clock := now
      grants := h.grants ++ (h.tables.probeClaims now dueBefore limit uuid4).map
        (grant (now + seconds leaseSeconds)) } where
  current := by
    intro l hl hret hexp
    rcases List.mem_append.1 hl with hl | hl
    · have hold := hinv.current l hl hret (hclock.trans_lt hexp)
      have hid : l.nodeId ∉ (h.tables.probeClaims now dueBefore limit uuid4).map
          NodeProbeClaim.nodeId := unexpired_unclaimed hold.2 hexp
      exact ⟨(unclaimed_lease hid).1.trans hold.1, (unclaimed_lease hid).2.trans hold.2⟩
    · obtain ⟨claim, hclaim, rfl⟩ := List.mem_map.1 hl
      exact claimed_lease hclaim
  issued := by
    intro id token htoken
    by_cases hid : id ∈ (h.tables.probeClaims now dueBefore limit uuid4).map NodeProbeClaim.nodeId
    · obtain ⟨claim, hclaim, rfl⟩ := List.mem_map.1 hid
      rw [(claimed_lease hclaim).1] at htoken
      exact ⟨_, List.mem_append_right _ (List.mem_map_of_mem hclaim), Option.some.inj htoken⟩
    · rw [(unclaimed_lease hid).1] at htoken
      obtain ⟨l, hl, heq⟩ := hinv.issued id token htoken
      exact ⟨l, List.mem_append_left _ hl, heq⟩
  returned := by
    intro token htoken
    obtain ⟨l, hl, heq⟩ := hinv.returned token htoken
    exact ⟨l, List.mem_append_left _ hl, heq⟩
  distinct := by
    rw [List.map_append, List.map_map, List.nodup_append]
    refine ⟨hinv.distinct, NodeTables.probeClaims_tokens distinct, ?_⟩
    intro a ha b hb
    obtain ⟨l, hl, rfl⟩ := List.mem_map.1 ha
    obtain ⟨claim, hclaim, rfl⟩ := List.mem_map.1 hb
    obtain ⟨-, -, i, hi⟩ := NodeTables.mem_probeClaims hclaim
    have hfresh := fresh i l hl
    rwa [← hi] at hfresh

/-! ## Finalisations -/

section Finalisation

variable {t t' : NodeTables} {nodeId id : ℕ} {leaseToken : Uuid} {row : NodeStatusRow}

theorem finalized_other
    (hrow : t'.nodeStatus = Function.update t.nodeStatus nodeId (some row)) (hid : id ≠ nodeId) :
    t'.probeLeaseToken id = t.probeLeaseToken id ∧
      t'.probeLeaseExpiresAt id = t.probeLeaseExpiresAt id := by
  have hsame : t'.nodeStatus id = t.nodeStatus id := by
    rw [hrow, Function.update_of_ne hid]
  constructor
  · exact congrArg (Option.bind · NodeStatusRow.probeLeaseToken) hsame
  · exact congrArg (Option.bind · NodeStatusRow.probeLeaseExpiresAt) hsame

theorem Inv.finalize (hinv : h.Inv) (htoken : h.tables.probeLeaseToken nodeId = some leaseToken)
    (hcleared : row.probeLeaseToken = none)
    (hrow : t.nodeStatus = Function.update h.tables.nodeStatus nodeId (some row)) :
    Inv { h with tables := t, returned := leaseToken :: h.returned } where
  current := by
    intro l hl hret hexp
    simp only [List.mem_cons, not_or] at hret
    have hold := hinv.current l hl hret.2 hexp
    have hid : l.nodeId ≠ nodeId := by
      intro heq
      rw [heq, htoken] at hold
      exact hret.1 (Option.some.inj hold.1).symm
    have hkeep := finalized_other hrow hid
    exact ⟨hkeep.1.trans hold.1, hkeep.2.trans hold.2⟩
  issued := by
    intro id token hid
    by_cases heq : id = nodeId
    · have hnone : t.probeLeaseToken id = none := by
        rw [NodeTables.probeLeaseToken, hrow, heq, Function.update_self]
        exact hcleared
      rw [hnone] at hid
      cases hid
    · rw [(finalized_other hrow heq).1] at hid
      exact hinv.issued id token hid
  returned := by
    intro token hmem
    rcases List.mem_cons.1 hmem with rfl | hmem
    · exact hinv.issued nodeId token htoken
    · exact hinv.returned token hmem
  distinct := hinv.distinct

end Finalisation

/-! ## Runs -/

theorem Step.inv (hstep : h.Step h') (hinv : h.Inv) : h'.Inv := by
  cases hstep with
  | createNode _ _ _ _ _ _ _ _ t created =>
    exact hinv.sameLeases (NodeTables.createNode_leases created)
  | upsertNodeStatus _ _ _ _ _ t stored =>
    exact hinv.sameLeases (NodeTables.upsertNodeStatus_leases stored)
  | markNodeUnreachable _ _ _ t stored =>
    exact hinv.sameLeases (NodeTables.markNodeUnreachable_leases stored)
  | claimDueProbeTargets now dueBefore limit leaseSeconds uuid4 clock distinct fresh =>
    exact hinv.claim clock distinct fresh
  | finalizeProbe nodeId leaseToken report completedAt accepted t finalized =>
    rcases NodeTables.finalizeProbe_eq_ok finalized with ⟨rfl, rfl⟩ | ⟨rfl, htoken, row, hrow⟩
    · exact hinv
    · exact hinv.finalize htoken hrow.1 hrow.2.2

theorem Reachable.inv (hr : h.Reachable) : h.Inv := by
  apply Transition.Reachable.invariant Inv _ (fun _ _ _ hinv hstep => hstep.inv hinv) hr
  rintro s ⟨ht, hg, hret⟩
  constructor
  · rw [hg]
    simp
  · rw [ht]
    rintro id token htoken
    cases htoken
  · rw [hret]
    simp
  · rw [hg]
    exact List.nodup_nil

/-- Leases that are held at one time belong to different nodes. -/
theorem Inv.holds_unique (hinv : h.Inv) (hclock : h.clock ≤ now) (hl : h.Holds l now)
    (hl' : h.Holds l' now) (hnode : l.nodeId = l'.nodeId) : l = l' := by
  have hcurrent := hinv.current l hl.granted hl.notReturned (hclock.trans_lt hl.unexpired)
  have hcurrent' := hinv.current l' hl'.granted hl'.notReturned (hclock.trans_lt hl'.unexpired)
  rw [hnode] at hcurrent
  have htoken := Option.some.inj (hcurrent.1.symm.trans hcurrent'.1)
  have hexpires := Option.some.inj (hcurrent.2.symm.trans hcurrent'.2)
  cases l
  cases l'
  simp_all

/-! ## Coverage -/

/-- A claim takes the nodes that should be probed exactly when each of them has a status row.
In every run the leases held at one time belong to different nodes, and a finalisation by a
token that is not current returns `False` and changes nothing. -/
theorem probe_coverage_iff (hr : h.Reachable) :
    (∀ (now dueBefore : DateTime) (limit : ℕ) (leaseSeconds : ℤ) (uuid4 : ℕ → Uuid),
      (h.tables.claimDueProbeTargets now dueBefore limit leaseSeconds uuid4).1.map
          NodeProbeClaim.nodeId = (h.tables.awaitingProbe now dueBefore).take limit ↔
        ∀ id ∈ (h.tables.awaitingProbe now dueBefore).take limit,
          (h.tables.nodeStatus id).isSome = true) ∧
    ((h.grants.map ProbeLease.token).Nodup ∧ ∀ (now : DateTime) (l l' : ProbeLease),
      h.clock ≤ now → h.Holds l now → h.Holds l' now → l.nodeId = l'.nodeId → l = l') ∧
    ∀ (nodeId : ℕ) (leaseToken : Uuid) (report : NodeReport) (completedAt : DateTime),
      h.tables.probeLeaseToken nodeId ≠ some leaseToken →
        h.tables.finalizeProbe nodeId leaseToken report completedAt = .ok (false, h.tables) := by
  refine ⟨?_, ⟨hr.inv.distinct, ?_⟩, ?_⟩
  · intro now dueBefore limit leaseSeconds uuid4
    exact NodeTables.claims_cover_iff
  · intro now l l' hclock hl hl' hnode
    exact hr.inv.holds_unique hclock hl hl' hnode
  · intro nodeId leaseToken report completedAt htoken
    exact NodeTables.finalizeProbe_rejected htoken

/-- One node has been registered. -/
def registered : ProbeHistory where
  tables := { nodes := [{
    nodeKey := "node-1"
    displayName := "Node 1"
    apiBaseUrl := "https://node-1"
    updatedAt := 0 }] }

theorem registered_reachable : registered.Reachable := by
  refine Transition.Reachable.tail (.of_init (s := {}) ⟨rfl, rfl, rfl⟩) ?_
  exact .createNode "node-1" "Node 1" "https://node-1" true 100 .unknown 0 0 _ rfl

theorem probe_coverage_registered :
    registered.tables.finalizeProbe 0 1 ⟨.online, none, "null", {}, "null", "null", some 5, none⟩ 5 =
      .ok (false, registered.tables) := by
  have hcoverage := probe_coverage_iff registered_reachable
  exact hcoverage.2.2 0 1 _ 5 (by decide)

/-- The node that was registered awaits a probe and is not claimed. -/
theorem registered_node_passed_over : ∃ h : ProbeHistory, h.Reachable ∧
    h.tables.awaitingProbe 0 0 = [0] ∧
    (h.tables.claimDueProbeTargets 0 0 100 30 id).1 = [] :=
  ⟨registered, registered_reachable, by decide +kernel, by decide +kernel⟩

end ProbeHistory

end ShopBot
