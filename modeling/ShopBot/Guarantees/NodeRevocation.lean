import ShopBot.Guarantees.Fencing
import ShopBot.Refinement.Workers
import ShopBot.System.NodeNetwork

/-! # Revocation on nodes

A node that applies the revoke of the current generation has removed the client. The
client stays away unless a provision of the same configuration arrives after that: its
follow-up is the revoke of the same generation, which exists already and is not repeated.
-/

namespace ShopBot

open Lifecycle Database

namespace NodeNetwork

variable {settings : Settings} {n n' : NodeNetwork} {s' : System} {cmd : Command} {worker k : ℕ}
  {d : NodeDispatch}

structure Inv (settings : Settings) (n : NodeNetwork) : Prop where
  reachable : n.system.Reachable settings
  requests : n.requests.length = n.system.nodeDispatches.length
  sent : ∀ d ∈ n.system.nodeDispatches, ∃ t,
    n.system.db.nodeTasks[d.prepared.taskId]? = some t ∧ t.identity = d.prepared.task.identity
  known : ∀ key ∈ n.applied, ∃ t ∈ n.system.db.nodeTasks, t.idempotencyKey = key
  received : ∀ (i : ℕ) (d : NodeDispatch), n.system.nodeDispatches[i]? = some d →
    n.requests[i]? = some .applied → d.prepared.task.idempotencyKey ∈ n.applied
  succeeded : ∀ t ∈ n.system.db.nodeTasks, t.status = .succeeded → t.idempotencyKey ∈ n.applied
  removed : ∀ (id : ℕ) (c : VpnConfiguration) (e : ServerEndpoint) (m : ℕ),
    n.system.db.vpnConfigurations[id]? = some c →
    n.system.db.serverEndpoints[c.serverEndpointId]? = some e → e.nodeId = some m →
    (c.status = .revoking ∨ c.status = .revoked) → ∀ t ∈ n.system.db.nodeTasks,
    isVpnTask id .revokeClient c.generation t = true → t.idempotencyKey ∈ n.applied →
    (m, c.clientUuid) ∉ n.clients

theorem Inv.of_initial (h : n.Initial) : n.Inv settings := by
  obtain ⟨hs, hc, ha, hr⟩ := h
  have hdb : n.system.nodeDispatches = [] ∧ n.system.db.nodeTasks = [] := by
    rw [hs]
    exact ⟨rfl, rfl⟩
  refine ⟨.of_init hs, by rw [hr, hdb.1]; rfl, ?_, ?_, ?_, ?_, ?_⟩
  · simp [hdb.1]
  · simp [ha]
  · simp [hdb.1]
  · simp [hdb.2]
  · simp [hc]

/-- The request of a worker is about a configuration on the node it is sent to. -/
theorem Inv.fits (h : n.Inv settings) (hd : n.system.nodeDispatches[worker]? = some d) :
    d.prepared.task.Fits n.system.db.owner := by
  obtain ⟨t, ht, hid⟩ := h.sent d (List.mem_of_getElem? hd)
  exact (h.reachable.inv.1.nodeTasks t (List.mem_of_getElem? ht)).congr hid.symm

/-- The keys of a provision and of a revoke differ. -/
theorem key_ne {t u : NodeTask} {i j g g' : ℕ} (ht : t.HasKey i g) (hu : u.HasKey j g')
    (hop : t.operation = .provisionClient) (hop' : u.operation = .revokeClient) :
    u.idempotencyKey ≠ t.idempotencyKey := by
  intro h
  have := (operation_of_key ht hu h).2.1
  rw [hop, hop'] at this
  cases this

/-! ## Transactions -/

/-- A task that has succeeded in a transaction has been applied by its node. -/
theorem Inv.applied_of_success (h : n.Inv settings) (hgen : n.genuine cmd = true)
    (hact : n.system.actors cmd (.success (.node k))) :
    ∃ t, n.system.db.nodeTasks[k]? = some t ∧ t.idempotencyKey ∈ n.applied := by
  have hold : n.system.db.HasSucceeded (.node k) →
      ∃ t, n.system.db.nodeTasks[k]? = some t ∧ t.idempotencyKey ∈ n.applied := by
    rintro ⟨j, t₀, hat, hs⟩
    simp only [taskAt, Option.bind_eq_some_iff] at hat
    obtain ⟨t, ht, hl⟩ := hat
    obtain ⟨op, id, g, c, e, htask⟩ := h.reachable.inv.1.nodeTask ht
    rw [NodeTask.lifecycle_eq htask.configurationId htask.generationOf htask.operation] at hl
    cases hl
    exact ⟨t, ht, h.succeeded t (List.mem_of_getElem? ht) hs⟩
  cases cmd with
  | provisionVpn | revokeVpn =>
    obtain hact | ⟨r, hact, hsucc⟩ := hact
    · cases hact
    · cases hact
      exact hold hsucc
  | finalizeNode ambient i reply =>
    obtain ⟨w, hw, hact | ⟨hact, r, t, rfl, ht, haccepts⟩⟩ := hact
    · cases hact
    · cases hact
      obtain ⟨t', ht', hid⟩ := h.sent w (List.mem_of_getElem? hw)
      cases ht.symm.trans ht'
      have hsame := hid
      simp only [NodeTask.identity, Prod.mk.injEq] at hsame
      have haccepts' : w.prepared.task.acceptsRemoteStatus (r.status.getD "failed") = true := by
        unfold NodeTask.acceptsRemoteStatus at haccepts ⊢
        rwa [← hsame.2.2.1]
      simp only [genuine, hw, haccepts', Bool.not_true, Bool.false_or, decide_eq_true_eq] at hgen
      exact ⟨t, ht, hsame.2.2.2.1 ▸ h.received i w hw hgen⟩
  | recordCompensation =>
    obtain ⟨_, -, h | h⟩ := hact <;> cases h
  | prepareNode | preparePanel | preparePanelRevoke => cases hact
  | recoverNodes | recoverPanelProvisions | recoverPanelRevokes | finalizeProvision |
    failProvision | recordCompensationFailure | finalizePanelRevoke | failPanelRevoke =>
    obtain ⟨_, -, h⟩ := hact
    cases h
  | _ => exact hact.elim

/-- A revoke of the current generation of a configuration that is removed was there before
the transaction, if its key was known, and the configuration was being removed. -/
theorem Inv.removed_before (h : n.Inv settings) (hexec : n.system.exec settings cmd = some s')
    {id : ℕ} {c' : VpnConfiguration} {e : ServerEndpoint} {m : ℕ} {t' : NodeTask}
    (hc' : s'.db.vpnConfigurations[id]? = some c')
    (he : s'.db.serverEndpoints[c'.serverEndpointId]? = some e) (hm : e.nodeId = some m)
    (hs' : c'.status = .revoking ∨ c'.status = .revoked) (ht' : t' ∈ s'.db.nodeTasks)
    (htask : isVpnTask id .revokeClient c'.generation t' = true)
    (hkey : t'.idempotencyKey ∈ n.applied) : (m, c'.clientUuid) ∉ n.clients := by
  obtain ⟨hw, hinv⟩ := h.reachable.inv
  have hev := System.exec_evolves hw hexec
  -- the task of the key was there before
  obtain ⟨t, ht, htk⟩ := h.known _ hkey
  simp only [isVpnTask, Bool.and_eq_true, decide_eq_true_eq] at htask
  obtain ⟨i', g', o', hid', hg', -, -, -, -, -, hkey'⟩ := hev.wellFormed.nodeTasks t' ht'
  obtain ⟨i, g, o, hid, hg, ho, hon, -, -, -, hkeyt⟩ := hw.nodeTasks t ht
  obtain ⟨rfl, hop, rfl⟩ := operation_of_key hkeyt hkey' htk.symm
  obtain rfl := Option.some.inj (hid'.symm.trans htask.1.1)
  obtain rfl := Option.some.inj (hg'.symm.trans htask.2)
  rw [htask.1.2] at hop
  -- so was its configuration, on the same node
  obtain ⟨c, e₀, hc, he₀, rfl⟩ := owner_eq_some.1 ho
  obtain ⟨d₁, e₁, hd₁, he₁, ho₁⟩ := owner_eq_some.1 (hev.keeps.owner _ _ ho)
  cases hd₁.symm.trans hc'
  cases he₁.symm.trans he
  rw [Owner.mk.injEq] at ho₁
  obtain ⟨e₂, e₂', hrun, -, ha, ha'⟩ := h.reachable.run hexec hc hc'
  have htask₀ : isVpnTask i' .revokeClient c'.generation t = true := by
    simp [isVpnTask, hid, hg, hop]
  obtain ⟨k, hk⟩ := List.mem_iff_getElem?.1 ht
  have hreached : c'.generation ≤ c.generation := by
    have hat : n.system.db.taskOf i' (.node k) = some ⟨.revoke, c'.generation, t.status⟩ := by
      rw [taskOf_eq_some]
      have hop' : t.operation = nodeOperation .revoke := hop.symm
      simp [taskAt, hk, NodeTask.lifecycle_eq hid hg hop']
    exact (hinv.each _ _ ha).ledger.reached _ _ hat
  have hgen : c'.generation = c.generation :=
    Nat.le_antisymm hreached (hrun.generation_le hinv ha ha')
  have hrem : c.status = .revoking ∨ c.status = .revoked := hrun.removed hinv ha ha' hs' hgen
  rw [hgen] at htask₀
  rw [← ho₁.2.2]
  exact h.removed i' c e₀ m hc he₀ (ho₁.2.1.trans hm) hrem t ht htask₀ (htk ▸ hkey)

theorem Inv.transaction (h : n.Inv settings) (hstep : n.transaction settings cmd = some n') :
    n'.Inv settings := by
  unfold NodeNetwork.transaction at hstep
  split_ifs at hstep with hgen
  obtain ⟨s', hexec, rfl⟩ := Option.map_eq_some_iff.1 hstep
  obtain ⟨hw, hinv⟩ := h.reachable.inv
  have hev := System.exec_evolves hw hexec
  have hkeep := System.exec_keeps_nodeDispatches hexec
  have hlen : n.system.nodeDispatches.length ≤ s'.nodeDispatches.length := by
    by_contra hlt
    have hi : s'.nodeDispatches.length < n.system.nodeDispatches.length := Nat.not_le.1 hlt
    obtain ⟨d', hd', -⟩ := hkeep _ _ (List.getElem?_eq_getElem hi)
    exact absurd (List.getElem?_eq_some_iff.1 hd').1 (Nat.lt_irrefl _)
  have hrow : ∀ t ∈ n.system.db.nodeTasks, ∃ t' ∈ s'.db.nodeTasks, t'.identity = t.identity := by
    intro t ht
    obtain ⟨k, hk⟩ := List.mem_iff_getElem?.1 ht
    obtain ⟨t', ht', hid⟩ := hev.keeps.nodeTasks k t hk
    exact ⟨t', List.mem_of_getElem? ht', hid⟩
  have hkeyOf : ∀ {t t' : NodeTask}, t'.identity = t.identity →
      t'.idempotencyKey = t.idempotencyKey := by
    intro t t' hid
    simp only [NodeTask.identity, Prod.mk.injEq] at hid
    exact hid.2.2.2.1
  have hold : ∀ {i : ℕ} {d' : NodeDispatch}, i < n.system.nodeDispatches.length →
      s'.nodeDispatches[i]? = some d' →
      ∃ d, n.system.nodeDispatches[i]? = some d ∧ d'.prepared = d.prepared := by
    intro i d' hi hd'
    obtain ⟨d'', hd'', hp⟩ := hkeep _ _ (List.getElem?_eq_getElem hi)
    cases hd''.symm.trans hd'
    exact ⟨_, List.getElem?_eq_getElem hi, hp⟩
  refine ⟨h.reachable.exec hexec, ?_, fun d' hd' => ?_, fun key hkey => ?_,
    fun i d' hd' hr => ?_, fun t' ht' hs' => ?_, fun id c' e m hc' he hm hs' t' ht' htask hkey =>
      h.removed_before hexec hc' he hm hs' ht' htask hkey⟩
  · have := h.requests
    simp only [List.length_append, List.length_replicate]
    omega
  · obtain ⟨i, hi⟩ := List.mem_iff_getElem?.1 hd'
    rcases Nat.lt_or_ge i n.system.nodeDispatches.length with hlt | hge
    · obtain ⟨d, hd, hp⟩ := hold hlt hi
      obtain ⟨t, ht, hid⟩ := h.sent d (List.mem_of_getElem? hd)
      obtain ⟨t', ht', hid'⟩ := hev.keeps.nodeTasks _ t ht
      exact ⟨t', hp ▸ ht', hp ▸ hid'.trans hid⟩
    · exact ⟨_, System.exec_new_nodeDispatch hexec hge hi, rfl⟩
  · obtain ⟨t, ht, hk⟩ := h.known key hkey
    obtain ⟨t', ht', hid⟩ := hrow t ht
    exact ⟨t', ht', (hkeyOf hid).trans hk⟩
  · rcases Nat.lt_or_ge i n.requests.length with hlt | hge
    · dsimp only at hr
      rw [List.getElem?_append_left hlt] at hr
      obtain ⟨d, hd, hp⟩ := hold (h.requests ▸ hlt) hd'
      exact hp ▸ h.received i d hd hr
    · dsimp only at hr
      rw [List.getElem?_append_right hge] at hr
      have := List.eq_of_mem_replicate (List.mem_of_getElem? hr)
      cases this
  · obtain ⟨k, hk⟩ := List.mem_iff_getElem?.1 ht'
    obtain ⟨op, id, g, c', e, hat⟩ := hev.wellFormed.nodeTask hk
    have happlied : ∃ t, n.system.db.nodeTasks[k]? = some t ∧ t.idempotencyKey ∈ n.applied := by
      rcases hev.run.succeeded (fleet_of_row hat.configuration hat.endpoint) hat.task hs' with
        ⟨a, ha, ht⟩ | hact
      · obtain ⟨c, e₀, -, -, rfl⟩ := fleet_eq_some.1 ha
        have hrow := taskOf_eq_some.1 ht
        simp only [taskAt, Option.bind_eq_some_iff] at hrow
        obtain ⟨t, ht, hl⟩ := hrow
        obtain ⟨op₀, id₀, g₀, c₀, e₁, hat₀⟩ := hw.nodeTask ht
        rw [NodeTask.lifecycle_eq hat₀.configurationId hat₀.generationOf hat₀.operation] at hl
        rw [Option.some.injEq, Prod.mk.injEq, Task.mk.injEq] at hl
        exact ⟨t, ht, h.succeeded t (List.mem_of_getElem? ht) (hl.2.2.2.trans hs')⟩
      · exact h.applied_of_success hgen hact
    obtain ⟨t, ht, hkey⟩ := happlied
    obtain ⟨t'', ht'', hid⟩ := hev.keeps.nodeTasks k t ht
    cases ht''.symm.trans hk
    exact hkeyOf hid ▸ hkey

/-! ## Requests -/

theorem Inv.requests_set (h : n.Inv settings) (state : RequestState) (hs : state ≠ .applied) :
    { n with requests := n.requests.set worker state }.Inv settings := by
  refine ⟨h.reachable, by rw [← h.requests]; exact List.length_set, h.sent, h.known,
    fun i d hd hr => ?_, h.succeeded, h.removed⟩
  by_cases hi : worker = i
  · subst hi
    dsimp only at hr
    rw [List.getElem?_set_self'] at hr
    obtain ⟨_, -, rfl⟩ := Option.map_eq_some_iff.1 hr
    exact absurd rfl hs
  · dsimp only at hr
    rw [List.getElem?_set_ne hi] at hr
    exact h.received i d hd hr

/-- Whatever a request does to a configuration that is removed, the client stays away once
the revoke of the current generation has been applied. -/
theorem Inv.removed_after (h : n.Inv settings)
    (hd : n.system.nodeDispatches[worker]? = some d)
    (hlate : ¬ n.LateProvision (.deliver worker))
    (hnew : d.prepared.task.idempotencyKey ∉ n.applied) {id : ℕ} {c : VpnConfiguration}
    {e : ServerEndpoint} {m : ℕ} {t : NodeTask} (hc : n.system.db.vpnConfigurations[id]? = some c)
    (he : n.system.db.serverEndpoints[c.serverEndpointId]? = some e) (hm : e.nodeId = some m)
    (hs : c.status = .revoking ∨ c.status = .revoked) (ht : t ∈ n.system.db.nodeTasks)
    (htask : isVpnTask id .revokeClient c.generation t = true)
    (hkey : t.idempotencyKey ∈ n.applied ++ [d.prepared.task.idempotencyKey]) :
    (m, c.clientUuid) ∉ operate n.clients d.prepared.task := by
  have hw := h.reachable.inv.1
  obtain ⟨i, g, o, hid, hg, ho, hon, -, hou, -, hkeyd⟩ := h.fits hd
  obtain ⟨i', g', o', hid', hg', ho', -, -, -, -, hkeyt⟩ := hw.nodeTasks t ht
  have htask' := htask
  simp only [isVpnTask, Bool.and_eq_true, decide_eq_true_eq] at htask'
  obtain rfl := Option.some.inj (hid'.symm.trans htask'.1.1)
  obtain ⟨c₀, e₀, hc₀, he₀, rfl⟩ := owner_eq_some.1 ho
  have hkeys : t.idempotencyKey ∈ n.applied ∨ t.idempotencyKey = d.prepared.task.idempotencyKey := by
    simpa using hkey
  rcases hkeyd with ⟨hop, hkd⟩ | ⟨hop, hkd⟩
  · -- a provision: it is not late, so the revoke has not been applied
    have hne : t.idempotencyKey ≠ d.prepared.task.idempotencyKey :=
      key_ne (.inl ⟨hop, hkd⟩) hkeyt hop htask'.1.2
    have hold := hkeys.resolve_right hne
    simp only [operate, hop, List.mem_cons, not_or]
    refine ⟨fun heq => ?_, h.removed i' c e m hc he hm hs t ht htask hold⟩
    have huuid : c.clientUuid = c₀.clientUuid := (congrArg Prod.snd heq).trans hou
    obtain rfl := hw.clientUuid _ _ _ _ hc hc₀ huuid
    exact hlate ⟨d, hd, hop, hnew, i', hid, c, hc, hs, t, ht, htask, hold⟩
  · simp only [operate, hop, List.mem_filter, not_and, decide_eq_true_eq]
    intro hmem
    rcases hkeys with hold | heq
    · exact absurd hmem (h.removed i' c e m hc he hm hs t ht htask hold)
    · obtain ⟨rfl, -⟩ := operation_of_key (.inr ⟨hop, hkd⟩) hkeyt heq
      cases hc₀.symm.trans hc
      cases he₀.symm.trans he
      rw [not_not, hou]
      exact congrArg (·, c.clientUuid) (Option.some.inj (hm.symm.trans hon))

theorem Inv.deliver (h : n.Inv settings) (hstep : n.deliver worker = some n')
    (hlate : ¬ n.LateProvision (.deliver worker)) : n'.Inv settings := by
  unfold NodeNetwork.deliver at hstep
  split at hstep
  next d hr hd =>
    have hworker : ∀ {applied : List IdempotencyKey} {i : ℕ} {d' : NodeDispatch},
        n.applied ⊆ applied → d.prepared.task.idempotencyKey ∈ applied →
        n.system.nodeDispatches[i]? = some d' →
        (n.requests.set worker .applied)[i]? = some .applied →
        d'.prepared.task.idempotencyKey ∈ applied := by
      intro applied i d' hsub hmem hd' hr'
      by_cases hi : worker = i
      · subst hi
        cases hd.symm.trans hd'
        exact hmem
      · rw [List.getElem?_set_ne hi] at hr'
        exact hsub (h.received i d' hd' hr')
    have hlen : (n.requests.set worker .applied).length = n.system.nodeDispatches.length := by
      rw [List.length_set, h.requests]
    dsimp only at hstep
    split_ifs at hstep with hknown <;> cases hstep
    · exact ⟨h.reachable, hlen, h.sent, h.known,
        fun i d' hd' hr' => hworker (List.Subset.refl _) hknown hd' hr', h.succeeded, h.removed⟩
    · have hmem : d.prepared.task.idempotencyKey ∈ n.applied ++ [d.prepared.task.idempotencyKey] :=
        List.mem_append_right _ (List.mem_singleton_self _)
      refine ⟨h.reachable, hlen, h.sent, fun key hkey => ?_,
        fun i d' hd' hr' => hworker (List.subset_append_left _ _) hmem hd' hr',
        fun t ht hs => List.mem_append_left _ (h.succeeded t ht hs),
        fun id c e m hc he hm hs t ht htask hkey =>
          h.removed_after hd hlate hknown hc he hm hs ht htask hkey⟩
      rcases List.mem_append.1 hkey with hkey | hkey
      · exact h.known key hkey
      · obtain ⟨t, ht, hid⟩ := h.sent d (List.mem_of_getElem? hd)
        simp only [NodeTask.identity, Prod.mk.injEq] at hid
        exact ⟨t, List.mem_of_getElem? ht, hid.2.2.2.1.trans (List.mem_singleton.1 hkey).symm⟩
  next => cases hstep

theorem Inv.step (h : n.Inv settings) (hstep : PunctualStep settings n n') : n'.Inv settings := by
  obtain ⟨event, hexec⟩ := hstep
  unfold execPunctual at hexec
  split_ifs at hexec with hlate
  cases event with
  | transaction cmd => exact h.transaction hexec
  | deliver worker => exact h.deliver hexec hlate
  | drop worker =>
    unfold exec drop at hexec
    dsimp only at hexec
    split_ifs at hexec
    cases hexec
    exact h.requests_set .dropped (by rintro ⟨⟩)

/-! ## Leaks -/

/-- Where no node applies a provision too late, a revoked configuration has no client on
its node: whenever no task of it is open and no request for it is in flight, and before. -/
theorem revoked_client_absent
    (h : Transition.Reachable Initial (PunctualStep settings) n) {id : ℕ} {c : VpnConfiguration}
    {e : ServerEndpoint} {m : ℕ} (hc : n.system.db.vpnConfigurations[id]? = some c)
    (he : n.system.db.serverEndpoints[c.serverEndpointId]? = some e) (hm : e.nodeId = some m)
    (hs : c.status = .revoked) : (m, c.clientUuid) ∉ n.clients := by
  have hinv : n.Inv settings := Transition.Reachable.invariant (fun n => n.Inv settings)
    (fun _ => .of_initial) (fun _ _ _ hi hstep => hi.step hstep) h
  obtain ⟨hw, hfleet⟩ := hinv.reachable.inv
  have hstatus := (hfleet.each _ _ (fleet_of_row hc he)).status
  simp only [Aggregate.StatusInv, aggregateOf, hs] at hstatus
  obtain ⟨r, t, ht, hop, hg, hsucc⟩ := hstatus.2 (route_node hm)
  rcases hw.task_cases (owner_eq_some.2 ⟨c, e, hc, he, rfl⟩) ht with
    ⟨k, u, -, hu, -, hid, hug, huop, hus⟩ | ⟨k, p, -, -, hnone, -⟩ | ⟨k, q, -, -, hnone, -⟩
  · have hmem := List.mem_of_getElem? hu
    refine hinv.removed id c e m hc he hm (.inr hs) u hmem ?_
      (hinv.succeeded u hmem (hus.trans hsucc))
    rw [hop] at huop
    have hgen : t.generation = c.generation := hg
    simp [isVpnTask, hid, hug, hgen, huop, nodeOperation]
  · dsimp only at hnone
    rw [hm] at hnone
    cases hnone
  · dsimp only at hnone
    rw [hm] at hnone
    cases hnone

/-- A node network before the first order. -/
def nodes : NodeNetwork where
  system := shop nodeEndpoint

theorem nodes_initial : nodes.Initial :=
  ⟨shop_initial _, rfl, rfl, rfl⟩

def confirm (now worker : ℕ) (status : String) : NodeEvent :=
  .transaction (.finalizeNode { now := now } worker (.response { status := some status }))

/-- The provision has been sent. -/
def provisionSent : List NodeEvent := purchase.map .transaction ++ [
  .transaction (.provisionVpn { now := 1, clientUuid := 100, taskUuid := 1 } 0),
  .transaction (.prepareNode { now := 2, leaseToken := 5 } 0)]

/-- The revoke has been sent, once it has been asked for. -/
def revokeSent : List NodeEvent := [
  .transaction (.revokeVpn { now := 3, taskUuid := 2 } 0 .force),
  .transaction (.prepareNode { now := 4, leaseToken := 6 } 1)]

/-- Each request is applied before the next one is sent. -/
def inOrder : List NodeEvent :=
  provisionSent ++ [.deliver 0, confirm 3 0 "provisioned"] ++ revokeSent ++
    [.deliver 1, confirm 5 1 "revoked"]

/-- The node applies the revoke before the provision. -/
def outOfOrder : List NodeEvent :=
  provisionSent ++ revokeSent ++ [.deliver 1, confirm 5 1 "revoked", .deliver 0,
    confirm 6 0 "provisioned"]

theorem revoked_client_absent_nodes : ∃ n c,
    Transition.Reachable Initial (PunctualStep shopSettings) n ∧
      n.system.db.vpnConfigurations[0]? = some c ∧ c.status = .revoked ∧
      (0, c.clientUuid) ∉ n.clients := by
  obtain ⟨n, hn, hcond⟩ := (Option.any_eq_true _ _).1
    (show (Transition.execAll (execPunctual shopSettings) nodes inOrder).any (fun n =>
      (n.system.db.vpnConfigurations[0]?).any (fun c => c.status = .revoked &&
        (n.system.db.serverEndpoints[c.serverEndpointId]?).any (·.nodeId = some 0))) = true by
      decide +kernel)
  obtain ⟨c, hc, hcond⟩ := (Option.any_eq_true _ _).1 hcond
  rw [Bool.and_eq_true] at hcond
  obtain ⟨e, he, hm⟩ := (Option.any_eq_true _ _).1 hcond.2
  have hs : c.status = .revoked := of_decide_eq_true hcond.1
  have hr := Transition.Reachable.of_execAll nodes_initial hn
  exact ⟨n, c, hr, hc, hs, revoked_client_absent hr hc he (of_decide_eq_true hm) hs⟩

/-- A late provision leaves its client on the node of a revoked configuration, and nothing
is left to be done. -/
theorem revoked_client_present : ∃ n c, Transition.Reachable Initial (Step shopSettings) n ∧
    n.Quiescent 0 ∧ n.system.db.vpnConfigurations[0]? = some c ∧ c.status = .revoked ∧
    n.system.db.serverEndpoints[c.serverEndpointId]? = some nodeEndpoint ∧
    (0, c.clientUuid) ∈ n.clients := by
  obtain ⟨n, hn, hcond⟩ := (Option.any_eq_true _ _).1
    (show (Transition.execAll (exec shopSettings) nodes outOfOrder).any (fun n =>
      n.system.db.nodeTasks.all (·.status.isTerminal) && n.requests.all (· ≠ .inFlight) &&
        (n.system.db.vpnConfigurations[0]?).any (fun c =>
          c.status = .revoked &&
            (n.system.db.serverEndpoints[c.serverEndpointId]? = some nodeEndpoint &&
              (0, c.clientUuid) ∈ n.clients))) = true by
      decide +kernel)
  simp only [Bool.and_eq_true, List.all_eq_true, decide_eq_true_eq] at hcond
  obtain ⟨⟨hterminal, happlied⟩, hcond⟩ := hcond
  obtain ⟨c, hc, hcond⟩ := (Option.any_eq_true _ _).1 hcond
  simp only [Bool.and_eq_true, decide_eq_true_eq] at hcond
  refine ⟨n, c, .of_execAll nodes_initial hn, ⟨fun t ht _ => hterminal t ht, ?_⟩, hc, hcond⟩
  exact fun worker _ _ _ h => happlied _ (List.mem_of_getElem? h) rfl

end NodeNetwork

end ShopBot
