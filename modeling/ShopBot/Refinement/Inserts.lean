import ShopBot.Refinement.Writes

/-! # What the repositories insert

An insert creates the task of an operation for the current generation, or finds the one
that is there; a new configuration comes with its provision task.
-/

namespace ShopBot

open Lifecycle

namespace Database

variable {db db₁ db₂ : Database} {id k : ℕ} {c : VpnConfiguration} {e : ServerEndpoint}
  {a : Aggregate ℕ TaskRef} {op : Operation} {t u : NodeTask} {p v : PanelProvisionTask}
  {q w : PanelRevokeTask} {o : Owner} {task : Lifecycle.Task} {mapper : RowMapper}

theorem Wrote.task_eq (h : db.Wrote id a db₁) : a.task = db₁.taskOf id := by
  obtain ⟨c, e, -, -, rfl⟩ := fleet_eq_some.1 h.aggregate
  rfl

/-! ## The tasks of an operation -/

/-- The ledger that holds a task is the ledger of its configuration's route. -/
theorem WellFormed.task_cases (hw : db.WellFormed) {r : TaskRef} (ho : db.owner id = some o)
    (ht : db.taskOf id r = some task) :
    (∃ k t, r = .node k ∧ db.nodeTasks[k]? = some t ∧ o.nodeId.isSome ∧
      t.vpnConfigurationId = some id ∧ t.vpnGeneration = some task.generation ∧
      t.operation = nodeOperation task.operation ∧ t.status = task.status) ∨
    (∃ k p, r = .panelProvision k ∧ db.panelProvisionTasks[k]? = some p ∧ o.nodeId = none ∧
      p.vpnConfigurationId = id ∧ task = ⟨.provision, p.vpnGeneration, p.status⟩) ∨
    (∃ k q, r = .panelRevoke k ∧ db.panelRevokeTasks[k]? = some q ∧ o.nodeId = none ∧
      q.vpnConfigurationId = id ∧ task = ⟨.revoke, q.vpnGeneration, q.status⟩) := by
  have hat := taskOf_eq_some.1 ht
  cases r with
  | node k =>
    left
    simp only [taskAt, Option.bind_eq_some_iff] at hat
    obtain ⟨t, hrow, hl⟩ := hat
    obtain ⟨op, id', generation, c, e, h⟩ := hw.nodeTask hrow
    have hl' := NodeTask.lifecycle_eq h.configurationId h.generationOf h.operation
    rw [hl] at hl'
    obtain ⟨rfl, rfl⟩ := by simpa using hl'
    have ho' : o.nodeId = e.nodeId := by
      obtain ⟨c', e', hc', he', rfl⟩ := owner_eq_some.1 ho
      obtain rfl := Option.some.inj (h.configuration.symm.trans hc')
      rw [Option.some.inj (h.endpoint.symm.trans he')]
    exact ⟨k, t, rfl, hrow, by simp [ho', h.node], h.configurationId, h.generationOf,
      h.operation, rfl⟩
  | panelProvision k =>
    right; left
    simp only [taskAt, Option.map_eq_some_iff, Prod.mk.injEq] at hat
    obtain ⟨p, hrow, rfl, rfl⟩ := hat
    obtain ⟨o', ho', hn, -⟩ := hw.panelProvisionTasks p (List.mem_of_getElem? hrow)
    obtain rfl := Option.some.inj (ho.symm.trans ho')
    exact ⟨k, p, rfl, hrow, hn, rfl, rfl⟩
  | panelRevoke k =>
    right; right
    simp only [taskAt, Option.map_eq_some_iff, Prod.mk.injEq] at hat
    obtain ⟨q, hrow, rfl, rfl⟩ := hat
    obtain ⟨o', ho', hn, -⟩ := hw.panelRevokeTasks q (List.mem_of_getElem? hrow)
    obtain rfl := Option.some.inj (ho.symm.trans ho')
    exact ⟨k, q, rfl, hrow, hn, rfl, rfl⟩

/-- Two tasks with one key have one operation, configuration and generation. -/
theorem operation_of_key {i j g g' : ℕ} (ht : t.HasKey i g) (hu : u.HasKey j g')
    (h : u.idempotencyKey = t.idempotencyKey) :
    j = i ∧ u.operation = t.operation ∧ g' = g := by
  rcases ht with ⟨h₁, k₁⟩ | ⟨h₁, k₁⟩ <;> rcases hu with ⟨h₂, k₂⟩ | ⟨h₂, k₂⟩ <;>
    rw [k₁, k₂] at h <;> simp_all

theorem taskOf_none_of_length {rows : ℕ} (h : rows = db.nodeTasks.length) :
    db.taskOf id (.node rows) = none := by
  simp [taskOf, taskAt, h]

/-! ## Inserting a task -/

theorem Wrote.addNodeTask (h : db.Wrote id a db₁) (hfit : t.Fits db₁.owner)
    (hid : t.vpnConfigurationId = some id) (hg : t.vpnGeneration = some a.generation)
    (hop : t.operation = nodeOperation op) (hs : t.status = .pending)
    (hadd : db₁.addNodeTask t = .ok (u, k, db₂)) :
    ∃ a', Aggregate.Adds a op a' ∧ db.Wrote id a' db₂ := by
  have hw := h.wellFormed
  obtain ⟨id', g', o, hid', hg', ho, hn, hsub, hu, hpk, hkey⟩ := (show _ from hfit)
  obtain rfl := Option.some.inj (hid.symm.trans hid')
  obtain rfl := Option.some.inj (hg.symm.trans hg')
  have hl := NodeTask.lifecycle_eq hid hg hop
  rw [hs] at hl
  rcases addNodeTask_ok hadd with ⟨rfl, rfl, rfl, hfree⟩ | ⟨rfl, hrow, hsame⟩
  · refine ⟨a.setTask (.node db₁.nodeTasks.length) ⟨op, a.generation, .pending⟩,
      .inserted _ (by rw [h.task_eq]; exact taskOf_none_of_length rfl) fun r task htask htop => ?_,
      h.then (Wrote.of_tasks ?_ h.aggregate rfl rfl rfl
        ((taskAt_nodeTasks Table.getElem?_append).trans (by rw [hl])) (fun x hx => ?_)
        (.append _) .refl .refl)⟩
    · rw [h.task_eq] at htask
      intro hgen
      rcases hw.task_cases ho htask with
        ⟨j, v, rfl, hv, -, hvid, hvg, hvop, -⟩ | ⟨j, v, rfl, hv, hnone, -⟩ |
          ⟨j, v, rfl, hv, hnone, -⟩
      · have hc := hfree v (List.mem_of_getElem? hv)
        simp [nodeTaskConflict, hvid, hvg, hvop, hid, hg, hop, htop, hgen] at hc
      · rw [hn] at hnone
        cases hnone
      · rw [hn] at hnone
        cases hnone
    · exact ⟨hw.endpoint, hw.subscription, hw.clientUuid, forall_mem_concat hw.nodeTasks hfit,
        hw.panelProvisionTasks, hw.panelRevokeTasks⟩
    · simp [taskAt] at hx
  · have hufit := hw.nodeTasks u (List.mem_of_getElem? hrow)
    obtain ⟨j, gu, ou, huid, hug, -, -, -, -, -, hukey⟩ := hufit
    have hsame' : j = id ∧ u.operation = t.operation ∧ gu = a.generation := by
      rcases hsame with hk | ⟨h₁, h₂, h₃⟩
      · exact operation_of_key hkey hukey hk
      · rw [huid, hid] at h₁
        rw [hug, hg] at h₃
        exact ⟨Option.some.inj h₁, h₂, Option.some.inj h₃⟩
    obtain ⟨rfl, huop, rfl⟩ := hsame'
    refine ⟨a, .existing (.node k) ⟨op, a.generation, u.status⟩ ?_ rfl fun _ => rfl, h⟩
    rw [h.task_eq, taskOf_eq_some]
    simp [taskAt, hrow, NodeTask.lifecycle_eq huid hug (huop.trans hop)]

theorem Wrote.addPanelRevokeTask (h : db.Wrote q.vpnConfigurationId a db₁)
    (hfit : q.Fits db₁.owner) (hg : q.vpnGeneration = a.generation) (hs : q.status = .pending)
    (hadd : db₁.addPanelRevokeTask q = .ok (w, k, db₂)) :
    ∃ a', Aggregate.Adds a .revoke a' ∧ db.Wrote q.vpnConfigurationId a' db₂ := by
  have hw := h.wellFormed
  obtain ⟨o, ho, hn, -⟩ := (show _ from hfit)
  rcases addPanelRevokeTask_ok hadd with ⟨rfl, rfl, rfl, hfree⟩ | ⟨rfl, hrow, hid, hgen⟩
  · refine ⟨a.setTask (.panelRevoke db₁.panelRevokeTasks.length) ⟨.revoke, a.generation, .pending⟩,
      .inserted _ (by rw [h.task_eq]; simp [taskOf, taskAt]) fun r task htask htop => ?_,
      h.then (Wrote.of_tasks ?_ h.aggregate rfl rfl rfl
        ((taskAt_panelRevokeTasks Table.getElem?_append).trans (by rw [hg, hs])) (fun x hx => ?_)
        .refl .refl (.append _))⟩
    · rw [h.task_eq] at htask
      intro hgen
      rcases hw.task_cases ho htask with
        ⟨j, v, rfl, hv, hsome, -⟩ | ⟨j, v, rfl, hv, -, hvid, rfl⟩ | ⟨j, v, rfl, hv, -, hvid, rfl⟩
      · simp [hn] at hsome
      · cases htop
      · exact hfree v (List.mem_of_getElem? hv) ⟨hvid, hgen.trans hg.symm⟩
    · exact ⟨hw.endpoint, hw.subscription, hw.clientUuid, hw.nodeTasks,
        hw.panelProvisionTasks, forall_mem_concat hw.panelRevokeTasks hfit⟩
    · simp [taskAt] at hx
  · refine ⟨a, .existing (.panelRevoke k) ⟨.revoke, a.generation, w.status⟩ ?_ rfl fun _ => rfl, h⟩
    rw [h.task_eq, taskOf_eq_some]
    simp [taskAt, hrow, hid, hgen, hg]

theorem Wrote.addPanelProvisionTask (h : db.Wrote p.vpnConfigurationId a db₁)
    (hfit : p.Fits db₁.owner) (hg : p.vpnGeneration = a.generation) (hs : p.status = .pending)
    (hadd : db₁.addPanelProvisionTask mapper p = .ok (v, k, db₂)) :
    ∃ a', Aggregate.Adds a .provision a' ∧ db.Wrote p.vpnConfigurationId a' db₂ := by
  have hw := h.wellFormed
  obtain ⟨o, ho, hn, -⟩ := (show _ from hfit)
  obtain ⟨-, ⟨rfl, rfl, rfl, hfree⟩ | ⟨rfl, hrow, hid⟩⟩ := addPanelProvisionTask_ok hadd
  · refine ⟨a.setTask (.panelProvision db₁.panelProvisionTasks.length)
        ⟨.provision, a.generation, .pending⟩,
      .inserted _ (by rw [h.task_eq]; simp [taskOf, taskAt]) fun r task htask htop => ?_,
      h.then (Wrote.of_tasks ?_ h.aggregate rfl rfl rfl
        ((taskAt_panelProvisionTasks Table.getElem?_append).trans (by rw [hg, hs])) (fun x hx => ?_)
        .refl (.append _) .refl)⟩
    · rw [h.task_eq] at htask
      intro hgen
      rcases hw.task_cases ho htask with
        ⟨j, v, rfl, hv, hsome, -⟩ | ⟨j, v, rfl, hv, -, hvid, rfl⟩ | ⟨j, v, rfl, hv, -, hvid, rfl⟩
      · simp [hn] at hsome
      · exact hfree v (List.mem_of_getElem? hv) hvid
      · cases htop
    · exact ⟨hw.endpoint, hw.subscription, hw.clientUuid, hw.nodeTasks,
        forall_mem_concat hw.panelProvisionTasks hfit, hw.panelRevokeTasks⟩
    · simp [taskAt] at hx
  · refine ⟨a, .existing (.panelProvision k) ⟨.provision, v.vpnGeneration, v.status⟩ ?_ rfl ?_, h⟩
    · rw [h.task_eq, taskOf_eq_some]
      simp [taskAt, hrow, hid]
    · intro hop
      cases hop

/-! ## A new configuration -/

/-- No task names a configuration that does not exist. -/
theorem WellFormed.taskAt_lt (hw : db.WellFormed) {r : TaskRef}
    (h : db.taskAt r = some (id, task)) : id < db.vpnConfigurations.length := by
  have hlt : ∀ {i : ℕ} {d : VpnConfiguration}, db.vpnConfigurations[i]? = some d →
      i < db.vpnConfigurations.length := fun h => (List.getElem?_eq_some_iff.1 h).1
  cases r with
  | node k =>
    simp only [taskAt, Option.bind_eq_some_iff] at h
    obtain ⟨t, hrow, hl⟩ := h
    obtain ⟨op, id', generation, c, e, ht⟩ := hw.nodeTask hrow
    rw [NodeTask.lifecycle_eq ht.configurationId ht.generationOf ht.operation] at hl
    cases hl
    exact hlt ht.configuration
  | panelProvision k =>
    simp only [taskAt, Option.map_eq_some_iff, Prod.mk.injEq] at h
    obtain ⟨p, hrow, rfl, -⟩ := h
    obtain ⟨c, e, hp⟩ := hw.panelProvisionTask hrow
    exact hlt hp.configuration
  | panelRevoke k =>
    simp only [taskAt, Option.map_eq_some_iff, Prod.mk.injEq] at h
    obtain ⟨q, hrow, rfl, -⟩ := h
    obtain ⟨c, e, hq⟩ := hw.panelRevokeTask hrow
    exact hlt hq.configuration

theorem addConfiguration_ok {id : ℕ} (h : db.addConfiguration c = .ok (id, db₁)) :
    id = db.vpnConfigurations.length ∧
      db₁ = { db with vpnConfigurations := db.vpnConfigurations ++ [c] } ∧
      ∀ d ∈ db.vpnConfigurations, d.clientUuid ≠ c.clientUuid := by
  unfold addConfiguration at h
  split_ifs at h with hany
  obtain ⟨rfl, rfl⟩ : db.vpnConfigurations.length = id ∧ _ = db₁ := by simpa using h
  refine ⟨rfl, rfl, fun d hd hu => hany (List.any_eq_true.2 ⟨d, hd, by simpa using hu⟩)⟩

/-- A new configuration has no tasks yet. -/
theorem Wrote.of_addConfiguration (hw : db.WellFormed)
    (he : db.serverEndpoints[c.serverEndpointId]? = some e)
    (hs : c.subscriptionId < db.subscriptions.length)
    (h : db.addConfiguration c = .ok (id, db₁)) :
    id = db.vpnConfigurations.length ∧ db₁.vpnConfigurations[id]? = some c ∧
      db.Wrote id (db₁.aggregateOf id c e) db₁ ∧ ∀ r, db₁.taskOf id r = none := by
  obtain ⟨rfl, rfl, hfresh⟩ := addConfiguration_ok h
  have hrow : (db.vpnConfigurations ++ [c])[db.vpnConfigurations.length]? = some c := by simp
  have hold : ∀ {j : ℕ} {d : VpnConfiguration}, (db.vpnConfigurations ++ [c])[j]? = some d →
      (j = db.vpnConfigurations.length ∧ d = c) ∨ db.vpnConfigurations[j]? = some d := by
    intro j d hd
    have hj := congrFun (Table.getElem?_append : (fun k => (db.vpnConfigurations ++ [c])[k]?) = _) j
    by_cases hjl : j = db.vpnConfigurations.length
    · subst hjl
      rw [hrow] at hd
      exact .inl ⟨rfl, (Option.some.inj hd).symm⟩
    · simp only [Function.update_of_ne hjl] at hj
      exact .inr (hj ▸ hd)
  have hkeep : ∀ {j : ℕ} {d : VpnConfiguration}, db.vpnConfigurations[j]? = some d →
      (db.vpnConfigurations ++ [c])[j]? = some d := fun {j d} hd => by
    rw [List.getElem?_append_left (List.getElem?_eq_some_iff.1 hd).1]
    exact hd
  have howner : ∀ (j : ℕ) (o : Owner), db.owner j = some o →
      { db with vpnConfigurations := db.vpnConfigurations ++ [c] }.owner j = some o := by
    intro j o ho
    obtain ⟨d, e', hd, he', rfl⟩ := owner_eq_some.1 ho
    exact owner_eq_some.2 ⟨d, e', hkeep hd, he', rfl⟩
  refine ⟨rfl, hrow, ⟨⟨fun j d hd => ?_, fun j d hd => ?_, fun i j d d' hd hd' hu => ?_,
    fun t ht => ?_, fun p hp => ?_, fun q hq => ?_⟩, rfl, ⟨howner, .refl, .refl, .refl⟩, ?_⟩,
    fun r => ?_⟩
  · rcases hold hd with ⟨rfl, rfl⟩ | hd
    · exact ⟨e, he⟩
    · exact hw.endpoint j d hd
  · rcases hold hd with ⟨rfl, rfl⟩ | hd
    · exact hs
    · exact hw.subscription j d hd
  · rcases hold hd with ⟨rfl, rfl⟩ | h₁ <;> rcases hold hd' with ⟨rfl, rfl⟩ | h₂
    · rfl
    · exact absurd hu.symm (hfresh _ (List.mem_of_getElem? h₂))
    · exact absurd hu (hfresh _ (List.mem_of_getElem? h₁))
    · exact hw.clientUuid i j d d' h₁ h₂ hu
  · obtain ⟨i, g, o, h₁, h₂, ho, hrest⟩ := hw.nodeTasks t ht
    exact ⟨i, g, o, h₁, h₂, howner _ _ ho, hrest⟩
  · obtain ⟨o, ho, hrest⟩ := hw.panelProvisionTasks p hp
    exact ⟨o, howner _ _ ho, hrest⟩
  · obtain ⟨o, ho, hrest⟩ := hw.panelRevokeTasks q hq
    exact ⟨o, howner _ _ ho, hrest⟩
  · funext j
    by_cases hj : j = db.vpnConfigurations.length
    · subst hj
      rw [Function.update_self]
      exact fleet_of_row hrow he
    · rw [Function.update_of_ne hj]
      have hj' := congrFun
        (Table.getElem?_append : (fun k => (db.vpnConfigurations ++ [c])[k]?) = _) j
      rw [Function.update_of_ne hj] at hj'
      simp only [Database.fleet, getConfigurationWithEndpoint, hj']
      rfl
  · rw [Option.eq_none_iff_forall_ne_some]
    intro t ht
    exact Nat.lt_irrefl _ (hw.taskAt_lt (taskOf_eq_some.1 ht))

end Database

end ShopBot
