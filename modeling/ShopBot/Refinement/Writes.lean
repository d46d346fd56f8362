import ShopBot.Refinement.Abstraction

/-! # What the repositories write

Every write of a transaction concerns one configuration. It keeps the database well
formed and changes the fleet at that configuration only, in the way the lifecycle of
the configuration describes.
-/

namespace ShopBot

open Lifecycle

def VpnConfiguration.identity (c : VpnConfiguration) :=
  (c.subscriptionId, c.serverEndpointId, c.clientUuid)

namespace Database

/-- The writes of a transaction so far concern configuration `id` and leave it as `a`. -/
structure Wrote (db : Database) (id : ℕ) (a : Aggregate ℕ TaskRef) (db' : Database) : Prop where
  wellFormed : db'.WellFormed
  billing : db'.billing = db.billing
  keeps : db.Keeps db'
  fleet : db'.fleet = Function.update db.fleet id (some a)

/-- A node task with the configuration it works for. -/
structure NodeTaskAt (db : Database) (k : ℕ) (t : NodeTask) (op : Operation) (id generation : ℕ)
    (c : VpnConfiguration) (e : ServerEndpoint) : Prop where
  row : db.nodeTasks[k]? = some t
  configurationId : t.vpnConfigurationId = some id
  generationOf : t.vpnGeneration = some generation
  operation : t.operation = nodeOperation op
  configuration : db.vpnConfigurations[id]? = some c
  endpoint : db.serverEndpoints[c.serverEndpointId]? = some e
  node : e.nodeId = some t.nodeId
  subscription : t.subscriptionId = some c.subscriptionId
  task : db.taskOf id (.node k) = some ⟨op, generation, t.status⟩

/-- A panel provision task with the configuration it works for. -/
structure PanelProvisionTaskAt (db : Database) (k : ℕ) (t : PanelProvisionTask)
    (c : VpnConfiguration) (e : ServerEndpoint) : Prop where
  row : db.panelProvisionTasks[k]? = some t
  configuration : db.vpnConfigurations[t.vpnConfigurationId]? = some c
  endpoint : db.serverEndpoints[c.serverEndpointId]? = some e
  panel : e.nodeId = none
  subscription : t.subscriptionId = c.subscriptionId
  task : db.taskOf t.vpnConfigurationId (.panelProvision k) =
    some ⟨.provision, t.vpnGeneration, t.status⟩

/-- A panel revoke task with the configuration it works for. -/
structure PanelRevokeTaskAt (db : Database) (k : ℕ) (t : PanelRevokeTask)
    (c : VpnConfiguration) (e : ServerEndpoint) : Prop where
  row : db.panelRevokeTasks[k]? = some t
  configuration : db.vpnConfigurations[t.vpnConfigurationId]? = some c
  endpoint : db.serverEndpoints[c.serverEndpointId]? = some e
  panel : e.nodeId = none
  subscription : t.subscriptionId = c.subscriptionId
  task : db.taskOf t.vpnConfigurationId (.panelRevoke k) =
    some ⟨.revoke, t.vpnGeneration, t.status⟩

variable {db db₁ : Database} {id k generation : ℕ} {c c' : VpnConfiguration} {e : ServerEndpoint}
  {a : Aggregate ℕ TaskRef} {op : Operation} {t t' : NodeTask} {p p' : PanelProvisionTask}
  {q q' : PanelRevokeTask} {o : Owner} {task : Lifecycle.Task}

/-! ## Tasks and their configurations -/

theorem WellFormed.nodeTask (hw : db.WellFormed) (ht : db.nodeTasks[k]? = some t) :
    ∃ op id generation c e, db.NodeTaskAt k t op id generation c e := by
  obtain ⟨id, generation, o, hid, hg, ho, hn, hs, -, -, hkey⟩ :=
    hw.nodeTasks t (List.mem_of_getElem? ht)
  obtain ⟨c, e, hc, he, rfl⟩ := owner_eq_some.1 ho
  have hop : ∃ op, t.operation = nodeOperation op := by
    rcases hkey with h | h
    · exact ⟨.provision, h.1⟩
    · exact ⟨.revoke, h.1⟩
  obtain ⟨op, hop⟩ := hop
  refine ⟨op, id, generation, c, e, ht, hid, hg, hop, hc, he, hn, hs, taskOf_eq_some.2 ?_⟩
  simp [taskAt, ht, NodeTask.lifecycle_eq hid hg hop]

theorem WellFormed.panelProvisionTask (hw : db.WellFormed)
    (ht : db.panelProvisionTasks[k]? = some p) :
    ∃ c e, db.PanelProvisionTaskAt k p c e := by
  obtain ⟨o, ho, hn, hs, -, -⟩ := hw.panelProvisionTasks p (List.mem_of_getElem? ht)
  obtain ⟨c, e, hc, he, rfl⟩ := owner_eq_some.1 ho
  exact ⟨c, e, ht, hc, he, hn, hs, taskOf_eq_some.2 (by simp [taskAt, ht])⟩

theorem WellFormed.panelRevokeTask (hw : db.WellFormed)
    (ht : db.panelRevokeTasks[k]? = some q) :
    ∃ c e, db.PanelRevokeTaskAt k q c e := by
  obtain ⟨o, ho, hn, hs, -, -⟩ := hw.panelRevokeTasks q (List.mem_of_getElem? ht)
  obtain ⟨c, e, hc, he, rfl⟩ := owner_eq_some.1 ho
  exact ⟨c, e, ht, hc, he, hn, hs, taskOf_eq_some.2 (by simp [taskAt, ht])⟩

theorem fleet_of_row (hc : db.vpnConfigurations[id]? = some c)
    (he : db.serverEndpoints[c.serverEndpointId]? = some e) :
    db.fleet id = some (db.aggregateOf id c e) :=
  fleet_eq_some.2 ⟨c, e, hc, he, rfl⟩

theorem route_node {n : ℕ} (h : e.nodeId = some n) : e.route = .node := by
  simp [ServerEndpoint.route, h]

theorem route_panel (h : e.nodeId = none) : e.route = .panel := by
  simp [ServerEndpoint.route, h]

/-! ## Positions of tasks -/

theorem taskAt_nodeTasks {rows : List NodeTask}
    (h : (fun j => rows[j]?) = Function.update (fun j => db.nodeTasks[j]?) k (some t)) :
    { db with nodeTasks := rows }.taskAt = Function.update db.taskAt (.node k) t.lifecycle := by
  funext r
  cases r with
  | node j =>
    have hj := congrFun h j
    by_cases hjk : j = k
    · subst hjk
      simp only [Function.update_self] at hj ⊢
      simp [taskAt, hj]
    · rw [Function.update_of_ne hjk] at hj
      rw [Function.update_of_ne (by simpa using hjk)]
      simp only [taskAt, hj]
  | panelProvision j | panelRevoke j =>
    rw [Function.update_of_ne (by simp)]
    rfl

theorem taskAt_panelProvisionTasks {rows : List PanelProvisionTask}
    (h : (fun j => rows[j]?) = Function.update (fun j => db.panelProvisionTasks[j]?) k (some p)) :
    { db with panelProvisionTasks := rows }.taskAt = Function.update db.taskAt
      (.panelProvision k) (some (p.vpnConfigurationId, ⟨.provision, p.vpnGeneration, p.status⟩)) := by
  funext r
  cases r with
  | panelProvision j =>
    have hj := congrFun h j
    by_cases hjk : j = k
    · subst hjk
      simp only [Function.update_self] at hj ⊢
      simp [taskAt, hj]
    · rw [Function.update_of_ne hjk] at hj
      rw [Function.update_of_ne (by simpa using hjk)]
      simp only [taskAt, hj]
  | node j | panelRevoke j =>
    rw [Function.update_of_ne (by simp)]
    rfl

theorem taskAt_panelRevokeTasks {rows : List PanelRevokeTask}
    (h : (fun j => rows[j]?) = Function.update (fun j => db.panelRevokeTasks[j]?) k (some q)) :
    { db with panelRevokeTasks := rows }.taskAt = Function.update db.taskAt
      (.panelRevoke k) (some (q.vpnConfigurationId, ⟨.revoke, q.vpnGeneration, q.status⟩)) := by
  funext r
  cases r with
  | panelRevoke j =>
    have hj := congrFun h j
    by_cases hjk : j = k
    · subst hjk
      simp only [Function.update_self] at hj ⊢
      simp [taskAt, hj]
    · rw [Function.update_of_ne hjk] at hj
      rw [Function.update_of_ne (by simpa using hjk)]
      simp only [taskAt, hj]
  | node j | panelProvision j =>
    rw [Function.update_of_ne (by simp)]
    rfl

/-! ## Rows of a ledger -/

theorem forall_mem_set {α : Type*} {P : α → Prop} {rows : List α} {x : α}
    (h : ∀ y ∈ rows, P y) (hx : P x) : ∀ y ∈ rows.set k x, P y := by
  intro y hy
  rcases List.mem_or_eq_of_mem_set hy with hy | rfl
  · exact h y hy
  · exact hx

theorem forall_mem_concat {α : Type*} {P : α → Prop} {rows : List α} {x : α}
    (h : ∀ y ∈ rows, P y) (hx : P x) : ∀ y ∈ rows ++ [x], P y := by
  intro y hy
  rcases List.mem_append.1 hy with hy | hy
  · exact h y hy
  · rw [List.mem_singleton.1 hy]
    exact hx

/-! ## One write after another -/

theorem Wrote.refl (hw : db.WellFormed) (ha : db.fleet id = some a) : db.Wrote id a db :=
  ⟨hw, rfl, .refl db, by rw [← ha, Function.update_eq_self]⟩

theorem Wrote.aggregate (h : db.Wrote id a db₁) : db₁.fleet id = some a := by
  rw [h.fleet, Function.update_self]

/-- A further write that changes the same configuration. -/
theorem Wrote.then {db₂ : Database} {b : Aggregate ℕ TaskRef} (h : db.Wrote id a db₁)
    (h' : db₁.Wrote id b db₂) : db.Wrote id b db₂ :=
  ⟨h'.wellFormed, h'.billing.trans h.billing, h.keeps.trans h'.keeps, by
    rw [h'.fleet, h.fleet, Function.update_idem]⟩

theorem Wrote.attempts (h : db.Wrote id a db₁) (rows : List NodeTaskAttempt) :
    db.Wrote id a { db₁ with nodeTaskAttempts := rows } where
  wellFormed :=
    ⟨h.wellFormed.endpoint, h.wellFormed.subscription, h.wellFormed.clientUuid,
      h.wellFormed.nodeTasks, h.wellFormed.panelProvisionTasks, h.wellFormed.panelRevokeTasks⟩
  billing := h.billing
  keeps := ⟨h.keeps.owner, h.keeps.nodeTasks, h.keeps.panelProvisionTasks,
    h.keeps.panelRevokeTasks⟩
  fleet := h.fleet

theorem Wrote.appendAudit (h : db.Wrote id a db₁) (name : AuditEventName)
    (aggregateType : AuditAggregateType) (aggregateId : ℕ) :
    db.Wrote id a (db₁.appendAudit name aggregateType aggregateId) where
  wellFormed :=
    ⟨h.wellFormed.endpoint, h.wellFormed.subscription, h.wellFormed.clientUuid,
      h.wellFormed.nodeTasks, h.wellFormed.panelProvisionTasks, h.wellFormed.panelRevokeTasks⟩
  billing := h.billing
  keeps := ⟨h.keeps.owner, h.keeps.nodeTasks, h.keeps.panelProvisionTasks,
    h.keeps.panelRevokeTasks⟩
  fleet := h.fleet

/-- The fleet after a write to the task ledgers only. -/
theorem Wrote.of_tasks {db₂ : Database} {r : TaskRef} {s : Lifecycle.Task}
    (hw : db₂.WellFormed) (ha : db₁.fleet id = some a)
    (hc : db₂.vpnConfigurations = db₁.vpnConfigurations)
    (he : db₂.serverEndpoints = db₁.serverEndpoints) (hb : db₂.billing = db₁.billing)
    (ht : db₂.taskAt = Function.update db₁.taskAt r (some (id, s)))
    (hr : ∀ p, db₁.taskAt r = some p → p.1 = id)
    (hnode : Table.Keeps NodeTask.identity db₁.nodeTasks db₂.nodeTasks)
    (hprovision : Table.Keeps PanelProvisionTask.identity db₁.panelProvisionTasks
      db₂.panelProvisionTasks)
    (hrevoke : Table.Keeps PanelRevokeTask.identity db₁.panelRevokeTasks db₂.panelRevokeTasks) :
    db₁.Wrote id (a.setTask r s) db₂ :=
  ⟨hw, hb, ⟨fun j o ho => by rwa [owner_congr hc he], hnode, hprovision, hrevoke⟩,
    fleet_of_taskAt hc he ht hr ha⟩

theorem Wrote.saveNodeTask (h : db.Wrote id a db₁) (t' : NodeTask)
    (ht : db₁.nodeTasks[k]? = some t) (hid : t'.identity = t.identity)
    (htask : db₁.taskOf id (.node k) = some task) :
    db.Wrote id (a.setTask (.node k) { task with status := t'.status })
      (db₁.saveNodeTask k t') := by
  have hw := h.wellFormed
  have hat := taskOf_eq_some.1 htask
  have hl : t.lifecycle = some (id, task) := by simpa [taskAt, ht] using hat
  have hl' : t'.lifecycle = some (id, { task with status := t'.status }) := by
    simp only [NodeTask.identity, Prod.mk.injEq] at hid
    unfold NodeTask.lifecycle at hl ⊢
    rw [hid.2.2.1, hid.2.2.2.2.2.1, hid.2.2.2.2.2.2.2]
    split at hl <;> simp only [Option.some.injEq, Prod.mk.injEq, reduceCtorEq] at hl ⊢ <;>
      obtain ⟨rfl, rfl⟩ := hl <;> exact ⟨rfl, rfl⟩
  refine h.then (Wrote.of_tasks ?_ h.aggregate rfl rfl rfl
    ((taskAt_nodeTasks (Table.getElem?_set ht)).trans (by rw [hl'])) (fun p hp => ?_)
    (.set ht hid) .refl .refl)
  · exact ⟨hw.endpoint, hw.subscription, hw.clientUuid,
      forall_mem_set hw.nodeTasks ((hw.nodeTasks t (List.mem_of_getElem? ht)).congr hid),
      hw.panelProvisionTasks, hw.panelRevokeTasks⟩
  · rw [hat] at hp
    cases hp
    rfl

theorem Wrote.savePanelProvisionTask (h : db.Wrote p.vpnConfigurationId a db₁)
    (p' : PanelProvisionTask) (ht : db₁.panelProvisionTasks[k]? = some p) (hid : p'.identity = p.identity) :
    db.Wrote p.vpnConfigurationId
      (a.setTask (.panelProvision k) ⟨.provision, p.vpnGeneration, p'.status⟩)
      (db₁.savePanelProvisionTask k p') := by
  have hw := h.wellFormed
  have hf := (hw.panelProvisionTasks p (List.mem_of_getElem? ht)).congr hid
  have hid' := hid
  simp only [PanelProvisionTask.identity, Prod.mk.injEq] at hid
  refine h.then (Wrote.of_tasks ?_ h.aggregate rfl rfl rfl
    ((taskAt_panelProvisionTasks (Table.getElem?_set ht)).trans
      (by rw [hid.1, hid.2.2.2.2])) (fun x hx => ?_) .refl (.set ht hid') .refl)
  · exact ⟨hw.endpoint, hw.subscription, hw.clientUuid, hw.nodeTasks,
      forall_mem_set hw.panelProvisionTasks hf, hw.panelRevokeTasks⟩
  · simp only [taskAt, ht, Option.map_some, Option.some.injEq] at hx
    rw [← hx]

theorem Wrote.savePanelRevokeTask (h : db.Wrote q.vpnConfigurationId a db₁)
    (q' : PanelRevokeTask) (ht : db₁.panelRevokeTasks[k]? = some q) (hid : q'.identity = q.identity) :
    db.Wrote q.vpnConfigurationId
      (a.setTask (.panelRevoke k) ⟨.revoke, q.vpnGeneration, q'.status⟩)
      (db₁.savePanelRevokeTask k q') := by
  have hw := h.wellFormed
  have hf := (hw.panelRevokeTasks q (List.mem_of_getElem? ht)).congr hid
  have hid' := hid
  simp only [PanelRevokeTask.identity, Prod.mk.injEq] at hid
  refine h.then (Wrote.of_tasks ?_ h.aggregate rfl rfl rfl
    ((taskAt_panelRevokeTasks (Table.getElem?_set ht)).trans
      (by rw [hid.2.1, hid.2.2.2.1])) (fun x hx => ?_) .refl .refl (.set ht hid'))
  · exact ⟨hw.endpoint, hw.subscription, hw.clientUuid, hw.nodeTasks, hw.panelProvisionTasks,
      forall_mem_set hw.panelRevokeTasks hf⟩
  · simp only [taskAt, ht, Option.map_some, Option.some.injEq] at hx
    rw [← hx]

theorem owner_saveConfiguration (hc : db.vpnConfigurations[id]? = some c)
    (hid : c'.identity = c.identity) : (db.saveConfiguration id c').owner = db.owner := by
  simp only [VpnConfiguration.identity, Prod.mk.injEq] at hid
  funext j
  have hj := congrFun (Table.getElem?_set (a := c') hc) j
  by_cases hji : j = id
  · subst hji
    rw [Function.update_self] at hj
    simp [owner, getConfigurationWithEndpoint, saveConfiguration, hj, hc, hid]
  · rw [Function.update_of_ne hji] at hj
    simp [owner, getConfigurationWithEndpoint, saveConfiguration, hj]

/-- A saved configuration is one that was there, with the same identity. -/
theorem row_saveConfiguration (hc : db.vpnConfigurations[id]? = some c)
    (hid : c'.identity = c.identity) {j : ℕ} {d : VpnConfiguration}
    (hd : (db.saveConfiguration id c').vpnConfigurations[j]? = some d) :
    ∃ d₀, db.vpnConfigurations[j]? = some d₀ ∧ d.identity = d₀.identity := by
  have hj := congrFun (Table.getElem?_set (a := c') hc) j
  change (db.vpnConfigurations.set id c')[j]? = some d at hd
  by_cases hji : j = id
  · subst hji
    simp only [Function.update_self] at hj
    rw [hj] at hd
    cases hd
    exact ⟨c, hc, hid⟩
  · simp only [Function.update_of_ne hji] at hj
    exact ⟨d, hj ▸ hd, rfl⟩

theorem Wrote.saveConfiguration (h : db.Wrote id a db₁) (c' : VpnConfiguration)
    (hc : db₁.vpnConfigurations[id]? = some c) (hid : c'.identity = c.identity) :
    db.Wrote id { a with
        status := c'.status, desired := c'.desiredState, generation := c'.generation }
      (db₁.saveConfiguration id c') := by
  have hw := h.wellFormed
  have ho := owner_saveConfiguration hc hid
  refine h.then ⟨⟨fun j d hd => ?_, fun j d hd => ?_, fun i j d d' hd hd' hu => ?_, ?_, ?_, ?_⟩,
    rfl, ⟨fun j o hj => by rwa [ho], .refl, .refl, .refl⟩, ?_⟩
  · obtain ⟨d₀, hd₀, hi⟩ := row_saveConfiguration hc hid hd
    simp only [VpnConfiguration.identity, Prod.mk.injEq] at hi
    rw [hi.2.1]
    exact hw.endpoint j d₀ hd₀
  · obtain ⟨d₀, hd₀, hi⟩ := row_saveConfiguration hc hid hd
    simp only [VpnConfiguration.identity, Prod.mk.injEq] at hi
    rw [hi.1]
    exact hw.subscription j d₀ hd₀
  · obtain ⟨d₀, hd₀, hi⟩ := row_saveConfiguration hc hid hd
    obtain ⟨d₁, hd₁, hi'⟩ := row_saveConfiguration hc hid hd'
    simp only [VpnConfiguration.identity, Prod.mk.injEq] at hi hi'
    exact hw.clientUuid i j d₀ d₁ hd₀ hd₁ (hi.2.2.symm.trans (hu.trans hi'.2.2))
  · rw [ho]
    exact hw.nodeTasks
  · rw [ho]
    exact hw.panelProvisionTasks
  · rw [ho]
    exact hw.panelRevokeTasks
  · simp only [VpnConfiguration.identity, Prod.mk.injEq] at hid
    obtain ⟨c₀, e, hc₀, he, rfl⟩ := fleet_eq_some.1 h.aggregate
    obtain rfl := Option.some.inj (hc.symm.trans hc₀)
    funext j
    have hj := congrFun (Table.getElem?_set (a := c') hc) j
    by_cases hji : j = id
    · subst hji
      rw [Function.update_self] at hj ⊢
      refine fleet_eq_some.2 ⟨c', e, hj, by rw [hid.2.1]; exact he, ?_⟩
      simp only [aggregateOf, hid]
      rfl
    · rw [Function.update_of_ne hji] at hj ⊢
      change Option.map _ (Database.getConfigurationWithEndpoint _ j) = _
      simp only [Database.fleet, getConfigurationWithEndpoint, Database.saveConfiguration, hj]
      rfl

/-- A saved configuration in which only the status matters to the lifecycle. -/
theorem Wrote.saveStatus (h : db.Wrote id a db₁) (c' : VpnConfiguration)
    (hc : db₁.vpnConfigurations[id]? = some c) (hid : c'.identity = c.identity)
    (hd : c'.desiredState = c.desiredState) (hg : c'.generation = c.generation) :
    db.Wrote id (a.setStatus c'.status) (db₁.saveConfiguration id c') := by
  have hw := h.saveConfiguration c' hc hid
  obtain ⟨c₀, e, hc₀, -, rfl⟩ := fleet_eq_some.1 h.aggregate
  obtain rfl := Option.some.inj (hc.symm.trans hc₀)
  rwa [hd, hg] at hw

theorem Wrote.saveRevoking (h : db.Wrote id a db₁) (c' : VpnConfiguration)
    (hc : db₁.vpnConfigurations[id]? = some c) (hid : c'.identity = c.identity)
    (hs : c'.status = .revoking) (hd : c'.desiredState = .revoked)
    (hg : c'.generation = c.generation + 1) :
    db.Wrote id a.requestRevoke (db₁.saveConfiguration id c') := by
  have hw := h.saveConfiguration c' hc hid
  obtain ⟨c₀, e, hc₀, -, rfl⟩ := fleet_eq_some.1 h.aggregate
  obtain rfl := Option.some.inj (hc.symm.trans hc₀)
  rwa [hs, hd, hg] at hw

end Database

end ShopBot
