import ShopBot.Lifecycle.Fleet
import ShopBot.UseCases.Settings

/-! # Configurations as a fleet

The lifecycle that a database shows: each configuration joined with its endpoint, and
the tasks of the three ledgers that carry its identifier. A well formed database holds
tasks that fit the configuration they name, and its rows keep their identities.
-/

namespace ShopBot

open Lifecycle

/-- A task by its ledger and its identifier. -/
inductive TaskRef where
  | node (id : ℕ)

  | panelProvision (id : ℕ)

  | panelRevoke (id : ℕ)
deriving DecidableEq, Repr

def ServerEndpoint.route (e : ServerEndpoint) : Route :=
  if e.nodeId.isSome then .node else .panel

/-- The operation of the lifecycle, as node tasks name it. -/
def nodeOperation : Operation → NodeTaskOperation
  | .provision => .provisionClient
  | .revoke => .revokeClient

/-- The configuration of a node task, and what its lifecycle sees of the task. -/
def NodeTask.lifecycle (t : NodeTask) : Option (ℕ × Lifecycle.Task) :=
  match t.operation, t.vpnConfigurationId, t.vpnGeneration with
  | .provisionClient, some id, some generation => some (id, ⟨.provision, generation, t.status⟩)
  | .revokeClient, some id, some generation => some (id, ⟨.revoke, generation, t.status⟩)
  | _, _, _ => none

/-- What never changes about a configuration. -/
structure Owner where
  subscriptionId : ℕ
  nodeId : Option ℕ
  clientUuid : Uuid
deriving DecidableEq, Repr

/-- The columns of a node task that no worker writes. -/
def NodeTask.identity (t : NodeTask) :=
  (t.taskUuid, t.nodeId, t.operation, t.idempotencyKey, t.payload, t.vpnConfigurationId,
    t.subscriptionId, t.vpnGeneration)

def PanelProvisionTask.identity (t : PanelProvisionTask) :=
  (t.vpnConfigurationId, t.subscriptionId, t.idempotencyKey, t.payload, t.vpnGeneration)

def PanelRevokeTask.identity (t : PanelRevokeTask) :=
  (t.taskUuid, t.vpnConfigurationId, t.subscriptionId, t.vpnGeneration, t.idempotencyKey,
    t.payload)

/-- The key of a node task names its operation, configuration, generation and uuid. -/
def NodeTask.HasKey (t : NodeTask) (id generation : ℕ) : Prop :=
  (t.operation = .provisionClient ∧ t.idempotencyKey = .provision id generation t.taskUuid) ∨
    (t.operation = .revokeClient ∧ t.idempotencyKey = .revoke id generation t.taskUuid)

/-- A node task works for a configuration on its own node. -/
def NodeTask.Fits (t : NodeTask) (owner : ℕ → Option Owner) : Prop :=
  ∃ id generation o, t.vpnConfigurationId = some id ∧ t.vpnGeneration = some generation ∧
    owner id = some o ∧ o.nodeId = some t.nodeId ∧ t.subscriptionId = some o.subscriptionId ∧
    t.payload.clientUuid = o.clientUuid ∧ t.payload.idempotencyKey = t.idempotencyKey ∧
    t.HasKey id generation

def PanelProvisionTask.Fits (t : PanelProvisionTask) (owner : ℕ → Option Owner) : Prop :=
  ∃ o, owner t.vpnConfigurationId = some o ∧ o.nodeId = none ∧
    t.subscriptionId = o.subscriptionId ∧ t.payload.clientUuid = o.clientUuid ∧
    t.idempotencyKey = .panelProvision t.vpnConfigurationId

def PanelRevokeTask.Fits (t : PanelRevokeTask) (owner : ℕ → Option Owner) : Prop :=
  ∃ o, owner t.vpnConfigurationId = some o ∧ o.nodeId = none ∧
    t.subscriptionId = o.subscriptionId ∧ t.payload.clientUuid = o.clientUuid ∧
    t.idempotencyKey = .panelRevoke t.vpnConfigurationId t.vpnGeneration t.taskUuid

section Tasks

variable {t t' : NodeTask} {p p' : PanelProvisionTask} {q q' : PanelRevokeTask}
  {owner : ℕ → Option Owner} {id generation : ℕ} {op : Operation}

theorem NodeTask.lifecycle_eq (hid : t.vpnConfigurationId = some id)
    (hg : t.vpnGeneration = some generation) (hop : t.operation = nodeOperation op) :
    t.lifecycle = some (id, ⟨op, generation, t.status⟩) := by
  unfold NodeTask.lifecycle
  rw [hop, hid, hg]
  cases op <;> rfl

theorem NodeTask.Fits.congr (h : t.Fits owner)
    (hid : t'.identity = t.identity) : t'.Fits owner := by
  simp only [NodeTask.identity, Prod.mk.injEq] at hid
  obtain ⟨h₁, h₂, h₃, h₄, h₅, h₆, h₇, h₈⟩ := hid
  unfold NodeTask.Fits NodeTask.HasKey at h ⊢
  rwa [h₁, h₂, h₃, h₄, h₅, h₆, h₇, h₈]

theorem PanelProvisionTask.Fits.congr (h : p.Fits owner)
    (hid : p'.identity = p.identity) : p'.Fits owner := by
  simp only [PanelProvisionTask.identity, Prod.mk.injEq] at hid
  obtain ⟨h₁, h₂, h₃, h₄, -⟩ := hid
  unfold PanelProvisionTask.Fits at h ⊢
  rwa [h₁, h₂, h₃, h₄]

theorem PanelRevokeTask.Fits.congr (h : q.Fits owner)
    (hid : q'.identity = q.identity) : q'.Fits owner := by
  simp only [PanelRevokeTask.identity, Prod.mk.injEq] at hid
  obtain ⟨h₁, h₂, h₃, h₄, h₅, h₆⟩ := hid
  unfold PanelRevokeTask.Fits at h ⊢
  rwa [h₁, h₂, h₃, h₄, h₅, h₆]

end Tasks

namespace Database

/-! ## The abstraction -/

def taskAt (db : Database) : TaskRef → Option (ℕ × Lifecycle.Task)
  | .node k => (db.nodeTasks[k]?).bind (·.lifecycle)
  | .panelProvision k => (db.panelProvisionTasks[k]?).map fun t =>
      (t.vpnConfigurationId, ⟨.provision, t.vpnGeneration, t.status⟩)
  | .panelRevoke k => (db.panelRevokeTasks[k]?).map fun t =>
      (t.vpnConfigurationId, ⟨.revoke, t.vpnGeneration, t.status⟩)

/-- The tasks of one configuration. -/
def taskOf (db : Database) (id : ℕ) (r : TaskRef) : Option Lifecycle.Task :=
  (db.taskAt r).bind fun p => if p.1 = id then some p.2 else none

def aggregateOf (db : Database) (id : ℕ) (c : VpnConfiguration) (e : ServerEndpoint) :
    Aggregate ℕ TaskRef where
  subscription := c.subscriptionId
  route := e.route
  status := c.status
  desired := c.desiredState
  generation := c.generation
  task := db.taskOf id

def fleet (db : Database) : Fleet ℕ TaskRef := fun id =>
  (db.getConfigurationWithEndpoint id).map fun row => db.aggregateOf id row.1 row.2

def owner (db : Database) (id : ℕ) : Option Owner :=
  (db.getConfigurationWithEndpoint id).map fun row =>
    ⟨row.1.subscriptionId, row.2.nodeId, row.1.clientUuid⟩

/-- The tables that no transaction on configurations writes. -/
def billing (db : Database) : Database :=
  { db with
    vpnConfigurations := []
    nodeTasks := []
    nodeTaskAttempts := []
    panelProvisionTasks := []
    panelRevokeTasks := []
    auditEvents := [] }

/-- Foreign keys and the identities of tasks. -/
structure WellFormed (db : Database) : Prop where
  endpoint : ∀ (id : ℕ) (c : VpnConfiguration), db.vpnConfigurations[id]? = some c →
    ∃ e, db.serverEndpoints[c.serverEndpointId]? = some e
  subscription : ∀ (id : ℕ) (c : VpnConfiguration), db.vpnConfigurations[id]? = some c →
    c.subscriptionId < db.subscriptions.length
  clientUuid : ∀ (i j : ℕ) (c d : VpnConfiguration), db.vpnConfigurations[i]? = some c →
    db.vpnConfigurations[j]? = some d → c.clientUuid = d.clientUuid → i = j
  nodeTasks : ∀ t ∈ db.nodeTasks, t.Fits db.owner
  panelProvisionTasks : ∀ t ∈ db.panelProvisionTasks, t.Fits db.owner
  panelRevokeTasks : ∀ t ∈ db.panelRevokeTasks, t.Fits db.owner

/-- Configurations keep their owners, and the tasks of the ledgers their identities. -/
structure Keeps (db db' : Database) : Prop where
  owner : ∀ (j : ℕ) (o : Owner), db.owner j = some o → db'.owner j = some o
  nodeTasks : Table.Keeps NodeTask.identity db.nodeTasks db'.nodeTasks
  panelProvisionTasks :
    Table.Keeps PanelProvisionTask.identity db.panelProvisionTasks db'.panelProvisionTasks
  panelRevokeTasks : Table.Keeps PanelRevokeTask.identity db.panelRevokeTasks db'.panelRevokeTasks

theorem Keeps.refl (db : Database) : db.Keeps db := ⟨fun _ _ h => h, .refl, .refl, .refl⟩

theorem Keeps.trans {db db₁ db₂ : Database} (h : db.Keeps db₁) (h' : db₁.Keeps db₂) :
    db.Keeps db₂ :=
  ⟨fun j o ho => h'.owner j o (h.owner j o ho), h.nodeTasks.trans h'.nodeTasks,
    h.panelProvisionTasks.trans h'.panelProvisionTasks,
    h.panelRevokeTasks.trans h'.panelRevokeTasks⟩

variable {db db' : Database} {id k : ℕ} {c c' : VpnConfiguration} {e : ServerEndpoint}
  {a : Aggregate ℕ TaskRef} {r : TaskRef} {o : Owner}

theorem getConfigurationWithEndpoint_eq_some :
    db.getConfigurationWithEndpoint id = some (c, e) ↔
      db.vpnConfigurations[id]? = some c ∧ db.serverEndpoints[c.serverEndpointId]? = some e := by
  simp only [getConfigurationWithEndpoint, bind, Option.bind_eq_some_iff, pure, Option.some.injEq,
    Prod.mk.injEq]
  constructor
  · rintro ⟨c', hc, e', he, rfl, rfl⟩
    exact ⟨hc, he⟩
  · rintro ⟨hc, he⟩
    exact ⟨c, hc, e, he, rfl, rfl⟩

theorem fleet_eq_some : db.fleet id = some a ↔
    ∃ c e, db.vpnConfigurations[id]? = some c ∧
      db.serverEndpoints[c.serverEndpointId]? = some e ∧ a = db.aggregateOf id c e := by
  simp only [fleet, Option.map_eq_some_iff, Prod.exists, getConfigurationWithEndpoint_eq_some]
  constructor
  · rintro ⟨c, e, ⟨hc, he⟩, rfl⟩
    exact ⟨c, e, hc, he, rfl⟩
  · rintro ⟨c, e, hc, he, rfl⟩
    exact ⟨c, e, ⟨hc, he⟩, rfl⟩

theorem owner_eq_some : db.owner id = some o ↔
    ∃ c e, db.vpnConfigurations[id]? = some c ∧
      db.serverEndpoints[c.serverEndpointId]? = some e ∧
      o = ⟨c.subscriptionId, e.nodeId, c.clientUuid⟩ := by
  simp only [owner, Option.map_eq_some_iff, Prod.exists, getConfigurationWithEndpoint_eq_some]
  constructor
  · rintro ⟨c, e, ⟨hc, he⟩, rfl⟩
    exact ⟨c, e, hc, he, rfl⟩
  · rintro ⟨c, e, hc, he, rfl⟩
    exact ⟨c, e, ⟨hc, he⟩, rfl⟩

theorem taskOf_eq_some {t : Lifecycle.Task} :
    db.taskOf id r = some t ↔ db.taskAt r = some (id, t) := by
  simp only [taskOf, Option.bind_eq_some_iff, Option.ite_none_right_eq_some, Option.some.injEq,
    Prod.exists]
  constructor
  · rintro ⟨_, _, h, rfl, rfl⟩
    exact h
  · intro h
    exact ⟨id, t, h, rfl, rfl⟩

/-! ## Writing a task -/

theorem taskOf_update {t : Lifecycle.Task}
    (ht : db'.taskAt = Function.update db.taskAt r (some (id, t))) (hr : ∀ p, db.taskAt r = some p → p.1 = id) (j : ℕ) :
    db'.taskOf j = if j = id then Function.update (db.taskOf id) r (some t) else db.taskOf j := by
  funext r'
  unfold taskOf
  rw [ht]
  by_cases h : r' = r
  · subst h
    rw [Function.update_self]
    by_cases hj : j = id
    · subst hj
      simp
    · have hne : ¬ id = j := fun h => hj h.symm
      simp only [Option.bind_some, hne, if_false, hj]
      cases hp : db.taskAt r' with
      | none => rfl
      | some p => simp [hr p hp, hne]
  · rw [Function.update_of_ne h]
    by_cases hj : j = id
    · subst hj
      simp [Function.update_of_ne h]
    · simp [hj]

/-- The fleet after one task of a configuration has been written. -/
theorem fleet_of_taskAt {t : Lifecycle.Task} (hc : db'.vpnConfigurations = db.vpnConfigurations)
    (he : db'.serverEndpoints = db.serverEndpoints)
    (ht : db'.taskAt = Function.update db.taskAt r (some (id, t)))
    (hr : ∀ p, db.taskAt r = some p → p.1 = id) (ha : db.fleet id = some a) :
    db'.fleet = Function.update db.fleet id (some (a.setTask r t)) := by
  have hrow : ∀ j, db'.getConfigurationWithEndpoint j = db.getConfigurationWithEndpoint j := by
    intro j
    unfold getConfigurationWithEndpoint
    rw [hc, he]
  funext j
  by_cases hj : j = id
  · subst hj
    obtain ⟨c, e, h₁, h₂, rfl⟩ := fleet_eq_some.1 ha
    rw [Function.update_self]
    refine fleet_eq_some.2 ⟨c, e, hc ▸ h₁, he ▸ h₂, ?_⟩
    simp [aggregateOf, Aggregate.setTask, taskOf_update ht hr]
  · rw [Function.update_of_ne hj]
    unfold fleet
    rw [hrow]
    simp [aggregateOf, taskOf_update ht hr, hj]

theorem owner_congr (hc : db'.vpnConfigurations = db.vpnConfigurations)
    (he : db'.serverEndpoints = db.serverEndpoints) : db'.owner = db.owner := by
  funext j
  unfold owner getConfigurationWithEndpoint
  rw [hc, he]

end Database

end ShopBot
