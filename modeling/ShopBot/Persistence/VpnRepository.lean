import ShopBot.Persistence.Database

/-! # Repositories of the VPN ledgers

Reads and writes of configurations, node tasks and panel tasks. Inserts that may meet
an existing row return it instead, as `ON CONFLICT DO NOTHING` followed by the lookup.
-/

namespace ShopBot

namespace Database

variable {db db' : Database}

/-! ## Subscriptions and periods -/

/-- The row with the greatest key. -/
def latestBy {α : Type} (key : α → DateTime) : List α → Option α
  | [] => none
  | a :: rest =>
    match latestBy key rest with
    | none => some a
    | some b => if key a < key b then some b else some a

theorem latestBy_isSome {α : Type} {key : α → DateTime} {rows : List α} :
    (latestBy key rows).isSome = !rows.isEmpty := by
  induction rows with
  | nil => rfl
  | cons a rest ih =>
    unfold latestBy
    split
    · rfl
    · split_ifs <;> rfl

theorem latestBy_mem {α : Type} {key : α → DateTime} {rows : List α} {a : α}
    (h : latestBy key rows = some a) : a ∈ rows := by
  induction rows with
  | nil => cases h
  | cons b rest ih =>
    unfold latestBy at h
    split at h
    · exact List.mem_cons.2 (.inl (Option.some.inj h).symm)
    · next c hc =>
      split_ifs at h
      · exact List.mem_cons_of_mem _ (ih (hc.trans h))
      · exact List.mem_cons.2 (.inl (Option.some.inj h).symm)

theorem latestBy_le {α : Type} {key : α → DateTime} {rows : List α} {a b : α}
    (h : latestBy key rows = some a) (hb : b ∈ rows) : key b ≤ key a := by
  induction rows generalizing a with
  | nil => cases hb
  | cons c rest ih =>
    unfold latestBy at h
    split at h
    next hnone =>
      have hempty : rest = [] := by
        have hsome : (latestBy key rest).isSome = !rest.isEmpty := latestBy_isSome
        rw [hnone] at hsome
        simpa using hsome
      subst hempty
      obtain rfl := List.mem_singleton.1 hb
      exact le_of_eq (congrArg key (Option.some.inj h))
    next d hd =>
      rcases List.mem_cons.1 hb with rfl | hb
      · split_ifs at h with hlt
        · cases h
          exact hlt.le
        · cases h
          exact le_rfl
      · have hle := ih hd hb
        split_ifs at h with hlt
        · cases h
          exact hle
        · cases h
          exact hle.trans (not_lt.1 hlt)

def getSubscription (db : Database) (subscriptionId : ℕ) : Option Subscription :=
  db.subscriptions[subscriptionId]?

def getCurrentPeriod (db : Database) (subscriptionId : ℕ) (now : DateTime) :
    Option SubscriptionPeriod :=
  latestBy (·.expiresAt) (db.subscriptionPeriods.filter fun p =>
    p.subscriptionId = some subscriptionId && p.isPaid && p.startsAt ≤ now && now < p.expiresAt)

theorem getCurrentPeriod_isSome {subscriptionId : ℕ} {now : DateTime} :
    (db.getCurrentPeriod subscriptionId now).isSome = true ↔ ∃ p ∈ db.subscriptionPeriods,
      p.subscriptionId = some subscriptionId ∧ p.contains now = true := by
  unfold getCurrentPeriod
  rw [latestBy_isSome, Bool.not_eq_true', List.isEmpty_eq_false_iff, Ne, List.filter_eq_nil_iff]
  simp only [not_forall, not_not, exists_prop, Bool.and_eq_true, decide_eq_true_eq,
    SubscriptionPeriod.contains_iff, and_assoc]

/-! ## Configurations -/

def getConfiguration (db : Database) (id : ℕ) : Option VpnConfiguration :=
  db.vpnConfigurations[id]?

/-- `get_configuration_with_endpoint`: the row joined with its endpoint. -/
def getConfigurationWithEndpoint (db : Database) (id : ℕ) :
    Option (VpnConfiguration × ServerEndpoint) := do
  let configuration ← db.vpnConfigurations[id]?
  let endpoint ← db.serverEndpoints[configuration.serverEndpointId]?
  return (configuration, endpoint)

def getActiveForSubscription (db : Database) (subscriptionId : ℕ) :
    Option (VpnConfiguration × ℕ) :=
  Table.firstWhere (fun c => c.subscriptionId = subscriptionId && c.status = .active)
    db.vpnConfigurations

def getLatestForSubscription (db : Database) (subscriptionId : ℕ) :
    Option (VpnConfiguration × ℕ) :=
  Table.lastWhere (fun c => c.subscriptionId = subscriptionId) db.vpnConfigurations

def saveConfiguration (db : Database) (id : ℕ) (c : VpnConfiguration) : Database :=
  { db with vpnConfigurations := db.vpnConfigurations.set id c }

/-- `add_entity`; `client_uuid` is unique. -/
def addConfiguration (db : Database) (c : VpnConfiguration) : Except Error (ℕ × Database) :=
  if db.vpnConfigurations.any (·.clientUuid = c.clientUuid) then
    .error (.integrity "uq_vpn_configurations_client_uuid")
  else
    .ok (db.vpnConfigurations.length,
      { db with vpnConfigurations := db.vpnConfigurations ++ [c] })

/-! ## Node tasks -/

def getNodeTask (db : Database) (id : ℕ) : Option NodeTask := db.nodeTasks[id]?

def isVpnTask (vpnConfigurationId : ℕ) (operation : NodeTaskOperation) (generation : ℕ)
    (t : NodeTask) : Bool :=
  t.vpnConfigurationId = some vpnConfigurationId && t.operation = operation &&
    t.vpnGeneration = some generation

def getVpnTaskForGeneration (db : Database) (vpnConfigurationId : ℕ)
    (operation : NodeTaskOperation) (generation : ℕ) : Option (NodeTask × ℕ) :=
  Table.lastWhere (isVpnTask vpnConfigurationId operation generation) db.nodeTasks

/-- Rows that violate a unique index together: the task, its key, or the physical
operation; a null configuration or generation violates nothing. -/
def nodeTaskConflict (t u : NodeTask) : Bool :=
  u.taskUuid = t.taskUuid || u.idempotencyKey = t.idempotencyKey ||
    (t.vpnConfigurationId.isSome && t.vpnGeneration.isSome &&
      u.vpnConfigurationId = t.vpnConfigurationId && u.operation = t.operation &&
      u.vpnGeneration = t.vpnGeneration)

/-- `add_task_entity`: the inserted row, or the row the insert conflicted with. -/
def addNodeTask (db : Database) (t : NodeTask) : Except Error (NodeTask × ℕ × Database) :=
  if db.nodeTasks.any (nodeTaskConflict t) then
    match Table.firstWhere (fun u => u.idempotencyKey = t.idempotencyKey) db.nodeTasks with
    | some (u, id) => .ok (u, id, db)
    | none =>
      match t.vpnConfigurationId, t.vpnGeneration with
      | some configurationId, some generation =>
        match db.getVpnTaskForGeneration configurationId t.operation generation with
        | some (u, id) => .ok (u, id, db)
        | none => .error (.runtime "Failed to create node task")
      | _, _ => .error (.runtime "Failed to create node task")
  else
    .ok (t, db.nodeTasks.length, { db with nodeTasks := db.nodeTasks ++ [t] })

def saveNodeTask (db : Database) (id : ℕ) (t : NodeTask) : Database :=
  { db with nodeTasks := db.nodeTasks.set id t }

/-- `create_task_attempt`; the pair of task and attempt number is unique. -/
def createTaskAttempt (db : Database) (a : NodeTaskAttempt) : Except Error (ℕ × Database) :=
  if db.nodeTaskAttempts.any fun b => b.nodeTaskId = a.nodeTaskId && b.attemptNo = a.attemptNo then
    .error (.integrity "uq_node_task_attempts_node_task_attempt_no")
  else
    .ok (db.nodeTaskAttempts.length, { db with nodeTaskAttempts := db.nodeTaskAttempts ++ [a] })

def finishTaskAttempt (db : Database) (id : ℕ) (status : NodeTaskAttemptStatus)
    (finishedAt : DateTime) (responsePayload : Option NodeResponse)
    (errorMessage : Option String) : Database :=
  { db with nodeTaskAttempts := db.nodeTaskAttempts.modify id fun a => { a with
      status := status
      finishedAt := some finishedAt
      errorMessage := errorMessage
      responsePayload := responsePayload.orElse fun _ => a.responsePayload } }

def failStartedTaskAttempt (db : Database) (nodeTaskId attemptNo : ℕ) (finishedAt : DateTime)
    (errorMessage : String) : Database :=
  { db with nodeTaskAttempts := db.nodeTaskAttempts.map fun a =>
      if a.nodeTaskId = nodeTaskId && a.attemptNo = attemptNo && a.status = .started &&
          a.finishedAt.isNone then
        { a with
          status := .failed
          finishedAt := some finishedAt
          errorMessage := some errorMessage }
      else a }

/-- Positions of the rows a stale-lease query returns: those not locked by another
transaction, ordered by the end of their lease, at most `limit` of them. -/
def staleIds (rows : List DurableTask) (now : DateTime) (locked : List ℕ) (limit : ℕ) : List ℕ :=
  let stale := (Table.select (·.leaseIsExpired now) rows).filter fun r => r.2 ∉ locked
  ((stale.insertionSort fun r s => r.1.leaseExpiresAt.getD now ≤ s.1.leaseExpiresAt.getD now).take
    limit).map (·.2)

/-! ## Panel tasks -/

section Panel

variable (mapper : RowMapper)

def mapPanelProvisionTask (row : PanelProvisionTask × ℕ) :
    Except Error (PanelProvisionTask × ℕ) := do
  let t ← mapper.panelProvisionTaskFromRow row.1
  return (t, row.2)

def getPanelProvisionTask (db : Database) (id : ℕ) : Except Error (Option PanelProvisionTask) :=
  match db.panelProvisionTasks[id]? with
  | none => .ok none
  | some row => (mapper.panelProvisionTaskFromRow row).map some

def getPanelTaskForConfiguration (db : Database) (vpnConfigurationId : ℕ) :
    Except Error (Option (PanelProvisionTask × ℕ)) :=
  match Table.firstWhere (fun t => t.vpnConfigurationId = vpnConfigurationId)
      db.panelProvisionTasks with
  | none => .ok none
  | some row => (mapPanelProvisionTask mapper row).map some

/-- `add_panel_task_entity`: one provision task for each configuration. -/
def addPanelProvisionTask (db : Database) (t : PanelProvisionTask) :
    Except Error (PanelProvisionTask × ℕ × Database) :=
  if db.panelProvisionTasks.any fun u => u.vpnConfigurationId = t.vpnConfigurationId then do
    match ← db.getPanelTaskForConfiguration mapper t.vpnConfigurationId with
    | some (u, id) => .ok (u, id, db)
    | none => .error (.runtime "Failed to persist panel provision task")
  else if db.panelProvisionTasks.any fun u => u.idempotencyKey = t.idempotencyKey then
    .error (.integrity "uq_panel_provision_tasks_idempotency_key")
  else do
    let (u, id) ← mapPanelProvisionTask mapper (t, db.panelProvisionTasks.length)
    .ok (u, id, { db with panelProvisionTasks := db.panelProvisionTasks ++ [t] })

end Panel

def savePanelProvisionTask (db : Database) (id : ℕ) (t : PanelProvisionTask) : Database :=
  { db with panelProvisionTasks := db.panelProvisionTasks.set id t }

def getPanelRevokeTask (db : Database) (id : ℕ) : Option PanelRevokeTask :=
  db.panelRevokeTasks[id]?

def getPanelRevokeTaskForGeneration (db : Database) (vpnConfigurationId generation : ℕ) :
    Option (PanelRevokeTask × ℕ) :=
  Table.lastWhere
    (fun t => t.vpnConfigurationId = vpnConfigurationId && t.vpnGeneration = generation)
    db.panelRevokeTasks

/-- `add_panel_revoke_task_entity`: one revoke task for each generation. -/
def addPanelRevokeTask (db : Database) (t : PanelRevokeTask) :
    Except Error (PanelRevokeTask × ℕ × Database) :=
  if db.panelRevokeTasks.any fun u =>
      u.vpnConfigurationId = t.vpnConfigurationId && u.vpnGeneration = t.vpnGeneration then
    match db.getPanelRevokeTaskForGeneration t.vpnConfigurationId t.vpnGeneration with
    | some (u, id) => .ok (u, id, db)
    | none => .error (.runtime "Failed to persist panel revoke task")
  else if db.panelRevokeTasks.any fun u => u.taskUuid = t.taskUuid then
    .error (.integrity "uq_panel_revoke_tasks_task_uuid")
  else if db.panelRevokeTasks.any fun u => u.idempotencyKey = t.idempotencyKey then
    .error (.integrity "uq_panel_revoke_tasks_idempotency_key")
  else
    .ok (t, db.panelRevokeTasks.length, { db with panelRevokeTasks := db.panelRevokeTasks ++ [t] })

def savePanelRevokeTask (db : Database) (id : ℕ) (t : PanelRevokeTask) : Database :=
  { db with panelRevokeTasks := db.panelRevokeTasks.set id t }

/-! ## What an insert may do -/

theorem createTaskAttempt_ok {a : NodeTaskAttempt} {id : ℕ}
    (h : db.createTaskAttempt a = .ok (id, db')) :
    ∃ rows, db' = { db with nodeTaskAttempts := rows } := by
  unfold createTaskAttempt at h
  split_ifs at h
  cases h
  exact ⟨_, rfl⟩

theorem addNodeTask_ok {t u : NodeTask} {k : ℕ} (h : db.addNodeTask t = .ok (u, k, db')) :
    (db' = { db with nodeTasks := db.nodeTasks ++ [t] } ∧ u = t ∧ k = db.nodeTasks.length ∧
      ∀ v ∈ db.nodeTasks, nodeTaskConflict t v = false) ∨
    (db' = db ∧ db.nodeTasks[k]? = some u ∧ (u.idempotencyKey = t.idempotencyKey ∨
      (u.vpnConfigurationId = t.vpnConfigurationId ∧ u.operation = t.operation ∧
        u.vpnGeneration = t.vpnGeneration))) := by
  unfold addNodeTask at h
  split at h
  · right
    split at h
    next v j hv =>
      obtain ⟨rfl, rfl, rfl⟩ : v = u ∧ j = k ∧ db = db' := by simpa using h
      obtain ⟨hrow, hkey⟩ := Table.firstWhere_some hv
      exact ⟨rfl, hrow, .inl (by simpa using hkey)⟩
    next =>
      split at h
      next id generation hid hgen =>
        split at h
        next v j hv =>
          obtain ⟨rfl, rfl, rfl⟩ : v = u ∧ j = k ∧ db = db' := by simpa using h
          obtain ⟨hrow, hp, -⟩ := Table.lastWhere_some hv
          simp only [isVpnTask, Bool.and_eq_true, decide_eq_true_eq] at hp
          exact ⟨rfl, hrow, .inr ⟨hp.1.1.trans hid.symm, hp.1.2, hp.2.trans hgen.symm⟩⟩
        next => cases h
      next => cases h
  next hconflict =>
    obtain ⟨rfl, rfl, rfl⟩ : t = u ∧ db.nodeTasks.length = k ∧ _ = db' := by simpa using h
    refine .inl ⟨rfl, rfl, rfl, fun v hv => ?_⟩
    by_contra hc
    exact hconflict (List.any_eq_true.2 ⟨v, hv, by simpa using hc⟩)

theorem addNodeTask_of_free {t : NodeTask} (h : ∀ v ∈ db.nodeTasks, nodeTaskConflict t v = false) :
    db.addNodeTask t =
      .ok (t, db.nodeTasks.length, { db with nodeTasks := db.nodeTasks ++ [t] }) := by
  unfold addNodeTask
  rw [if_neg]
  intro hc
  obtain ⟨v, hv, hcv⟩ := List.any_eq_true.1 hc
  simp [h v hv] at hcv

theorem addPanelRevokeTask_ok {t u : PanelRevokeTask} {k : ℕ}
    (h : db.addPanelRevokeTask t = .ok (u, k, db')) :
    (db' = { db with panelRevokeTasks := db.panelRevokeTasks ++ [t] } ∧ u = t ∧
      k = db.panelRevokeTasks.length ∧ ∀ v ∈ db.panelRevokeTasks,
        ¬ (v.vpnConfigurationId = t.vpnConfigurationId ∧ v.vpnGeneration = t.vpnGeneration)) ∨
    (db' = db ∧ db.panelRevokeTasks[k]? = some u ∧
      u.vpnConfigurationId = t.vpnConfigurationId ∧ u.vpnGeneration = t.vpnGeneration) := by
  unfold addPanelRevokeTask at h
  split at h
  · right
    split at h
    next v j hv =>
      obtain ⟨rfl, rfl, rfl⟩ : v = u ∧ j = k ∧ db = db' := by simpa using h
      obtain ⟨hrow, hp, -⟩ := Table.lastWhere_some hv
      exact ⟨rfl, hrow, by simpa using hp⟩
    next => cases h
  next hconflict =>
    split_ifs at h
    obtain ⟨rfl, rfl, rfl⟩ : t = u ∧ db.panelRevokeTasks.length = k ∧ _ = db' := by simpa using h
    refine .inl ⟨rfl, rfl, rfl, fun v hv hc => ?_⟩
    exact hconflict (List.any_eq_true.2 ⟨v, hv, by simpa using hc⟩)

theorem addPanelRevokeTask_of_free {t : PanelRevokeTask}
    (h₁ : ∀ v ∈ db.panelRevokeTasks,
      ¬ (v.vpnConfigurationId = t.vpnConfigurationId ∧ v.vpnGeneration = t.vpnGeneration))
    (h₂ : ∀ v ∈ db.panelRevokeTasks, v.taskUuid ≠ t.taskUuid)
    (h₃ : ∀ v ∈ db.panelRevokeTasks, v.idempotencyKey ≠ t.idempotencyKey) :
    db.addPanelRevokeTask t = .ok (t, db.panelRevokeTasks.length,
      { db with panelRevokeTasks := db.panelRevokeTasks ++ [t] }) := by
  have any_false : ∀ p : PanelRevokeTask → Bool, (∀ v ∈ db.panelRevokeTasks, p v = false) →
      db.panelRevokeTasks.any p = false := fun p hp => List.any_eq_false.2 fun v hv => by
    simp [hp v hv]
  unfold addPanelRevokeTask
  rw [any_false _ fun v hv => by simpa using h₁ v hv, any_false _ fun v hv => by simpa using h₂ v hv,
    any_false _ fun v hv => by simpa using h₃ v hv]
  rfl

theorem getPanelProvisionTask_ok {mapper : RowMapper} {t : PanelProvisionTask} {k : ℕ}
    (h : db.getPanelProvisionTask mapper k = .ok (some t)) :
    mapper = .storedFields ∧ db.panelProvisionTasks[k]? = some t := by
  unfold getPanelProvisionTask at h
  split at h
  next => cases h
  next row hrow =>
    cases hm : mapper.panelProvisionTaskFromRow row with
    | error e => rw [hm] at h; cases h
    | ok v =>
      rw [hm] at h
      cases h
      obtain ⟨rfl, rfl⟩ := RowMapper.fromRow_eq_ok hm
      exact ⟨rfl, hrow⟩

theorem getPanelTaskForConfiguration_ok {mapper : RowMapper} {t : PanelProvisionTask} {id k : ℕ}
    (h : db.getPanelTaskForConfiguration mapper id = .ok (some (t, k))) :
    mapper = .storedFields ∧ db.panelProvisionTasks[k]? = some t ∧ t.vpnConfigurationId = id := by
  unfold getPanelTaskForConfiguration at h
  split at h
  next => cases h
  next row hrow =>
    cases hm : mapPanelProvisionTask mapper row with
    | error e => rw [hm] at h; cases h
    | ok v =>
      rw [hm] at h
      obtain rfl : v = (t, k) := by simpa [Except.map] using h
      obtain ⟨w, hw, hv⟩ := bind_eq_ok.1 hm
      obtain ⟨rfl, rfl⟩ := RowMapper.fromRow_eq_ok hw
      obtain rfl : row = (t, k) := by simpa [pure, Except.pure] using hv
      obtain ⟨h₁, h₂⟩ := Table.firstWhere_some hrow
      exact ⟨rfl, h₁, by simpa using h₂⟩

theorem addPanelProvisionTask_ok {mapper : RowMapper} {t u : PanelProvisionTask} {k : ℕ}
    (h : db.addPanelProvisionTask mapper t = .ok (u, k, db')) :
    mapper = .storedFields ∧
    ((db' = { db with panelProvisionTasks := db.panelProvisionTasks ++ [t] } ∧ u = t ∧
      k = db.panelProvisionTasks.length ∧
      ∀ v ∈ db.panelProvisionTasks, v.vpnConfigurationId ≠ t.vpnConfigurationId) ∨
    (db' = db ∧ db.panelProvisionTasks[k]? = some u ∧
      u.vpnConfigurationId = t.vpnConfigurationId)) := by
  unfold addPanelProvisionTask at h
  split_ifs at h with hconflict hkey
  · obtain ⟨found, hfound, hfound'⟩ := bind_eq_ok.1 h
    cases found with
    | none => cases hfound'
    | some row =>
      obtain ⟨rfl, h₁, h₂⟩ := getPanelTaskForConfiguration_ok hfound
      obtain ⟨rfl, rfl, rfl⟩ : row.1 = u ∧ row.2 = k ∧ db = db' := by simpa using hfound'
      exact ⟨rfl, .inr ⟨rfl, h₁, h₂⟩⟩
  · obtain ⟨v, hv, h⟩ := bind_eq_ok.1 h
    obtain ⟨w, hw, hv⟩ := bind_eq_ok.1 hv
    obtain ⟨rfl, rfl⟩ := RowMapper.fromRow_eq_ok hw
    cases hv
    obtain ⟨rfl, rfl, rfl⟩ : w = u ∧ db.panelProvisionTasks.length = k ∧ _ = db' := by
      simpa using h
    refine ⟨rfl, .inl ⟨rfl, rfl, rfl, fun v hv hc => ?_⟩⟩
    exact hconflict (List.any_eq_true.2 ⟨v, hv, by simpa using hc⟩)

theorem addPanelProvisionTask_of_free {t : PanelProvisionTask}
    (h₁ : ∀ v ∈ db.panelProvisionTasks, v.vpnConfigurationId ≠ t.vpnConfigurationId)
    (h₂ : ∀ v ∈ db.panelProvisionTasks, v.idempotencyKey ≠ t.idempotencyKey) :
    db.addPanelProvisionTask .storedFields t = .ok (t, db.panelProvisionTasks.length,
      { db with panelProvisionTasks := db.panelProvisionTasks ++ [t] }) := by
  have hid : (db.panelProvisionTasks.any fun v => v.vpnConfigurationId = t.vpnConfigurationId) =
      false := List.any_eq_false.2 fun v hv => by simpa using h₁ v hv
  have hkey : (db.panelProvisionTasks.any fun v => v.idempotencyKey = t.idempotencyKey) =
      false := List.any_eq_false.2 fun v hv => by simpa using h₂ v hv
  unfold addPanelProvisionTask mapPanelProvisionTask
  rw [hid, hkey]
  simp only [RowMapper.storedFields_fromRow]
  rfl

/-! ## Audit -/

def appendAudit (db : Database) (eventName : AuditEventName)
    (aggregateType : AuditAggregateType) (aggregateId : ℕ) : Database :=
  { db with auditEvents := db.auditEvents ++
      [{ eventName := eventName, aggregateType := aggregateType, aggregateId := aggregateId }] }

end Database

end ShopBot
