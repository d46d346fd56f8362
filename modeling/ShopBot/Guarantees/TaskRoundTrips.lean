import ShopBot.Persistence.TaskRows

/-! # Round trips of task rows

A row survives when it is mapped and its entity is saved unmodified; an entity returns when it
is saved and its row is mapped. A node task that was retired from the journal does not survive,
and no row of the panel provision ledger is mapped at all.
-/

namespace ShopBot

theorem TaskStatus.text_injective : Function.Injective TaskStatus.text := by
  intro a b h
  cases a <;> cases b <;> first | rfl | simp [text] at h

theorem TaskStatus.mem_values (s : TaskStatus) : s ∈ TaskStatus.values := by
  cases s <;> decide

theorem NodeTaskOperation.text_injective : Function.Injective NodeTaskOperation.text := by
  intro a b h
  cases a <;> cases b <;> first | rfl | simp [text] at h

theorem NodeTaskOperation.mem_values (o : NodeTaskOperation) : o ∈ NodeTaskOperation.values := by
  cases o <;> decide

variable {Dict Other : Type} {docs : Documents Dict Other}

/-! ## Shared columns -/

/-- The fields hold the values of the columns, apart from the payload. -/
structure TaskFields.Same {J : Type} (f : TaskFields Dict) (c : TaskColumns J) : Prop where
  status : f.status.text = c.status
  idempotencyKey : f.idempotencyKey = c.idempotencyKey
  attempts : f.attempts = c.attempts
  maxAttempts : f.maxAttempts = c.maxAttempts
  nextRetryAt : f.nextRetryAt = some c.nextRetryAt
  lastError : f.lastError = c.lastError
  claimedAt : f.claimedAt = c.claimedAt
  leaseExpiresAt : f.leaseExpiresAt = c.leaseExpiresAt
  leaseToken : f.leaseToken = c.leaseToken
  createdAt : f.createdAt = some c.createdAt
  updatedAt : f.updatedAt = some c.updatedAt
  completedAt : f.completedAt = c.completedAt

section Columns

variable {c c' : TaskColumns (JsonValue Dict Other)} {f : TaskFields Dict} {className : String}
  {updatedAt : Option DateTime}

theorem ofColumns_eq_ok : TaskFields.ofColumns docs className c = .ok f ↔
    docs.payload c.payload = .ok f.payload ∧ f.Same c := by
  simp only [TaskFields.ofColumns, bind_eq_ok, pure, Except.pure, Except.ok.injEq]
  constructor
  · rintro ⟨payload, hpayload, status, hstatus, rfl⟩
    exact ⟨hpayload, enumFromText_eq_ok hstatus, rfl, rfl, rfl, rfl, rfl, rfl, rfl, rfl, rfl, rfl,
      rfl⟩
  · rintro ⟨hpayload, hsame⟩
    refine ⟨f.payload, hpayload, f.status, ?_, ?_⟩
    · rw [← hsame.status]
      exact enumFromText_text TaskStatus.text_injective f.status.mem_values
    · rw [← hsame.idempotencyKey, ← hsame.attempts, ← hsame.maxAttempts, ← hsame.nextRetryAt,
        ← hsame.lastError, ← hsame.claimedAt, ← hsame.leaseExpiresAt, ← hsame.leaseToken,
        ← hsame.createdAt, ← hsame.updatedAt, ← hsame.completedAt]

/-- Columns that satisfy the constraints are the columns of some fields. -/
theorem TaskColumns.fields_of_satisfies (h : c.satisfies = true) (payload : Dict) :
    ∃ f : TaskFields Dict, f.payload = payload ∧ f.Same c ∧ 0 ≤ f.attempts ∧ 0 < f.maxAttempts := by
  simp only [satisfies, Bool.and_eq_true, decide_eq_true_eq] at h
  obtain ⟨⟨hstatus, hattempts⟩, hmax⟩ := h
  obtain ⟨status, -, hstatus⟩ := List.mem_map.1 hstatus
  exact ⟨{
    status
    idempotencyKey := c.idempotencyKey
    payload
    attempts := c.attempts
    maxAttempts := c.maxAttempts
    nextRetryAt := some c.nextRetryAt
    lastError := c.lastError
    claimedAt := c.claimedAt
    leaseExpiresAt := c.leaseExpiresAt
    leaseToken := c.leaseToken
    createdAt := some c.createdAt
    updatedAt := some c.updatedAt
    completedAt := c.completedAt }, rfl,
    ⟨hstatus, rfl, rfl, rfl, rfl, rfl, rfl, rfl, rfl, rfl, rfl, rfl⟩, hattempts, hmax⟩

/-- Saving fields that were not modified writes what is there. -/
theorem TaskFields.Same.update (h : f.Same c) (now : DateTime) :
    c.update f (f.updatedAt <|> some now) = .ok c := by
  have hnext := h.nextRetryAt
  have hupdated : (f.updatedAt <|> some now) = some c.updatedAt := by
    rw [h.updatedAt]
    rfl
  simp only [TaskColumns.update, hnext, hupdated]
  rw [h.status, h.attempts, h.lastError, h.claimedAt, h.leaseExpiresAt, h.leaseToken,
    h.completedAt]

/-- What saving leaves in columns that belong to the fields. -/
theorem update_eq_ok (h : c.update f updatedAt = .ok c') : ∃ next updated,
    f.nextRetryAt = some next ∧ updatedAt = some updated ∧ c' = { c with
      status := f.status.text
      attempts := f.attempts
      nextRetryAt := next
      lastError := f.lastError
      claimedAt := f.claimedAt
      leaseExpiresAt := f.leaseExpiresAt
      leaseToken := f.leaseToken
      updatedAt := updated
      completedAt := f.completedAt } := by
  unfold TaskColumns.update at h
  split at h
  · next next updated hnext =>
    cases h
    exact ⟨next, updated, hnext, rfl, rfl⟩
  · cases h
  · cases h

theorem satisfies_of_fields (hstatus : c.status = f.status.text) (hattempts : c.attempts = f.attempts)
    (h : (0 < c.maxAttempts && 0 ≤ f.attempts) = true) : c.satisfies = true := by
  simp only [Bool.and_eq_true, decide_eq_true_eq] at h
  simp only [TaskColumns.satisfies, Bool.and_eq_true, decide_eq_true_eq, hattempts, hstatus]
  exact ⟨⟨List.mem_map_of_mem f.status.mem_values, h.2⟩, h.1⟩

theorem constrained_eq_ok {Row : Type} {satisfies : Row → Bool} {r r' : Row} :
    constrained satisfies r = .ok r' ↔ satisfies r = true ∧ r' = r := by
  unfold constrained
  split_ifs with h <;> simp [h, eq_comm]

end Columns

/-! ## Node tasks -/

section NodeTasks

variable {row row' : NodeTaskRow (JsonValue Dict Other)} {task : NodeTaskEntity Dict}

/-- The response is an object, or what `None` is stored as. -/
def Documents.Keeps (docs : Documents Dict Other) : Option (JsonValue Dict Other) → Prop
  | some (.object _) => True
  | value => value = docs.bind none

theorem Documents.keeps_iff {value : Option (JsonValue Dict Other)} :
    docs.Keeps value ↔ ∃ response, docs.responsePayload value = .ok response ∧
      docs.bind response = value := by
  constructor
  · intro h
    rcases value with _ | _ | fields | other
    · exact ⟨none, rfl, h.symm⟩
    · exact ⟨none, rfl, h.symm⟩
    · exact ⟨some fields, rfl, rfl⟩
    · have hnone : some (JsonValue.other other) = docs.bind none := h
      unfold Documents.bind at hnone
      split_ifs at hnone
      cases hnone
  · rintro ⟨response, hload, rfl⟩
    cases response with
    | some fields => trivial
    | none =>
      unfold Keeps
      split
      · trivial
      · rfl

theorem Documents.responsePayload_bind (docs : Documents Dict Other) (response : Option Dict) :
    docs.responsePayload (docs.bind response) = .ok response := by
  cases response with
  | none =>
    unfold Documents.bind
    split_ifs <;> rfl
  | some fields => rfl

/-- What the mapper makes of a row. -/
structure NodeTaskEntity.ReadsFrom (docs : Documents Dict Other) (task : NodeTaskEntity Dict)
    (row : NodeTaskRow (JsonValue Dict Other)) : Prop where
  payload : docs.payload row.payload = .ok task.payload
  fields : task.toTaskFields.Same row.toTaskColumns
  responsePayload : docs.responsePayload row.responsePayload = .ok task.responsePayload
  operation : task.operation.text = row.operation
  id : task.id = some row.nodeTaskId
  taskUuid : task.taskUuid = row.taskUuid
  nodeId : task.nodeId = row.nodeId
  vpnConfigurationId : task.vpnConfigurationId = row.vpnConfigurationId
  subscriptionId : task.subscriptionId = row.subscriptionId
  vpnGeneration : task.vpnGeneration = row.vpnGeneration
  remoteClientRef : task.remoteClientRef = row.remoteClientRef
  journalRetiredAt : task.journalRetiredAt = none
  valid : task.postInit = .ok ()

theorem nodeTaskFromRow_eq_ok : nodeTaskFromRow docs row = .ok task ↔ task.ReadsFrom docs row := by
  simp only [nodeTaskFromRow, bind_eq_ok, pure, Except.pure, Except.ok.injEq]
  constructor
  · rintro ⟨response, hresponse, operation, hoperation, fields, hfields, _, hvalid, rfl⟩
    obtain ⟨hpayload, hsame⟩ := ofColumns_eq_ok.1 hfields
    exact ⟨hpayload, hsame, hresponse, enumFromText_eq_ok hoperation, rfl, rfl, rfl, rfl, rfl, rfl,
      rfl, rfl, hvalid⟩
  · intro h
    refine ⟨task.responsePayload, h.responsePayload, task.operation, ?_, task.toTaskFields,
      ofColumns_eq_ok.2 ⟨h.payload, h.fields⟩, (), ?_, ?_⟩
    · rw [← h.operation]
      exact enumFromText_text NodeTaskOperation.text_injective task.operation.mem_values
    · rw [← h.id, ← h.taskUuid, ← h.nodeId, ← h.vpnConfigurationId, ← h.subscriptionId,
        ← h.vpnGeneration, ← h.remoteClientRef, ← h.journalRetiredAt]
      exact h.valid
    · rw [← h.id, ← h.taskUuid, ← h.nodeId, ← h.vpnConfigurationId, ← h.subscriptionId,
        ← h.vpnGeneration, ← h.remoteClientRef, ← h.journalRetiredAt]

theorem NodeTaskEntity.postInit_eq_ok : task.postInit = .ok () ↔
    (0 < task.maxAttempts ∧ 0 ≤ task.attempts) ∧ task.vpnGeneration.all (0 < ·) = true := by
  simp only [postInit, bind_eq_ok, require_eq_ok, Bool.and_eq_true, decide_eq_true_eq]
  exact ⟨fun ⟨_, h, h'⟩ => ⟨h, h'⟩, fun h => ⟨(), h⟩⟩

/-- What a save writes, into the row of the entity. -/
theorem saveTaskEntity_eq_ok {now : DateTime} (hid : task.id = some row.nodeTaskId)
    (h : saveTaskEntity docs now task row = .ok row') :
    ∃ columns, row.toTaskColumns.update task.toTaskFields (task.updatedAt <|> some now) =
        .ok columns ∧ row' = { row with
          toTaskColumns := columns
          vpnGeneration := task.vpnGeneration
          responsePayload := docs.bind task.responsePayload
          remoteClientRef := task.remoteClientRef
          journalRetiredAt := task.journalRetiredAt } := by
  simp only [saveTaskEntity, hid, if_true, bind_eq_ok, constrained_eq_ok] at h
  obtain ⟨columns, hcolumns, -, hrow⟩ := h
  exact ⟨columns, hcolumns, hrow⟩

theorem nodeTask_satisfies (hvalid : task.postInit = .ok ())
    (hstatus : row.status = task.status.text) (hattempts : row.attempts = task.attempts)
    (hmax : row.maxAttempts = task.maxAttempts) (hoperation : row.operation = task.operation.text)
    (hgeneration : row.vpnGeneration = task.vpnGeneration) : row.satisfies = true := by
  obtain ⟨⟨hpos, hnonneg⟩, hgen⟩ := NodeTaskEntity.postInit_eq_ok.1 hvalid
  have hcolumns : row.toTaskColumns.satisfies = true := by
    apply satisfies_of_fields hstatus hattempts
    simp [hmax, hpos, hnonneg]
  simp only [NodeTaskRow.satisfies, hcolumns, hoperation, hgeneration, hgen, Bool.true_and,
    Bool.and_true, decide_eq_true_eq]
  exact List.mem_map_of_mem task.operation.mem_values

/-- The mapper accepts the row, and saving the entity unmodified changes `updated_at` only. -/
def NodeTaskRow.Survives (docs : Documents Dict Other)
    (row : NodeTaskRow (JsonValue Dict Other)) : Prop :=
  ∃ task, nodeTaskFromRow docs row = .ok task ∧ ∀ now, ∃ row',
    saveTaskEntity docs now task row = .ok row' ∧ { row' with updatedAt := row.updatedAt } = row

theorem NodeTaskRow.survives_iff (hrow : row.satisfies = true) : row.Survives docs ↔
    row.journalRetiredAt = none ∧ (∃ fields, docs.payload row.payload = .ok fields) ∧
      docs.Keeps row.responsePayload := by
  constructor
  · rintro ⟨task, hload, hsave⟩
    have hread := nodeTaskFromRow_eq_ok.1 hload
    obtain ⟨row', hsave, hsame⟩ := hsave 0
    obtain ⟨columns, -, rfl⟩ := saveTaskEntity_eq_ok hread.id hsave
    have hretired : task.journalRetiredAt = row.journalRetiredAt :=
      congrArg NodeTaskRow.journalRetiredAt hsame
    have hresponse : docs.bind task.responsePayload = row.responsePayload :=
      congrArg NodeTaskRow.responsePayload hsame
    refine ⟨hretired.symm.trans hread.journalRetiredAt, ⟨_, hread.payload⟩, ?_⟩
    exact Documents.keeps_iff.2 ⟨_, hread.responsePayload, hresponse⟩
  · rintro ⟨hretired, ⟨payload, hpayload⟩, hkeeps⟩
    obtain ⟨response, hresponse, hbind⟩ := Documents.keeps_iff.1 hkeeps
    have hcheck := hrow
    simp only [satisfies, Bool.and_eq_true, decide_eq_true_eq] at hcheck
    obtain ⟨⟨hcolumns, hoperation⟩, hgeneration⟩ := hcheck
    obtain ⟨operation, -, hoperation⟩ := List.mem_map.1 hoperation
    obtain ⟨fields, rfl, hfields, hattempts, hmax⟩ :=
      TaskColumns.fields_of_satisfies hcolumns payload
    let task : NodeTaskEntity Dict := {
      toTaskFields := fields
      id := some row.nodeTaskId
      taskUuid := row.taskUuid
      nodeId := row.nodeId
      operation
      vpnConfigurationId := row.vpnConfigurationId
      subscriptionId := row.subscriptionId
      vpnGeneration := row.vpnGeneration
      responsePayload := response
      remoteClientRef := row.remoteClientRef }
    have hvalid : task.postInit = .ok () :=
      NodeTaskEntity.postInit_eq_ok.2 ⟨⟨hmax, hattempts⟩, hgeneration⟩
    refine ⟨task, nodeTaskFromRow_eq_ok.2 ⟨hpayload, hfields, hresponse, hoperation, rfl, rfl, rfl,
      rfl, rfl, rfl, rfl, rfl, hvalid⟩, fun now => ⟨row, ?_, rfl⟩⟩
    have hupdate : row.toTaskColumns.update task.toTaskFields (task.updatedAt <|> some now) =
        .ok row.toTaskColumns := hfields.update now
    simp only [saveTaskEntity, task, if_true, bind_eq_ok, constrained_eq_ok]
    refine ⟨row.toTaskColumns, hupdate, ?_⟩
    rw [hbind, ← hretired]
    exact ⟨hrow, rfl⟩

/-- The row holds what saving the entity does not write. -/
structure NodeTaskEntity.Belongs (docs : Documents Dict Other) (task : NodeTaskEntity Dict)
    (row : NodeTaskRow (JsonValue Dict Other)) : Prop where
  id : task.id = some row.nodeTaskId
  taskUuid : task.taskUuid = row.taskUuid
  nodeId : task.nodeId = row.nodeId
  vpnConfigurationId : task.vpnConfigurationId = row.vpnConfigurationId
  subscriptionId : task.subscriptionId = row.subscriptionId
  operation : task.operation.text = row.operation
  idempotencyKey : task.idempotencyKey = row.idempotencyKey
  payload : docs.payload row.payload = .ok task.payload
  maxAttempts : task.maxAttempts = row.maxAttempts
  createdAt : task.createdAt = some row.createdAt

/-- The entity is saved, and the mapper gives it back. -/
def NodeTaskEntity.Returns (docs : Documents Dict Other) (task : NodeTaskEntity Dict)
    (row : NodeTaskRow (JsonValue Dict Other)) : Prop :=
  ∀ now, ∃ row', saveTaskEntity docs now task row = .ok row' ∧ nodeTaskFromRow docs row' = .ok task

theorem NodeTaskEntity.returns_iff (hvalid : task.postInit = .ok ()) : task.Returns docs row ↔
    task.Belongs docs row ∧ task.nextRetryAt.isSome = true ∧ task.updatedAt.isSome = true ∧
      task.journalRetiredAt = none := by
  constructor
  · intro h
    obtain ⟨row', hsave, hload⟩ := h 0
    have hread := nodeTaskFromRow_eq_ok.1 hload
    have hid : task.id = some row.nodeTaskId := by
      have hid' := hread.id
      unfold saveTaskEntity at hsave
      rw [hid'] at hsave
      dsimp only at hsave
      split_ifs at hsave with heq
      · rw [hid', heq]
      · cases hsave
        exact hid'
    obtain ⟨columns, hcolumns, rfl⟩ := saveTaskEntity_eq_ok hid hsave
    obtain ⟨next, updated, hnext, -, rfl⟩ := update_eq_ok hcolumns
    have hfields := hread.fields
    refine ⟨⟨hid, hread.taskUuid, hread.nodeId, hread.vpnConfigurationId, hread.subscriptionId,
      hread.operation, hfields.idempotencyKey, hread.payload, hfields.maxAttempts,
      hfields.createdAt⟩, ?_, ?_, hread.journalRetiredAt⟩
    · rw [hnext]
      rfl
    · rw [hfields.updatedAt]
      rfl
  · rintro ⟨hbelongs, hnext, hupdated, hretired⟩ now
    obtain ⟨next, hnext⟩ := Option.isSome_iff_exists.1 hnext
    obtain ⟨updated, hupdated⟩ := Option.isSome_iff_exists.1 hupdated
    let columns : TaskColumns (JsonValue Dict Other) := { row.toTaskColumns with
      status := task.status.text
      attempts := task.attempts
      nextRetryAt := next
      lastError := task.lastError
      claimedAt := task.claimedAt
      leaseExpiresAt := task.leaseExpiresAt
      leaseToken := task.leaseToken
      updatedAt := updated
      completedAt := task.completedAt }
    let row' : NodeTaskRow (JsonValue Dict Other) := { row with
      toTaskColumns := columns
      vpnGeneration := task.vpnGeneration
      responsePayload := docs.bind task.responsePayload
      remoteClientRef := task.remoteClientRef
      journalRetiredAt := task.journalRetiredAt }
    have hupdate : row.toTaskColumns.update task.toTaskFields (task.updatedAt <|> some now) =
        .ok columns := by
      simp [TaskColumns.update, hnext, hupdated, columns]
    have hcheck : row'.satisfies = true :=
      nodeTask_satisfies hvalid rfl rfl hbelongs.maxAttempts.symm hbelongs.operation.symm rfl
    refine ⟨row', ?_, nodeTaskFromRow_eq_ok.2 ?_⟩
    · simp only [saveTaskEntity, hbelongs.id, if_true, bind_eq_ok, constrained_eq_ok]
      exact ⟨columns, hupdate, hcheck, rfl⟩
    · exact ⟨hbelongs.payload, ⟨rfl, hbelongs.idempotencyKey, rfl, hbelongs.maxAttempts, hnext, rfl,
        rfl, rfl, rfl, hbelongs.createdAt, hupdated, rfl⟩, docs.responsePayload_bind _,
        hbelongs.operation, hbelongs.id, hbelongs.taskUuid, hbelongs.nodeId,
        hbelongs.vpnConfigurationId, hbelongs.subscriptionId, rfl, rfl, hretired, hvalid⟩

end NodeTasks

/-! ## Panel revoke tasks -/

section PanelRevokeTasks

variable {row row' : PanelRevokeTaskRow (JsonValue Dict Other)} {task : PanelRevokeTaskEntity Dict}

/-- What the mapper makes of a row. -/
structure PanelRevokeTaskEntity.ReadsFrom (docs : Documents Dict Other)
    (task : PanelRevokeTaskEntity Dict) (row : PanelRevokeTaskRow (JsonValue Dict Other)) :
    Prop where
  payload : docs.payload row.payload = .ok task.payload
  fields : task.toTaskFields.Same row.toTaskColumns
  id : task.id = some row.panelRevokeTaskId
  taskUuid : task.taskUuid = row.taskUuid
  vpnConfigurationId : task.vpnConfigurationId = row.vpnConfigurationId
  subscriptionId : task.subscriptionId = row.subscriptionId
  vpnGeneration : task.vpnGeneration = row.vpnGeneration
  valid : task.postInit = .ok ()

theorem panelRevokeTaskFromRow_eq_ok :
    panelRevokeTaskFromRow docs row = .ok task ↔ task.ReadsFrom docs row := by
  simp only [panelRevokeTaskFromRow, bind_eq_ok, pure, Except.pure, Except.ok.injEq]
  constructor
  · rintro ⟨fields, hfields, _, hvalid, rfl⟩
    obtain ⟨hpayload, hsame⟩ := ofColumns_eq_ok.1 hfields
    exact ⟨hpayload, hsame, rfl, rfl, rfl, rfl, rfl, hvalid⟩
  · intro h
    refine ⟨task.toTaskFields, ofColumns_eq_ok.2 ⟨h.payload, h.fields⟩, (), ?_, ?_⟩
    · rw [← h.id, ← h.taskUuid, ← h.vpnConfigurationId, ← h.subscriptionId, ← h.vpnGeneration]
      exact h.valid
    · rw [← h.id, ← h.taskUuid, ← h.vpnConfigurationId, ← h.subscriptionId, ← h.vpnGeneration]

theorem PanelRevokeTaskEntity.postInit_eq_ok : task.postInit = .ok () ↔
    0 < task.vpnGeneration ∧ (0 ≤ task.attempts ∧ 0 < task.maxAttempts) ∧
      stripText task.idempotencyKey ≠ "" := by
  simp only [postInit, bind_eq_ok, require_eq_ok, Bool.and_eq_true, decide_eq_true_eq]
  exact ⟨fun ⟨_, h, _, h', h''⟩ => ⟨h, h', h''⟩, fun ⟨h, h', h''⟩ => ⟨(), h, (), h', h''⟩⟩

theorem savePanelRevokeTaskEntity_eq_ok {now : DateTime}
    (hid : task.id = some row.panelRevokeTaskId)
    (h : savePanelRevokeTaskEntity now task row = .ok row') :
    ∃ columns, row.toTaskColumns.update task.toTaskFields (task.updatedAt <|> some now) =
        .ok columns ∧ row' = { row with
          toTaskColumns := { columns with
            payload := .object task.payload
            maxAttempts := task.maxAttempts } } := by
  simp only [savePanelRevokeTaskEntity, hid, if_true, bind_eq_ok, constrained_eq_ok] at h
  obtain ⟨columns, hcolumns, -, hrow⟩ := h
  exact ⟨columns, hcolumns, hrow⟩

/-- The mapper accepts the row, and saving the entity unmodified changes `updated_at` only. -/
def PanelRevokeTaskRow.Survives (docs : Documents Dict Other)
    (row : PanelRevokeTaskRow (JsonValue Dict Other)) : Prop :=
  ∃ task, panelRevokeTaskFromRow docs row = .ok task ∧ ∀ now, ∃ row',
    savePanelRevokeTaskEntity now task row = .ok row' ∧ { row' with updatedAt := row.updatedAt } = row

theorem PanelRevokeTaskRow.survives_iff (hrow : row.satisfies = true) : row.Survives docs ↔
    stripText row.idempotencyKey ≠ "" ∧ ∃ fields, row.payload = .object fields := by
  constructor
  · rintro ⟨task, hload, hsave⟩
    have hread := panelRevokeTaskFromRow_eq_ok.1 hload
    obtain ⟨row', hsave, hsame⟩ := hsave 0
    obtain ⟨columns, -, rfl⟩ := savePanelRevokeTaskEntity_eq_ok hread.id hsave
    have hpayload : JsonValue.object task.payload = row.payload :=
      congrArg (fun r : PanelRevokeTaskRow (JsonValue Dict Other) => r.payload) hsame
    refine ⟨?_, task.payload, hpayload.symm⟩
    rw [← hread.fields.idempotencyKey]
    exact (PanelRevokeTaskEntity.postInit_eq_ok.1 hread.valid).2.2
  · rintro ⟨hkey, payload, hpayload⟩
    have hcheck := hrow
    simp only [satisfies, Bool.and_eq_true, decide_eq_true_eq] at hcheck
    obtain ⟨fields, rfl, hfields, hattempts, hmax⟩ :=
      TaskColumns.fields_of_satisfies hcheck.1 payload
    let task : PanelRevokeTaskEntity Dict := {
      toTaskFields := fields
      id := some row.panelRevokeTaskId
      taskUuid := row.taskUuid
      vpnConfigurationId := row.vpnConfigurationId
      subscriptionId := row.subscriptionId
      vpnGeneration := row.vpnGeneration }
    have hvalid : task.postInit = .ok () := by
      refine PanelRevokeTaskEntity.postInit_eq_ok.2 ⟨hcheck.2, ⟨hattempts, hmax⟩, ?_⟩
      rw [← hfields.idempotencyKey] at hkey
      exact hkey
    have hread : docs.payload row.payload = .ok fields.payload := by
      rw [hpayload]
      rfl
    refine ⟨task, panelRevokeTaskFromRow_eq_ok.2 ⟨hread, hfields, rfl, rfl, rfl, rfl, rfl, hvalid⟩,
      fun now => ⟨row, ?_, rfl⟩⟩
    have hupdate : row.toTaskColumns.update task.toTaskFields (task.updatedAt <|> some now) =
        .ok row.toTaskColumns := hfields.update now
    simp only [savePanelRevokeTaskEntity, task, if_true, bind_eq_ok, constrained_eq_ok]
    refine ⟨row.toTaskColumns, hupdate, ?_⟩
    rw [← hpayload, hfields.maxAttempts]
    exact ⟨hrow, rfl⟩

/-- The row holds what saving the entity does not write. -/
structure PanelRevokeTaskEntity.Belongs (task : PanelRevokeTaskEntity Dict)
    (row : PanelRevokeTaskRow (JsonValue Dict Other)) : Prop where
  id : task.id = some row.panelRevokeTaskId
  taskUuid : task.taskUuid = row.taskUuid
  vpnConfigurationId : task.vpnConfigurationId = row.vpnConfigurationId
  subscriptionId : task.subscriptionId = row.subscriptionId
  vpnGeneration : task.vpnGeneration = row.vpnGeneration
  idempotencyKey : task.idempotencyKey = row.idempotencyKey
  createdAt : task.createdAt = some row.createdAt

/-- The entity is saved, and the mapper gives it back. -/
def PanelRevokeTaskEntity.Returns (docs : Documents Dict Other) (task : PanelRevokeTaskEntity Dict)
    (row : PanelRevokeTaskRow (JsonValue Dict Other)) : Prop :=
  ∀ now, ∃ row', savePanelRevokeTaskEntity now task row = .ok row' ∧
    panelRevokeTaskFromRow docs row' = .ok task

theorem PanelRevokeTaskEntity.returns_iff (hvalid : task.postInit = .ok ()) :
    task.Returns docs row ↔
      task.Belongs row ∧ task.nextRetryAt.isSome = true ∧ task.updatedAt.isSome = true := by
  constructor
  · intro h
    obtain ⟨row', hsave, hload⟩ := h 0
    have hread := panelRevokeTaskFromRow_eq_ok.1 hload
    have hid : task.id = some row.panelRevokeTaskId := by
      have hid' := hread.id
      unfold savePanelRevokeTaskEntity at hsave
      rw [hid'] at hsave
      dsimp only at hsave
      split_ifs at hsave with heq
      · rw [hid', heq]
      · cases hsave
        exact hid'
    obtain ⟨columns, hcolumns, rfl⟩ := savePanelRevokeTaskEntity_eq_ok hid hsave
    obtain ⟨next, updated, hnext, -, rfl⟩ := update_eq_ok hcolumns
    have hfields := hread.fields
    refine ⟨⟨hid, hread.taskUuid, hread.vpnConfigurationId, hread.subscriptionId,
      hread.vpnGeneration, hfields.idempotencyKey, hfields.createdAt⟩, ?_, ?_⟩
    · rw [hnext]
      rfl
    · rw [hfields.updatedAt]
      rfl
  · rintro ⟨hbelongs, hnext, hupdated⟩ now
    obtain ⟨next, hnext⟩ := Option.isSome_iff_exists.1 hnext
    obtain ⟨updated, hupdated⟩ := Option.isSome_iff_exists.1 hupdated
    let columns : TaskColumns (JsonValue Dict Other) := { row.toTaskColumns with
      status := task.status.text
      attempts := task.attempts
      nextRetryAt := next
      lastError := task.lastError
      claimedAt := task.claimedAt
      leaseExpiresAt := task.leaseExpiresAt
      leaseToken := task.leaseToken
      updatedAt := updated
      completedAt := task.completedAt }
    let row' : PanelRevokeTaskRow (JsonValue Dict Other) := { row with
      toTaskColumns := { columns with
        payload := .object task.payload
        maxAttempts := task.maxAttempts } }
    have hupdate : row.toTaskColumns.update task.toTaskFields (task.updatedAt <|> some now) =
        .ok columns := by
      simp [TaskColumns.update, hnext, hupdated, columns]
    obtain ⟨hgeneration, ⟨hattempts, hmax⟩, -⟩ := PanelRevokeTaskEntity.postInit_eq_ok.1 hvalid
    have hcheck : row'.satisfies = true := by
      have hcolumns : row'.toTaskColumns.satisfies = true := by
        apply satisfies_of_fields (f := task.toTaskFields) rfl rfl
        simp [row', hattempts, hmax]
      rw [hbelongs.vpnGeneration] at hgeneration
      simp [PanelRevokeTaskRow.satisfies, hcolumns, row', hgeneration]
    refine ⟨row', ?_, panelRevokeTaskFromRow_eq_ok.2 ?_⟩
    · simp only [savePanelRevokeTaskEntity, hbelongs.id, if_true, bind_eq_ok, constrained_eq_ok]
      exact ⟨columns, hupdate, hcheck, rfl⟩
    · exact ⟨rfl, ⟨rfl, hbelongs.idempotencyKey, rfl, rfl, hnext, rfl, rfl, rfl, rfl,
        hbelongs.createdAt, hupdated, rfl⟩, hbelongs.id, hbelongs.taskUuid,
        hbelongs.vpnConfigurationId, hbelongs.subscriptionId, hbelongs.vpnGeneration, hvalid⟩

end PanelRevokeTasks

/-! ## Panel provision tasks -/

section PanelProvisionTasks

variable {row : PanelProvisionTaskRow (JsonValue Dict Other)} {task : PanelProvisionTaskEntity Dict}

/-- The mapper accepts the row, and saving the entity unmodified changes `updated_at` only. -/
def PanelProvisionTaskRow.Survives (docs : Documents Dict Other)
    (row : PanelProvisionTaskRow (JsonValue Dict Other)) : Prop :=
  ∃ task, panelProvisionTaskFromRow docs row = .ok task ∧ ∃ row',
    savePanelTaskEntity task row = .ok row' ∧ { row' with updatedAt := row.updatedAt } = row

/-- The entity is saved, and the mapper gives it back. -/
def PanelProvisionTaskEntity.Returns (docs : Documents Dict Other)
    (task : PanelProvisionTaskEntity Dict) (row : PanelProvisionTaskRow (JsonValue Dict Other)) :
    Prop :=
  ∃ row', savePanelTaskEntity task row = .ok row' ∧ panelProvisionTaskFromRow docs row' = .ok task

theorem panelProvisionTaskFromRow_raises :
    ∃ message, panelProvisionTaskFromRow docs row = .error (.typeError message) := by
  have hkeyword : RowMapper.asWritten.keywords.find?
      (· ∉ RowMapper.panelProvisionTaskParameters) = some "journal_retired_at" := by decide
  unfold panelProvisionTaskFromRow
  simp only [hkeyword]
  exact ⟨_, rfl⟩

theorem panelProvisionTaskFromRow_ne_ok : panelProvisionTaskFromRow docs row ≠ .ok task := by
  obtain ⟨message, hraise⟩ : ∃ message, panelProvisionTaskFromRow docs row =
    .error (.typeError message) := panelProvisionTaskFromRow_raises
  rw [hraise]
  exact fun h => by cases h

end PanelProvisionTasks

/-! ## All three ledgers -/

/-- When rows survive being mapped and saved, and entities return from being saved and mapped. -/
theorem task_round_trips_iff (docs : Documents Dict Other) :
    (∀ row : NodeTaskRow (JsonValue Dict Other), row.satisfies = true →
      (row.Survives docs ↔ row.journalRetiredAt = none ∧
        (∃ fields, docs.payload row.payload = .ok fields) ∧ docs.Keeps row.responsePayload)) ∧
    (∀ (task : NodeTaskEntity Dict) (row : NodeTaskRow (JsonValue Dict Other)),
      task.postInit = .ok () →
      (task.Returns docs row ↔ task.Belongs docs row ∧ task.nextRetryAt.isSome = true ∧
        task.updatedAt.isSome = true ∧ task.journalRetiredAt = none)) ∧
    (∀ row : PanelRevokeTaskRow (JsonValue Dict Other), row.satisfies = true →
      (row.Survives docs ↔
        stripText row.idempotencyKey ≠ "" ∧ ∃ fields, row.payload = .object fields)) ∧
    (∀ (task : PanelRevokeTaskEntity Dict) (row : PanelRevokeTaskRow (JsonValue Dict Other)),
      task.postInit = .ok () →
      (task.Returns docs row ↔
        task.Belongs row ∧ task.nextRetryAt.isSome = true ∧ task.updatedAt.isSome = true)) ∧
    (∀ row : PanelProvisionTaskRow (JsonValue Dict Other), ¬ row.Survives docs) ∧
    ∀ (task : PanelProvisionTaskEntity Dict) (row : PanelProvisionTaskRow (JsonValue Dict Other)),
      ¬ task.Returns docs row := by
  refine ⟨fun row hrow => row.survives_iff hrow, fun task row hvalid => task.returns_iff hvalid,
    fun row hrow => row.survives_iff hrow, fun task row hvalid => task.returns_iff hvalid, ?_, ?_⟩
  · rintro row ⟨task, hload, -⟩
    exact panelProvisionTaskFromRow_ne_ok hload
  · rintro task row ⟨row', -, hload⟩
    exact panelProvisionTaskFromRow_ne_ok hload

/-! ## Two rows that do not survive -/

/-- Objects with one kind of field; any other document is empty. -/
def plainDocuments : Documents (List (String × String)) Unit where
  empty := []
  truth _ := false
  dict _ := .ok []

def retiredNodeTask : NodeTaskRow (JsonValue (List (String × String)) Unit) where
  nodeTaskId := 1
  taskUuid := 1
  nodeId := 1
  operation := "sync_status"
  status := "succeeded"
  idempotencyKey := "sync"
  payload := .object []
  responsePayload := some (.object [])
  nextRetryAt := 0
  createdAt := 0
  updatedAt := 0
  journalRetiredAt := some 5

def pendingPanelTask : PanelProvisionTaskRow (JsonValue (List (String × String)) Unit) where
  panelProvisionTaskId := 1
  vpnConfigurationId := 1
  subscriptionId := 1
  idempotencyKey := "panel-provision"
  payload := .object []
  nextRetryAt := 0
  createdAt := 0
  updatedAt := 0

theorem task_round_trips_retired : ¬ retiredNodeTask.Survives plainDocuments := by
  have htrips := task_round_trips_iff plainDocuments
  rw [htrips.1 retiredNodeTask (by decide)]
  rintro ⟨hretired, -⟩
  cases hretired

/-- Rows within the constraints: the retirement of one is erased, the other is not mapped. -/
theorem task_rows_do_not_survive :
    retiredNodeTask.satisfies = true ∧
    (∃ task row', nodeTaskFromRow plainDocuments retiredNodeTask = .ok task ∧
      saveTaskEntity plainDocuments 9 task retiredNodeTask = .ok row' ∧
      row'.journalRetiredAt = none) ∧
    pendingPanelTask.satisfies = true ∧
    panelProvisionTaskFromRow plainDocuments pendingPanelTask = .error (.typeError
      "PanelProvisionTask.__init__() got an unexpected keyword argument 'journal_retired_at'") := by
  refine ⟨by decide, ⟨_, _, rfl, rfl, rfl⟩, by decide, ?_⟩
  rfl

end ShopBot
