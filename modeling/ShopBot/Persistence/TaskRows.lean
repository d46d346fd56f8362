import ShopBot.Persistence.Database

/-! # Rows of the task ledgers

The three task tables column by column, the entities with every field of their classes, the
mappers from rows to entities and the statements that save an entity. A payload is a document,
and how Python turns a document that is no object into a dictionary is an argument.
-/

namespace ShopBot

/-- The value of a JSON column. -/
inductive JsonValue (Dict Other : Type) where
  | null

  | object (fields : Dict)

  /-- A scalar or an array. -/
  | other (value : Other)

/-- How documents are read and written: `bool(value)` and `dict(value)` for a value that is no
object, and the flag of the column type that stores `None` as SQL `NULL`. -/
structure Documents (Dict Other : Type) where
  empty : Dict
  truth : Other → Bool
  dict : Other → Except Error Dict
  noneAsNull : Bool := false

namespace Documents

variable {Dict Other : Type}

/-- `dict(row.get("payload") or {})`. -/
def payload (docs : Documents Dict Other) : JsonValue Dict Other → Except Error Dict
  | .null => .ok docs.empty
  | .object fields => .ok fields
  | .other value => if docs.truth value then docs.dict value else .ok docs.empty

/-- `dict(row["response_payload"])` unless that is `None`, which SQL `NULL` is read as, too. -/
def responsePayload (docs : Documents Dict Other) :
    Option (JsonValue Dict Other) → Except Error (Option Dict)
  | none => .ok none
  | some .null => .ok none
  | some (.object fields) => .ok (some fields)
  | some (.other value) => (docs.dict value).map some

/-- What a dictionary or `None` is stored as. -/
def bind (docs : Documents Dict Other) : Option Dict → Option (JsonValue Dict Other)
  | none => if docs.noneAsNull then none else some .null
  | some fields => some (.object fields)

end Documents

def TaskStatus.values : List TaskStatus := [pending, inProgress, succeeded, failed, cancelled]

namespace NodeTaskOperation

def text : NodeTaskOperation → String
  | provisionClient => "provision_client"
  | revokeClient => "revoke_client"
  | syncStatus => "sync_status"

def values : List NodeTaskOperation := [provisionClient, revokeClient, syncStatus]

end NodeTaskOperation

/-- The columns that the task tables share. -/
structure TaskColumns (J : Type) where
  status : String := "pending"
  idempotencyKey : String
  payload : J
  attempts : ℤ := 0
  maxAttempts : ℤ := 5
  nextRetryAt : DateTime
  lastError : Option String := none
  claimedAt : Option DateTime := none
  leaseExpiresAt : Option DateTime := none
  leaseToken : Option Uuid := none
  createdAt : DateTime
  updatedAt : DateTime
  completedAt : Option DateTime := none

/-- The fields that the task entities share. -/
structure TaskFields (D : Type) where
  status : TaskStatus
  idempotencyKey : String
  payload : D
  attempts : ℤ
  maxAttempts : ℤ
  nextRetryAt : Option DateTime
  lastError : Option String
  claimedAt : Option DateTime
  leaseExpiresAt : Option DateTime
  leaseToken : Option Uuid
  createdAt : Option DateTime
  updatedAt : Option DateTime
  completedAt : Option DateTime

section SharedColumns

variable {Dict Other : Type}

/-- The constraints that the task tables share. -/
def TaskColumns.satisfies {J : Type} (c : TaskColumns J) : Bool :=
  c.status ∈ TaskStatus.values.map TaskStatus.text && 0 ≤ c.attempts && 0 < c.maxAttempts

/-- The fields as the mappers read them from the columns. -/
def TaskFields.ofColumns (docs : Documents Dict Other) (className : String)
    (c : TaskColumns (JsonValue Dict Other)) : Except Error (TaskFields Dict) := do
  let payload ← docs.payload c.payload
  let status ← enumFromText TaskStatus.values TaskStatus.text className c.status
  return {
    status
    idempotencyKey := c.idempotencyKey
    payload
    attempts := c.attempts
    maxAttempts := c.maxAttempts
    nextRetryAt := some c.nextRetryAt
    lastError := c.lastError
    claimedAt := c.claimedAt
    leaseExpiresAt := c.leaseExpiresAt
    leaseToken := c.leaseToken
    createdAt := some c.createdAt
    updatedAt := some c.updatedAt
    completedAt := c.completedAt }

/-- The columns that every save writes; two of them are not nullable. -/
def TaskColumns.update {J : Type} (c : TaskColumns J) (f : TaskFields Dict)
    (updatedAt : Option DateTime) : Except Error (TaskColumns J) :=
  match f.nextRetryAt, updatedAt with
  | some nextRetryAt, some updatedAt => .ok { c with
      status := f.status.text
      attempts := f.attempts
      nextRetryAt
      lastError := f.lastError
      claimedAt := f.claimedAt
      leaseExpiresAt := f.leaseExpiresAt
      leaseToken := f.leaseToken
      updatedAt
      completedAt := f.completedAt }
  | none, _ => .error (.integrity "next_retry_at")
  | _, none => .error (.integrity "updated_at")

end SharedColumns

structure NodeTaskRow (J : Type) extends TaskColumns J where
  nodeTaskId : ℕ
  taskUuid : Uuid
  nodeId : ℕ
  vpnConfigurationId : Option ℕ := none
  subscriptionId : Option ℕ := none
  vpnGeneration : Option ℤ := none
  operation : String
  responsePayload : Option J := none
  remoteClientRef : Option String := none
  journalRetiredAt : Option DateTime := none

structure NodeTaskEntity (D : Type) extends TaskFields D where
  id : Option ℕ
  taskUuid : Uuid
  nodeId : ℕ
  operation : NodeTaskOperation
  vpnConfigurationId : Option ℕ
  subscriptionId : Option ℕ
  vpnGeneration : Option ℤ
  responsePayload : Option D
  remoteClientRef : Option String
  journalRetiredAt : Option DateTime := none

structure PanelProvisionTaskRow (J : Type) extends TaskColumns J where
  panelProvisionTaskId : ℕ
  vpnConfigurationId : ℕ
  subscriptionId : ℕ
  vpnGeneration : ℤ := 1
  compensationRequired : Bool := false

structure PanelProvisionTaskEntity (D : Type) extends TaskFields D where
  id : Option ℕ
  vpnConfigurationId : ℕ
  subscriptionId : ℕ
  vpnGeneration : ℤ
  compensationRequired : Bool

structure PanelRevokeTaskRow (J : Type) extends TaskColumns J where
  panelRevokeTaskId : ℕ
  taskUuid : Uuid
  vpnConfigurationId : ℕ
  subscriptionId : ℕ
  vpnGeneration : ℤ

structure PanelRevokeTaskEntity (D : Type) extends TaskFields D where
  id : Option ℕ
  taskUuid : Uuid
  vpnConfigurationId : ℕ
  subscriptionId : ℕ
  vpnGeneration : ℤ

/-! ## Constraints of the tables -/

section Constraints

variable {J : Type}

def NodeTaskRow.satisfies (row : NodeTaskRow J) : Bool :=
  row.toTaskColumns.satisfies
    && row.operation ∈ NodeTaskOperation.values.map NodeTaskOperation.text
    && row.vpnGeneration.all (0 < ·)

def PanelProvisionTaskRow.satisfies (row : PanelProvisionTaskRow J) : Bool :=
  row.toTaskColumns.satisfies && 0 < row.vpnGeneration

def PanelRevokeTaskRow.satisfies (row : PanelRevokeTaskRow J) : Bool :=
  row.toTaskColumns.satisfies && 0 < row.vpnGeneration

/-- An update that breaks a constraint is refused. -/
def constrained {Row : Type} (satisfies : Row → Bool) (row : Row) : Except Error Row :=
  if satisfies row then .ok row else .error (.integrity "check constraint")

end Constraints

/-! ## What a new entity checks -/

section PostInit

variable {D : Type}

def NodeTaskEntity.postInit (task : NodeTaskEntity D) : Except Error Unit := do
  require (0 < task.maxAttempts && 0 ≤ task.attempts)
    (.domainValidation "Invalid node task attempt limits")
  require (task.vpnGeneration.all (0 < ·))
    (.domainValidation "Node task VPN generation must be positive")

def PanelProvisionTaskEntity.postInit (task : PanelProvisionTaskEntity D) : Except Error Unit := do
  require (0 ≤ task.attempts && 0 < task.maxAttempts)
    (.domainValidation "Invalid panel task attempt limits")
  require (0 < task.vpnGeneration)
    (.domainValidation "Panel task VPN generation must be positive")
  require (stripText task.idempotencyKey ≠ "")
    (.domainValidation "Panel task idempotency key cannot be blank")

def PanelRevokeTaskEntity.postInit (task : PanelRevokeTaskEntity D) : Except Error Unit := do
  require (0 < task.vpnGeneration)
    (.domainValidation "Panel revoke task VPN generation must be positive")
  require (0 ≤ task.attempts && 0 < task.maxAttempts)
    (.domainValidation "Invalid panel revoke task attempt limits")
  require (stripText task.idempotencyKey ≠ "")
    (.domainValidation "Panel revoke task idempotency key cannot be blank")

end PostInit

/-! ## Mappers -/

section Mappers

variable {Dict Other : Type} (docs : Documents Dict Other)

def nodeTaskFromRow (row : NodeTaskRow (JsonValue Dict Other)) :
    Except Error (NodeTaskEntity Dict) := do
  let responsePayload ← docs.responsePayload row.responsePayload
  let operation ← enumFromText NodeTaskOperation.values NodeTaskOperation.text "NodeTaskOperation"
    row.operation
  let fields ← TaskFields.ofColumns docs "NodeTaskStatus" row.toTaskColumns
  -- the column `journal_retired_at` is not passed on
  let task : NodeTaskEntity Dict := {
    toTaskFields := fields
    id := some row.nodeTaskId
    taskUuid := row.taskUuid
    nodeId := row.nodeId
    operation
    vpnConfigurationId := row.vpnConfigurationId
    subscriptionId := row.subscriptionId
    vpnGeneration := row.vpnGeneration
    responsePayload
    remoteClientRef := row.remoteClientRef }
  task.postInit
  return task

/-- The keywords are those of the mapper as it is written. -/
def panelProvisionTaskFromRow (row : PanelProvisionTaskRow (JsonValue Dict Other)) :
    Except Error (PanelProvisionTaskEntity Dict) := do
  let keywords := RowMapper.asWritten.keywords
  match keywords.find? (· ∉ RowMapper.panelProvisionTaskParameters) with
  | some keyword => .error (.typeError
      s!"PanelProvisionTask.__init__() got an unexpected keyword argument '{keyword}'")
  | none =>
    let fields ← TaskFields.ofColumns docs "PanelProvisionTaskStatus" row.toTaskColumns
    let task : PanelProvisionTaskEntity Dict := {
      toTaskFields := fields
      id := some row.panelProvisionTaskId
      vpnConfigurationId := row.vpnConfigurationId
      subscriptionId := row.subscriptionId
      vpnGeneration := row.vpnGeneration
      compensationRequired := row.compensationRequired }
    task.postInit
    return task

def panelRevokeTaskFromRow (row : PanelRevokeTaskRow (JsonValue Dict Other)) :
    Except Error (PanelRevokeTaskEntity Dict) := do
  let fields ← TaskFields.ofColumns docs "PanelRevokeTaskStatus" row.toTaskColumns
  let task : PanelRevokeTaskEntity Dict := {
    toTaskFields := fields
    id := some row.panelRevokeTaskId
    taskUuid := row.taskUuid
    vpnConfigurationId := row.vpnConfigurationId
    subscriptionId := row.subscriptionId
    vpnGeneration := row.vpnGeneration }
  task.postInit
  return task

/-! ## Saving

The statements update the row with the identifier of the entity; `row` stands for any row of
the table, which another identifier leaves as it is.
-/

def saveTaskEntity (now : DateTime) (task : NodeTaskEntity Dict)
    (row : NodeTaskRow (JsonValue Dict Other)) :
    Except Error (NodeTaskRow (JsonValue Dict Other)) :=
  match task.id with
  | none => .error (.valueError "Cannot save node task without id")
  | some id =>
    if id = row.nodeTaskId then do
      let columns ← row.toTaskColumns.update task.toTaskFields (task.updatedAt <|> some now)
      constrained NodeTaskRow.satisfies { row with
        toTaskColumns := columns
        vpnGeneration := task.vpnGeneration
        responsePayload := docs.bind task.responsePayload
        remoteClientRef := task.remoteClientRef
        journalRetiredAt := task.journalRetiredAt }
    else .ok row

def savePanelTaskEntity (task : PanelProvisionTaskEntity Dict)
    (row : PanelProvisionTaskRow (JsonValue Dict Other)) :
    Except Error (PanelProvisionTaskRow (JsonValue Dict Other)) :=
  match task.id with
  | none => .error (.valueError "Cannot save panel provision task without id")
  | some id =>
    if id = row.panelProvisionTaskId then do
      let columns ← row.toTaskColumns.update task.toTaskFields task.updatedAt
      constrained PanelProvisionTaskRow.satisfies { row with
        toTaskColumns := { columns with
          payload := .object task.payload
          maxAttempts := task.maxAttempts }
        vpnGeneration := task.vpnGeneration
        compensationRequired := task.compensationRequired }
    else .ok row

def savePanelRevokeTaskEntity (now : DateTime) (task : PanelRevokeTaskEntity Dict)
    (row : PanelRevokeTaskRow (JsonValue Dict Other)) :
    Except Error (PanelRevokeTaskRow (JsonValue Dict Other)) :=
  match task.id with
  | none => .error (.valueError "Cannot save panel revoke task without id")
  | some id =>
    if id = row.panelRevokeTaskId then do
      let columns ← row.toTaskColumns.update task.toTaskFields (task.updatedAt <|> some now)
      constrained PanelRevokeTaskRow.satisfies { row with
        toTaskColumns := { columns with
          payload := .object task.payload
          maxAttempts := task.maxAttempts } }
    else .ok row

end Mappers

end ShopBot
