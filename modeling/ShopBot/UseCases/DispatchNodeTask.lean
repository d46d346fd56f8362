import ShopBot.UseCases.Settings

/-! # Dispatching node tasks

A worker claims a task in one transaction, sends the request to the node without one,
and records the outcome in another. Expired claims are recovered in batches.
-/

namespace ShopBot

structure PreparedDispatch where
  taskId : ℕ
  task : NodeTask
  attemptId : ℕ
  attemptNo : ℕ
  leaseToken : Uuid
deriving DecidableEq, Repr

inductive NodePreparation where
  | prepared (p : PreparedDispatch)

  | result (status : String)
deriving DecidableEq, Repr

/-- What `_send` returns: the node's response, or the text of the raised exception. -/
inductive NodeReply where
  | response (r : NodeResponse)

  | error (text : String)
deriving DecidableEq, Repr

structure DispatchFinalization where
  status : String
  followUpTaskId : Option ℕ := none
deriving DecidableEq, Repr

namespace DispatchNodeTask

variable (settings : Settings) (ambient : Ambient)

/-! ## Recording failures -/

/-- `_mark_configuration_failure`: a final failure of the current operation fails the
configuration; any other failure leaves it alone. -/
def markConfigurationFailure (db : Database) (t : NodeTask) : Except Error Database :=
  match t.vpnConfigurationId with
  | none => .ok db
  | some id =>
    match db.getConfiguration id with
    | none => .ok db
    | some c =>
      if t.vpnGeneration ≠ some c.generation then .ok db
      else if t.operation = .provisionClient ∧ c.desiredState = .active ∧
          c.status = .provisioning then
        c.failProvisioning.map (db.saveConfiguration id)
      else if t.operation = .revokeClient ∧ c.desiredState = .revoked ∧
          c.status = .revoking then
        c.failRevoke.map (db.saveConfiguration id)
      else .ok db

def failOrRetry (db : Database) (t : NodeTask) (taskId : ℕ) (lastError : String)
    (responsePayload : Option NodeResponse) : Except Error (String × Database) := do
  let t := t.retry lastError responsePayload ambient.now settings.nodeRetryBaseSeconds
  let db := db.saveNodeTask taskId t
  if t.status ≠ .failed then return ("retry_scheduled", db)
  else
    let db ← markConfigurationFailure db t
    return ("failed", db)

/-! ## Claiming a task -/

def earlyResult (t : NodeTask) (now : DateTime) : Option String :=
  if t.status = .succeeded then some "succeeded"
  else if t.status = .failed then some "failed"
  else if t.canDispatch now then none
  else some "scheduled"

def deferUnavailableNode (db : Database) (t : NodeTask) (taskId : ℕ) (reason : String) :
    Except Error (NodePreparation × Database) := do
  let t ← t.deferWithoutAttempt ambient.now settings.nodeUnavailableRetrySeconds reason
  return (.result reason, db.saveNodeTask taskId t)

def allowsOperation (t : NodeTask) (node : Node) : Bool :=
  NodeAvailabilityPolicy.allowsOperation ⟨settings.nodeHealthStaleAfterSeconds⟩
    ((node.health.map (·.healthStatus)).getD .unknown) node.isEnabled
    (node.health.bind (·.lastCheckedAt)) ambient.now (t.operation = .provisionClient)

def startTask (db : Database) (t : NodeTask) (taskId : ℕ) (node : Node) :
    Except Error (NodePreparation × Database) := do
  let t ← t.startAttempt ambient.now (ambient.now + seconds settings.nodeLeaseSeconds)
    ambient.leaseToken
  let db := db.saveNodeTask taskId t
  let (attemptId, db) ← db.createTaskAttempt {
    nodeTaskId := taskId
    attemptNo := t.attempts
    requestPayload := t.payload
    startedAt := ambient.now }
  if node.activeCredential.isNone then
    let error := "Active node credential not found"
    let db := db.finishTaskAttempt attemptId .failed ambient.now none (some error)
    let (_, db) ← failOrRetry settings ambient db t taskId error none
    return (.result "credential_missing", db)
  else
    return (.prepared {
      taskId := taskId
      task := t
      attemptId := attemptId
      attemptNo := t.attempts
      leaseToken := ambient.leaseToken }, db)

def prepare (db : Database) (taskId : ℕ) : Except Error (NodePreparation × Database) :=
  match db.getNodeTask taskId with
  | none => .ok (.result "missing", db)
  | some t =>
    match earlyResult t ambient.now with
    | some status => .ok (.result status, db)
    | none =>
      match db.nodes[t.nodeId]? with
      | none => deferUnavailableNode settings ambient db t taskId "node_missing"
      | some node =>
        if allowsOperation settings ambient t node then startTask settings ambient db t taskId node
        else deferUnavailableNode settings ambient db t taskId "node_unavailable"

/-! ## Recording an outcome -/

def revokeFollowUp (t : NodeTask) (configurationId generation : ℕ)
    (generation_pos : 0 < generation) : NodeTask where
  maxAttempts := t.maxAttempts
  maxAttempts_pos := t.attempts_bound_pos
  nextRetryAt := some ambient.now
  taskUuid := ambient.taskUuid
  nodeId := t.nodeId
  operation := .revokeClient
  idempotencyKey := .revoke configurationId generation ambient.taskUuid
  payload := {
    taskId := ambient.taskUuid
    idempotencyKey := .revoke configurationId generation ambient.taskUuid
    clientUuid := t.payload.clientUuid
    inboundId := t.payload.inboundId
    metadata := { t.payload.metadata with
      vpnGeneration := generation
      compensationForTaskId := some t.payload.taskId } }
  vpnConfigurationId := some configurationId
  subscriptionId := t.subscriptionId
  vpnGeneration := some generation
  vpnGeneration_pos := fun _ h => Option.mem_some.1 h ▸ generation_pos

/-- The current operation of a configuration that is being provisioned. -/
def isCurrentProvision (generation : Option ℕ) (c : VpnConfiguration) : Bool :=
  generation = some c.generation && c.desiredState = .active && c.status = .provisioning

/-- The current operation of a configuration that is being revoked. -/
def isCurrentRevoke (generation : Option ℕ) (c : VpnConfiguration) : Bool :=
  generation = some c.generation && c.desiredState = .revoked && c.status = .revoking

/-- The cleanup of a provision that took effect while it was no longer wanted. -/
def addFollowUp (db : Database) (t : NodeTask) (c : VpnConfiguration) (configurationId : ℕ)
    (remoteStatus : String) : Except Error (DispatchFinalization × Database) := do
  let (_, followUpId, db) ← db.addNodeTask
    (revokeFollowUp ambient t configurationId c.generation c.generation_pos)
  return ({ status := remoteStatus, followUpTaskId := some followUpId }, db)

def completeProvision (db : Database) (t : NodeTask) (configurationId : ℕ)
    (remoteStatus : String) : Except Error (DispatchFinalization × Database) :=
  let currentPeriod := t.subscriptionId.bind fun id => db.getCurrentPeriod id ambient.now
  match db.getConfiguration configurationId with
  | none => .error (.runtime "VPN configuration for node task was not found")
  | some c =>
    if isCurrentProvision t.vpnGeneration c then
      if currentPeriod.isSome then do
        let c ← c.activate t.remoteClientRef
        return ({ status := remoteStatus }, (db.saveConfiguration configurationId c).appendAudit
          .vpnConfigurationActivated .vpnConfiguration configurationId)
      else do
        let cancelled ← c.cancelProvisioningForRevoke
        let cancelled := { cancelled with
          remoteClientRef := orText t.remoteClientRef cancelled.remoteClientRef }
        addFollowUp ambient (db.saveConfiguration configurationId cancelled) t cancelled
          configurationId remoteStatus
    else addFollowUp ambient db t c configurationId remoteStatus

def completeRevoke (db : Database) (t : NodeTask) (configurationId : ℕ)
    (remoteStatus : String) : Except Error (DispatchFinalization × Database) :=
  match db.getConfiguration configurationId with
  | none => .ok ({ status := remoteStatus }, db)
  | some c =>
    if isCurrentRevoke t.vpnGeneration c then do
      let c ← c.revoke ambient.now
      return ({ status := remoteStatus }, (db.saveConfiguration configurationId c).appendAudit
        .vpnConfigurationRevoked .vpnConfiguration configurationId)
    else .ok ({ status := remoteStatus }, db)

def finalizeSuccess (db : Database) (t : NodeTask) (taskId : ℕ) (response : NodeResponse) :
    Except Error (DispatchFinalization × Database) := do
  let remoteStatus := response.status.getD "succeeded"
  let t ← t.complete response ambient.now
  let db := db.saveNodeTask taskId t
  match t.operation, t.vpnConfigurationId with
  | .provisionClient, some id => completeProvision ambient db t id remoteStatus
  | .revokeClient, some id => completeRevoke ambient db t id remoteStatus
  | _, _ => .ok ({ status := remoteStatus }, db)

def errorFromResponse (r : NodeResponse) : String :=
  match orText r.message (orText r.errorCode none) with
  | some text => text
  | none =>
    match orText r.status none with
    | some status => s!"Node returned status={status}"
    | none => "Node request failed"

def finalize (db : Database) (prepared : PreparedDispatch) (reply : NodeReply) :
    Except Error (DispatchFinalization × Database) :=
  match db.getNodeTask prepared.taskId with
  | none => .ok ({ status := "missing" }, db)
  | some t =>
    if t.ownsActiveLease prepared.leaseToken prepared.attemptNo ambient.now then
      match reply with
      | .error text => do
        let db := db.finishTaskAttempt prepared.attemptId .failed ambient.now none (some text)
        let (status, db) ← failOrRetry settings ambient db t prepared.taskId text none
        return ({ status := status }, db)
      | .response r =>
        if t.acceptsRemoteStatus (r.status.getD "failed") then
          let db := db.finishTaskAttempt prepared.attemptId .succeeded ambient.now (some r) none
          finalizeSuccess ambient db t prepared.taskId r
        else do
          let error := errorFromResponse r
          let db := db.finishTaskAttempt prepared.attemptId .failed ambient.now (some r)
            (some error)
          let (status, db) ← failOrRetry settings ambient db t prepared.taskId error (some r)
          return ({ status := status }, db)
    else .ok ({ status := "stale_attempt" }, db)

/-! ## Recovering expired leases -/

def recoverOne (db : Database) (taskId : ℕ) : Except Error Database :=
  match db.getNodeTask taskId with
  | none => .ok db
  | some t =>
    if t.leaseIsExpired ambient.now then do
      let db := db.failStartedTaskAttempt taskId t.attempts ambient.now "node task lease expired"
      let t ← t.recoverExpiredLease ambient.now "node task lease expired"
        settings.nodeRetryBaseSeconds
      let db := db.saveNodeTask taskId t
      if t.status = .failed then markConfigurationFailure db t
      else return db
    else .ok db

/-- The rows are distinct, so each is read when its turn comes. -/
def recoverAll (db : Database) : List ℕ → Except Error Database
  | [] => .ok db
  | taskId :: rest => do
    let db ← recoverOne settings ambient db taskId
    recoverAll db rest

def recoverStale (db : Database) (locked : List ℕ) (limit : ℕ) : Except Error Database :=
  recoverAll settings ambient db
    (Database.staleIds (db.nodeTasks.map (·.toDurableTask)) ambient.now locked limit)

/-- Jobs enqueued after a finalisation. -/
def jobs (f : DispatchFinalization) : List Job :=
  (f.followUpTaskId.map .dispatchNodeTask).toList

end DispatchNodeTask

end ShopBot
