import ShopBot.UseCases.Settings

/-! # Revoking a configuration

One transaction recovers a revoke that has already succeeded, returns the task that
owns the current generation, or raises the generation and creates its revoke task.
-/

namespace ShopBot

inductive RevokePlan where
  | dispatch (vpnConfigurationId : ℕ) (task : Job) (shouldEnqueue : Bool)

  | recovered (vpnConfigurationId : ℕ)

  | result (status : String) (vpnConfigurationId : Option ℕ)
deriving DecidableEq, Repr

namespace RevokeVpn

variable (settings : Settings) (ambient : Ambient)

def nodeTaskOf (c : VpnConfiguration) (id nodeId : ℕ) (endpoint : ServerEndpoint) : NodeTask where
  maxAttempts := settings.nodeTaskMaxAttempts
  maxAttempts_pos := settings.nodeTaskMaxAttempts_pos
  nextRetryAt := some ambient.now
  taskUuid := ambient.taskUuid
  nodeId := nodeId
  operation := .revokeClient
  idempotencyKey := .revoke id c.generation ambient.taskUuid
  payload := {
    taskId := ambient.taskUuid
    idempotencyKey := .revoke id c.generation ambient.taskUuid
    clientUuid := c.clientUuid
    inboundId := (orText endpoint.localInboundId none).getD settings.nodeInboundId
    metadata := { vpnConfigurationId := id, vpnGeneration := c.generation } }
  vpnConfigurationId := some id
  subscriptionId := some c.subscriptionId
  vpnGeneration := some c.generation
  vpnGeneration_pos := c.generation_pos_of_mem

def panelInboundOf (endpoint : ServerEndpoint) : PanelInbound :=
  match orText endpoint.localInboundId none with
  | some localInboundId => .endpoint localInboundId
  | none => .settings settings.xuiInboundId

def panelTaskOf (c : VpnConfiguration) (id : ℕ) (endpoint : ServerEndpoint) :
    PanelRevokeTask where
  maxAttempts := settings.panelTaskMaxAttempts
  maxAttempts_pos := settings.panelTaskMaxAttempts_pos
  nextRetryAt := some ambient.now
  taskUuid := ambient.taskUuid
  vpnConfigurationId := id
  subscriptionId := c.subscriptionId
  vpnGeneration := c.generation
  vpnGeneration_pos := c.generation_pos
  idempotencyKey := .panelRevoke id c.generation ambient.taskUuid
  payload := {
    xuiInboundId := panelInboundOf settings endpoint
    clientUuid := c.clientUuid }

def recoverSucceededRevoke (db : Database) (c : VpnConfiguration) (id : ℕ) :
    Except Error (RevokePlan × Database) := do
  let c ← c.revoke ambient.now
  return (.recovered id, (db.saveConfiguration id c).appendAudit .vpnConfigurationRevoked
    .vpnConfiguration id)

/-- What `_existing_current_revoke_task` finds for the current generation. -/
inductive Existing where
  | recovered (plan : RevokePlan) (db : Database)

  | task (plan : RevokePlan)

  | nothing

/-- Text of the status of an existing task. -/
def taskStatusText (s : TaskStatus) : String := if s = .pending then "queued" else s.text

def existingCurrentRevokeTask (db : Database) (c : VpnConfiguration) (id : ℕ)
    (endpoint : ServerEndpoint) : Except Error Existing :=
  let recoverable := c.status = .revoking && c.desiredState = .revoked
  match endpoint.nodeId with
  | none =>
    match db.getPanelRevokeTaskForGeneration id c.generation with
    | none => .ok .nothing
    | some (t, _) =>
      if t.status = .succeeded && recoverable then do
        let (plan, db) ← recoverSucceededRevoke ambient db c id
        return .recovered plan db
      else if t.status = .failed then .ok .nothing
      else .ok (.task (.result (taskStatusText t.status) (some id)))
  | some _ =>
    match db.getVpnTaskForGeneration id .revokeClient c.generation with
    | none => .ok .nothing
    | some (t, _) =>
      if t.status = .succeeded && recoverable then do
        let (plan, db) ← recoverSucceededRevoke ambient db c id
        return .recovered plan db
      else .ok (.task (.result (taskStatusText t.status) (some id)))

theorem recoverSucceededRevoke_ok {db db' : Database} {c : VpnConfiguration} {id : ℕ}
    {plan : RevokePlan} (h : recoverSucceededRevoke ambient db c id = .ok (plan, db')) :
    ∃ c', c.revoke ambient.now = .ok c' ∧
      db' = (db.saveConfiguration id c').appendAudit .vpnConfigurationRevoked
        .vpnConfiguration id := by
  obtain ⟨c', hc', h⟩ := bind_eq_ok.1 h
  cases h
  exact ⟨c', hc', rfl⟩

/-- Only a succeeded task of the current generation recovers the revoke. -/
theorem existingCurrentRevokeTask_eq_recovered {db db' : Database} {c : VpnConfiguration}
    {id : ℕ} {endpoint : ServerEndpoint} {plan : RevokePlan}
    (h : existingCurrentRevokeTask ambient db c id endpoint = .ok (.recovered plan db')) :
    recoverSucceededRevoke ambient db c id = .ok (plan, db') ∧
    ((∃ t k, db.getPanelRevokeTaskForGeneration id c.generation = some (t, k) ∧
        t.status = .succeeded) ∨
      ∃ t k, db.getVpnTaskForGeneration id .revokeClient c.generation = some (t, k) ∧
        t.status = .succeeded) := by
  unfold existingCurrentRevokeTask at h
  dsimp only at h
  split at h
  next =>
    split at h
    next => cases h
    next t k ht =>
      split_ifs at h with hdone
      · obtain ⟨⟨_, _⟩, hr, h⟩ := bind_eq_ok.1 h
        cases h
        exact ⟨hr, .inl ⟨t, k, ht, of_decide_eq_true (Bool.and_eq_true_iff.1 hdone).1⟩⟩
      · cases h
      · cases h
  next =>
    split at h
    next => cases h
    next t k ht =>
      split_ifs at h with hdone
      · obtain ⟨⟨_, _⟩, hr, h⟩ := bind_eq_ok.1 h
        cases h
        exact ⟨hr, .inr ⟨t, k, ht, of_decide_eq_true (Bool.and_eq_true_iff.1 hdone).1⟩⟩
      · cases h

/-- Raise the generation from every status that can be revoked; a configuration that is
already revoking keeps its generation and only has its task created again. -/
def requestRevoke (c : VpnConfiguration) : Except Error (Option VpnConfiguration) :=
  match c.status with
  | .active => c.beginRevoke.map some
  | .revokeFailed => c.retryRevoke.map some
  | .provisioning => c.cancelProvisioningForRevoke.map some
  | .failed => c.requestCleanupFromFailed.map some
  | .revoking => .ok (some c)
  | _ => .ok none

def createTask (db : Database) (c : VpnConfiguration) (id : ℕ) (endpoint : ServerEndpoint) :
    Except Error (RevokePlan × Database) :=
  match endpoint.nodeId with
  | none => do
    let (t, taskId, db) ← db.addPanelRevokeTask (panelTaskOf settings ambient c id endpoint)
    return (.dispatch id (.dispatchPanelRevokeTask taskId) (t.status = .pending), db)
  | some nodeId => do
    let (t, taskId, db) ← db.addNodeTask (nodeTaskOf settings ambient c id nodeId endpoint)
    return (.dispatch id (.dispatchNodeTask taskId) (t.status = .pending), db)

/-- The part of the transaction that runs when no task owns the current generation. -/
def startRevoke (db : Database) (c : VpnConfiguration) (id : ℕ) (endpoint : ServerEndpoint) :
    Except Error (RevokePlan × Database) :=
  if c.isTerminal then .ok (.result c.status.text (some id), db)
  else do
    match ← requestRevoke c with
    | none => return (.result c.status.text (some id), db)
    | some c => createTask settings ambient (db.saveConfiguration id c) c id endpoint

/-- The part of the transaction that runs once access has been checked. -/
def revokeCurrent (db : Database) (c : VpnConfiguration) (id : ℕ) (endpoint : ServerEndpoint) :
    Except Error (RevokePlan × Database) := do
  match ← existingCurrentRevokeTask ambient db c id endpoint with
  | .recovered plan db => return (plan, db)
  | .task plan =>
    if c.status = .revoking then return (plan, db)
    else if c.status = .failed && c.desiredState = .revoked then return (plan, db)
    else startRevoke settings ambient db c id endpoint
  | .nothing => startRevoke settings ambient db c id endpoint

def preparePlan (db : Database) (id : ℕ) (reason : VpnRevokeReason) :
    Except Error (RevokePlan × Database) :=
  match db.getConfigurationWithEndpoint id with
  | none => .ok (.result "missing" none, db)
  | some (c, endpoint) =>
    if reason = .expiration then
      match db.getSubscription c.subscriptionId with
      | none => .ok (.result "missing_subscription" (some id), db)
      | some subscription =>
        if subscription.status = .active &&
            (db.getCurrentPeriod c.subscriptionId ambient.now).isSome then
          .ok (.result "skipped_current_access" (some id), db)
        else revokeCurrent settings ambient db c id endpoint
    else revokeCurrent settings ambient db c id endpoint

/-- Jobs enqueued after the transaction. -/
def jobs : RevokePlan → List Job
  | .dispatch _ task true => [task]
  | _ => []

end RevokeVpn

end ShopBot
