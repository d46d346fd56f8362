import ShopBot.UseCases.Settings

/-! # Provisioning a subscription

One transaction decides what a subscription with current access needs: nothing, the
recovery of a provision that has already succeeded, a cleanup, the task of the
configuration being provisioned, or a new configuration on a selected endpoint.
-/

namespace ShopBot

inductive ProvisionPlan where
  /-- A task that does the work, and whether it must be enqueued now. -/
  | dispatch (vpnConfigurationId : ℕ) (task : Job) (shouldEnqueue : Bool)

  | cleanup (vpnConfigurationId : ℕ)

  | recovered (vpnConfigurationId : ℕ)

  | result (status : String) (vpnConfigurationId : Option ℕ)
deriving DecidableEq, Repr

namespace ProvisionVpn

variable (settings : Settings) (ambient : Ambient)

def candidateOf (db : Database) (endpointId : ℕ) : Option NodeSelectionCandidate := do
  let endpoint ← db.serverEndpoints[endpointId]?
  let nodeId ← endpoint.nodeId
  let node ← db.nodes[nodeId]?
  let reserved := db.vpnConfigurations.countP fun c =>
    !c.isTerminal && (db.serverEndpoints[c.serverEndpointId]?).any (·.nodeId = some nodeId)
  return {
    nodeId := nodeId
    endpointId := endpointId
    nodeStatus := (node.health.map (·.healthStatus)).getD .unknown
    isEnabled := node.isEnabled
    lastCheckedAt := node.health.bind (·.lastCheckedAt)
    activeClients := node.health.bind (·.activeClients)
    maxClients := node.health.bind (·.maxClients)
    selectionWeight := if node.selectionWeight = 0 then 1 else node.selectionWeight
    localReservedClients := reserved }

/-- `list_node_selection_candidates`: enabled endpoints of enabled servers with a node. -/
def nodeSelectionCandidates (db : Database) : List NodeSelectionCandidate :=
  ((Table.select (fun e => e.serverIsEnabled && e.isEnabled) db.serverEndpoints).filterMap
    fun row => candidateOf db row.2)

/-- `get_first_enabled_endpoint`: the first enabled endpoint without a node. -/
def firstEnabledEndpoint (db : Database) : Option (ServerEndpoint × ℕ) :=
  ((Table.select (fun e => e.serverIsEnabled && e.isEnabled && e.nodeId.isNone)
    db.serverEndpoints).insertionSort fun r s =>
      r.1.serverId < s.1.serverId ∨ (r.1.serverId = s.1.serverId ∧ r.2 ≤ s.2)).head?

def selectEndpoint (db : Database) : Option (ServerEndpoint × ℕ) :=
  let candidates := nodeSelectionCandidates db
  let policy : NodeAvailabilityPolicy := ⟨settings.nodeHealthStaleAfterSeconds⟩
  match WeightedNodeSelector.select ambient.ticket candidates ambient.now policy with
  | some selected =>
    -- the row is read again under the lock of its node
    match candidates.find? (fun c => c.nodeId = selected.nodeId &&
        c.endpointId = selected.endpointId) with
    | none => none
    | some locked =>
      if policy.eligible locked ambient.now then
        (db.serverEndpoints[locked.endpointId]?).map (·, locked.endpointId)
      else none
  | none => if candidates.isEmpty then firstEnabledEndpoint db else none

/-- `VpnProvisioningService.prepare`; the use case stores the result as provisioning. -/
def prepareConfiguration (subscriptionId : ℕ) (endpoint : ServerEndpoint) (endpointId : ℕ) :
    Except Error VpnConfiguration := do
  validateVlessEndpoint endpoint.protocol endpoint.security endpoint.sni endpoint.fingerprint
    endpoint.publicKey endpoint.shortId endpoint.flow
  return {
    subscriptionId := subscriptionId
    serverEndpointId := endpointId
    clientUuid := ambient.clientUuid
    displayName := s!"{settings.displayNamePrefix}-{subscriptionId}"
    status := .provisioning }

def loadOrCreateConfiguration (db : Database) (subscriptionId : ℕ) (endpoint : ServerEndpoint)
    (endpointId : ℕ) (latest : Option (VpnConfiguration × ℕ)) :
    Except Error (VpnConfiguration × ℕ × Database) :=
  let create := do
    let prepared ← prepareConfiguration settings ambient subscriptionId endpoint endpointId
    let (id, db) ← db.addConfiguration prepared
    return (prepared, id, db.appendAudit .vpnConfigurationCreated .vpnConfiguration id)
  match latest with
  | some (c, id) => if c.isTerminal then create else .ok (c, id, db)
  | none => create

/-- The configuration is the latest one, or it is created after every one has ended. -/
theorem loadOrCreateConfiguration_cases {db db' : Database} {subscriptionId endpointId id : ℕ}
    {endpoint : ServerEndpoint} {latest : Option (VpnConfiguration × ℕ)} {c : VpnConfiguration}
    (h : loadOrCreateConfiguration settings ambient db subscriptionId endpoint endpointId latest =
      .ok (c, id, db')) :
    (latest = some (c, id) ∧ c.isTerminal = false ∧ db' = db) ∨
    ∃ db₀, prepareConfiguration settings ambient subscriptionId endpoint endpointId = .ok c ∧
      db.addConfiguration c = .ok (id, db₀) ∧
      db' = db₀.appendAudit .vpnConfigurationCreated .vpnConfiguration id := by
  have hnone : loadOrCreateConfiguration settings ambient db subscriptionId endpoint endpointId
      none = .ok (c, id, db') →
      ∃ db₀, prepareConfiguration settings ambient subscriptionId endpoint endpointId = .ok c ∧
        db.addConfiguration c = .ok (id, db₀) ∧
        db' = db₀.appendAudit .vpnConfigurationCreated .vpnConfiguration id := by
    intro h
    obtain ⟨prepared, hprepared, h⟩ := bind_eq_ok.1 h
    obtain ⟨⟨_, db₀⟩, hadd, h⟩ := bind_eq_ok.1 h
    cases h
    exact ⟨db₀, hprepared, hadd, rfl⟩
  cases latest with
  | none => exact .inr (hnone h)
  | some row =>
    cases hterminal : row.1.isTerminal with
    | true => exact .inr (hnone ((if_pos hterminal).symm.trans h))
    | false =>
      cases (if_neg (Bool.eq_false_iff.1 hterminal)).symm.trans h
      exact .inl ⟨rfl, hterminal, rfl⟩

def nodeTaskOf (c : VpnConfiguration) (id nodeId : ℕ) (endpoint : ServerEndpoint)
    (expiresAt : DateTime) : NodeTask where
  maxAttempts := settings.nodeTaskMaxAttempts
  maxAttempts_pos := settings.nodeTaskMaxAttempts_pos
  nextRetryAt := some ambient.now
  taskUuid := ambient.taskUuid
  nodeId := nodeId
  operation := .provisionClient
  idempotencyKey := .provision id c.generation ambient.taskUuid
  payload := {
    taskId := ambient.taskUuid
    idempotencyKey := .provision id c.generation ambient.taskUuid
    clientUuid := c.clientUuid
    inboundId := (orText endpoint.localInboundId none).getD settings.nodeInboundId
    metadata := { vpnConfigurationId := id, vpnGeneration := c.generation }
    displayName := some c.displayName
    flow := endpoint.flow
    expiresAt := some expiresAt }
  vpnConfigurationId := some id
  subscriptionId := some c.subscriptionId
  vpnGeneration := some c.generation
  vpnGeneration_pos := c.generation_pos_of_mem

def panelInboundOf (endpoint : ServerEndpoint) : PanelInbound :=
  match orText endpoint.localInboundId none with
  | some localInboundId => .endpoint localInboundId
  | none => .settings settings.xuiInboundId

def panelTaskOf (c : VpnConfiguration) (id : ℕ) (endpoint : ServerEndpoint)
    (expiresAt : DateTime) : PanelProvisionTask where
  maxAttempts := settings.panelTaskMaxAttempts
  maxAttempts_pos := settings.panelTaskMaxAttempts_pos
  nextRetryAt := some ambient.now
  vpnConfigurationId := id
  subscriptionId := c.subscriptionId
  idempotencyKey := .panelProvision id
  payload := {
    xuiInboundId := panelInboundOf settings endpoint
    clientUuid := c.clientUuid
    displayName := some c.displayName
    flow := endpoint.flow
    expiresAt := some expiresAt }
  vpnGeneration := c.generation
  vpnGeneration_pos := c.generation_pos

def createNodeTask (db : Database) (c : VpnConfiguration) (id nodeId : ℕ)
    (endpoint : ServerEndpoint) (expiresAt : DateTime) :
    Except Error (ProvisionPlan × Database) := do
  let (t, taskId, db) ← db.addNodeTask
    (nodeTaskOf settings ambient c id nodeId endpoint expiresAt)
  return (.dispatch id (.dispatchNodeTask taskId) (t.status = .pending), db)

def createPanelTask (db : Database) (c : VpnConfiguration) (id : ℕ) (endpoint : ServerEndpoint)
    (expiresAt : DateTime) : Except Error (ProvisionPlan × Database) := do
  let (t, taskId, db) ← db.addPanelProvisionTask settings.mapper
    (panelTaskOf settings ambient c id endpoint expiresAt)
  return (.dispatch id (.dispatchPanelProvisionTask taskId) (t.status = .pending), db)

def recoverSucceededProvision (db : Database) (c : VpnConfiguration) (id : ℕ)
    (remoteClientRef : Option String) : Except Error (ProvisionPlan × Database) := do
  let c ← c.activate remoteClientRef
  return (.recovered id, (db.saveConfiguration id c).appendAudit .vpnConfigurationActivated
    .vpnConfiguration id)

def reuseExistingProvisioning (db : Database) (latest : VpnConfiguration) (id : ℕ)
    (expiresAt : DateTime) : Except Error (ProvisionPlan × Database) :=
  if latest.desiredState ≠ .active then .ok (.cleanup id, db)
  else match db.getConfigurationWithEndpoint id with
  | none => .error (.runtime "Failed to load existing provisioning configuration")
  | some (_, endpoint) =>
    match endpoint.nodeId with
    | some nodeId =>
      match db.getVpnTaskForGeneration id .provisionClient latest.generation with
      | none => createNodeTask settings ambient db latest id nodeId endpoint expiresAt
      | some (t, taskId) =>
        match t.status with
        | .succeeded => recoverSucceededProvision db latest id t.remoteClientRef
        | .failed | .cancelled => .ok (.cleanup id, db)
        | _ => .ok (.dispatch id (.dispatchNodeTask taskId) (t.status = .pending), db)
    | none => do
      match ← db.getPanelTaskForConfiguration settings.mapper id with
      | none => createPanelTask settings ambient db latest id endpoint expiresAt
      | some (t, taskId) =>
        match t.status with
        | .succeeded => recoverSucceededProvision db latest id none
        | .failed | .cancelled => .ok (.cleanup id, db)
        | _ => .ok (.dispatch id (.dispatchPanelProvisionTask taskId) (t.status = .pending), db)

def provisionNew (db : Database) (subscriptionId : ℕ)
    (latest : Option (VpnConfiguration × ℕ)) (expiresAt : DateTime) :
    Except Error (ProvisionPlan × Database) :=
  match selectEndpoint settings ambient db with
  | none => .ok (.result "waiting_for_node_capacity" none, db)
  | some (endpoint, endpointId) => do
    let (c, id, db) ← loadOrCreateConfiguration settings ambient db subscriptionId endpoint
      endpointId latest
    match db.getConfigurationWithEndpoint id with
    | none => .error (.runtime "Failed to load VPN configuration row")
    | some (_, endpoint') =>
      match endpoint.nodeId with
      | none => createPanelTask settings ambient db c id endpoint' expiresAt
      | some nodeId => createNodeTask settings ambient db c id nodeId endpoint' expiresAt

/-- The rest of the transaction once an endpoint has been selected. -/
def provisionOn (db : Database) (subscriptionId : ℕ) (endpoint : ServerEndpoint) (endpointId : ℕ)
    (latest : Option (VpnConfiguration × ℕ)) (expiresAt : DateTime) :
    Except Error (ProvisionPlan × Database) := do
  let (c, id, db) ← loadOrCreateConfiguration settings ambient db subscriptionId endpoint
    endpointId latest
  match db.getConfigurationWithEndpoint id with
  | none => .error (.runtime "Failed to load VPN configuration row")
  | some (_, endpoint') =>
    match endpoint.nodeId with
    | none => createPanelTask settings ambient db c id endpoint' expiresAt
    | some nodeId => createNodeTask settings ambient db c id nodeId endpoint' expiresAt

theorem provisionNew_eq_provisionOn {db : Database} {subscriptionId : ℕ}
    {latest : Option (VpnConfiguration × ℕ)} {expiresAt : DateTime} :
    provisionNew settings ambient db subscriptionId latest expiresAt =
      match selectEndpoint settings ambient db with
      | none => .ok (.result "waiting_for_node_capacity" none, db)
      | some (endpoint, endpointId) =>
        provisionOn settings ambient db subscriptionId endpoint endpointId latest expiresAt :=
  rfl

def preparePlan (db : Database) (subscriptionId : ℕ) : Except Error (ProvisionPlan × Database) :=
  match db.getSubscription subscriptionId with
  | none => .ok (.result "missing" none, db)
  | some subscription =>
    if subscription.status ≠ .active then .ok (.result subscription.status.text none, db)
    else match db.getCurrentPeriod subscriptionId ambient.now with
    | none => .ok (.result "no_current_access" none, db)
    | some period =>
      match db.getActiveForSubscription subscriptionId with
      | some (_, id) => .ok (.result "active" (some id), db)
      | none =>
        match db.getLatestForSubscription subscriptionId with
        | none => provisionNew settings ambient db subscriptionId none period.expiresAt
        | some (latest, id) =>
          match latest.status with
          | .revoking | .revokeFailed => .ok (.result latest.status.text (some id), db)
          | .failed => .ok (.cleanup id, db)
          | .provisioning =>
            reuseExistingProvisioning settings ambient db latest id period.expiresAt
          | _ =>
            provisionNew settings ambient db subscriptionId (some (latest, id)) period.expiresAt

/-- Jobs enqueued after the transaction. -/
def jobs : ProvisionPlan → List Job
  | .cleanup id => [.revokeVpnConfiguration id .replacementCleanup]
  | .dispatch _ task true => [task]
  | _ => []

end ProvisionVpn

end ShopBot
