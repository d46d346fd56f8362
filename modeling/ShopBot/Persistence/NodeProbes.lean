import Mathlib
import ShopBot.Domain.Node

/-! # Node probes

The tables `nodes` and `node_status` and the operations that register, report and probe a
node. A status row is stored under the position of its node, and a node may have none.
-/

namespace ShopBot

/-- A document that is stored and never looked into. -/
abbrev JsonText := String

/-- The keys of the metrics document that have columns of their own. -/
structure NodeMetrics where
  activeClients : Option ℤ := none
  maxClients : Option ℤ := none
deriving DecidableEq, Repr

structure NodeRow where
  nodeKey : String
  displayName : String
  apiBaseUrl : String
  status : NodeStatus := .unknown
  isEnabled : Bool := true
  selectionWeight : ℤ := 100
  lastSeenAt : Option DateTime := none
  lastCheckedAt : Option DateTime := none
  lastFailedAt : Option DateTime := none
  lastError : Option String := none
  updatedAt : DateTime
deriving DecidableEq, Repr

structure NodeStatusRow where
  healthStatus : NodeStatus := .unknown
  agentVersion : Option String := none
  capabilities : JsonText := "\x7b\x7d"
  metrics : NodeMetrics := {}
  statusPayload : JsonText := "\x7b\x7d"
  inbounds : JsonText := "[]"
  lastSeenAt : Option DateTime := none
  lastCheckedAt : Option DateTime := none
  lastFailedAt : Option DateTime := none
  activeClients : Option ℤ := none
  maxClients : Option ℤ := none
  probeLeaseToken : Option Uuid := none
  probeLeaseExpiresAt : Option DateTime := none
  updatedAt : DateTime
deriving DecidableEq, Repr

/-- What a probe or a report says about a node. -/
structure NodeReport where
  healthStatus : NodeStatus
  agentVersion : Option String
  capabilities : JsonText
  metrics : NodeMetrics
  statusPayload : JsonText
  inbounds : JsonText
  lastSeenAt : Option DateTime := none
  lastError : Option String := none
deriving DecidableEq, Repr

structure NodeTables where
  nodes : List NodeRow := []
  nodeStatus : ℕ → Option NodeStatusRow := fun _ => none

/-- A row of `node_status` joined with its node. -/
structure ProbeTarget where
  nodeId : ℕ
  node : NodeRow
  status : NodeStatusRow
deriving DecidableEq, Repr

structure NodeProbeClaim where
  nodeId : ℕ
  leaseToken : Uuid
  node : ProbeTarget
deriving DecidableEq, Repr

/-- The constraints of `nodes` on a single row. -/
def NodeRow.check (row : NodeRow) : Except Error Unit := do
  require (!btrimIsEmpty row.nodeKey) (.integrity "nodes_node_key_not_blank")
  require (!btrimIsEmpty row.displayName) (.integrity "nodes_display_name_not_blank")
  require (!btrimIsEmpty row.apiBaseUrl) (.integrity "nodes_api_base_url_not_blank")
  require (0 < row.selectionWeight) (.integrity "nodes_selection_weight_positive")

/-- The range of an `Integer` column. -/
def isInt32 (n : ℤ) : Bool := -2147483648 ≤ n && n ≤ 2147483647

/-- The column types and the constraints of `node_status` on a single row. -/
def NodeStatusRow.check (row : NodeStatusRow) : Except Error Unit := do
  require (row.activeClients.all isInt32 && row.maxClients.all isInt32)
    (.valueError "value out of int32 range")
  require (row.activeClients.all (0 ≤ ·)) (.integrity "node_status_active_clients_nonnegative")
  require (row.maxClients.all (0 < ·)) (.integrity "node_status_max_clients_positive")
  require (row.probeLeaseToken.isNone = row.probeLeaseExpiresAt.isNone)
    (.integrity "node_status_probe_lease_pair")

namespace ProbeTarget

/-- The `where` of the probe query. -/
def isDue (r : ProbeTarget) (now dueBefore : DateTime) : Bool :=
  r.node.isEnabled && r.status.lastCheckedAt.all (· ≤ dueBefore)
    && r.status.probeLeaseExpiresAt.all (· ≤ now)

/-- The `order by` of the probe query: a missing check comes first. -/
def key (r : ProbeTarget) : WithBot DateTime ×ₗ ℕ := toLex (r.status.lastCheckedAt, r.nodeId)

end ProbeTarget

namespace NodeTables

def createNode (t : NodeTables) (nodeKey displayName apiBaseUrl : String) (isEnabled : Bool)
    (selectionWeight : ℤ) (status : NodeStatus) (now : DateTime) :
    Except Error (ℕ × NodeTables) := do
  let row : NodeRow :=
    { nodeKey, displayName, apiBaseUrl, isEnabled, selectionWeight, status, updatedAt := now }
  row.check
  require (!t.nodes.any (·.nodeKey = row.nodeKey))
    (.conflict "Node with the same key already exists")
  return (t.nodes.length, { t with nodes := t.nodes ++ [row] })

/-- `update(nodes).where(nodes.c.node_id == node_id)`. -/
def updateNode (t : NodeTables) (nodeId : ℕ) (values : NodeRow → NodeRow) : NodeTables :=
  { t with nodes := t.nodes.modify nodeId values }

/-- Write a row of `node_status` under the constraints of the table. -/
def putStatus (t : NodeTables) (nodeId : ℕ) (row : NodeStatusRow) : Except Error NodeTables := do
  row.check
  require (nodeId < t.nodes.length) (.integrity "node_status_node_id_fkey")
  return { t with nodeStatus := Function.update t.nodeStatus nodeId (some row) }

def upsertNodeStatus (t : NodeTables) (nodeId : ℕ) (report : NodeReport)
    (lastCheckedAt lastFailedAt : Option DateTime) (now : DateTime) : Except Error NodeTables := do
  let checkedAt := (lastCheckedAt <|> report.lastSeenAt).getD now
  let row : NodeStatusRow := match t.nodeStatus nodeId with
    | none => {
        healthStatus := report.healthStatus
        agentVersion := report.agentVersion
        capabilities := report.capabilities
        metrics := report.metrics
        statusPayload := report.statusPayload
        inbounds := report.inbounds
        lastSeenAt := report.lastSeenAt
        lastCheckedAt := some checkedAt
        lastFailedAt := lastFailedAt
        updatedAt := checkedAt }
    -- only an update fills the columns of the client counts
    | some row => { row with
        healthStatus := report.healthStatus
        agentVersion := report.agentVersion
        capabilities := report.capabilities
        metrics := report.metrics
        statusPayload := report.statusPayload
        inbounds := report.inbounds
        lastSeenAt := report.lastSeenAt
        lastCheckedAt := some checkedAt
        lastFailedAt := lastFailedAt
        activeClients := report.metrics.activeClients
        maxClients := report.metrics.maxClients
        updatedAt := checkedAt }
  let t ← t.putStatus nodeId row
  return t.updateNode nodeId fun node => { node with
    status := report.healthStatus
    lastSeenAt := report.lastSeenAt
    lastCheckedAt := some checkedAt
    lastFailedAt := lastFailedAt
    updatedAt := checkedAt
    lastError := report.lastError }

def markNodeUnreachable (t : NodeTables) (nodeId : ℕ) (errorMessage : String)
    (seenAt : DateTime) : Except Error NodeTables := do
  let t := t.updateNode nodeId fun node =>
    { node with status := .offline, lastError := some errorMessage, updatedAt := seenAt }
  let row := (t.nodeStatus nodeId).getD { updatedAt := seenAt }
  t.putStatus nodeId { row with
    healthStatus := .offline
    lastCheckedAt := some seenAt
    lastFailedAt := some seenAt
    updatedAt := seenAt }

/-- `node_status` joined with `nodes`. -/
def probeTargets (t : NodeTables) : List ProbeTarget :=
  (List.range t.nodes.length).filterMap fun nodeId =>
    match t.nodes[nodeId]?, t.nodeStatus nodeId with
    | some node, some status => some { nodeId, node, status }
    | _, _ => none

def dueProbeTargets (t : NodeTables) (now dueBefore : DateTime) (limit : ℕ) : List ProbeTarget :=
  ((t.probeTargets.filter (·.isDue now dueBefore)).insertionSort (·.key ≤ ·.key)).take limit

/-- `update(node_status)` with the lease of a claim. -/
def leaseProbe (t : NodeTables) (expiresAt : DateTime) (claim : NodeProbeClaim) : NodeTables :=
  let row := (t.nodeStatus claim.nodeId).map fun row => { row with
    probeLeaseToken := some claim.leaseToken
    probeLeaseExpiresAt := some expiresAt }
  { t with nodeStatus := Function.update t.nodeStatus claim.nodeId row }

/-- The claims of the due targets, with the tokens that `uuid4` draws one after the other. -/
def probeClaims (t : NodeTables) (now dueBefore : DateTime) (limit : ℕ) (uuid4 : ℕ → Uuid) :
    List NodeProbeClaim :=
  (t.dueProbeTargets now dueBefore limit).mapIdx fun i r =>
    { nodeId := r.nodeId, leaseToken := uuid4 i, node := r }

def claimDueProbeTargets (t : NodeTables) (now dueBefore : DateTime) (limit : ℕ)
    (leaseSeconds : ℤ) (uuid4 : ℕ → Uuid) : List NodeProbeClaim × NodeTables :=
  let claims := t.probeClaims now dueBefore limit uuid4
  (claims, claims.foldl (fun t claim => t.leaseProbe (now + seconds leaseSeconds) claim) t)

def finalizeProbe (t : NodeTables) (nodeId : ℕ) (leaseToken : Uuid) (report : NodeReport)
    (completedAt : DateTime) : Except Error (Bool × NodeTables) :=
  match t.nodeStatus nodeId with
  | none => .ok (false, t)
  | some row =>
    if row.probeLeaseToken = some leaseToken then do
      -- an empty error text counts as no error
      let lastFailedAt := if report.lastError.all (· = "") then none else some completedAt
      let t ← t.putStatus nodeId { row with
        healthStatus := report.healthStatus
        agentVersion := report.agentVersion
        capabilities := report.capabilities
        metrics := report.metrics
        statusPayload := report.statusPayload
        inbounds := report.inbounds
        lastSeenAt := report.lastSeenAt
        lastCheckedAt := some completedAt
        lastFailedAt := lastFailedAt
        activeClients := report.metrics.activeClients
        maxClients := report.metrics.maxClients
        probeLeaseToken := none
        probeLeaseExpiresAt := none
        updatedAt := completedAt }
      return (true, t.updateNode nodeId fun node => { node with
        status := report.healthStatus
        lastCheckedAt := some completedAt
        lastFailedAt := lastFailedAt
        lastSeenAt := report.lastSeenAt
        lastError := report.lastError
        updatedAt := completedAt })
    else .ok (false, t)

/-! ## Leases of probes -/

def lastCheckedAt (t : NodeTables) (nodeId : ℕ) : Option DateTime :=
  (t.nodeStatus nodeId).bind (·.lastCheckedAt)

def probeLeaseToken (t : NodeTables) (nodeId : ℕ) : Option Uuid :=
  (t.nodeStatus nodeId).bind (·.probeLeaseToken)

def probeLeaseExpiresAt (t : NodeTables) (nodeId : ℕ) : Option DateTime :=
  (t.nodeStatus nodeId).bind (·.probeLeaseExpiresAt)

/-- The leases of both tables are the same. -/
structure SameLeases (t t' : NodeTables) : Prop where
  token : t'.probeLeaseToken = t.probeLeaseToken
  expiresAt : t'.probeLeaseExpiresAt = t.probeLeaseExpiresAt

variable {t t' : NodeTables} {nodeId id limit : ℕ} {row : NodeStatusRow} {r : ProbeTarget}
  {claims : List NodeProbeClaim} {claim : NodeProbeClaim} {report : NodeReport}
  {now dueBefore expiresAt completedAt seenAt : DateTime} {leaseToken : Uuid}
  {uuid4 : ℕ → Uuid} {accepted : Bool}

theorem SameLeases.of_nodeStatus (h : t'.nodeStatus = t.nodeStatus) : SameLeases t t' := by
  constructor <;> funext id <;> simp only [probeLeaseToken, probeLeaseExpiresAt, h]

theorem putStatus_eq_ok (h : t.putStatus nodeId row = .ok t') :
    t' = { t with nodeStatus := Function.update t.nodeStatus nodeId (some row) } := by
  obtain ⟨_, -, h⟩ := bind_eq_ok.1 h
  obtain ⟨_, -, h⟩ := bind_eq_ok.1 h
  exact (Except.ok.inj h).symm

/-- A row that takes the place of another with the same lease, or of none without a lease. -/
theorem SameLeases.update (h : t'.nodeStatus = Function.update t.nodeStatus nodeId (some row))
    (htoken : row.probeLeaseToken = t.probeLeaseToken nodeId)
    (hexpires : row.probeLeaseExpiresAt = t.probeLeaseExpiresAt nodeId) : SameLeases t t' := by
  constructor <;> funext id <;> by_cases hid : id = nodeId
  · subst hid
    rw [← htoken, probeLeaseToken, h, Function.update_self]
    rfl
  · rw [probeLeaseToken, probeLeaseToken, h, Function.update_of_ne hid]
  · subst hid
    rw [← hexpires, probeLeaseExpiresAt, h, Function.update_self]
    rfl
  · rw [probeLeaseExpiresAt, probeLeaseExpiresAt, h, Function.update_of_ne hid]

theorem SameLeases.updateNode {values : NodeRow → NodeRow} (h : SameLeases t t') :
    SameLeases t (t'.updateNode nodeId values) :=
  ⟨h.token, h.expiresAt⟩

theorem SameLeases.of_updateNode {values : NodeRow → NodeRow}
    (h : SameLeases (t.updateNode nodeId values) t') : SameLeases t t' :=
  ⟨h.token, h.expiresAt⟩

theorem createNode_leases {nodeKey displayName apiBaseUrl : String} {isEnabled : Bool}
    {weight : ℤ} {status : NodeStatus}
    (h : t.createNode nodeKey displayName apiBaseUrl isEnabled weight status now
      = .ok (nodeId, t')) : SameLeases t t' := by
  obtain ⟨_, -, h⟩ := bind_eq_ok.1 h
  obtain ⟨_, -, h⟩ := bind_eq_ok.1 h
  cases h
  exact .of_nodeStatus rfl

theorem upsertNodeStatus_leases {lastCheckedAt lastFailedAt : Option DateTime}
    (h : t.upsertNodeStatus nodeId report lastCheckedAt lastFailedAt now = .ok t') :
    SameLeases t t' := by
  obtain ⟨t₁, hput, h⟩ := bind_eq_ok.1 h
  cases h
  have hrows := congrArg nodeStatus (putStatus_eq_ok hput)
  apply SameLeases.updateNode
  apply SameLeases.update hrows
  · rcases hrow : t.nodeStatus nodeId with _ | row <;> simp [probeLeaseToken, hrow]
  · rcases hrow : t.nodeStatus nodeId with _ | row <;> simp [probeLeaseExpiresAt, hrow]

theorem markNodeUnreachable_leases {errorMessage : String}
    (h : t.markNodeUnreachable nodeId errorMessage seenAt = .ok t') : SameLeases t t' := by
  have hrows := congrArg nodeStatus (putStatus_eq_ok h)
  apply SameLeases.of_updateNode
  apply SameLeases.update hrows
  · rcases hrow : t.nodeStatus nodeId with _ | row <;> simp [probeLeaseToken, updateNode, hrow]
  · rcases hrow : t.nodeStatus nodeId with _ | row <;> simp [probeLeaseExpiresAt, updateNode, hrow]

/-! ## Claiming probes -/

theorem mem_probeTargets (h : r ∈ t.probeTargets) :
    t.nodes[r.nodeId]? = some r.node ∧ t.nodeStatus r.nodeId = some r.status := by
  obtain ⟨id, -, h⟩ := List.mem_filterMap.1 h
  split at h
  · next node status hnode hstatus =>
    cases h
    exact ⟨hnode, hstatus⟩
  · cases h

theorem probeTargets_nodeIds : t.probeTargets.map ProbeTarget.nodeId =
    (List.range t.nodes.length).filter fun id => (t.nodeStatus id).isSome := by
  rw [probeTargets, List.map_filterMap, ← List.filterMap_eq_filter]
  apply List.filterMap_congr
  intro id hid
  have hnode := List.getElem?_eq_getElem (List.mem_range.1 hid)
  rw [hnode]
  cases hstatus : t.nodeStatus id <;> simp [Option.guard, hstatus]

theorem probeTargets_nodup : (t.probeTargets.map ProbeTarget.nodeId).Nodup := by
  rw [probeTargets_nodeIds]
  exact List.nodup_range.filter _

theorem mem_dueProbeTargets (h : r ∈ t.dueProbeTargets now dueBefore limit) :
    r ∈ t.probeTargets ∧ r.isDue now dueBefore = true := by
  have hsort := List.mem_of_mem_take h
  rw [List.mem_insertionSort] at hsort
  exact List.mem_filter.1 hsort

theorem dueProbeTargets_nodup :
    ((t.dueProbeTargets now dueBefore limit).map ProbeTarget.nodeId).Nodup := by
  have hfilter : ((t.probeTargets.filter (·.isDue now dueBefore)).map ProbeTarget.nodeId).Nodup :=
    probeTargets_nodup.sublist (List.filter_sublist.map _)
  have hperm := (List.perm_insertionSort (fun a b : ProbeTarget => a.key ≤ b.key)
    (t.probeTargets.filter (·.isDue now dueBefore))).map ProbeTarget.nodeId
  exact (hperm.nodup_iff.2 hfilter).sublist ((List.take_sublist _ _).map _)

theorem probeClaims_nodeIds : (t.probeClaims now dueBefore limit uuid4).map NodeProbeClaim.nodeId =
    (t.dueProbeTargets now dueBefore limit).map ProbeTarget.nodeId := by
  apply List.ext_getElem?
  intro i
  simp [probeClaims, Function.comp_def]

theorem probeClaims_tokens (h : Function.Injective uuid4) :
    ((t.probeClaims now dueBefore limit uuid4).map NodeProbeClaim.leaseToken).Nodup := by
  rw [List.nodup_iff_injective_getElem]
  intro i j hij
  apply Fin.ext
  simpa [probeClaims, h.eq_iff] using hij

theorem mem_probeClaims (h : claim ∈ t.probeClaims now dueBefore limit uuid4) :
    claim.node ∈ t.dueProbeTargets now dueBefore limit ∧ claim.nodeId = claim.node.nodeId ∧
      ∃ i, claim.leaseToken = uuid4 i := by
  obtain ⟨i, hi, rfl⟩ := List.mem_mapIdx.1 h
  exact ⟨List.getElem_mem hi, rfl, i, rfl⟩

theorem leaseProbes_other (h : id ∉ claims.map NodeProbeClaim.nodeId) :
    (claims.foldl (leaseProbe · expiresAt ·) t).nodeStatus id = t.nodeStatus id := by
  induction claims generalizing t with
  | nil => rfl
  | cons claim claims ih =>
    simp only [List.map_cons, List.mem_cons, not_or] at h
    rw [List.foldl_cons, ih h.2]
    exact Function.update_of_ne h.1 _ _

theorem leaseProbes_claimed (hnodup : (claims.map NodeProbeClaim.nodeId).Nodup)
    (h : claim ∈ claims) :
    (claims.foldl (leaseProbe · expiresAt ·) t).nodeStatus claim.nodeId =
      (t.nodeStatus claim.nodeId).map fun row => { row with
        probeLeaseToken := some claim.leaseToken
        probeLeaseExpiresAt := some expiresAt } := by
  induction claims generalizing t with
  | nil => cases h
  | cons c claims ih =>
    rw [List.map_cons, List.nodup_cons] at hnodup
    rw [List.foldl_cons]
    rcases List.mem_cons.1 h with rfl | h
    · rw [leaseProbes_other hnodup.1]
      exact Function.update_self _ _ _
    · rw [ih hnodup.2 h]
      have hne : claim.nodeId ≠ c.nodeId := fun heq =>
        hnodup.1 (heq ▸ List.mem_map_of_mem h)
      rw [show (t.leaseProbe expiresAt c).nodeStatus claim.nodeId = t.nodeStatus claim.nodeId from
        Function.update_of_ne hne _ _]

/-! ## Finalising probes -/

theorem finalizeProbe_rejected (h : t.probeLeaseToken nodeId ≠ some leaseToken) :
    t.finalizeProbe nodeId leaseToken report completedAt = .ok (false, t) := by
  unfold finalizeProbe
  split
  · rfl
  · next row hrow =>
    rw [probeLeaseToken, hrow] at h
    rw [if_neg (by exact h)]

/-- A finalisation is accepted by the lease of its token, and clears it. -/
theorem finalizeProbe_eq_ok
    (h : t.finalizeProbe nodeId leaseToken report completedAt = .ok (accepted, t')) :
    (accepted = false ∧ t' = t) ∨
    (accepted = true ∧ t.probeLeaseToken nodeId = some leaseToken ∧
      ∃ row : NodeStatusRow, row.probeLeaseToken = none ∧ row.probeLeaseExpiresAt = none ∧
        t'.nodeStatus = Function.update t.nodeStatus nodeId (some row)) := by
  by_cases htoken : t.probeLeaseToken nodeId = some leaseToken
  · obtain ⟨row, hrow, hrowtoken⟩ := Option.bind_eq_some_iff.1 htoken
    simp only [finalizeProbe, hrow] at h
    rw [if_pos hrowtoken] at h
    obtain ⟨t₁, hput, h⟩ := bind_eq_ok.1 h
    cases h
    exact .inr ⟨rfl, htoken, _, rfl, rfl, congrArg nodeStatus (putStatus_eq_ok hput)⟩
  · rw [finalizeProbe_rejected htoken] at h
    cases h
    exact .inl ⟨rfl, rfl⟩

end NodeTables

end ShopBot
