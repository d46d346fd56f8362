import ShopBot.UseCases.SyncNodeStatus

/-! # Recording what nodes report

A snapshot is stored unless one of its counts does not fit the column it goes to: then the
node is recorded as offline. And the first report of a node leaves its counts out.
-/

namespace ShopBot

/-- The counts fit their columns. -/
structure NodeMetrics.Storable (m : NodeMetrics) : Prop where
  active : ∀ n, m.activeClients = some n → 0 ≤ n ∧ n ≤ 2147483647
  max : ∀ n, m.maxClients = some n → 0 < n ∧ n ≤ 2147483647

theorem NodeMetrics.storable_empty : NodeMetrics.Storable {} := by
  constructor <;> rintro n ⟨⟩

theorem NodeStatusRow.check_eq_ok {row : NodeStatusRow} : row.check = .ok () ↔
    NodeMetrics.Storable ⟨row.activeClients, row.maxClients⟩ ∧
      row.probeLeaseToken.isNone = row.probeLeaseExpiresAt.isNone := by
  unfold NodeStatusRow.check
  simp only [bind_eq_ok, require_eq_ok, Option.all_eq_true, isInt32, Bool.and_eq_true,
    decide_eq_true_eq]
  constructor
  · rintro ⟨_, ⟨hactive, hmax⟩, _, hnonneg, _, hpos, hlease⟩
    refine ⟨⟨fun n hn => ?_, fun n hn => ?_⟩, hlease⟩
    · exact ⟨hnonneg n hn, (hactive n hn).2⟩
    · exact ⟨hpos n hn, (hmax n hn).2⟩
  · rintro ⟨⟨hactive, hmax⟩, hlease⟩
    refine ⟨(), ⟨fun n hn => ?_, fun n hn => ?_⟩, (), fun n hn => (hactive n hn).1, (),
      fun n hn => (hmax n hn).1, hlease⟩
    · have hrange := hactive n hn
      omega
    · have hrange := hmax n hn
      omega

namespace NodeTables

variable {t : NodeTables} {nodeId : ℕ} {row : NodeStatusRow} {report : NodeReport}
  {lastCheckedAt lastFailedAt : Option DateTime} {now completed : DateTime} {leaseToken : Uuid}

/-! ## What a report leaves -/

/-- The row that a report leaves, apart from the lease, with the counts `metrics`. -/
def reportedStatus (report : NodeReport) (counts : NodeMetrics) (checkedAt : DateTime)
    (lastFailedAt : Option DateTime) : NodeStatusRow where
  healthStatus := report.healthStatus
  agentVersion := report.agentVersion
  capabilities := report.capabilities
  metrics := report.metrics
  statusPayload := report.statusPayload
  inbounds := report.inbounds
  lastSeenAt := report.lastSeenAt
  lastCheckedAt := some checkedAt
  lastFailedAt := lastFailedAt
  activeClients := counts.activeClients
  maxClients := counts.maxClients
  updatedAt := checkedAt

def reportedNode (report : NodeReport) (checkedAt : DateTime) (lastFailedAt : Option DateTime)
    (node : NodeRow) : NodeRow :=
  { node with
    status := report.healthStatus
    lastSeenAt := report.lastSeenAt
    lastCheckedAt := some checkedAt
    lastFailedAt := lastFailedAt
    updatedAt := checkedAt
    lastError := report.lastError }

/-- The two rows of a node, without the lease of a probe. -/
def recorded (t : NodeTables) (nodeId : ℕ) : Option NodeStatusRow × Option NodeRow :=
  ((t.nodeStatus nodeId).map fun row =>
    { row with probeLeaseToken := none, probeLeaseExpiresAt := none }, t.nodes[nodeId]?)

/-- The same tables before the first report of the node. -/
def forgetStatus (t : NodeTables) (nodeId : ℕ) : NodeTables :=
  { t with nodeStatus := Function.update t.nodeStatus nodeId none }

theorem putStatus_eq {m : NodeMetrics} (hm : m.Storable) (hnode : nodeId < t.nodes.length)
    (hactive : row.activeClients = m.activeClients) (hmax : row.maxClients = m.maxClients)
    (hlease : row.probeLeaseToken.isNone = row.probeLeaseExpiresAt.isNone) :
    t.putStatus nodeId row =
      .ok { t with nodeStatus := Function.update t.nodeStatus nodeId (some row) } := by
  have hcheck : row.check = .ok () := by
    rw [NodeStatusRow.check_eq_ok, hactive, hmax]
    exact ⟨hm, hlease⟩
  unfold putStatus
  simp [hcheck, hnode, require, bind, Except.bind, pure, Except.pure]

/-- Nothing follows a row that does not fit. -/
theorem bind_putStatus_error {α : Type} {f : NodeTables → Except Error α} {m : NodeMetrics}
    (hm : ¬ m.Storable) (hactive : row.activeClients = m.activeClients)
    (hmax : row.maxClients = m.maxClients) : ∃ e, (t.putStatus nodeId row >>= f) = .error e := by
  cases hput : t.putStatus nodeId row with
  | error e => exact ⟨e, rfl⟩
  | ok t' =>
    obtain ⟨_, hcheck, -⟩ := bind_eq_ok.1 hput
    rw [NodeStatusRow.check_eq_ok, hactive, hmax] at hcheck
    exact absurd hcheck.1 hm

/-- What is recorded once a row is put and its node updated. -/
theorem recorded_put (values : NodeRow → NodeRow) :
    recorded (updateNode { t with nodeStatus := Function.update t.nodeStatus nodeId (some row) }
      nodeId values) nodeId =
        (some { row with probeLeaseToken := none, probeLeaseExpiresAt := none },
          t.nodes[nodeId]?.map values) := by
  simp [recorded, updateNode]

/-! ## The two branches of the upsert -/

/-- The first report of a node leaves the counts out. -/
theorem upsert_first (hrow : t.nodeStatus nodeId = none) (hnode : nodeId < t.nodes.length) :
    (t.upsertNodeStatus nodeId report lastCheckedAt lastFailedAt now).map (recorded · nodeId) =
      .ok (some (reportedStatus report {} ((lastCheckedAt <|> report.lastSeenAt).getD now)
          lastFailedAt),
        t.nodes[nodeId]?.map (reportedNode report
          ((lastCheckedAt <|> report.lastSeenAt).getD now) lastFailedAt)) := by
  unfold upsertNodeStatus
  simp only [hrow]
  rw [putStatus_eq NodeMetrics.storable_empty hnode rfl rfl rfl]
  exact congrArg Except.ok (recorded_put _)

/-- A later one fills them. -/
theorem upsert_again (hrow : t.nodeStatus nodeId = some row) (hcheck : row.check = .ok ())
    (hnode : nodeId < t.nodes.length) (hcounts : report.metrics.Storable) :
    (t.upsertNodeStatus nodeId report lastCheckedAt lastFailedAt now).map (recorded · nodeId) =
      .ok (some (reportedStatus report report.metrics
          ((lastCheckedAt <|> report.lastSeenAt).getD now) lastFailedAt),
        t.nodes[nodeId]?.map (reportedNode report
          ((lastCheckedAt <|> report.lastSeenAt).getD now) lastFailedAt)) := by
  have hlease := (NodeStatusRow.check_eq_ok.1 hcheck).2
  unfold upsertNodeStatus
  simp only [hrow]
  rw [putStatus_eq hcounts hnode ?_ ?_ ?_]
  · exact congrArg Except.ok (recorded_put _)
  · rfl
  · rfl
  · exact hlease

theorem upsert_again_error (hrow : t.nodeStatus nodeId = some row)
    (hcounts : ¬ report.metrics.Storable) :
    ∃ e, t.upsertNodeStatus nodeId report lastCheckedAt lastFailedAt now = .error e := by
  unfold upsertNodeStatus
  simp only [hrow]
  exact bind_putStatus_error hcounts rfl rfl

/-! ## The finalisation of a probe -/

theorem finalize_success (hrow : t.nodeStatus nodeId = some row)
    (htoken : row.probeLeaseToken = some leaseToken) (hnode : nodeId < t.nodes.length)
    (hcounts : report.metrics.Storable) :
    ∃ t', t.finalizeProbe nodeId leaseToken report completed = .ok (true, t') ∧
      recorded t' nodeId = (some (reportedStatus report report.metrics completed
          (if report.lastError.all (· = "") then none else some completed)),
        t.nodes[nodeId]?.map (reportedNode report completed
          (if report.lastError.all (· = "") then none else some completed))) := by
  unfold finalizeProbe
  simp only [hrow, if_pos htoken]
  rw [putStatus_eq hcounts hnode ?_ ?_ ?_]
  · exact ⟨_, rfl, recorded_put _⟩
  all_goals rfl

theorem finalize_error (hrow : t.nodeStatus nodeId = some row)
    (htoken : row.probeLeaseToken = some leaseToken) (hcounts : ¬ report.metrics.Storable) :
    ∃ e, t.finalizeProbe nodeId leaseToken report completed = .error e := by
  unfold finalizeProbe
  simp only [hrow, if_pos htoken]
  exact bind_putStatus_error hcounts rfl rfl

/-- For a report with a client count the first and the later reports of a node leave different
rows; for a report without one, they and the finalisation of a probe leave the same. -/
theorem node_report_agrees_iff (hrow : t.nodeStatus nodeId = some row) (hcheck : row.check = .ok ())
    (hnode : nodeId < t.nodes.length) :
    (∀ lastCheckedAt lastFailedAt now,
      (t.upsertNodeStatus nodeId report lastCheckedAt lastFailedAt now).map (recorded · nodeId) =
        ((t.forgetStatus nodeId).upsertNodeStatus nodeId report lastCheckedAt lastFailedAt
          now).map (recorded · nodeId)) ∧
    (∀ (leaseToken : Uuid) (completed now : DateTime), row.probeLeaseToken = some leaseToken →
      report.lastError = none → ∀ prior ∈ [t, t.forgetStatus nodeId],
        (prior.upsertNodeStatus nodeId report (some completed) none now).map
            (recorded · nodeId) =
          (t.finalizeProbe nodeId leaseToken report completed).map fun r =>
            recorded r.2 nodeId) ↔
      report.metrics.activeClients = none ∧ report.metrics.maxClients = none := by
  have hforget : (t.forgetStatus nodeId).nodeStatus nodeId = none := Function.update_self ..
  constructor
  · rintro ⟨hsame, -⟩
    have hfirst := hsame none none 0
    rw [upsert_first hforget hnode] at hfirst
    by_cases hcounts : report.metrics.Storable
    · rw [upsert_again hrow hcheck hnode hcounts] at hfirst
      have hrows := Option.some.inj (congrArg Prod.fst (Except.ok.inj hfirst))
      exact ⟨congrArg NodeStatusRow.activeClients hrows, congrArg NodeStatusRow.maxClients hrows⟩
    · obtain ⟨e, he⟩ := @upsert_again_error t nodeId row report none none 0 hrow hcounts
      rw [he] at hfirst
      cases hfirst
  · rintro ⟨hactive, hmax⟩
    have hempty : report.metrics = {} := by
      cases hm : report.metrics
      rw [hm] at hactive hmax
      rw [NodeMetrics.mk.injEq]
      exact ⟨hactive, hmax⟩
    have hcounts : report.metrics.Storable := hempty ▸ NodeMetrics.storable_empty
    have hboth : ∀ lastCheckedAt lastFailedAt now,
        (t.upsertNodeStatus nodeId report lastCheckedAt lastFailedAt now).map (recorded · nodeId) =
          ((t.forgetStatus nodeId).upsertNodeStatus nodeId report lastCheckedAt lastFailedAt
            now).map (recorded · nodeId) := by
      intro lastCheckedAt lastFailedAt now
      rw [upsert_first hforget hnode, upsert_again hrow hcheck hnode hcounts, hempty]
      rfl
    refine ⟨hboth, fun leaseToken completed now htoken herror prior hprior => ?_⟩
    obtain ⟨t', hfinal, hrecorded⟩ :=
      @finalize_success t nodeId row report completed leaseToken hrow htoken hnode hcounts
    rw [herror] at hrecorded
    have hagain : (t.upsertNodeStatus nodeId report (some completed) none now).map
        (recorded · nodeId) = (t.finalizeProbe nodeId leaseToken report completed).map fun r =>
          recorded r.2 nodeId := by
      rw [upsert_again hrow hcheck hnode hcounts, hfinal]
      exact congrArg Except.ok hrecorded.symm
    simp only [List.mem_cons, List.not_mem_nil, or_false] at hprior
    rcases hprior with rfl | rfl
    · exact hagain
    · rw [← hboth]
      exact hagain

/-- A node that is being probed. -/
def probed : NodeTables where
  nodes := [{
    nodeKey := "node-1"
    displayName := "Node 1"
    apiBaseUrl := "https://node-1"
    updatedAt := 0 }]
  nodeStatus := Function.update (fun _ => none) 0 (some {
    probeLeaseToken := some 7
    probeLeaseExpiresAt := some 30
    updatedAt := 0 })

/-- A report of a healthy node, with or without its capacity. -/
def onlineReport (metrics : NodeMetrics) : NodeReport where
  healthStatus := .online
  agentVersion := some "1.0"
  capabilities := "\x7b\x7d"
  metrics := metrics
  statusPayload := "\x7b\x7d"
  inbounds := "[]"
  lastSeenAt := some 5

theorem node_report_agrees_without_counts :
    (probed.upsertNodeStatus 0 (onlineReport {}) (some 5) none 5).map (recorded · 0) =
      (probed.finalizeProbe 0 7 (onlineReport {}) 5).map (fun r => recorded r.2 0) ∧
    ((probed.forgetStatus 0).upsertNodeStatus 0 (onlineReport {}) (some 5) none 5).map
        (recorded · 0) =
      (probed.finalizeProbe 0 7 (onlineReport {}) 5).map fun r => recorded r.2 0 := by
  have hrow : probed.nodeStatus 0 = some {
      probeLeaseToken := some 7
      probeLeaseExpiresAt := some 30
      updatedAt := 0 } := rfl
  have hagrees : ∀ prior ∈ [probed, probed.forgetStatus 0],
      (prior.upsertNodeStatus 0 (onlineReport {}) (some 5) none 5).map (recorded · 0) =
        (probed.finalizeProbe 0 7 (onlineReport {}) 5).map fun r => recorded r.2 0 :=
    ((node_report_agrees_iff hrow rfl (by decide)).2 ⟨rfl, rfl⟩).2 7 5 5 rfl rfl
  exact ⟨hagrees _ (.head _), hagrees _ (.tail _ (.head _))⟩

/-- The first report of a node loses its capacity. -/
theorem first_report_differs :
    (probed.upsertNodeStatus 0 (onlineReport ⟨some 3, some 500⟩) (some 5) none 5).map
        (recorded · 0) ≠
      ((probed.forgetStatus 0).upsertNodeStatus 0 (onlineReport ⟨some 3, some 500⟩) (some 5) none
        5).map (recorded · 0) := by
  decide +kernel

end NodeTables

namespace SyncNodeStatus

variable {texts : JsonTexts} {errorText : Error → String} {t : NodeTables} {nodeId : ℕ}
  {row : NodeStatusRow} {leaseToken : Uuid} {payload : JsonObject} {snapshot : NodeHealthSnapshot}
  {completed failed : DateTime}

/-- The counts that the payload reports fit their columns. -/
def CountsFit (payload : JsonObject) : Prop :=
  (∀ n, reportedCount payload "active_clients" = some n → 0 ≤ n ∧ n ≤ 2147483647) ∧
    ∀ n, reportedCount payload "max_clients" = some n → 0 < n ∧ n ≤ 2147483647

theorem snapshotReport_storable (h : NodeHealthSnapshot.fromPayload texts payload = .ok snapshot) :
    (snapshotReport texts snapshot completed).metrics.Storable ↔ CountsFit payload := by
  obtain ⟨hactive, hmax⟩ := NodeHealthSnapshot.fromPayload_counts h
  unfold CountsFit
  rw [← hactive, ← hmax]
  constructor
  · rintro ⟨ha, hm⟩
    exact ⟨ha, hm⟩
  · rintro ⟨ha, hm⟩
    exact ⟨ha, hm⟩

theorem recorded_health {report : NodeReport} {counts : NodeMetrics}
    {lastFailedAt : Option DateTime} {node : Option NodeRow}
    (h : t.recorded nodeId =
      (some (NodeTables.reportedStatus report counts completed lastFailedAt), node)) :
    (t.nodeStatus nodeId).map (·.healthStatus) = some report.healthStatus := by
  obtain ⟨r, hr, hsame⟩ := Option.map_eq_some_iff.1 (congrArg Prod.fst h)
  rw [hr]
  exact congrArg (fun r => some r.healthStatus) hsame

/-- A snapshot with a count that does not fit is recorded as a failure. -/
theorem unfit_snapshot_offline (h : NodeHealthSnapshot.fromPayload texts payload = .ok snapshot)
    (hrow : t.nodeStatus nodeId = some row) (htoken : row.probeLeaseToken = some leaseToken)
    (hnode : nodeId < t.nodes.length) (hunfit : ¬ CountsFit payload) :
    ∃ t', probeNode texts errorText t nodeId (some leaseToken) true (.ok payload) completed
        failed = .ok (.offline, t') ∧ (t'.nodeStatus nodeId).map (·.healthStatus) = some .offline := by
  have hcounts : ¬ (snapshotReport texts snapshot completed).metrics.Storable :=
    fun hs => hunfit ((snapshotReport_storable h).1 hs)
  obtain ⟨e, he⟩ :=
    @NodeTables.finalize_error t nodeId row _ completed leaseToken hrow htoken hcounts
  obtain ⟨t', hfinal, hrecorded⟩ :=
    @NodeTables.finalize_success t nodeId row (offlineReport (errorText e)) failed leaseToken hrow
      htoken hnode NodeMetrics.storable_empty
  refine ⟨t', ?_, recorded_health hrecorded⟩
  unfold probeNode
  simp [h, recordSuccess, recordFailure, he, hfinal, bind, Except.bind, Except.mapError, pure,
    Except.pure]

/-- The payload that is put together when the status of an agent mentions no capacity. -/
def withoutCapacity : JsonObject := assembledPayload [] [] [("status", .str "online")]

def plainTexts : JsonTexts where
  str _ := ""
  dumps _ := "null"

/-- The same with a capacity. -/
def withCapacity : JsonObject :=
  assembledPayload [] [] [("status", .str "online"), ("max_clients", .int 500)]

end SyncNodeStatus

end ShopBot
