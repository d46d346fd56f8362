import ShopBot.Refinement.PanelRows
import ShopBot.Refinement.Workers

/-! # Panel workers and their tasks

What each command does to the two panel ledgers and to the workers of the panel.
-/

namespace ShopBot

open Database Relation

/-- The commands that write panel tasks. -/
def Command.onPanel : Command → Bool
  | .preparePanel .. | .finalizeProvision .. | .abortProvision .. | .failProvision ..
  | .recordCompensation .. | .recordCompensationFailure .. | .recoverPanelProvisions ..
  | .preparePanelRevoke .. | .finalizePanelRevoke .. | .failPanelRevoke ..
  | .recoverPanelRevokes .. => true
  | _ => false

/-- The provision worker whose transaction it is. -/
def Command.provisionWorker : Command → Option ℕ
  | .finalizeProvision _ worker | .abortProvision worker | .failProvision _ worker _
  | .recordCompensation _ worker | .recordCompensationFailure _ worker _ => some worker
  | _ => none

theorem Database.KeepsVpn.panelTasks {db db' : Database} (h : db.KeepsVpn db') :
    db'.panelTasks = db.panelTasks := by
  have ht := h.tables
  simp only [vpnTables, Prod.mk.injEq] at ht
  obtain ⟨-, -, -, h₄, h₅, -⟩ := ht
  unfold Database.panelTasks
  rw [h₄, h₅]

namespace System

variable {settings : Settings} {s s' : System} {cmd : Command}

/-! ## What a command does -/

/-- The panel workers stay, and their ledgers only grow by new tasks. -/
structure PanelFrame (s s' : System) : Prop where
  dispatches : s'.panelDispatches = s.panelDispatches
  revokeDispatches : s'.panelRevokeDispatches = s.panelRevokeDispatches
  provisions : Grown (fun t : PanelProvisionTask => t.Fresh ∧ t.compensationRequired = false)
    s.db.panelProvisionTasks s'.db.panelProvisionTasks
  revokes : Grown (fun t : PanelRevokeTask => t.Fresh) s.db.panelRevokeTasks
    s'.db.panelRevokeTasks

theorem PanelFrame.of_panelTasks (hd : s'.panelDispatches = s.panelDispatches)
    (hr : s'.panelRevokeDispatches = s.panelRevokeDispatches)
    (ht : s'.db.panelTasks = s.db.panelTasks) : PanelFrame s s' := by
  have hp : s'.db.panelProvisionTasks = s.db.panelProvisionTasks := congrArg Prod.fst ht
  have hq : s'.db.panelRevokeTasks = s.db.panelRevokeTasks := congrArg Prod.snd ht
  refine ⟨hd, hr, ?_, ?_⟩
  · rw [hp]
    exact .refl
  · rw [hq]
    exact .refl

theorem exec_panelFrame (h : s.exec settings cmd = some s') (hcmd : cmd.onPanel = false) :
    PanelFrame s s' := by
  cases cmd with
  | provisionVpn ambient subscriptionId =>
    obtain ⟨⟨r, db⟩, hr, rfl⟩ := Option.map_eq_some_iff.1 h
    have hins := ProvisionVpn.preparePlan_inserted (toOption_eq_some hr)
    exact ⟨rfl, rfl, hins.panelProvisionTasks, hins.panelRevokeTasks⟩
  | revokeVpn ambient id reason =>
    obtain ⟨⟨r, db⟩, hr, rfl⟩ := Option.map_eq_some_iff.1 h
    have hins := RevokeVpn.preparePlan_inserted (toOption_eq_some hr)
    exact ⟨rfl, rfl, hins.panelProvisionTasks, hins.panelRevokeTasks⟩
  | prepareNode ambient taskId =>
    obtain ⟨p, h, hs'⟩ := prepareNode_eq_some h
    exact .of_panelTasks (by rw [hs']) (by rw [hs']) (DispatchNodeTask.prepare_panelTasks h)
  | finalizeNode ambient worker reply =>
    obtain ⟨w, f, -, -, h, hs'⟩ := finalizeNode_eq_some h
    exact .of_panelTasks (by rw [hs']) (by rw [hs']) (DispatchNodeTask.finalize_panelTasks h)
  | recoverNodes ambient locked limit =>
    obtain ⟨db, hr, rfl⟩ := Option.map_eq_some_iff.1 h
    exact .of_panelTasks rfl rfl (DispatchNodeTask.recoverAll_panelTasks (toOption_eq_some hr))
  | preparePanel | finalizeProvision | abortProvision | failProvision | recordCompensation |
    recordCompensationFailure | recoverPanelProvisions | preparePanelRevoke |
    finalizePanelRevoke | failPanelRevoke | recoverPanelRevokes => cases hcmd
  | createPayment request now leaseSeconds token =>
    obtain ⟨⟨p, db⟩, hr, h⟩ := Option.bind_eq_some_iff.1 h
    have hk := CreatePayment.prepareOrder_keepsVpn (toOption_eq_some hr)
    dsimp only at h
    split_ifs at h <;> cases h <;> exact .of_panelTasks rfl rfl hk.panelTasks
  | finalizeInvoice claim intent now =>
    obtain ⟨w, hrow, h⟩ := Option.bind_eq_some_iff.1 h
    split_ifs at h
    obtain ⟨db, hr, h⟩ := Option.bind_eq_some_iff.1 h
    cases h
    obtain ⟨⟨a, db₁⟩, hf, hr⟩ := bind_eq_ok.1 (toOption_eq_some hr)
    cases hr
    exact .of_panelTasks rfl rfl (CreatePayment.finalizeOwnedClaim_keepsVpn hf).panelTasks
  | failInvoice claim now =>
    obtain ⟨w, hrow, h⟩ := Option.bind_eq_some_iff.1 h
    split_ifs at h
    obtain ⟨db, hr, h⟩ := Option.bind_eq_some_iff.1 h
    cases h
    exact .of_panelTasks rfl rfl
      (CreatePayment.failOwnedClaim_keepsVpn (toOption_eq_some hr)).panelTasks
  | ingestWebhook provider webhook headers rawPayload now =>
    obtain ⟨⟨r, db⟩, hr, rfl⟩ := Option.map_eq_some_iff.1 h
    exact .of_panelTasks rfl rfl (IngestWebhook.execute_keepsVpn (toOption_eq_some hr)).panelTasks
  | processPayment now eventId =>
    obtain ⟨⟨r, db⟩, hr, rfl⟩ := Option.map_eq_some_iff.1 h
    exact .of_panelTasks rfl rfl (ProcessPayment.execute_keepsVpn (toOption_eq_some hr)).panelTasks
  | markPaymentOrderPaid orderId now =>
    obtain ⟨⟨r, db⟩, hr, rfl⟩ := Option.map_eq_some_iff.1 h
    exact .of_panelTasks rfl rfl
      (AdminOperations.markPaymentOrderPaid_keepsVpn (toOption_eq_some hr)).panelTasks
  | listAnomalies now afterKindOrder afterEntityId limit =>
    cases h
    exact .of_panelTasks rfl rfl rfl
  | processAnomaly batch index =>
    obtain ⟨b, -, h⟩ := Option.bind_eq_some_iff.1 h
    obtain ⟨a, -, h⟩ := Option.bind_eq_some_iff.1 h
    cases h
    exact .of_panelTasks rfl rfl (ReconcileSubscriptions.processAnomaly_keepsVpn a).panelTasks
  | administer nodes tariffs endpoints =>
    cases h
    exact .of_panelTasks rfl rfl rfl

/-- A provision worker goes on to its next stage. -/
structure Moves (s s' : System) (worker : ℕ) (w : PanelDispatch) (stage next : PanelStage) :
    Prop where
  row : s.panelDispatches[worker]? = some w
  stage : w.stage = stage
  workers : s'.panelDispatches = s.panelDispatches.set worker { w with stage := next }

/-- The rows after leases that have expired have been taken back. -/
def Recovers (now : DateTime) : List PanelProvisionTask → List PanelProvisionTask → Prop :=
  ReflTransGen fun rows rows' => ∃ (k : ℕ) (t t' : PanelProvisionTask), rows[k]? = some t ∧
    rows' = rows.set k t' ∧ t.recoverExpiredLease now
      "panel provision lease expired; compensation required before retry" = .ok t'

/-- What a command does to the provision tasks and their workers. -/
inductive ProvisionEffect (settings : Settings) (s s' : System) : Command → Prop where
  | grows (cmd : Command) (idle : cmd.provisionWorker = none)
      (rows : Grown (fun t : PanelProvisionTask => t.Fresh ∧ t.compensationRequired = false)
        s.db.panelProvisionTasks s'.db.panelProvisionTasks)
      (workers : s'.panelDispatches = s.panelDispatches) : ProvisionEffect settings s s' cmd

  | claims (ambient : Ambient) (k : ℕ) (t t' : PanelProvisionTask) (p : PreparedPanelDispatch)
      (sets : s.db.SetsProvision s'.db k t t')
      (started : t.startAttempt ambient.now (ambient.now + seconds settings.panelLeaseSeconds)
        ambient.leaseToken = .ok t')
      (prepared : p = {
        taskId := k
        leaseToken := ambient.leaseToken
        attemptNo := t'.attempts
        action := if t'.compensationRequired then .compensate else .provision
        payload := t'.payload })
      (workers : s'.panelDispatches =
        s.panelDispatches ++ [{ prepared := p, stage := stageOf p.action }]) :
      ProvisionEffect settings s s' (.preparePanel ambient k)

  /-- The lease has been lost, or the finalisation itself has raised. -/
  | passes (cmd : Command) (worker : ℕ) (w : PanelDispatch) (stage next : PanelStage)
      (moves : Moves s s' worker w stage next) (acts : cmd.provisionWorker = some worker)
      (goesOn : next = .finished ∨ (stage = .provisioning ∧ next = .compensating))
      (same : s'.db = s.db) : ProvisionEffect settings s s' cmd

  | keeps (ambient : Ambient) (worker : ℕ) (w : PanelDispatch) (t t' : PanelProvisionTask)
      (error : String) (moves : Moves s s' worker w .provisioning .compensating)
      (sets : s.db.SetsProvision s'.db w.prepared.taskId t t')
      (owns : t.ownsLease w.prepared.leaseToken w.prepared.attemptNo = true)
      (kept : t.markCompensationRequired ambient.now error = .ok t') :
      ProvisionEffect settings s s' (.finalizeProvision ambient worker)

  | activates (ambient : Ambient) (worker : ℕ) (w : PanelDispatch) (t t' : PanelProvisionTask)
      (c : VpnConfiguration) (moves : Moves s s' worker w .provisioning .finished)
      (sets : s.db.SetsProvision s'.db w.prepared.taskId t t')
      (owns : t.ownsLease w.prepared.leaseToken w.prepared.attemptNo = true)
      (completed : t.complete ambient.now = .ok t')
      (configuration : s'.db.vpnConfigurations[t.vpnConfigurationId]? = some c)
      (active : c.status = .active) :
      ProvisionEffect settings s s' (.finalizeProvision ambient worker)

  | retries (ambient : Ambient) (worker : ℕ) (errorName : String) (w : PanelDispatch)
      (t : PanelProvisionTask) (moves : Moves s s' worker w .provisioning .finished)
      (sets : s.db.SetsProvision s'.db w.prepared.taskId t (t.retry ambient.now
        s!"panel provision failed: {errorName}" settings.panelRetryBaseSeconds))
      (owns : t.ownsLease w.prepared.leaseToken w.prepared.attemptNo = true) :
      ProvisionEffect settings s s' (.failProvision ambient worker errorName)

  | compensates (ambient : Ambient) (worker : ℕ) (w : PanelDispatch) (t : PanelProvisionTask)
      (terminal : Bool) (moves : Moves s s' worker w .compensating .finished)
      (sets : s.db.SetsProvision s'.db w.prepared.taskId t
        (t.compensationSucceeded ambient.now terminal))
      (owns : t.ownsLease w.prepared.leaseToken w.prepared.attemptNo = true) :
      ProvisionEffect settings s s' (.recordCompensation ambient worker)

  | requires (ambient : Ambient) (worker : ℕ) (errorName : String) (w : PanelDispatch)
      (t : PanelProvisionTask) (moves : Moves s s' worker w .compensating .finished)
      (sets : s.db.SetsProvision s'.db w.prepared.taskId t (t.requireCompensation ambient.now
        s!"panel compensation failed: {errorName}"))
      (owns : t.ownsLease w.prepared.leaseToken w.prepared.attemptNo = true) :
      ProvisionEffect settings s s' (.recordCompensationFailure ambient worker errorName)

  | recovers (ambient : Ambient) (locked : List ℕ) (limit : ℕ)
      (rows : Recovers ambient.now s.db.panelProvisionTasks s'.db.panelProvisionTasks)
      (workers : s'.panelDispatches = s.panelDispatches) :
      ProvisionEffect settings s s' (.recoverPanelProvisions ambient locked limit)

/-- What a command does to the revoke tasks and their workers. -/
inductive RevokeEffect (settings : Settings) (s s' : System) : Command → Prop where
  | grows (cmd : Command)
      (rows : Grown (fun t : PanelRevokeTask => t.Fresh) s.db.panelRevokeTasks
        s'.db.panelRevokeTasks)
      (workers : s'.panelRevokeDispatches = s.panelRevokeDispatches) :
      RevokeEffect settings s s' cmd

  | claims (ambient : Ambient) (k : ℕ) (t t' : PanelRevokeTask) (p : PreparedPanelRevoke)
      (sets : s.db.SetsRevoke s'.db k t t')
      (started : t.startAttempt ambient.now (ambient.now + seconds settings.panelLeaseSeconds)
        ambient.leaseToken = .ok t')
      (prepared : p = {
        taskId := k
        leaseToken := ambient.leaseToken
        attemptNo := t'.attempts
        payload := t'.payload })
      (workers : s'.panelRevokeDispatches = s.panelRevokeDispatches ++ [{ prepared := p }]) :
      RevokeEffect settings s s' (.preparePanelRevoke ambient k)

  /-- The lease has been lost. -/
  | passes (cmd : Command) (worker : ℕ) (w : PanelRevokeDispatch)
      (row : s.panelRevokeDispatches[worker]? = some w) (unfinished : w.finished = false)
      (workers : s'.panelRevokeDispatches =
        s.panelRevokeDispatches.set worker { w with finished := true })
      (rows : s'.db.panelRevokeTasks = s.db.panelRevokeTasks) : RevokeEffect settings s s' cmd

  | completes (ambient : Ambient) (worker : ℕ) (w : PanelRevokeDispatch) (t t' : PanelRevokeTask)
      (row : s.panelRevokeDispatches[worker]? = some w) (unfinished : w.finished = false)
      (workers : s'.panelRevokeDispatches =
        s.panelRevokeDispatches.set worker { w with finished := true })
      (sets : s.db.SetsRevoke s'.db w.prepared.taskId t t')
      (owns : t.ownsLease w.prepared.leaseToken w.prepared.attemptNo = true)
      (completed : t.complete ambient.now = .ok t') :
      RevokeEffect settings s s' (.finalizePanelRevoke ambient worker)

  | retries (ambient : Ambient) (worker : ℕ) (errorName : String) (w : PanelRevokeDispatch)
      (t : PanelRevokeTask) (row : s.panelRevokeDispatches[worker]? = some w)
      (unfinished : w.finished = false)
      (workers : s'.panelRevokeDispatches =
        s.panelRevokeDispatches.set worker { w with finished := true })
      (sets : s.db.SetsRevoke s'.db w.prepared.taskId t (t.retry ambient.now
        s!"panel revoke failed: {errorName}" settings.panelRetryBaseSeconds))
      (owns : t.ownsLease w.prepared.leaseToken w.prepared.attemptNo = true) :
      RevokeEffect settings s s' (.failPanelRevoke ambient worker errorName)

  | recovers (ambient : Ambient) (locked : List ℕ) (limit : ℕ)
      (rows : ReflTransGen (fun rows rows' => ∃ (k : ℕ) (t t' : PanelRevokeTask),
        rows[k]? = some t ∧ rows' = rows.set k t' ∧
          t.recoverExpiredLease ambient.now "panel revoke lease expired" = .ok t')
        s.db.panelRevokeTasks s'.db.panelRevokeTasks)
      (workers : s'.panelRevokeDispatches = s.panelRevokeDispatches) :
      RevokeEffect settings s s' (.recoverPanelRevokes ambient locked limit)

theorem recoverAll_recovers {ambient : Ambient} {db db' : Database} {ids : List ℕ}
    (h : DispatchPanelProvisionTask.recoverAll settings ambient db ids = .ok db') :
    Recovers ambient.now db.panelProvisionTasks db'.panelProvisionTasks ∧
      db'.panelRevokeTasks = db.panelRevokeTasks := by
  induction ids generalizing db with
  | nil =>
    cases h
    exact ⟨.refl, rfl⟩
  | cons k rest ih =>
    obtain ⟨db₁, h₁, h₂⟩ := bind_eq_ok.1 h
    obtain ⟨hrows, hothers⟩ := ih h₂
    rcases DispatchPanelProvisionTask.recoverOne_rows h₁ with rfl | ⟨t, t', hsets, ht'⟩
    · exact ⟨hrows, hothers⟩
    · exact ⟨.head ⟨k, t, t', hsets.row, hsets.rows, ht'⟩ hrows, hothers.trans hsets.others⟩

theorem recoverAll_revokes {ambient : Ambient} {db db' : Database} {ids : List ℕ}
    (h : DispatchPanelRevokeTask.recoverAll ambient db ids = .ok db') :
    ReflTransGen (fun rows rows' => ∃ (k : ℕ) (t t' : PanelRevokeTask),
        rows[k]? = some t ∧ rows' = rows.set k t' ∧
          t.recoverExpiredLease ambient.now "panel revoke lease expired" = .ok t')
        db.panelRevokeTasks db'.panelRevokeTasks ∧
      db'.panelProvisionTasks = db.panelProvisionTasks := by
  induction ids generalizing db with
  | nil =>
    cases h
    exact ⟨.refl, rfl⟩
  | cons k rest ih =>
    obtain ⟨db₁, h₁, h₂⟩ := bind_eq_ok.1 h
    obtain ⟨hrows, hothers⟩ := ih h₂
    rcases DispatchPanelRevokeTask.recoverOne_rows h₁ with rfl | ⟨t, t', hsets, ht'⟩
    · exact ⟨hrows, hothers⟩
    · exact ⟨.head ⟨k, t, t', hsets.row, hsets.rows, ht'⟩ hrows, hothers.trans hsets.others⟩

theorem exec_provisionEffect (h : s.exec settings cmd = some s') :
    ProvisionEffect settings s s' cmd := by
  have hsame : cmd.provisionWorker = none → s'.panelDispatches = s.panelDispatches →
      s'.db.panelProvisionTasks = s.db.panelProvisionTasks →
      ProvisionEffect settings s s' cmd := by
    intro hidle hworkers hrows
    refine .grows cmd hidle ?_ hworkers
    rw [hrows]
    exact .refl
  by_cases hcmd : cmd.onPanel = false
  · have hframe := exec_panelFrame h hcmd
    refine .grows cmd ?_ hframe.provisions hframe.dispatches
    cases cmd <;> first | rfl | cases hcmd
  cases cmd with
  | preparePanel ambient k =>
    obtain ⟨preparation, hp, hs'⟩ := preparePanel_eq_some h
    rcases DispatchPanelProvisionTask.prepare_rows hp with
      ⟨hdb, status, rfl⟩ | ⟨t, t', hsets, hstarted, rfl⟩
    · exact hsame rfl (by rw [hs']) (congrArg Database.panelProvisionTasks hdb)
    · exact .claims ambient k t t' _ hsets hstarted rfl (by rw [hs'])
  | finalizeProvision ambient worker =>
    simp only [exec] at h
    obtain ⟨w, next, hrow, hstage, h, hs'⟩ := panelTransaction_eq_some h
    obtain ⟨⟨outcome, db⟩, hf, hr⟩ := bind_eq_ok.1 h
    cases hr
    have hmoves : Moves s s' worker w .provisioning (stageAfter outcome) :=
      ⟨hrow, hstage, by rw [hs']⟩
    rcases DispatchPanelProvisionTask.finalizeProvisionSuccess_rows hf with
      ⟨rfl, hdb⟩ | ⟨t, t', hsets, howns, ⟨rfl, error, ht'⟩ | ⟨rfl, ht', c, hc, hs⟩⟩
    · exact .passes _ worker w .provisioning .finished hmoves rfl (.inl rfl) hdb
    · exact .keeps ambient worker w t t' error hmoves hsets howns ht'
    · exact .activates ambient worker w t t' c hmoves hsets howns ht' hc hs
  | abortProvision worker =>
    simp only [exec] at h
    obtain ⟨w, next, hrow, hstage, h, hs'⟩ := panelTransaction_eq_some h
    obtain ⟨rfl, hdb⟩ := Prod.mk.inj (Except.ok.inj h)
    exact .passes _ worker w .provisioning .compensating ⟨hrow, hstage, by rw [hs']⟩ rfl
      (.inr ⟨rfl, rfl⟩) hdb.symm
  | failProvision ambient worker errorName =>
    simp only [exec] at h
    obtain ⟨w, next, hrow, hstage, h, hs'⟩ := panelTransaction_eq_some h
    obtain ⟨⟨status, db⟩, hf, hr⟩ := bind_eq_ok.1 h
    cases hr
    have hmoves : Moves s s' worker w .provisioning .finished := ⟨hrow, hstage, by rw [hs']⟩
    rcases DispatchPanelProvisionTask.finalizeRemoteFailure_rows hf with hdb | ⟨t, howns, hsets⟩
    · exact .passes _ worker w .provisioning .finished hmoves rfl (.inl rfl) hdb
    · exact .retries ambient worker errorName w t hmoves hsets howns
  | recordCompensation ambient worker =>
    simp only [exec] at h
    obtain ⟨w, next, hrow, hstage, h, hs'⟩ := panelTransaction_eq_some h
    obtain ⟨⟨status, db⟩, hf, hr⟩ := bind_eq_ok.1 h
    cases hr
    have hmoves : Moves s s' worker w .compensating .finished := ⟨hrow, hstage, by rw [hs']⟩
    rcases DispatchPanelProvisionTask.recordCompensationSuccess_rows hf with
      hdb | ⟨t, terminal, howns, hsets⟩
    · exact .passes _ worker w .compensating .finished hmoves rfl (.inl rfl) hdb
    · exact .compensates ambient worker w t terminal hmoves hsets howns
  | recordCompensationFailure ambient worker errorName =>
    simp only [exec] at h
    obtain ⟨w, next, hrow, hstage, h, hs'⟩ := panelTransaction_eq_some h
    obtain ⟨db, hf, hr⟩ := bind_eq_ok.1 h
    cases hr
    have hmoves : Moves s s' worker w .compensating .finished := ⟨hrow, hstage, by rw [hs']⟩
    rcases DispatchPanelProvisionTask.recordCompensationFailure_rows hf with
      hdb | ⟨t, howns, hsets⟩
    · exact .passes _ worker w .compensating .finished hmoves rfl (.inl rfl) hdb
    · exact .requires ambient worker errorName w t hmoves hsets howns
  | recoverPanelProvisions ambient locked limit =>
    obtain ⟨db, hr, rfl⟩ := Option.map_eq_some_iff.1 h
    exact .recovers ambient locked limit (recoverAll_recovers (toOption_eq_some hr)).1 rfl
  | preparePanelRevoke ambient k =>
    obtain ⟨preparation, hp, hs'⟩ := preparePanelRevoke_eq_some h
    refine hsame rfl (by rw [hs']) ?_
    rcases DispatchPanelRevokeTask.prepare_rows hp with ⟨hdb, -⟩ | ⟨t, t', hsets, -⟩
    · exact congrArg Database.panelProvisionTasks hdb
    · exact hsets.others
  | finalizePanelRevoke ambient worker =>
    obtain ⟨w, status, -, -, hf, hs'⟩ := panelRevokeTransaction_eq_some h
    refine hsame rfl (by rw [hs']) ?_
    rcases DispatchPanelRevokeTask.finalizeSuccess_rows hf with hdb | ⟨t, t', -, hsets, -⟩
    · exact congrArg Database.panelProvisionTasks hdb
    · exact hsets.others
  | failPanelRevoke ambient worker errorName =>
    simp only [exec] at h
    obtain ⟨w, status, -, -, hf, hs'⟩ := panelRevokeTransaction_eq_some h
    refine hsame rfl (by rw [hs']) ?_
    rcases DispatchPanelRevokeTask.finalizeFailure_rows hf with hdb | ⟨t, -, hsets⟩
    · exact congrArg Database.panelProvisionTasks hdb
    · exact hsets.others
  | recoverPanelRevokes ambient locked limit =>
    obtain ⟨db, hr, rfl⟩ := Option.map_eq_some_iff.1 h
    exact hsame rfl rfl (recoverAll_revokes (toOption_eq_some hr)).2
  | _ => exact absurd rfl hcmd

theorem exec_revokeEffect (h : s.exec settings cmd = some s') :
    RevokeEffect settings s s' cmd := by
  have hsame : s'.panelRevokeDispatches = s.panelRevokeDispatches →
      s'.db.panelRevokeTasks = s.db.panelRevokeTasks → RevokeEffect settings s s' cmd := by
    intro hworkers hrows
    refine .grows cmd ?_ hworkers
    rw [hrows]
    exact .refl
  by_cases hcmd : cmd.onPanel = false
  · have hframe := exec_panelFrame h hcmd
    exact .grows cmd hframe.revokes hframe.revokeDispatches
  cases cmd with
  | preparePanel ambient k =>
    obtain ⟨preparation, hp, hs'⟩ := preparePanel_eq_some h
    refine hsame (by rw [hs']) ?_
    rcases DispatchPanelProvisionTask.prepare_rows hp with ⟨hdb, -⟩ | ⟨t, t', hsets, -⟩
    · exact congrArg Database.panelRevokeTasks hdb
    · exact hsets.others
  | finalizeProvision ambient worker =>
    simp only [exec] at h
    obtain ⟨w, next, -, -, h, hs'⟩ := panelTransaction_eq_some h
    obtain ⟨⟨outcome, db⟩, hf, hr⟩ := bind_eq_ok.1 h
    cases hr
    refine hsame (by rw [hs']) ?_
    rcases DispatchPanelProvisionTask.finalizeProvisionSuccess_rows hf with
      ⟨-, hdb⟩ | ⟨t, t', hsets, -⟩
    · exact congrArg Database.panelRevokeTasks hdb
    · exact hsets.others
  | abortProvision worker =>
    simp only [exec] at h
    obtain ⟨w, next, -, -, h, hs'⟩ := panelTransaction_eq_some h
    obtain ⟨-, hdb⟩ := Prod.mk.inj (Except.ok.inj h)
    exact hsame (by rw [hs']) (by rw [← hdb])
  | failProvision ambient worker errorName =>
    simp only [exec] at h
    obtain ⟨w, next, -, -, h, hs'⟩ := panelTransaction_eq_some h
    obtain ⟨⟨status, db⟩, hf, hr⟩ := bind_eq_ok.1 h
    cases hr
    refine hsame (by rw [hs']) ?_
    rcases DispatchPanelProvisionTask.finalizeRemoteFailure_rows hf with hdb | ⟨t, -, hsets⟩
    · exact congrArg Database.panelRevokeTasks hdb
    · exact hsets.others
  | recordCompensation ambient worker =>
    simp only [exec] at h
    obtain ⟨w, next, -, -, h, hs'⟩ := panelTransaction_eq_some h
    obtain ⟨⟨status, db⟩, hf, hr⟩ := bind_eq_ok.1 h
    cases hr
    refine hsame (by rw [hs']) ?_
    rcases DispatchPanelProvisionTask.recordCompensationSuccess_rows hf with
      hdb | ⟨t, terminal, -, hsets⟩
    · exact congrArg Database.panelRevokeTasks hdb
    · exact hsets.others
  | recordCompensationFailure ambient worker errorName =>
    simp only [exec] at h
    obtain ⟨w, next, -, -, h, hs'⟩ := panelTransaction_eq_some h
    obtain ⟨db, hf, hr⟩ := bind_eq_ok.1 h
    cases hr
    refine hsame (by rw [hs']) ?_
    rcases DispatchPanelProvisionTask.recordCompensationFailure_rows hf with hdb | ⟨t, -, hsets⟩
    · exact congrArg Database.panelRevokeTasks hdb
    · exact hsets.others
  | recoverPanelProvisions ambient locked limit =>
    obtain ⟨db, hr, rfl⟩ := Option.map_eq_some_iff.1 h
    exact hsame rfl (recoverAll_recovers (toOption_eq_some hr)).2
  | preparePanelRevoke ambient k =>
    obtain ⟨preparation, hp, hs'⟩ := preparePanelRevoke_eq_some h
    rcases DispatchPanelRevokeTask.prepare_rows hp with
      ⟨hdb, status, rfl⟩ | ⟨t, t', hsets, hstarted, rfl⟩
    · exact hsame (by rw [hs']) (congrArg Database.panelRevokeTasks hdb)
    · exact .claims ambient k t t' _ hsets hstarted rfl (by rw [hs'])
  | finalizePanelRevoke ambient worker =>
    obtain ⟨w, status, hrow, hfin, hf, hs'⟩ := panelRevokeTransaction_eq_some h
    rcases DispatchPanelRevokeTask.finalizeSuccess_rows hf with
      hdb | ⟨t, t', howns, hsets, hcompleted⟩
    · exact .passes _ worker w hrow hfin (by rw [hs']) (congrArg Database.panelRevokeTasks hdb)
    · exact .completes ambient worker w t t' hrow hfin (by rw [hs']) hsets howns hcompleted
  | failPanelRevoke ambient worker errorName =>
    simp only [exec] at h
    obtain ⟨w, status, hrow, hfin, hf, hs'⟩ := panelRevokeTransaction_eq_some h
    rcases DispatchPanelRevokeTask.finalizeFailure_rows hf with hdb | ⟨t, howns, hsets⟩
    · exact .passes _ worker w hrow hfin (by rw [hs']) (congrArg Database.panelRevokeTasks hdb)
    · exact .retries ambient worker errorName w t hrow hfin (by rw [hs']) hsets howns
  | recoverPanelRevokes ambient locked limit =>
    obtain ⟨db, hr, rfl⟩ := Option.map_eq_some_iff.1 h
    exact .recovers ambient locked limit (recoverAll_revokes (toOption_eq_some hr)).1 rfl
  | _ => exact absurd rfl hcmd

/-! ## Workers -/

variable {i k : ℕ} {d : PanelDispatch} {r : PanelRevokeDispatch} {t t' : PanelProvisionTask}
  {q' : PanelRevokeTask}

/-- A provision worker keeps what it has prepared, and only moves on. -/
theorem ProvisionEffect.worker (h : ProvisionEffect settings s s' cmd)
    (hd : s.panelDispatches[i]? = some d) : ∃ d', s'.panelDispatches[i]? = some d' ∧
      d'.prepared = d.prepared ∧ (d'.stage = d.stage ∨ d'.stage = .finished ∨
        (d.stage = .provisioning ∧ d'.stage = .compensating)) := by
  have hmoves : ∀ {worker : ℕ} {w : PanelDispatch} {stage next : PanelStage},
      Moves s s' worker w stage next →
      (next = .finished ∨ (stage = .provisioning ∧ next = .compensating)) →
      ∃ d', s'.panelDispatches[i]? = some d' ∧ d'.prepared = d.prepared ∧
        (d'.stage = d.stage ∨ d'.stage = .finished ∨
          (d.stage = .provisioning ∧ d'.stage = .compensating)) := by
    intro worker w stage next hm hnext
    by_cases hi : worker = i
    · subst hi
      obtain rfl := Option.some.inj (hm.row.symm.trans hd)
      refine ⟨{ w with stage := next }, ?_, rfl, .inr ?_⟩
      · rw [hm.workers]
        simp [(List.getElem?_eq_some_iff.1 hd).1]
      · rw [hm.stage]
        exact hnext
    · refine ⟨d, ?_, rfl, .inl rfl⟩
      rw [hm.workers, List.getElem?_set_ne hi, hd]
  cases h with
  | grows _ idle rows workers => exact ⟨d, by rw [workers, hd], rfl, .inl rfl⟩
  | claims ambient k t t' p sets started prepared workers =>
    refine ⟨d, ?_, rfl, .inl rfl⟩
    rw [workers, List.getElem?_append_left (List.getElem?_eq_some_iff.1 hd).1, hd]
  | passes _ worker w stage next moves acts goesOn same => exact hmoves moves goesOn
  | keeps ambient worker w t t' error moves sets owns kept => exact hmoves moves (.inr ⟨rfl, rfl⟩)
  | activates ambient worker w t t' c moves => exact hmoves moves (.inl rfl)
  | retries ambient worker errorName w t moves => exact hmoves moves (.inl rfl)
  | compensates ambient worker w t terminal moves => exact hmoves moves (.inl rfl)
  | requires ambient worker errorName w t moves => exact hmoves moves (.inl rfl)
  | recovers ambient locked limit rows workers => exact ⟨d, by rw [workers, hd], rfl, .inl rfl⟩

/-- A revoke worker keeps what it has prepared until it finishes. -/
theorem RevokeEffect.worker (h : RevokeEffect settings s s' cmd)
    (hr : s.panelRevokeDispatches[i]? = some r) : ∃ r', s'.panelRevokeDispatches[i]? = some r' ∧
      r'.prepared = r.prepared ∧ (r'.finished = r.finished ∨ r'.finished = true) := by
  have hfinishes : ∀ {worker : ℕ} {w : PanelRevokeDispatch},
      s.panelRevokeDispatches[worker]? = some w → s'.panelRevokeDispatches =
        s.panelRevokeDispatches.set worker { w with finished := true } →
      ∃ r', s'.panelRevokeDispatches[i]? = some r' ∧ r'.prepared = r.prepared ∧
        (r'.finished = r.finished ∨ r'.finished = true) := by
    intro worker w hrow hworkers
    by_cases hi : worker = i
    · subst hi
      obtain rfl := Option.some.inj (hrow.symm.trans hr)
      refine ⟨{ w with finished := true }, ?_, rfl, .inr rfl⟩
      rw [hworkers]
      simp [(List.getElem?_eq_some_iff.1 hr).1]
    · refine ⟨r, ?_, rfl, .inl rfl⟩
      rw [hworkers, List.getElem?_set_ne hi, hr]
  cases h with
  | grows _ rows workers => exact ⟨r, by rw [workers, hr], rfl, .inl rfl⟩
  | claims ambient k t t' p sets started prepared workers =>
    refine ⟨r, ?_, rfl, .inl rfl⟩
    rw [workers, List.getElem?_append_left (List.getElem?_eq_some_iff.1 hr).1, hr]
  | passes _ worker w row unfinished workers => exact hfinishes row workers
  | completes ambient worker w t t' row unfinished workers => exact hfinishes row workers
  | retries ambient worker errorName w t row unfinished workers => exact hfinishes row workers
  | recovers ambient locked limit rows workers => exact ⟨r, by rw [workers, hr], rfl, .inl rfl⟩

/-- A worker has just claimed its task. -/
structure ClaimedBy (s s' : System) (d : PanelDispatch) (t t' : PanelProvisionTask) : Prop where
  before : s.db.panelProvisionTasks[d.prepared.taskId]? = some t
  after : s'.db.panelProvisionTasks[d.prepared.taskId]? = some t'
  pending : t.status = .pending
  required : t'.compensationRequired = t.compensationRequired
  attemptNo : d.prepared.attemptNo = t.attempts + 1
  action : d.prepared.action = if t.compensationRequired then .compensate else .provision
  stage : d.stage = stageOf d.prepared.action
  payload : t'.payload = d.prepared.payload

/-- A provision worker that has just appeared has claimed its task. -/
theorem ProvisionEffect.new_claim (h : ProvisionEffect settings s s' cmd)
    (hi : s.panelDispatches.length ≤ i) (hd : s'.panelDispatches[i]? = some d) :
    ∃ t t', ClaimedBy s s' d t t' := by
  have hlt := (List.getElem?_eq_some_iff.1 hd).1
  have hmoves : ∀ {worker : ℕ} {w : PanelDispatch} {stage next : PanelStage},
      ¬ Moves s s' worker w stage next := by
    intro worker w stage next hm
    rw [hm.workers, List.length_set] at hlt
    omega
  cases h with
  | grows _ idle rows workers =>
    rw [workers] at hlt
    omega
  | claims ambient k t t' p sets started prepared workers =>
    rw [workers, List.getElem?_append_right hi] at hd
    obtain rfl := List.mem_singleton.1 (List.mem_of_getElem? hd)
    obtain ⟨hdispatch, -, ht'⟩ := PanelProvisionTask.startAttempt_eq_ok.1 started
    subst prepared
    have hafter : s'.db.panelProvisionTasks[k]? = some t' := by
      rw [sets.rows]
      exact List.getElem?_set_self (List.getElem?_eq_some_iff.1 sets.row).1
    have hrequired : t'.compensationRequired = t.compensationRequired := by rw [ht']
    exact ⟨t, t', sets.row, hafter, DurableTask.canDispatch_status hdispatch, hrequired,
      by rw [ht'], by rw [hrequired], rfl, rfl⟩
  | passes _ worker w stage next moves => exact absurd moves hmoves
  | keeps ambient worker w t t' error moves => exact absurd moves hmoves
  | activates ambient worker w t t' c moves => exact absurd moves hmoves
  | retries ambient worker errorName w t moves => exact absurd moves hmoves
  | compensates ambient worker w t terminal moves => exact absurd moves hmoves
  | requires ambient worker errorName w t moves => exact absurd moves hmoves
  | recovers ambient locked limit rows workers =>
    rw [workers] at hlt
    omega

theorem ProvisionEffect.new_worker (h : ProvisionEffect settings s s' cmd)
    (hi : s.panelDispatches.length ≤ i) (hd : s'.panelDispatches[i]? = some d) :
    ∃ t, s'.db.panelProvisionTasks[d.prepared.taskId]? = some t ∧
      t.payload = d.prepared.payload := by
  obtain ⟨t, t', hclaim⟩ := h.new_claim hi hd
  exact ⟨t', hclaim.after, hclaim.payload⟩

theorem RevokeEffect.new_worker (h : RevokeEffect settings s s' cmd)
    (hi : s.panelRevokeDispatches.length ≤ i) (hr : s'.panelRevokeDispatches[i]? = some r) :
    ∃ t, s'.db.panelRevokeTasks[r.prepared.taskId]? = some t ∧ t.payload = r.prepared.payload := by
  have hlt := (List.getElem?_eq_some_iff.1 hr).1
  have hfinishes : ∀ {worker : ℕ} {w : PanelRevokeDispatch}, s'.panelRevokeDispatches ≠
      s.panelRevokeDispatches.set worker w := by
    intro worker w hworkers
    rw [hworkers, List.length_set] at hlt
    omega
  cases h with
  | grows _ rows workers =>
    rw [workers] at hlt
    omega
  | claims ambient k t t' p sets started prepared workers =>
    rw [workers, List.getElem?_append_right hi] at hr
    obtain rfl := List.mem_singleton.1 (List.mem_of_getElem? hr)
    refine ⟨t', ?_, by rw [prepared]⟩
    rw [prepared, sets.rows]
    simp [(List.getElem?_eq_some_iff.1 sets.row).1]
  | passes _ worker w row unfinished workers => exact absurd workers hfinishes
  | completes ambient worker w t t' row unfinished workers => exact absurd workers hfinishes
  | retries ambient worker errorName w t row unfinished workers => exact absurd workers hfinishes
  | recovers ambient locked limit rows workers =>
    rw [workers] at hlt
    omega

/-- A provision worker calls the panel with the payload of its task. -/
theorem Reachable.panelDispatch (h : Reachable settings s) (hd : d ∈ s.panelDispatches) :
    ∃ t, s.db.panelProvisionTasks[d.prepared.taskId]? = some t ∧
      t.payload = d.prepared.payload := by
  have hstep : ∀ s s' : System, Reachable settings s →
      (∀ d ∈ s.panelDispatches, ∃ t, s.db.panelProvisionTasks[d.prepared.taskId]? = some t ∧
        t.payload = d.prepared.payload) → Step settings s s' →
      ∀ d ∈ s'.panelDispatches, ∃ t, s'.db.panelProvisionTasks[d.prepared.taskId]? = some t ∧
        t.payload = d.prepared.payload := by
    rintro s s' hr hall ⟨cmd, hcmd⟩ d' hd'
    have heff := exec_provisionEffect hcmd
    obtain ⟨i, hi⟩ := List.mem_iff_getElem?.1 hd'
    rcases Nat.lt_or_ge i s.panelDispatches.length with hlt | hge
    · have hold := List.getElem?_eq_getElem hlt
      obtain ⟨d'', hd'', hp, -⟩ := heff.worker hold
      obtain rfl := Option.some.inj (hd''.symm.trans hi)
      obtain ⟨t, ht, hpay⟩ := hall _ (List.mem_of_getElem? hold)
      obtain ⟨t', ht', hid⟩ := (exec_evolves hr.inv.1 hcmd).keeps.panelProvisionTasks _ t ht
      simp only [PanelProvisionTask.identity, Prod.mk.injEq] at hid
      refine ⟨t', ?_, ?_⟩
      · rw [hp, ht']
      · rw [hp, hid.2.2.2.1, hpay]
    · exact heff.new_worker hge hi
  have hinit : ∀ s : System, Initial s → ∀ d ∈ s.panelDispatches,
      ∃ t, s.db.panelProvisionTasks[d.prepared.taskId]? = some t ∧
        t.payload = d.prepared.payload := by
    intro s hs
    rw [hs]
    simp
  exact Transition.Reachable.invariant (fun s : System => ∀ d ∈ s.panelDispatches,
    ∃ t, s.db.panelProvisionTasks[d.prepared.taskId]? = some t ∧
      t.payload = d.prepared.payload) hinit hstep h d hd

/-- A revoke worker calls the panel with the payload of its task. -/
theorem Reachable.panelRevokeDispatch (h : Reachable settings s)
    (hr : r ∈ s.panelRevokeDispatches) : ∃ t, s.db.panelRevokeTasks[r.prepared.taskId]? = some t ∧
      t.payload = r.prepared.payload := by
  have hstep : ∀ s s' : System, Reachable settings s →
      (∀ r ∈ s.panelRevokeDispatches, ∃ t, s.db.panelRevokeTasks[r.prepared.taskId]? = some t ∧
        t.payload = r.prepared.payload) → Step settings s s' →
      ∀ r ∈ s'.panelRevokeDispatches, ∃ t, s'.db.panelRevokeTasks[r.prepared.taskId]? = some t ∧
        t.payload = r.prepared.payload := by
    rintro s s' hs hall ⟨cmd, hcmd⟩ r' hr'
    have heff := exec_revokeEffect hcmd
    obtain ⟨i, hi⟩ := List.mem_iff_getElem?.1 hr'
    rcases Nat.lt_or_ge i s.panelRevokeDispatches.length with hlt | hge
    · have hold := List.getElem?_eq_getElem hlt
      obtain ⟨r'', hr'', hp, -⟩ := heff.worker hold
      obtain rfl := Option.some.inj (hr''.symm.trans hi)
      obtain ⟨t, ht, hpay⟩ := hall _ (List.mem_of_getElem? hold)
      obtain ⟨t', ht', hid⟩ := (exec_evolves hs.inv.1 hcmd).keeps.panelRevokeTasks _ t ht
      simp only [PanelRevokeTask.identity, Prod.mk.injEq] at hid
      refine ⟨t', ?_, ?_⟩
      · rw [hp, ht']
      · rw [hp, hid.2.2.2.2.2, hpay]
    · exact heff.new_worker hge hi
  have hinit : ∀ s : System, Initial s → ∀ r ∈ s.panelRevokeDispatches,
      ∃ t, s.db.panelRevokeTasks[r.prepared.taskId]? = some t ∧
        t.payload = r.prepared.payload := by
    intro s hs
    rw [hs]
    simp
  exact Transition.Reachable.invariant (fun s : System => ∀ r ∈ s.panelRevokeDispatches,
    ∃ t, s.db.panelRevokeTasks[r.prepared.taskId]? = some t ∧
      t.payload = r.prepared.payload) hinit hstep h r hr

/-! ## Tasks -/

theorem rows_set {α : Type} {rows : List α} {a b c : α} (ha : rows[k]? = some a)
    (hc : (rows.set k b)[i]? = some c) : (i = k ∧ c = b) ∨ (i ≠ k ∧ rows[i]? = some c) := by
  have hrow : (rows.set k b)[i]? = _ := congrFun (Table.getElem?_set ha) i
  rw [hrow] at hc
  by_cases hi : i = k
  · subst hi
    rw [Function.update_self] at hc
    exact .inl ⟨rfl, (Option.some.inj hc).symm⟩
  · rw [Function.update_of_ne hi] at hc
    exact .inr ⟨hi, hc⟩

theorem Grown.cases {α : Type} {new : α → Prop} {rows rows' : List α} {a : α}
    (h : Grown new rows rows') (ha : rows'[k]? = some a) : rows[k]? = some a ∨ new a := by
  obtain ⟨added, rfl, hnew⟩ := h
  rcases Nat.lt_or_ge k rows.length with hlt | hge
  · rw [List.getElem?_append_left hlt] at ha
    exact .inl ha
  · rw [List.getElem?_append_right hge] at ha
    exact .inr (hnew a (List.mem_of_getElem? ha))

/-- What recovery leaves at a position: the task that was there, or it is pending. -/
theorem Recovers.cases {now : DateTime} {rows rows' : List PanelProvisionTask}
    (h : Recovers now rows rows') (ht' : rows'[k]? = some t') :
    rows[k]? = some t' ∨ t'.status = .pending := by
  induction h generalizing t' with
  | refl => exact .inl ht'
  | tail _ hstep ih =>
    obtain ⟨j, u, u', hrow, rfl, hrec⟩ := hstep
    rcases rows_set hrow ht' with ⟨-, rfl⟩ | ⟨-, ht'⟩
    · obtain ⟨-, rfl⟩ := PanelProvisionTask.recoverExpiredLease_eq_ok.1 hrec
      exact .inr rfl
    · exact ih ht'

/-- What recovery leaves at a position: the task that was there, or it is pending. -/
theorem recoversRevokes_cases {now : DateTime} {error : String}
    {rows rows' : List PanelRevokeTask} {q' : PanelRevokeTask}
    (h : ReflTransGen (fun rows rows' => ∃ (k : ℕ) (t t' : PanelRevokeTask), rows[k]? = some t ∧
      rows' = rows.set k t' ∧ t.recoverExpiredLease now error = .ok t') rows rows')
    (hq' : rows'[k]? = some q') : rows[k]? = some q' ∨ q'.status = .pending := by
  induction h generalizing q' with
  | refl => exact .inl hq'
  | tail _ hstep ih =>
    obtain ⟨j, u, u', hrow, rfl, hrec⟩ := hstep
    rcases rows_set hrow hq' with ⟨-, rfl⟩ | ⟨-, hq'⟩
    · obtain ⟨-, rfl⟩ := PanelRevokeTask.recoverExpiredLease_eq_ok.1 hrec
      exact .inr rfl
    · exact ih hq'

/-- A task succeeds by the success finalisation of the worker that owns it. -/
theorem ProvisionEffect.succeeded (h : ProvisionEffect settings s s' cmd)
    (ht' : s'.db.panelProvisionTasks[k]? = some t') (hs : t'.status = .succeeded) :
    s.db.panelProvisionTasks[k]? = some t' ∨ ∃ ambient worker w t,
      cmd = .finalizeProvision ambient worker ∧ s.panelDispatches[worker]? = some w ∧
      w.stage = .provisioning ∧ w.prepared.taskId = k ∧
      s.db.panelProvisionTasks[k]? = some t ∧
      t.ownsLease w.prepared.leaseToken w.prepared.attemptNo = true := by
  have hother : ∀ {j : ℕ} {u u' : PanelProvisionTask}, s.db.SetsProvision s'.db j u u' →
      u'.status ≠ .succeeded → s.db.panelProvisionTasks[k]? = some t' := by
    intro j u u' hsets hne
    rw [hsets.rows] at ht'
    rcases rows_set hsets.row ht' with ⟨-, rfl⟩ | ⟨-, ht'⟩
    · exact absurd hs hne
    · exact ht'
  cases h with
  | grows _ idle rows workers =>
    rcases Grown.cases rows ht' with ht | hnew
    · exact .inl ht
    · rw [hnew.1.1] at hs
      cases hs
  | claims ambient j u u' p sets started prepared workers =>
    obtain ⟨-, -, rfl⟩ := PanelProvisionTask.startAttempt_eq_ok.1 started
    exact .inl (hother sets (by simp))
  | passes _ worker w stage next moves acts goesOn same =>
    rw [same] at ht'
    exact .inl ht'
  | keeps ambient worker w u u' error moves sets owns kept =>
    obtain ⟨hp, rfl⟩ := PanelProvisionTask.markCompensationRequired_eq_ok.1 kept
    exact .inl (hother sets (by simp [hp]))
  | activates ambient worker w u u' c moves sets owns completed configuration active =>
    have hset := ht'
    rw [sets.rows] at hset
    rcases rows_set sets.row hset with ⟨rfl, -⟩ | ⟨-, ht⟩
    · exact .inr ⟨ambient, worker, w, u, rfl, moves.row, moves.stage, rfl, sets.row, owns⟩
    · exact .inl ht
  | retries ambient worker errorName w u moves sets owns =>
    refine .inl (hother sets ?_)
    change (u.toDurableTask.retry _ _ _).status ≠ .succeeded
    rw [DurableTask.retry_status]
    split_ifs <;> simp
  | compensates ambient worker w u terminal moves sets owns =>
    refine .inl (hother sets ?_)
    rw [PanelProvisionTask.compensationSucceeded_status]
    split_ifs <;> simp
  | requires ambient worker errorName w u moves sets owns =>
    exact .inl (hother sets (by simp [PanelProvisionTask.requireCompensation]))
  | recovers ambient locked limit rows workers =>
    rcases rows.cases ht' with ht | hp
    · exact .inl ht
    · rw [hp] at hs
      cases hs

/-- An open task ends by the transaction of the worker that owns it: the configuration
becomes active, the last attempt has failed, or the provision has been compensated. -/
theorem ProvisionEffect.ends (h : ProvisionEffect settings s s' cmd)
    (ht : s.db.panelProvisionTasks[k]? = some t) (hopen : t.status.isOpen = true)
    (ht' : s'.db.panelProvisionTasks[k]? = some t') (hended : t'.status.isOpen = false) :
    ∃ worker w, s.panelDispatches[worker]? = some w ∧ w.prepared.taskId = k ∧
      t.ownsLease w.prepared.leaseToken w.prepared.attemptNo = true ∧
      ((∃ c, s'.db.vpnConfigurations[t.vpnConfigurationId]? = some c ∧ c.status = .active) ∨
        (∃ ambient errorName, cmd = .failProvision ambient worker errorName ∧
          t.maxAttempts ≤ t.attempts) ∨
        (w.stage = .compensating ∧ ∃ ambient, cmd = .recordCompensation ambient worker)) := by
  have hopen' : t' ≠ t := by
    rintro rfl
    rw [hopen] at hended
    cases hended
  have hset : ∀ {j : ℕ} {u u' : PanelProvisionTask}, s.db.SetsProvision s'.db j u u' →
      j = k ∧ u = t ∧ u' = t' := by
    intro j u u' hsets
    rw [hsets.rows] at ht'
    rcases rows_set hsets.row ht' with ⟨rfl, rfl⟩ | ⟨-, ht'⟩
    · exact ⟨rfl, Option.some.inj (hsets.row.symm.trans ht), rfl⟩
    · exact absurd (Option.some.inj (ht'.symm.trans ht)) hopen'
  cases h with
  | grows _ idle rows workers =>
    rcases Grown.cases rows ht' with hold | hnew
    · exact absurd (Option.some.inj (hold.symm.trans ht)) hopen'
    · rw [hnew.1.1] at hended
      cases hended
  | claims ambient j u u' p sets started prepared workers =>
    obtain ⟨rfl, rfl, rfl⟩ := hset sets
    obtain ⟨-, -, rfl⟩ := PanelProvisionTask.startAttempt_eq_ok.1 started
    cases hended
  | passes _ worker w stage next moves acts goesOn same =>
    rw [same] at ht'
    exact absurd (Option.some.inj (ht'.symm.trans ht)) hopen'
  | keeps ambient worker w u u' error moves sets owns kept =>
    obtain ⟨rfl, rfl, rfl⟩ := hset sets
    obtain ⟨hp, rfl⟩ := PanelProvisionTask.markCompensationRequired_eq_ok.1 kept
    have hsame : u.status.isOpen = false := hended
    rw [hp] at hsame
    cases hsame
  | activates ambient worker w u u' c moves sets owns completed configuration active =>
    obtain ⟨rfl, rfl, rfl⟩ := hset sets
    exact ⟨worker, w, moves.row, rfl, owns, .inl ⟨c, configuration, active⟩⟩
  | retries ambient worker errorName w u moves sets owns =>
    obtain ⟨rfl, rfl, rfl⟩ := hset sets
    refine ⟨worker, w, moves.row, rfl, owns, .inr (.inl ⟨ambient, errorName, rfl, ?_⟩)⟩
    change (u.toDurableTask.retry _ _ _).status.isOpen = false at hended
    rw [DurableTask.retry_status] at hended
    split_ifs at hended with hmax
    · exact hmax
    · cases hended
  | compensates ambient worker w u terminal moves sets owns =>
    obtain ⟨rfl, rfl, rfl⟩ := hset sets
    exact ⟨worker, w, moves.row, rfl, owns, .inr (.inr ⟨moves.stage, ambient, rfl⟩)⟩
  | requires ambient worker errorName w u moves sets owns =>
    obtain ⟨rfl, rfl, rfl⟩ := hset sets
    cases hended
  | recovers ambient locked limit rows workers =>
    rcases rows.cases ht' with hold | hp
    · exact absurd (Option.some.inj (hold.symm.trans ht)) hopen'
    · rw [hp] at hended
      cases hended

/-- A revoke task succeeds by the success finalisation of the worker that owns it. -/
theorem RevokeEffect.succeeded (h : RevokeEffect settings s s' cmd)
    (hq' : s'.db.panelRevokeTasks[k]? = some q') (hs : q'.status = .succeeded) :
    s.db.panelRevokeTasks[k]? = some q' ∨ ∃ ambient worker w q,
      cmd = .finalizePanelRevoke ambient worker ∧ s.panelRevokeDispatches[worker]? = some w ∧
      w.finished = false ∧ w.prepared.taskId = k ∧ s.db.panelRevokeTasks[k]? = some q ∧
      q.ownsLease w.prepared.leaseToken w.prepared.attemptNo = true := by
  have hother : ∀ {j : ℕ} {u u' : PanelRevokeTask}, s.db.SetsRevoke s'.db j u u' →
      u'.status ≠ .succeeded → s.db.panelRevokeTasks[k]? = some q' := by
    intro j u u' hsets hne
    rw [hsets.rows] at hq'
    rcases rows_set hsets.row hq' with ⟨-, rfl⟩ | ⟨-, hq'⟩
    · exact absurd hs hne
    · exact hq'
  cases h with
  | grows _ rows workers =>
    rcases Grown.cases rows hq' with hq | hnew
    · exact .inl hq
    · rw [hnew.1] at hs
      cases hs
  | claims ambient j u u' p sets started prepared workers =>
    obtain ⟨-, -, rfl⟩ := PanelRevokeTask.startAttempt_eq_ok.1 started
    exact .inl (hother sets (by simp))
  | passes _ worker w row unfinished workers rows =>
    rw [rows] at hq'
    exact .inl hq'
  | completes ambient worker w u u' row unfinished workers sets owns completed =>
    have hset := hq'
    rw [sets.rows] at hset
    rcases rows_set sets.row hset with ⟨rfl, -⟩ | ⟨-, hq⟩
    · exact .inr ⟨ambient, worker, w, u, rfl, row, unfinished, rfl, sets.row, owns⟩
    · exact .inl hq
  | retries ambient worker errorName w u row unfinished workers sets owns =>
    refine .inl (hother sets ?_)
    change (u.toDurableTask.retry _ _ _).status ≠ .succeeded
    rw [DurableTask.retry_status]
    split_ifs <;> simp
  | recovers ambient locked limit rows workers =>
    rcases recoversRevokes_cases rows hq' with hq | hp
    · exact .inl hq
    · rw [hp] at hs
      cases hs

end System

end ShopBot
