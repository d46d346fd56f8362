import ShopBot.Guarantees.NodeTaskLedger
import ShopBot.Refinement.PanelWorkers

/-! # Every open task has its time

No transaction leaves a task that waits without the time at which it is due, or one in progress
without the end of its lease, so the queries that look for work miss none.
-/

namespace ShopBot

open Database

namespace DurableTask

variable {t : DurableTask} {now : DateTime}

theorem clearLease_scheduled (hs : t.status ≠ .inProgress)
    (hdue : t.status = .pending → t.nextRetryAt.isSome = true) : t.clearLease.Scheduled :=
  ⟨hdue, fun h => absurd h hs⟩

theorem Scheduled.of_leased (hs : t.status = .inProgress)
    (hlease : t.leaseExpiresAt.isSome = true) : t.Scheduled := by
  refine ⟨fun hp => ?_, fun _ => hlease⟩
  rw [hs] at hp
  cases hp

end DurableTask

namespace Database

variable {mapper : RowMapper} {db db' : Database} {k : ℕ}

theorem Scheduled.of_eq (h : Scheduled mapper db) (hnode : db'.nodeTasks = db.nodeTasks)
    (hpanel : db'.panelTasks = db.panelTasks) : Scheduled mapper db' := by
  have hprovision : db'.panelProvisionTasks = db.panelProvisionTasks := congrArg Prod.fst hpanel
  have hrevoke : db'.panelRevokeTasks = db.panelRevokeTasks := congrArg Prod.snd hpanel
  constructor
  · rw [hnode]
    exact h.nodeTasks
  · rw [hprovision]
    exact h.panelProvisionTasks
  · rw [hprovision]
    exact h.readable
  · rw [hrevoke]
    exact h.panelRevokeTasks

/-- One node task has been written. -/
theorem Scheduled.setNode {t : NodeTask} (h : Scheduled mapper db)
    (hnode : db'.nodeTasks = db.nodeTasks.set k t) (hpanel : db'.panelTasks = db.panelTasks)
    (ht : t.Scheduled) : Scheduled mapper db' := by
  have hset : Scheduled mapper { db with nodeTasks := db.nodeTasks.set k t } :=
    ⟨forall_mem_set h.nodeTasks ht, h.panelProvisionTasks, h.readable, h.panelRevokeTasks⟩
  exact hset.of_eq hnode hpanel

theorem Scheduled.setProvision {t t' : PanelProvisionTask} (h : Scheduled mapper db)
    (hnode : db'.nodeTasks = db.nodeTasks) (hsets : db.SetsProvision db' k t t')
    (ht : t'.Scheduled) : Scheduled mapper db' := by
  constructor
  · rw [hnode]
    exact h.nodeTasks
  · rw [hsets.rows]
    exact forall_mem_set h.panelProvisionTasks ht
  · intro _ _
    exact h.readable t (List.mem_of_getElem? hsets.row)
  · rw [hsets.others]
    exact h.panelRevokeTasks

theorem Scheduled.setRevoke {t t' : PanelRevokeTask} (h : Scheduled mapper db)
    (hnode : db'.nodeTasks = db.nodeTasks) (hsets : db.SetsRevoke db' k t t')
    (ht : t'.Scheduled) : Scheduled mapper db' := by
  constructor
  · rw [hnode]
    exact h.nodeTasks
  · rw [hsets.others]
    exact h.panelProvisionTasks
  · rw [hsets.others]
    exact h.readable
  · rw [hsets.rows]
    exact forall_mem_set h.panelRevokeTasks ht

end Database

variable {settings : Settings} {ambient : Ambient} {db db₁ db' : Database} {k id : ℕ}

/-! ## Node tasks -/

namespace DispatchNodeTask

variable {t : NodeTask} {error status : String} {response : Option NodeResponse}

theorem failOrRetry_scheduled (h : failOrRetry settings ambient db t k error response =
    .ok (status, db')) (hs : Scheduled settings.mapper db) : Scheduled settings.mapper db' := by
  have hnode : db'.nodeTasks = db.nodeTasks.set k
      (t.retry error response ambient.now settings.nodeRetryBaseSeconds) :=
    congrArg NodeLedger.tasks (failOrRetry_ledger h)
  exact hs.setNode hnode (failOrRetry_panelTasks h) (DurableTask.retry_scheduled ..)

theorem startTask_scheduled {preparation : NodePreparation} {node : Node}
    (h : startTask settings ambient db t k node = .ok (preparation, db'))
    (hs : Scheduled settings.mapper db) : Scheduled settings.mapper db' := by
  obtain ⟨t', ht', h⟩ := bind_eq_ok.1 h
  obtain ⟨-, -, ht'⟩ := NodeTask.startAttempt_eq_ok.1 ht'
  obtain ⟨⟨attemptId, db₁⟩, hattempt, h⟩ := bind_eq_ok.1 h
  obtain ⟨hdb₁, -⟩ := createTaskAttempt_ledger hattempt
  have hfirst : Scheduled settings.mapper db₁ := by
    rw [hdb₁]
    refine hs.setNode (k := k) (t := t') rfl rfl ?_
    rw [ht']
    exact .of_leased rfl rfl
  dsimp only at h
  split_ifs at h
  · obtain ⟨⟨status, db₂⟩, hf, h⟩ := bind_eq_ok.1 h
    cases h
    exact failOrRetry_scheduled hf (hfirst.of_eq rfl rfl)
  · cases h
    exact hfirst

theorem prepare_scheduled {preparation : NodePreparation}
    (h : prepare settings ambient db k = .ok (preparation, db'))
    (hs : Scheduled settings.mapper db) : Scheduled settings.mapper db' := by
  unfold prepare at h
  split at h
  next =>
    cases h
    exact hs
  next t ht =>
    have hdefer : ∀ {reason : String},
        deferUnavailableNode settings ambient db t k reason = .ok (preparation, db') →
        Scheduled settings.mapper db' := by
      intro reason h
      obtain ⟨t', ht', h⟩ := bind_eq_ok.1 h
      obtain ⟨hpending, -, ht'⟩ := NodeTask.deferWithoutAttempt_eq_ok.1 ht'
      cases h
      refine hs.setNode (k := k) (t := t') rfl rfl ?_
      rw [ht']
      refine DurableTask.clearLease_scheduled ?_ fun _ => rfl
      simp [hpending]
    split at h
    next =>
      cases h
      exact hs
    next =>
      split at h
      next => exact hdefer h
      next =>
        split_ifs at h
        · exact startTask_scheduled h hs
        · exact hdefer h

theorem finalizeSuccess_scheduled {f : DispatchFinalization} {r : NodeResponse}
    (h : finalizeSuccess ambient db t k r = .ok (f, db')) (hs : Scheduled settings.mapper db) :
    Scheduled settings.mapper db' := by
  obtain ⟨t', ht', h⟩ := bind_eq_ok.1 h
  obtain ⟨-, ht'⟩ := NodeTask.complete_eq_ok.1 ht'
  have hsaved : Scheduled settings.mapper (db.saveNodeTask k t') := by
    refine hs.setNode (k := k) (t := t') rfl rfl ?_
    rw [ht']
    exact .of_terminal rfl
  dsimp only at h
  split at h
  · exact (completeProvision_inserted h).scheduled hsaved
  · exact (completeRevoke_inserted h).scheduled hsaved
  · cases h
    exact hsaved

theorem finalize_scheduled {p : PreparedDispatch} {reply : NodeReply} {f : DispatchFinalization}
    (h : finalize settings ambient db p reply = .ok (f, db')) (hs : Scheduled settings.mapper db) :
    Scheduled settings.mapper db' := by
  unfold finalize at h
  split at h
  next =>
    cases h
    exact hs
  next t ht =>
    by_cases howns : t.ownsActiveLease p.leaseToken p.attemptNo ambient.now = true
    · rw [if_pos howns] at h
      split at h
      · obtain ⟨⟨status, db₁⟩, hf, h⟩ := bind_eq_ok.1 h
        cases h
        exact failOrRetry_scheduled hf (hs.of_eq rfl rfl)
      · split_ifs at h
        · exact finalizeSuccess_scheduled h (hs.of_eq rfl rfl)
        · obtain ⟨⟨status, db₁⟩, hf, h⟩ := bind_eq_ok.1 h
          cases h
          exact failOrRetry_scheduled hf (hs.of_eq rfl rfl)
    · rw [if_neg howns] at h
      cases h
      exact hs

end DispatchNodeTask

/-! ## Recovery -/

namespace DispatchNodeTask

/-- A failure of a configuration is only recorded where it can be. -/
theorem markConfigurationFailure_total (db : Database) (t : NodeTask) :
    ∃ db', markConfigurationFailure db t = .ok db' := by
  unfold markConfigurationFailure
  split
  · exact ⟨_, rfl⟩
  · split
    · exact ⟨_, rfl⟩
    · split_ifs with hgeneration hprovision hrevoke
      · exact ⟨_, rfl⟩
      · simp [VpnConfiguration.failProvisioning, hprovision.2.2, Except.map]
      · simp [VpnConfiguration.failRevoke, hrevoke.2.2, Except.map]
      · exact ⟨_, rfl⟩

/-- What recovery makes of a task. -/
def Recovered (settings : Settings) (now : DateTime) (t t' : NodeTask) : Prop :=
  t' = t.retry "node task lease expired" none now settings.nodeRetryBaseSeconds

/-- Recovery does not fail, and it changes the tasks that were found and no others. -/
theorem recoverAll_total (settings : Settings) (ambient : Ambient) (db : Database) {ids : List ℕ}
    (hdistinct : ids.Nodup)
    (hstale : ∀ k ∈ ids, ∃ t, db.nodeTasks[k]? = some t ∧ t.leaseIsExpired ambient.now = true) :
    ∃ db', recoverAll settings ambient db ids = .ok db' ∧
      Table.Rewritten (Recovered settings ambient.now) ids db.nodeTasks db'.nodeTasks := by
  induction ids generalizing db with
  | nil => exact ⟨db, rfl, .nil _⟩
  | cons k rest ih =>
    rw [List.nodup_cons] at hdistinct
    obtain ⟨t, ht, hexpired⟩ := hstale k List.mem_cons_self
    obtain ⟨db₁, hone, hrows⟩ : ∃ db₁, recoverOne settings ambient db k = .ok db₁ ∧
        db₁.nodeTasks = db.nodeTasks.set k
          (t.retry "node task lease expired" none ambient.now settings.nodeRetryBaseSeconds) := by
      have hfound : db.getNodeTask k = some t := ht
      have hretry : t.recoverExpiredLease ambient.now "node task lease expired"
          settings.nodeRetryBaseSeconds = .ok _ :=
        NodeTask.recoverExpiredLease_eq_ok.2 ⟨hexpired, rfl⟩
      unfold recoverOne
      simp only [hfound, hexpired, if_true]
      by_cases hfailed : (t.retry "node task lease expired" none ambient.now
          settings.nodeRetryBaseSeconds).status = .failed
      · obtain ⟨db₁, hmark⟩ := markConfigurationFailure_total
          ((db.failStartedTaskAttempt k t.attempts ambient.now
            "node task lease expired").saveNodeTask k _) (t.retry "node task lease expired" none
              ambient.now settings.nodeRetryBaseSeconds)
        refine ⟨db₁, bind_eq_ok.2 ⟨_, hretry, ?_⟩,
          congrArg NodeLedger.tasks (markConfigurationFailure_ledger hmark)⟩
        rw [if_pos hfailed]
        exact hmark
      · refine ⟨(db.failStartedTaskAttempt k t.attempts ambient.now
          "node task lease expired").saveNodeTask k _, bind_eq_ok.2 ⟨_, hretry, ?_⟩, rfl⟩
        rw [if_neg hfailed]
        rfl
    have hrest : ∀ j ∈ rest, ∃ u, db₁.nodeTasks[j]? = some u ∧
        u.leaseIsExpired ambient.now = true := by
      intro j hj
      have hne : k ≠ j := by
        rintro rfl
        exact hdistinct.1 hj
      obtain ⟨u, hu, hu'⟩ := hstale j (List.mem_cons_of_mem _ hj)
      exact ⟨u, by rw [hrows, List.getElem?_set_ne hne]; exact hu, hu'⟩
    obtain ⟨db', hall, hrewritten⟩ := ih _ hdistinct.2 hrest
    refine ⟨db', bind_eq_ok.2 ⟨db₁, hone, hall⟩, .cons ht rfl ?_⟩
    rw [← hrows]
    exact hrewritten

theorem recoverAll_scheduled {ids : List ℕ} (h : recoverAll settings ambient db ids = .ok db')
    (hs : Scheduled settings.mapper db) : Scheduled settings.mapper db' := by
  induction ids generalizing db with
  | nil =>
    cases h
    exact hs
  | cons k rest ih =>
    obtain ⟨db₁, h₁, h₂⟩ := bind_eq_ok.1 h
    refine ih h₂ ?_
    unfold recoverOne at h₁
    split at h₁
    next =>
      cases h₁
      exact hs
    next t ht =>
      split_ifs at h₁
      · obtain ⟨t', ht', h₁⟩ := bind_eq_ok.1 h₁
        obtain ⟨-, rfl⟩ := NodeTask.recoverExpiredLease_eq_ok.1 ht'
        have hretry : (t.retry "node task lease expired" none ambient.now
          settings.nodeRetryBaseSeconds).Scheduled := DurableTask.retry_scheduled ..
        dsimp only at h₁
        split_ifs at h₁
        · have hnode := congrArg NodeLedger.tasks (markConfigurationFailure_ledger h₁)
          have hpanel := markConfigurationFailure_panelTasks h₁
          exact hs.setNode hnode hpanel hretry
        · cases h₁
          exact hs.setNode (k := k) rfl rfl hretry
      · cases h₁
        exact hs

end DispatchNodeTask

namespace DispatchPanelProvisionTask

/-- What recovery makes of a task. -/
def Recovered (now : DateTime) (t t' : PanelProvisionTask) : Prop :=
  t' = { t with
    toDurableTask := t.release now
      "panel provision lease expired; compensation required before retry"
    compensationRequired := true }

theorem recoverAll_total (ambient : Ambient) (db : Database) {ids : List ℕ}
    (hreadable : ∀ t ∈ db.panelProvisionTasks, settings.mapper = .storedFields)
    (hdistinct : ids.Nodup)
    (hstale : ∀ k ∈ ids, ∃ t, db.panelProvisionTasks[k]? = some t ∧
      t.leaseIsExpired ambient.now = true) :
    ∃ db', recoverAll settings ambient db ids = .ok db' ∧
      Table.Rewritten (Recovered ambient.now) ids db.panelProvisionTasks
        db'.panelProvisionTasks := by
  induction ids generalizing db with
  | nil => exact ⟨db, rfl, .nil _⟩
  | cons k rest ih =>
    rw [List.nodup_cons] at hdistinct
    obtain ⟨t, ht, hexpired⟩ := hstale k List.mem_cons_self
    have hone : recoverOne settings ambient db k = .ok (db.savePanelProvisionTask k { t with
        toDurableTask := t.release ambient.now
          "panel provision lease expired; compensation required before retry"
        compensationRequired := true }) := by
      have hfound : db.getPanelProvisionTask settings.mapper k = .ok (some t) := by
        unfold getPanelProvisionTask
        rw [ht, hreadable t (List.mem_of_getElem? ht)]
        rfl
      have hretry : t.recoverExpiredLease ambient.now
          "panel provision lease expired; compensation required before retry" = .ok _ :=
        PanelProvisionTask.recoverExpiredLease_eq_ok.2 ⟨hexpired, rfl⟩
      exact bind_eq_ok.2 ⟨_, hfound, bind_eq_ok.2 ⟨_, hretry, rfl⟩⟩
    have hrest : ∀ j ∈ rest, ∃ u, (db.savePanelProvisionTask k { t with
        toDurableTask := t.release ambient.now
          "panel provision lease expired; compensation required before retry"
        compensationRequired := true }).panelProvisionTasks[j]? = some u ∧
        u.leaseIsExpired ambient.now = true := by
      intro j hj
      have hne : k ≠ j := by
        rintro rfl
        exact hdistinct.1 hj
      obtain ⟨u, hu, hu'⟩ := hstale j (List.mem_cons_of_mem _ hj)
      exact ⟨u, (List.getElem?_set_ne hne).trans hu, hu'⟩
    obtain ⟨db', hall, hrewritten⟩ := ih _
      (fun _ _ => hreadable t (List.mem_of_getElem? ht)) hdistinct.2 hrest
    exact ⟨db', bind_eq_ok.2 ⟨_, hone, hall⟩, .cons ht rfl hrewritten⟩

theorem recoverAll_scheduled {ids : List ℕ} (h : recoverAll settings ambient db ids = .ok db')
    (hs : Scheduled settings.mapper db) : Scheduled settings.mapper db' := by
  induction ids generalizing db with
  | nil =>
    cases h
    exact hs
  | cons k rest ih =>
    obtain ⟨db₁, h₁, h₂⟩ := bind_eq_ok.1 h
    refine ih h₂ ?_
    have hall : recoverAll settings ambient db [k] = .ok db₁ := bind_eq_ok.2 ⟨db₁, h₁, rfl⟩
    have hnode : db₁.nodeTasks = db.nodeTasks :=
      congrArg NodeLedger.tasks (recoverAll_nodeLedger hall)
    rcases recoverOne_rows h₁ with rfl | ⟨t, t', hsets, ht'⟩
    · exact hs
    · obtain ⟨-, rfl⟩ := PanelProvisionTask.recoverExpiredLease_eq_ok.1 ht'
      exact hs.setProvision hnode hsets (DurableTask.release_scheduled ..)

end DispatchPanelProvisionTask

namespace DispatchPanelRevokeTask

/-- What recovery makes of a task. -/
def Recovered (now : DateTime) (t t' : PanelRevokeTask) : Prop :=
  t' = { t with toDurableTask := t.release now "panel revoke lease expired" }

theorem recoverAll_total (ambient : Ambient) (db : Database) {ids : List ℕ}
    (hdistinct : ids.Nodup)
    (hstale : ∀ k ∈ ids, ∃ t, db.panelRevokeTasks[k]? = some t ∧
      t.leaseIsExpired ambient.now = true) :
    ∃ db', recoverAll ambient db ids = .ok db' ∧
      Table.Rewritten (Recovered ambient.now) ids db.panelRevokeTasks db'.panelRevokeTasks := by
  induction ids generalizing db with
  | nil => exact ⟨db, rfl, .nil _⟩
  | cons k rest ih =>
    rw [List.nodup_cons] at hdistinct
    obtain ⟨t, ht, hexpired⟩ := hstale k List.mem_cons_self
    have hone : recoverOne ambient db k = .ok (db.savePanelRevokeTask k
        { t with toDurableTask := t.release ambient.now "panel revoke lease expired" }) := by
      have hfound : db.getPanelRevokeTask k = some t := ht
      have hretry : t.recoverExpiredLease ambient.now "panel revoke lease expired" = .ok _ :=
        PanelRevokeTask.recoverExpiredLease_eq_ok.2 ⟨hexpired, rfl⟩
      unfold recoverOne
      rw [hfound]
      exact bind_eq_ok.2 ⟨_, hretry, rfl⟩
    have hrest : ∀ j ∈ rest, ∃ u, (db.savePanelRevokeTask k
        { t with toDurableTask := t.release ambient.now "panel revoke lease expired"
          }).panelRevokeTasks[j]? = some u ∧ u.leaseIsExpired ambient.now = true := by
      intro j hj
      have hne : k ≠ j := by
        rintro rfl
        exact hdistinct.1 hj
      obtain ⟨u, hu, hu'⟩ := hstale j (List.mem_cons_of_mem _ hj)
      exact ⟨u, (List.getElem?_set_ne hne).trans hu, hu'⟩
    obtain ⟨db', hall, hrewritten⟩ := ih _ hdistinct.2 hrest
    exact ⟨db', bind_eq_ok.2 ⟨_, hone, hall⟩, .cons ht rfl hrewritten⟩

theorem recoverAll_scheduled {ids : List ℕ} (h : recoverAll ambient db ids = .ok db')
    (hs : Scheduled settings.mapper db) : Scheduled settings.mapper db' := by
  induction ids generalizing db with
  | nil =>
    cases h
    exact hs
  | cons k rest ih =>
    obtain ⟨db₁, h₁, h₂⟩ := bind_eq_ok.1 h
    refine ih h₂ ?_
    have hall : recoverAll ambient db [k] = .ok db₁ := bind_eq_ok.2 ⟨db₁, h₁, rfl⟩
    have hnode : db₁.nodeTasks = db.nodeTasks :=
      congrArg NodeLedger.tasks (recoverAll_nodeLedger hall)
    rcases recoverOne_rows h₁ with rfl | ⟨t, t', hsets, ht'⟩
    · exact hs
    · obtain ⟨-, rfl⟩ := PanelRevokeTask.recoverExpiredLease_eq_ok.1 ht'
      exact hs.setRevoke hnode hsets (DurableTask.release_scheduled ..)

end DispatchPanelRevokeTask

/-! ## Every command -/

namespace System

variable {s s' : System} {cmd : Command}

/-- The commands of the billing ledger leave the tasks alone. -/
theorem exec_keepsTasks (h : s.exec settings cmd = some s') (hcmd : cmd.onVpn = false) :
    s'.db.nodeTasks = s.db.nodeTasks ∧ s'.db.panelTasks = s.db.panelTasks := by
  have hkeeps : s.db.KeepsVpn s'.db →
      s'.db.nodeTasks = s.db.nodeTasks ∧ s'.db.panelTasks = s.db.panelTasks := by
    intro hk
    exact ⟨congrArg NodeLedger.tasks hk.nodeLedger, hk.panelTasks⟩
  cases cmd with
  | createPayment request now leaseSeconds token =>
    obtain ⟨⟨p, db⟩, hr, h⟩ := Option.bind_eq_some_iff.1 h
    have hk := CreatePayment.prepareOrder_keepsVpn (toOption_eq_some hr)
    dsimp only at h
    split_ifs at h <;> cases h <;> exact hkeeps hk
  | finalizeInvoice claim intent now =>
    obtain ⟨w, hrow, h⟩ := Option.bind_eq_some_iff.1 h
    split_ifs at h
    obtain ⟨db, hr, h⟩ := Option.bind_eq_some_iff.1 h
    cases h
    obtain ⟨⟨a, db₁⟩, hf, hr⟩ := bind_eq_ok.1 (toOption_eq_some hr)
    cases hr
    exact hkeeps (CreatePayment.finalizeOwnedClaim_keepsVpn hf)
  | failInvoice claim now =>
    obtain ⟨w, hrow, h⟩ := Option.bind_eq_some_iff.1 h
    split_ifs at h
    obtain ⟨db, hr, h⟩ := Option.bind_eq_some_iff.1 h
    cases h
    exact hkeeps (CreatePayment.failOwnedClaim_keepsVpn (toOption_eq_some hr))
  | ingestWebhook provider webhook headers rawPayload now =>
    obtain ⟨r, h⟩ := commit_eq_some h
    exact hkeeps (IngestWebhook.execute_keepsVpn h)
  | processPayment now eventId =>
    obtain ⟨r, h⟩ := commit_eq_some h
    exact hkeeps (ProcessPayment.execute_keepsVpn h)
  | markPaymentOrderPaid orderId now =>
    obtain ⟨r, h⟩ := commit_eq_some h
    exact hkeeps (AdminOperations.markPaymentOrderPaid_keepsVpn h)
  | listAnomalies now afterKindOrder afterEntityId limit =>
    cases h
    exact ⟨rfl, rfl⟩
  | processAnomaly batch index =>
    obtain ⟨b, -, h⟩ := Option.bind_eq_some_iff.1 h
    obtain ⟨a, -, h⟩ := Option.bind_eq_some_iff.1 h
    cases h
    exact hkeeps (ReconcileSubscriptions.processAnomaly_keepsVpn a)
  | administer nodes tariffs endpoints =>
    cases h
    exact ⟨rfl, rfl⟩
  | _ => cases hcmd

theorem exec_scheduled (h : s.exec settings cmd = some s') (hs : Scheduled settings.mapper s.db) :
    Scheduled settings.mapper s'.db := by
  have hbilling : cmd.onVpn = false → Scheduled settings.mapper s'.db := by
    intro hcmd
    obtain ⟨hnode, hpanel⟩ := exec_keepsTasks h hcmd
    exact hs.of_eq hnode hpanel
  cases cmd with
  | provisionVpn ambient subscriptionId =>
    obtain ⟨r, h⟩ := commit_eq_some h
    exact (ProvisionVpn.preparePlan_inserted h).scheduled hs
  | revokeVpn ambient id reason =>
    obtain ⟨r, h⟩ := commit_eq_some h
    exact (RevokeVpn.preparePlan_inserted h).scheduled hs
  | prepareNode ambient taskId =>
    obtain ⟨p, h, -⟩ := prepareNode_eq_some h
    exact DispatchNodeTask.prepare_scheduled h hs
  | finalizeNode ambient worker reply =>
    obtain ⟨w, f, -, -, h, -⟩ := finalizeNode_eq_some h
    exact DispatchNodeTask.finalize_scheduled h hs
  | recoverNodes ambient locked limit =>
    exact DispatchNodeTask.recoverAll_scheduled (commitDb_eq_some h) hs
  | preparePanel ambient taskId =>
    obtain ⟨p, h, -⟩ := preparePanel_eq_some h
    have hnode := congrArg NodeLedger.tasks (DispatchPanelProvisionTask.prepare_nodeLedger h)
    rcases DispatchPanelProvisionTask.prepare_rows h with ⟨hdb, -⟩ | ⟨t, t', hsets, hstart, -⟩
    · rw [hdb]
      exact hs
    · obtain ⟨-, -, rfl⟩ := PanelProvisionTask.startAttempt_eq_ok.1 hstart
      exact hs.setProvision hnode hsets (.of_leased rfl rfl)
  | finalizeProvision ambient worker =>
    simp only [exec] at h
    obtain ⟨w, next, -, -, h, -⟩ := panelTransaction_eq_some h
    obtain ⟨⟨outcome, db⟩, hf, hr⟩ := bind_eq_ok.1 h
    cases hr
    have hnode := congrArg NodeLedger.tasks
      (DispatchPanelProvisionTask.finalizeProvisionSuccess_nodeLedger hf)
    rcases DispatchPanelProvisionTask.finalizeProvisionSuccess_rows hf with
      ⟨-, hdb⟩ | ⟨t, t', hsets, -, ⟨-, error, ht'⟩ | ⟨-, ht', -⟩⟩
    · change s'.db = s.db at hdb
      rw [hdb]
      exact hs
    · obtain ⟨-, rfl⟩ := PanelProvisionTask.markCompensationRequired_eq_ok.1 ht'
      exact hs.setProvision hnode hsets
        (hs.panelProvisionTasks t (List.mem_of_getElem? hsets.row))
    · obtain ⟨-, rfl⟩ := PanelProvisionTask.complete_eq_ok.1 ht'
      exact hs.setProvision hnode hsets (.of_terminal rfl)
  | abortProvision worker =>
    simp only [exec] at h
    obtain ⟨w, next, -, -, h, -⟩ := panelTransaction_eq_some h
    obtain ⟨-, hdb⟩ := Prod.mk.inj (Except.ok.inj h)
    rw [← hdb]
    exact hs
  | failProvision ambient worker errorName =>
    simp only [exec] at h
    obtain ⟨w, next, -, -, h, -⟩ := panelTransaction_eq_some h
    obtain ⟨⟨status, db⟩, hf, hr⟩ := bind_eq_ok.1 h
    cases hr
    have hnode := congrArg NodeLedger.tasks
      (DispatchPanelProvisionTask.finalizeRemoteFailure_nodeLedger hf)
    rcases DispatchPanelProvisionTask.finalizeRemoteFailure_rows hf with hdb | ⟨t, -, hsets⟩
    · change s'.db = s.db at hdb
      rw [hdb]
      exact hs
    · exact hs.setProvision hnode hsets (DurableTask.retry_scheduled ..)
  | recordCompensation ambient worker =>
    simp only [exec] at h
    obtain ⟨w, next, -, -, h, -⟩ := panelTransaction_eq_some h
    obtain ⟨⟨status, db⟩, hf, hr⟩ := bind_eq_ok.1 h
    cases hr
    have hnode := congrArg NodeLedger.tasks
      (DispatchPanelProvisionTask.recordCompensationSuccess_nodeLedger hf)
    rcases DispatchPanelProvisionTask.recordCompensationSuccess_rows hf with
      hdb | ⟨t, terminal, -, hsets⟩
    · change s'.db = s.db at hdb
      rw [hdb]
      exact hs
    · refine hs.setProvision hnode hsets ?_
      unfold PanelProvisionTask.compensationSucceeded
      dsimp only
      split_ifs
      · exact .of_terminal rfl
      · exact .of_terminal rfl
      · exact .of_due rfl rfl
  | recordCompensationFailure ambient worker errorName =>
    simp only [exec] at h
    obtain ⟨w, next, -, -, h, -⟩ := panelTransaction_eq_some h
    obtain ⟨db, hf, hr⟩ := bind_eq_ok.1 h
    cases hr
    have hnode := congrArg NodeLedger.tasks
      (DispatchPanelProvisionTask.recordCompensationFailure_nodeLedger hf)
    rcases DispatchPanelProvisionTask.recordCompensationFailure_rows hf with hdb | ⟨t, -, hsets⟩
    · rw [hdb]
      exact hs
    · exact hs.setProvision hnode hsets (DurableTask.release_scheduled ..)
  | recoverPanelProvisions ambient locked limit =>
    exact DispatchPanelProvisionTask.recoverAll_scheduled (commitDb_eq_some h) hs
  | preparePanelRevoke ambient taskId =>
    obtain ⟨p, h, -⟩ := preparePanelRevoke_eq_some h
    have hnode := congrArg NodeLedger.tasks (DispatchPanelRevokeTask.prepare_nodeLedger h)
    rcases DispatchPanelRevokeTask.prepare_rows h with ⟨hdb, -⟩ | ⟨t, t', hsets, hstart, -⟩
    · rw [hdb]
      exact hs
    · obtain ⟨-, -, rfl⟩ := PanelRevokeTask.startAttempt_eq_ok.1 hstart
      exact hs.setRevoke hnode hsets (.of_leased rfl rfl)
  | finalizePanelRevoke ambient worker =>
    obtain ⟨w, status, -, -, h, -⟩ := panelRevokeTransaction_eq_some h
    have hnode := congrArg NodeLedger.tasks (DispatchPanelRevokeTask.finalizeSuccess_nodeLedger h)
    rcases DispatchPanelRevokeTask.finalizeSuccess_rows h with hdb | ⟨t, t', -, hsets, ht'⟩
    · rw [hdb]
      exact hs
    · obtain ⟨-, rfl⟩ := PanelRevokeTask.complete_eq_ok.1 ht'
      exact hs.setRevoke hnode hsets (.of_terminal rfl)
  | failPanelRevoke ambient worker errorName =>
    simp only [exec] at h
    obtain ⟨w, status, -, -, h, -⟩ := panelRevokeTransaction_eq_some h
    have hnode := congrArg NodeLedger.tasks (DispatchPanelRevokeTask.finalizeFailure_nodeLedger h)
    rcases DispatchPanelRevokeTask.finalizeFailure_rows h with hdb | ⟨t, -, hsets⟩
    · rw [hdb]
      exact hs
    · exact hs.setRevoke hnode hsets (DurableTask.retry_scheduled ..)
  | recoverPanelRevokes ambient locked limit =>
    exact DispatchPanelRevokeTask.recoverAll_scheduled (commitDb_eq_some h) hs
  | _ => exact hbilling rfl

/-- Every task of the ledgers has its time in every reachable state. -/
theorem Reachable.scheduled (h : Reachable settings s) : Scheduled settings.mapper s.db := by
  refine Transition.Reachable.invariant (fun s : System => Scheduled settings.mapper s.db) ?_ ?_ h
  · intro s hs
    rw [hs]
    exact ⟨by simp, by simp, by simp, by simp⟩
  · rintro s s' - hs ⟨cmd, hcmd⟩
    exact exec_scheduled hcmd hs

end System

end ShopBot
