import ShopBot.Library.Leases
import ShopBot.Refinement.NodeFrame

/-! # What transactions write to panel tasks

A transaction of a panel worker writes the row of its own task, and only while it owns the
lease; the other panel ledger stays as it is. Transactions on nodes write no panel task.
-/

namespace ShopBot

open Database

/-- The claims of a task, and the end of the lease while it is in progress. -/
def DurableTask.item (t : DurableTask) : Leases.Item (Option DateTime) where
  claims := t.attempts
  terms := if t.status = .inProgress then some t.leaseExpiresAt else none

namespace Database

/-- The two ledgers of panel tasks. -/
def panelTasks (db : Database) : List PanelProvisionTask × List PanelRevokeTask :=
  (db.panelProvisionTasks, db.panelRevokeTasks)

/-- One provision task has been written. -/
structure SetsProvision (db db' : Database) (k : ℕ) (t t' : PanelProvisionTask) : Prop where
  row : db.panelProvisionTasks[k]? = some t
  rows : db'.panelProvisionTasks = db.panelProvisionTasks.set k t'
  others : db'.panelRevokeTasks = db.panelRevokeTasks

/-- One revoke task has been written. -/
structure SetsRevoke (db db' : Database) (k : ℕ) (t t' : PanelRevokeTask) : Prop where
  row : db.panelRevokeTasks[k]? = some t
  rows : db'.panelRevokeTasks = db.panelRevokeTasks.set k t'
  others : db'.panelProvisionTasks = db.panelProvisionTasks

theorem SetsProvision.congr {db db₁ db' : Database} {k : ℕ} {t t' : PanelProvisionTask}
    (h : db.SetsProvision db₁ k t t') (hsame : db'.panelTasks = db₁.panelTasks) :
    db.SetsProvision db' k t t' := by
  have hrows : db'.panelProvisionTasks = db₁.panelProvisionTasks := congrArg Prod.fst hsame
  have hothers : db'.panelRevokeTasks = db₁.panelRevokeTasks := congrArg Prod.snd hsame
  exact ⟨h.row, hrows.trans h.rows, hothers.trans h.others⟩

end Database

variable {settings : Settings} {ambient : Ambient} {db db₁ db' : Database} {k id : ℕ}

/-! ## Transactions on nodes -/

namespace DispatchNodeTask

variable {t : NodeTask} {error status : String} {response : Option NodeResponse}

theorem markConfigurationFailure_panelTasks (h : markConfigurationFailure db t = .ok db') :
    db'.panelTasks = db.panelTasks := by
  have hsave : ∀ {x : Except Error VpnConfiguration} {j : ℕ},
      x.map (db.saveConfiguration j) = .ok db' → db'.panelTasks = db.panelTasks := by
    intro x j hx
    cases x with
    | error e => cases hx
    | ok c =>
      cases hx
      rfl
  unfold markConfigurationFailure at h
  split at h
  next =>
    cases h
    rfl
  next =>
    split at h
    next =>
      cases h
      rfl
    next =>
      split_ifs at h
      · cases h
        rfl
      · exact hsave h
      · exact hsave h
      · cases h
        rfl

theorem failOrRetry_panelTasks
    (h : failOrRetry settings ambient db t k error response = .ok (status, db')) :
    db'.panelTasks = db.panelTasks := by
  unfold failOrRetry at h
  dsimp only at h
  split_ifs at h
  · cases h
    rfl
  · obtain ⟨db₁, hm, h⟩ := bind_eq_ok.1 h
    cases h
    have hkeep := markConfigurationFailure_panelTasks hm
    exact hkeep

theorem startTask_panelTasks {preparation : NodePreparation} {node : Node}
    (h : startTask settings ambient db t k node = .ok (preparation, db')) :
    db'.panelTasks = db.panelTasks := by
  obtain ⟨t', -, h⟩ := bind_eq_ok.1 h
  obtain ⟨⟨attemptId, db₁⟩, hattempt, h⟩ := bind_eq_ok.1 h
  obtain ⟨hdb₁, -⟩ := createTaskAttempt_ledger hattempt
  have hfirst : db₁.panelTasks = db.panelTasks := by
    rw [hdb₁]
    rfl
  dsimp only at h
  split_ifs at h
  · obtain ⟨⟨status, db₂⟩, hf, h⟩ := bind_eq_ok.1 h
    cases h
    exact (failOrRetry_panelTasks hf).trans hfirst
  · cases h
    exact hfirst

theorem prepare_panelTasks {preparation : NodePreparation}
    (h : prepare settings ambient db k = .ok (preparation, db')) :
    db'.panelTasks = db.panelTasks := by
  unfold prepare at h
  split at h
  next =>
    cases h
    rfl
  next t ht =>
    have hdefer : ∀ {reason : String},
        deferUnavailableNode settings ambient db t k reason = .ok (preparation, db') →
        db'.panelTasks = db.panelTasks := by
      intro reason h
      obtain ⟨t', -, h⟩ := bind_eq_ok.1 h
      cases h
      rfl
    split at h
    next =>
      cases h
      rfl
    next =>
      split at h
      next => exact hdefer h
      next =>
        split_ifs at h
        · exact startTask_panelTasks h
        · exact hdefer h

theorem addFollowUp_panelTasks {c : VpnConfiguration} {f : DispatchFinalization}
    {remoteStatus : String} (h : addFollowUp ambient db t c id remoteStatus = .ok (f, db')) :
    db'.panelTasks = db.panelTasks := by
  obtain ⟨⟨u, j, db₁⟩, hadd, h⟩ := bind_eq_ok.1 h
  cases h
  rcases addNodeTask_ok hadd with ⟨rfl, -⟩ | ⟨rfl, -⟩
  · rfl
  · rfl

theorem finalizeSuccess_panelTasks {f : DispatchFinalization} {r : NodeResponse}
    (h : finalizeSuccess ambient db t k r = .ok (f, db')) : db'.panelTasks = db.panelTasks := by
  obtain ⟨t', -, h⟩ := bind_eq_ok.1 h
  dsimp only at h
  split at h
  · unfold completeProvision at h
    dsimp only at h
    split at h
    next => cases h
    next c _ =>
      by_cases hcur : isCurrentProvision t'.vpnGeneration c = true
      · rw [if_pos hcur] at h
        split_ifs at h
        · obtain ⟨c', -, h⟩ := bind_eq_ok.1 h
          cases h
          rfl
        · obtain ⟨c', -, h⟩ := bind_eq_ok.1 h
          have hf := addFollowUp_panelTasks h
          exact hf
      · rw [if_neg hcur] at h
        have hf := addFollowUp_panelTasks h
        exact hf
  · unfold completeRevoke at h
    split at h
    next =>
      cases h
      rfl
    next =>
      split_ifs at h
      · obtain ⟨c', -, h⟩ := bind_eq_ok.1 h
        cases h
        rfl
      · cases h
        rfl
  · cases h
    rfl

theorem finalize_panelTasks {p : PreparedDispatch} {reply : NodeReply} {f : DispatchFinalization}
    (h : finalize settings ambient db p reply = .ok (f, db')) : db'.panelTasks = db.panelTasks := by
  unfold finalize at h
  split at h
  next =>
    cases h
    rfl
  next t ht =>
    by_cases howns : t.ownsActiveLease p.leaseToken p.attemptNo ambient.now = true
    · rw [if_pos howns] at h
      split at h
      next text =>
        obtain ⟨⟨status, db₁⟩, hf, h⟩ := bind_eq_ok.1 h
        cases h
        have hkeep := failOrRetry_panelTasks hf
        exact hkeep
      next r =>
        split_ifs at h
        · have hkeep := finalizeSuccess_panelTasks h
          exact hkeep
        · obtain ⟨⟨status, db₁⟩, hf, h⟩ := bind_eq_ok.1 h
          cases h
          have hkeep := failOrRetry_panelTasks hf
          exact hkeep
    · rw [if_neg howns] at h
      cases h
      rfl

theorem recoverAll_panelTasks {ids : List ℕ} (h : recoverAll settings ambient db ids = .ok db') :
    db'.panelTasks = db.panelTasks := by
  induction ids generalizing db with
  | nil =>
    cases h
    rfl
  | cons k rest ih =>
    obtain ⟨db₁, h₁, h₂⟩ := bind_eq_ok.1 h
    refine (ih h₂).trans ?_
    unfold recoverOne at h₁
    split at h₁
    next =>
      cases h₁
      rfl
    next t ht =>
      split_ifs at h₁
      · obtain ⟨t', -, h₁⟩ := bind_eq_ok.1 h₁
        dsimp only at h₁
        split_ifs at h₁
        · have hkeep := markConfigurationFailure_panelTasks h₁
          exact hkeep
        · cases h₁
          rfl
      · cases h₁
        rfl

end DispatchNodeTask

/-! ## Provision tasks -/

namespace DispatchPanelProvisionTask

variable {p : PanelProvisionTask} {w : PreparedPanelDispatch} {error status : String}
  {outcome : PanelOutcome}

theorem prepare_rows {preparation : PanelPreparation}
    (h : prepare settings ambient db k = .ok (preparation, db')) :
    (db' = db ∧ ∃ status, preparation = .result status) ∨
    ∃ t t', db.SetsProvision db' k t t' ∧
      t.startAttempt ambient.now (ambient.now + seconds settings.panelLeaseSeconds)
        ambient.leaseToken = .ok t' ∧
      preparation = .prepared {
        taskId := k
        leaseToken := ambient.leaseToken
        attemptNo := t'.attempts
        action := if t'.compensationRequired then .compensate else .provision
        payload := t'.payload } := by
  obtain ⟨found, hfound, h⟩ := bind_eq_ok.1 h
  cases found with
  | none =>
    cases h
    exact .inl ⟨rfl, _, rfl⟩
  | some t =>
    dsimp only at h
    split_ifs at h
    · cases h
      exact .inl ⟨rfl, _, rfl⟩
    · obtain ⟨t', ht', h⟩ := bind_eq_ok.1 h
      cases h
      exact .inr ⟨t, t', ⟨(getPanelProvisionTask_ok hfound).2, rfl, rfl⟩, ht', rfl⟩
    · cases h
      exact .inl ⟨rfl, _, rfl⟩

/-- The claim is kept, and the worker goes on to compensate. -/
theorem keepForCompensation_rows (hrow : db.panelProvisionTasks[k]? = some p)
    (h : keepForCompensation ambient db p k error = .ok (outcome, db')) :
    outcome = .compensate ∧ ∃ t', db.SetsProvision db' k p t' ∧
      p.markCompensationRequired ambient.now error = .ok t' := by
  obtain ⟨t', ht', h⟩ := bind_eq_ok.1 h
  cases h
  exact ⟨rfl, t', ⟨hrow, rfl, rfl⟩, ht'⟩

/-- A success is recorded by the owner only: it activates the configuration, or keeps the
claim. -/
theorem finalizeProvisionSuccess_rows
    (h : finalizeProvisionSuccess settings ambient db w = .ok (outcome, db')) :
    (outcome = .leaseLost ∧ db' = db) ∨
    ∃ t t', db.SetsProvision db' w.taskId t t' ∧
      t.ownsLease w.leaseToken w.attemptNo = true ∧
      ((outcome = .compensate ∧ ∃ error, t.markCompensationRequired ambient.now error = .ok t') ∨
        (outcome = .activated ∧ t.complete ambient.now = .ok t' ∧
          ∃ c, db'.vpnConfigurations[t.vpnConfigurationId]? = some c ∧ c.status = .active)) := by
  obtain ⟨found, hfound, h⟩ := bind_eq_ok.1 h
  cases found with
  | none => cases h
  | some t =>
    obtain ⟨-, hrow⟩ := getPanelProvisionTask_ok hfound
    dsimp only at h
    split_ifs at h with hactive howns
    · have howns := (DurableTask.ownsActiveLease_iff.1 hactive).1
      refine .inr ?_
      unfold settleProvision at h
      dsimp only at h
      split at h
      next => cases h
      next c hc =>
        split_ifs at h
        · obtain ⟨c', hc', h⟩ := bind_eq_ok.1 h
          obtain ⟨t', ht', h⟩ := bind_eq_ok.1 h
          cases h
          have hid : t'.vpnConfigurationId = t.vpnConfigurationId := by
            obtain ⟨-, rfl⟩ := PanelProvisionTask.complete_eq_ok.1 ht'
            rfl
          refine ⟨t, t', ⟨hrow, rfl, rfl⟩, howns, .inr ⟨rfl, ht', c', ?_, ?_⟩⟩
          · have hlt : t.vpnConfigurationId < db.vpnConfigurations.length :=
              (List.getElem?_eq_some_iff.1 hc).1
            simp [appendAudit, savePanelProvisionTask, saveConfiguration, hid, hlt]
          · obtain ⟨-, -, rfl⟩ := VpnConfiguration.activate_eq_ok.1 hc'
            rfl
        · obtain ⟨c', -, h⟩ := bind_eq_ok.1 h
          have hrow' : (db.saveConfiguration t.vpnConfigurationId c').panelProvisionTasks[w.taskId]? =
              some t := hrow
          obtain ⟨ho, t', hsets, ht'⟩ := keepForCompensation_rows hrow' h
          exact ⟨t, t', ⟨hrow, hsets.rows, hsets.others⟩, howns, .inl ⟨ho, _, ht'⟩⟩
        · obtain ⟨ho, t', hsets, ht'⟩ := keepForCompensation_rows hrow h
          exact ⟨t, t', hsets, howns, .inl ⟨ho, _, ht'⟩⟩
    · obtain ⟨ho, t', hsets, ht'⟩ := keepForCompensation_rows hrow h
      exact .inr ⟨t, t', hsets, howns, .inl ⟨ho, _, ht'⟩⟩
    · cases h
      exact .inl ⟨rfl, rfl⟩

theorem failCurrentProvision_panelTasks (h : failCurrentProvision db p = .ok db') :
    db'.panelTasks = db.panelTasks := by
  unfold failCurrentProvision at h
  split at h
  next =>
    cases h
    rfl
  next c _ =>
    split_ifs at h
    · cases hc : c.failProvisioning with
      | error e =>
        rw [hc] at h
        cases h
      | ok c' =>
        rw [hc] at h
        cases h
        rfl
    · cases h
      rfl

theorem finalizeRemoteFailure_rows
    (h : finalizeRemoteFailure settings ambient db w error = .ok (status, db')) :
    db' = db ∨ ∃ t, t.ownsLease w.leaseToken w.attemptNo = true ∧
      db.SetsProvision db' w.taskId t (t.retry ambient.now s!"panel provision failed: {error}"
        settings.panelRetryBaseSeconds) := by
  obtain ⟨found, hfound, h⟩ := bind_eq_ok.1 h
  cases found with
  | none =>
    cases h
    exact .inl rfl
  | some t =>
    obtain ⟨-, hrow⟩ := getPanelProvisionTask_ok hfound
    dsimp only at h
    split_ifs at h with howns
    · obtain ⟨db₁, hf, h⟩ := bind_eq_ok.1 h
      cases h
      have hsets : db.SetsProvision (db.savePanelProvisionTask w.taskId
          (t.retry ambient.now s!"panel provision failed: {error}" settings.panelRetryBaseSeconds))
          w.taskId t _ := ⟨hrow, rfl, rfl⟩
      exact .inr ⟨t, howns, hsets.congr (failCurrentProvision_panelTasks hf)⟩
    · cases h
      exact .inr ⟨t, howns, hrow, rfl, rfl⟩
    · cases h
      exact .inl rfl

theorem recordCompensationSuccess_rows
    (h : recordCompensationSuccess settings ambient db w = .ok (status, db')) :
    db' = db ∨ ∃ t terminal, t.ownsLease w.leaseToken w.attemptNo = true ∧
      db.SetsProvision db' w.taskId t (t.compensationSucceeded ambient.now terminal) := by
  obtain ⟨found, hfound, h⟩ := bind_eq_ok.1 h
  cases found with
  | none =>
    cases h
    exact .inl rfl
  | some t =>
    obtain ⟨-, hrow⟩ := getPanelProvisionTask_ok hfound
    dsimp only at h
    by_cases howns : t.ownsLease w.leaseToken w.attemptNo = true
    · rw [if_pos howns] at h
      have hsets : db.SetsProvision (db.savePanelProvisionTask w.taskId
          (t.compensationSucceeded ambient.now
            (terminalLocalState (db.getConfiguration t.vpnConfigurationId) t)))
          w.taskId t _ := ⟨hrow, rfl, rfl⟩
      refine .inr ⟨t, _, howns, hsets.congr ?_⟩
      split at h
      next =>
        cases h
        rfl
      next c hc =>
        split_ifs at h
        · obtain ⟨c', -, h⟩ := bind_eq_ok.1 h
          cases h
          rfl
        · obtain ⟨db₁, hf, h⟩ := bind_eq_ok.1 h
          cases h
          exact failCurrentProvision_panelTasks hf
        · cases h
          rfl
    · rw [if_neg howns] at h
      cases h
      exact .inl rfl

theorem recordCompensationFailure_rows
    (h : recordCompensationFailure settings ambient db w error = .ok db') :
    db' = db ∨ ∃ t, t.ownsLease w.leaseToken w.attemptNo = true ∧
      db.SetsProvision db' w.taskId t
        (t.requireCompensation ambient.now s!"panel compensation failed: {error}") := by
  obtain ⟨found, hfound, h⟩ := bind_eq_ok.1 h
  cases found with
  | none =>
    cases h
    exact .inl rfl
  | some t =>
    obtain ⟨-, hrow⟩ := getPanelProvisionTask_ok hfound
    dsimp only at h
    split_ifs at h with howns
    · cases h
      exact .inr ⟨t, howns, hrow, rfl, rfl⟩
    · cases h
      exact .inl rfl

theorem recoverOne_rows (h : recoverOne settings ambient db k = .ok db') :
    db' = db ∨ ∃ t t', db.SetsProvision db' k t t' ∧ t.recoverExpiredLease ambient.now
      "panel provision lease expired; compensation required before retry" = .ok t' := by
  obtain ⟨found, hfound, h⟩ := bind_eq_ok.1 h
  cases found with
  | none =>
    cases h
    exact .inl rfl
  | some t =>
    obtain ⟨t', ht', h⟩ := bind_eq_ok.1 h
    cases h
    exact .inr ⟨t, t', ⟨(getPanelProvisionTask_ok hfound).2, rfl, rfl⟩, ht'⟩

end DispatchPanelProvisionTask

/-! ## Revoke tasks -/

namespace DispatchPanelRevokeTask

variable {w : PreparedPanelRevoke} {error status : String}

theorem prepare_rows {preparation : PanelRevokePreparation}
    (h : prepare settings ambient db k = .ok (preparation, db')) :
    (db' = db ∧ ∃ status, preparation = .result status) ∨
    ∃ t t', db.SetsRevoke db' k t t' ∧
      t.startAttempt ambient.now (ambient.now + seconds settings.panelLeaseSeconds)
        ambient.leaseToken = .ok t' ∧
      preparation = .prepared {
        taskId := k
        leaseToken := ambient.leaseToken
        attemptNo := t'.attempts
        payload := t'.payload } := by
  unfold prepare at h
  split at h
  next =>
    cases h
    exact .inl ⟨rfl, _, rfl⟩
  next t hrow =>
    split_ifs at h
    · cases h
      exact .inl ⟨rfl, _, rfl⟩
    · obtain ⟨t', ht', h⟩ := bind_eq_ok.1 h
      cases h
      exact .inr ⟨t, t', ⟨hrow, rfl, rfl⟩, ht', rfl⟩
    · cases h
      exact .inl ⟨rfl, _, rfl⟩

theorem finalizeSuccess_rows (h : finalizeSuccess ambient db w = .ok (status, db')) :
    db' = db ∨ ∃ t t', t.ownsLease w.leaseToken w.attemptNo = true ∧
      db.SetsRevoke db' w.taskId t t' ∧ t.complete ambient.now = .ok t' := by
  unfold finalizeSuccess at h
  split at h
  next =>
    cases h
    exact .inl rfl
  next t hrow =>
    by_cases hactive : t.ownsActiveLease w.leaseToken w.attemptNo ambient.now = true
    · rw [if_pos hactive] at h
      obtain ⟨t', ht', h⟩ := bind_eq_ok.1 h
      refine .inr ⟨t, t', (DurableTask.ownsActiveLease_iff.1 hactive).1, ?_, ht'⟩
      dsimp only at h
      split at h
      next =>
        cases h
        exact ⟨hrow, rfl, rfl⟩
      next =>
        split_ifs at h
        · obtain ⟨c', -, h⟩ := bind_eq_ok.1 h
          cases h
          exact ⟨hrow, rfl, rfl⟩
        · cases h
          exact ⟨hrow, rfl, rfl⟩
    · rw [if_neg hactive] at h
      cases h
      exact .inl rfl

theorem finalizeFailure_rows
    (h : finalizeFailure settings ambient db w error = .ok (status, db')) :
    db' = db ∨ ∃ t, t.ownsLease w.leaseToken w.attemptNo = true ∧
      db.SetsRevoke db' w.taskId t (t.retry ambient.now s!"panel revoke failed: {error}"
        settings.panelRetryBaseSeconds) := by
  unfold finalizeFailure at h
  split at h
  next =>
    cases h
    exact .inl rfl
  next t hrow =>
    by_cases howns : t.ownsLease w.leaseToken w.attemptNo = true
    · rw [if_pos howns] at h
      refine .inr ⟨t, howns, ?_⟩
      dsimp only at h
      by_cases hfailed : (t.retry ambient.now s!"panel revoke failed: {error}"
          settings.panelRetryBaseSeconds).status = .failed
      · rw [if_pos hfailed] at h
        split at h
        next =>
          cases h
          exact ⟨hrow, rfl, rfl⟩
        next =>
          split_ifs at h
          · obtain ⟨c', -, h⟩ := bind_eq_ok.1 h
            cases h
            exact ⟨hrow, rfl, rfl⟩
          · cases h
            exact ⟨hrow, rfl, rfl⟩
      · rw [if_neg hfailed] at h
        cases h
        exact ⟨hrow, rfl, rfl⟩
    · rw [if_neg howns] at h
      cases h
      exact .inl rfl

theorem recoverOne_rows (h : recoverOne ambient db k = .ok db') :
    db' = db ∨ ∃ t t', db.SetsRevoke db' k t t' ∧
      t.recoverExpiredLease ambient.now "panel revoke lease expired" = .ok t' := by
  unfold recoverOne at h
  split at h
  next =>
    cases h
    exact .inl rfl
  next t hrow =>
    obtain ⟨t', ht', h⟩ := bind_eq_ok.1 h
    cases h
    exact .inr ⟨t, t', ⟨hrow, rfl, rfl⟩, ht'⟩

end DispatchPanelRevokeTask

end ShopBot
