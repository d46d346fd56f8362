import ShopBot.Refinement.Transaction
import ShopBot.UseCases.DispatchPanelProvisionTask
import ShopBot.UseCases.DispatchPanelRevokeTask

/-! # Panel dispatch refines the lifecycle

A provision that the configuration no longer wants keeps its task open for the
compensation, and only a compensation may complete a revoke in place of its task.
-/

namespace ShopBot

open Lifecycle Database

namespace DispatchPanelProvisionTask

variable {settings : Settings} {ambient : Ambient} {db db₁ db' : Database} {k : ℕ}
  {p p' : PanelProvisionTask} {c : VpnConfiguration} {e : ServerEndpoint}
  {actors : Actor TaskRef → Prop}

/-- A write of the task that keeps it open. -/
theorem requeue_refines (p' : PanelProvisionTask) (hwf : db.WellFormed)
    (hat : db.PanelProvisionTaskAt k p c e)
    (hact : actors (.attempt (.panelProvision k))) (hid : p'.identity = p.identity)
    (hopen : p.status.isOpen = true) (hopen' : p'.status.isOpen = true) :
    db.Refines ambient.now actors (db.savePanelProvisionTask k p') := by
  have ha := fleet_of_row hat.configuration hat.endpoint
  exact ((Wrote.refl hwf ha).savePanelProvisionTask p' hat.row hid).refines ha
    (.requeue (TaskRef.panelProvision k) ⟨.provision, p.vpnGeneration, p.status⟩ p'.status hat.task
      hopen hopen') hact

theorem isCurrentProvision_iff {generation : ℕ} :
    isCurrentProvision generation c = true ↔ Wants c .provision generation := by
  simp [isCurrentProvision, Wants, and_assoc]

theorem owns_open {token attemptNo : ℕ} (h : p.ownsLease token attemptNo = true) :
    p.status.isOpen = true := by
  rw [(DurableTask.ownsLease_iff.1 h).1]
  rfl

theorem prepare_refines {preparation : PanelPreparation} (hwf : db.WellFormed)
    (hact : actors (.attempt (.panelProvision k)))
    (h : prepare settings ambient db k = .ok (preparation, db')) :
    db.Refines ambient.now actors db' := by
  obtain ⟨found, hfound, h⟩ := bind_eq_ok.1 h
  cases found with
  | none => cases h; exact .refl hwf
  | some p =>
    obtain ⟨-, hrow⟩ := getPanelProvisionTask_ok hfound
    dsimp only at h
    split_ifs at h with hterm hdis
    · cases h; exact .refl hwf
    · obtain ⟨p', hp', h⟩ := bind_eq_ok.1 h
      obtain ⟨-, -, hp'⟩ := PanelProvisionTask.startAttempt_eq_ok.1 hp'
      cases h
      obtain ⟨c, e, hat⟩ := hwf.panelProvisionTask hrow
      refine requeue_refines _ hwf hat hact (by rw [hp']; rfl) ?_ (by rw [hp']; rfl)
      simpa [TaskStatus.isOpen] using hterm
    · cases h; exact .refl hwf

/-- Keeping the claim for the compensation is invisible to the lifecycle. -/
theorem keepForCompensation_writes {error : String} {outcome : PanelOutcome}
    {a : Aggregate ℕ TaskRef} (hw : db.Wrote p.vpnConfigurationId a db₁)
    (hrow : db₁.panelProvisionTasks[k]? = some p)
    (h : keepForCompensation ambient db₁ p k error = .ok (outcome, db')) :
    db.Wrote p.vpnConfigurationId a db' := by
  obtain ⟨p', hp', h⟩ := bind_eq_ok.1 h
  obtain ⟨-, hp'⟩ := PanelProvisionTask.markCompensationRequired_eq_ok.1 hp'
  cases h
  have hw' := hw.savePanelProvisionTask p' hrow (by rw [hp']; rfl)
  have htask : db₁.taskOf p.vpnConfigurationId (.panelProvision k) =
      some ⟨.provision, p.vpnGeneration, p'.status⟩ := by
    rw [taskOf_eq_some, hp']
    simp [taskAt, hrow]
  rwa [Aggregate.setTask_eq_self (hw.task_eq ▸ htask)] at hw'

theorem settleProvision_refines {outcome : PanelOutcome} (hwf : db.WellFormed)
    (hact : actors (.success (.panelProvision k))) (hat : db.PanelProvisionTaskAt k p c e)
    (hopen : p.status.isOpen = true)
    (h : settleProvision ambient db p k = .ok (outcome, db')) :
    db.Refines ambient.now actors db' := by
  have ha := fleet_of_row hat.configuration hat.endpoint
  have hw := Wrote.refl hwf ha
  have hrow : db.getConfiguration p.vpnConfigurationId = some c := hat.configuration
  simp only [settleProvision, hrow] at h
  rw [hat.subscription] at h
  split_ifs at h with hcur hfund
  · obtain ⟨c', hc', h⟩ := bind_eq_ok.1 h
    obtain ⟨p', hp', h⟩ := bind_eq_ok.1 h
    obtain ⟨-, -, hc'⟩ := VpnConfiguration.activate_eq_ok.1 hc'
    obtain ⟨-, hp'⟩ := PanelProvisionTask.complete_eq_ok.1 hp'
    cases h
    have hw₁ := hw.saveStatus c' hrow (by rw [hc']; rfl) (by rw [hc']) (by rw [hc'])
    have hw₂ := hw₁.savePanelProvisionTask p' hat.row (by rw [hp']; rfl)
    rw [show c'.status = .active by rw [hc'], show p'.status = .succeeded by rw [hp']; rfl] at hw₂
    rw [show p'.vpnConfigurationId = p.vpnConfigurationId by rw [hp']]
    exact (hw₂.appendAudit _ _ _).refines ha
      (.activate (TaskRef.panelProvision k) ⟨.provision, p.vpnGeneration, p.status⟩ hat.task rfl
        hopen (current_iff.2 (isCurrentProvision_iff.1 hcur)) hfund) hact
  · obtain ⟨c', hc', h⟩ := bind_eq_ok.1 h
    obtain ⟨-, hc'⟩ := VpnConfiguration.requestRevoke_eq_ok.1 hc'
    have hw₁ := hw.saveRevoking c' hrow (by rw [hc']; rfl) (by rw [hc']) (by rw [hc'])
      (by rw [hc'])
    exact (keepForCompensation_writes hw₁ hat.row h).refines ha
      (.lapsePanel (TaskRef.panelProvision k) ⟨.provision, p.vpnGeneration, p.status⟩
        (route_panel hat.panel) hat.task rfl hopen (current_iff.2 (isCurrentProvision_iff.1 hcur))
        hfund) hact
  · exact (keepForCompensation_writes hw hat.row h).refines_same ha

theorem finalizeProvisionSuccess_refines {outcome : PanelOutcome} {w : PreparedPanelDispatch}
    (hwf : db.WellFormed) (hact : actors (.success (.panelProvision w.taskId)))
    (h : finalizeProvisionSuccess settings ambient db w = .ok (outcome, db')) :
    db.Refines ambient.now actors db' := by
  obtain ⟨found, hfound, h⟩ := bind_eq_ok.1 h
  cases found with
  | none => cases h
  | some p =>
    obtain ⟨-, hrow⟩ := getPanelProvisionTask_ok hfound
    obtain ⟨c, e, hat⟩ := hwf.panelProvisionTask hrow
    have ha := fleet_of_row hat.configuration hat.endpoint
    dsimp only at h
    split_ifs at h with hactive howns
    · exact settleProvision_refines hwf hact hat
        (owns_open (DurableTask.ownsActiveLease_iff.1 hactive).1) h
    · exact (keepForCompensation_writes (Wrote.refl hwf ha) hrow h).refines_same ha
    · cases h
      exact .refl hwf

theorem failCurrentProvision_ok (hrow : db.getConfiguration p.vpnConfigurationId = some c)
    (h : failCurrentProvision db p = .ok db') :
    (db' = db ∧ ¬ Wants c .provision p.vpnGeneration) ∨
      (Wants c .provision p.vpnGeneration ∧
        db' = db.saveConfiguration p.vpnConfigurationId { c with status := .failed }) := by
  simp only [failCurrentProvision, hrow] at h
  split_ifs at h with hcur
  · have hwants := isCurrentProvision_iff.1 hcur
    rw [VpnConfiguration.failProvisioning_eq_ok.2 ⟨hwants.2.2, rfl⟩] at h
    exact .inr ⟨hwants, (Except.ok.inj h).symm⟩
  · exact .inl ⟨(Except.ok.inj h).symm, fun hwants => hcur (isCurrentProvision_iff.2 hwants)⟩

/-- The writes of a task that has failed for good. -/
theorem failed_refines (p' : PanelProvisionTask) (hwf : db.WellFormed) (hat : db.PanelProvisionTaskAt k p c e)
    (hact : actors (.attempt (.panelProvision k))) (hid : p'.identity = p.identity)
    (hopen : p.status.isOpen = true) (hs : p'.status = .failed)
    (h : failCurrentProvision (db.savePanelProvisionTask k p') p' = .ok db') :
    db.Refines ambient.now actors db' := by
  have ha := fleet_of_row hat.configuration hat.endpoint
  have hw := (Wrote.refl hwf ha).savePanelProvisionTask p' hat.row hid
  rw [hs] at hw
  have hid' := hid
  simp only [PanelProvisionTask.identity, Prod.mk.injEq] at hid'
  have hrow : (db.savePanelProvisionTask k p').getConfiguration p'.vpnConfigurationId = some c := by
    rw [hid'.1]
    exact hat.configuration
  rcases failCurrentProvision_ok hrow h with ⟨rfl, hn⟩ | ⟨hwants, rfl⟩
  · rw [hid'.2.2.2.2] at hn
    exact hw.refines ha (.settle (TaskRef.panelProvision k)
      ⟨.provision, p.vpnGeneration, p.status⟩ _ hat.task hopen (.inl rfl) (current_iff.not.2 hn)) hact
  · rw [hid'.2.2.2.2] at hwants
    rw [hid'.1]
    exact (hw.saveStatus { c with status := .failed } hat.configuration rfl rfl rfl).refines ha
      (.failProvision (TaskRef.panelProvision k) ⟨.provision, p.vpnGeneration, p.status⟩ hat.task
        rfl hopen (current_iff.2 hwants)) hact

theorem finalizeRemoteFailure_refines {error status : String} {w : PreparedPanelDispatch}
    (hwf : db.WellFormed) (hact : actors (.attempt (.panelProvision w.taskId)))
    (h : finalizeRemoteFailure settings ambient db w error = .ok (status, db')) :
    db.Refines ambient.now actors db' := by
  obtain ⟨found, hfound, h⟩ := bind_eq_ok.1 h
  cases found with
  | none => cases h; exact .refl hwf
  | some p =>
    obtain ⟨-, hrow⟩ := getPanelProvisionTask_ok hfound
    obtain ⟨c, e, hat⟩ := hwf.panelProvisionTask hrow
    dsimp only at h
    split_ifs at h with howns hs
    · obtain ⟨db₁, hf, h⟩ := bind_eq_ok.1 h
      cases h
      exact failed_refines (p.retry ambient.now _ settings.panelRetryBaseSeconds) hwf hat hact rfl
        (owns_open howns) hs hf
    · cases h
      refine requeue_refines _ hwf hat hact rfl (owns_open howns) ?_
      change (p.toDurableTask.retry _ _ _).status.isOpen = true
      change ¬ (p.toDurableTask.retry _ _ _).status = .failed at hs
      rw [DurableTask.retry_status] at hs ⊢
      split_ifs at hs ⊢
      · exact absurd rfl hs
      · rfl
    · cases h
      exact .refl hwf

theorem completesCancelledProvision_iff : completesCancelledProvision c p = true ↔
    c.status = .revoking ∧ c.desiredState = .revoked ∧ c.generation = p.vpnGeneration + 1 := by
  simp [completesCancelledProvision, and_assoc]

/-- A configuration for which a compensated provision is cancelled does not want it. -/
theorem not_wants_of_terminal (h : terminalLocalState (some c) p = true) :
    ¬ Wants c .provision p.vpnGeneration := by
  rintro ⟨hg, hd, hs⟩
  simp [terminalLocalState, hg, hd, VpnConfiguration.isTerminal, hs,
    VpnConfigurationStatus.isTerminal] at h

theorem recordCompensationSuccess_refines {status : String} {w : PreparedPanelDispatch}
    (hwf : db.WellFormed) (hact : actors (.attempt (.panelProvision w.taskId)))
    (hcomp : actors (.compensation (.panelProvision w.taskId)))
    (h : recordCompensationSuccess settings ambient db w = .ok (status, db')) :
    db.Refines ambient.now actors db' := by
  obtain ⟨found, hfound, h⟩ := bind_eq_ok.1 h
  cases found with
  | none => cases h; exact .refl hwf
  | some p =>
    obtain ⟨-, hrow⟩ := getPanelProvisionTask_ok hfound
    obtain ⟨c, e, hat⟩ := hwf.panelProvisionTask hrow
    have ha := fleet_of_row hat.configuration hat.endpoint
    have hc : db.getConfiguration p.vpnConfigurationId = some c := hat.configuration
    dsimp only at h
    by_cases howns : p.ownsLease w.leaseToken w.attemptNo = true
    · have hopen := owns_open howns
      rw [if_pos howns] at h
      simp only [hc] at h
      set p' := p.compensationSucceeded ambient.now (terminalLocalState (some c) p) with hp'
      have hid : p'.identity = p.identity := rfl
      have hgen : p'.vpnGeneration = p.vpnGeneration := rfl
      have hstatus : p'.status = if terminalLocalState (some c) p then .cancelled
          else if p.maxAttempts ≤ p.attempts then .failed else .pending :=
        PanelProvisionTask.compensationSucceeded_status
      have hw := (Wrote.refl hwf ha).savePanelProvisionTask p' hat.row hid
      by_cases hcompletes : completesCancelledProvision c p' = true
      · rw [if_pos hcompletes] at h
        obtain ⟨hs, hd, hg⟩ := completesCancelledProvision_iff.1 hcompletes
        rw [hgen] at hg
        have hterm : terminalLocalState (some c) p = true := by simp [terminalLocalState, hd]
        rw [hterm, if_pos rfl] at hstatus
        rw [hstatus] at hw
        obtain ⟨c', hc', h⟩ := bind_eq_ok.1 h
        obtain ⟨-, -, hc'⟩ := VpnConfiguration.revoke_eq_ok.1 hc'
        cases h
        have hw' := hw.saveStatus c' hat.configuration (by rw [hc']; rfl) (by rw [hc'])
          (by rw [hc'])
        rw [show c'.status = .revoked by rw [hc']] at hw'
        exact (hw'.appendAudit _ _ _).refines ha
          (.compensated (TaskRef.panelProvision w.taskId)
            ⟨.provision, p.vpnGeneration, p.status⟩ (route_panel hat.panel) hat.task rfl hopen hs hd
            hg) hcomp
      rw [if_neg hcompletes] at h
      by_cases hfailed : p'.status = .failed
      · rw [if_pos hfailed] at h
        obtain ⟨db₁, hf, h⟩ := bind_eq_ok.1 h
        cases h
        exact failed_refines p' hwf hat hact hid hopen hfailed hf
      · rw [if_neg hfailed] at h
        cases h
        rw [hstatus] at hw hfailed
        split_ifs at hw hfailed with hterm hlast
        · exact hw.refines ha (.settle (TaskRef.panelProvision w.taskId)
            ⟨.provision, p.vpnGeneration, p.status⟩ _ hat.task hopen (.inr rfl)
            (current_iff.not.2 (not_wants_of_terminal hterm))) hact
        · exact absurd rfl hfailed
        · exact hw.refines ha (.requeue (TaskRef.panelProvision w.taskId)
            ⟨.provision, p.vpnGeneration, p.status⟩ _ hat.task hopen rfl) hact
    · rw [if_neg howns] at h
      cases h
      exact .refl hwf

theorem recordCompensationFailure_refines {error : String} {w : PreparedPanelDispatch}
    (hwf : db.WellFormed) (hact : actors (.attempt (.panelProvision w.taskId)))
    (h : recordCompensationFailure settings ambient db w error = .ok db') :
    db.Refines ambient.now actors db' := by
  obtain ⟨found, hfound, h⟩ := bind_eq_ok.1 h
  cases found with
  | none => cases h; exact .refl hwf
  | some p =>
    obtain ⟨-, hrow⟩ := getPanelProvisionTask_ok hfound
    obtain ⟨c, e, hat⟩ := hwf.panelProvisionTask hrow
    dsimp only at h
    split_ifs at h with howns
    · cases h
      exact requeue_refines _ hwf hat hact rfl (owns_open howns) rfl
    · cases h
      exact .refl hwf

theorem recoverOne_refines (hwf : db.WellFormed) (hact : actors (.attempt (.panelProvision k)))
    (h : recoverOne settings ambient db k = .ok db') : db.Refines ambient.now actors db' := by
  obtain ⟨found, hfound, h⟩ := bind_eq_ok.1 h
  cases found with
  | none => cases h; exact .refl hwf
  | some p =>
    obtain ⟨-, hrow⟩ := getPanelProvisionTask_ok hfound
    obtain ⟨c, e, hat⟩ := hwf.panelProvisionTask hrow
    obtain ⟨p', hp', h⟩ := bind_eq_ok.1 h
    obtain ⟨hexp, hp'⟩ := PanelProvisionTask.recoverExpiredLease_eq_ok.1 hp'
    cases h
    refine requeue_refines _ hwf hat hact (by rw [hp']; rfl) ?_ (by rw [hp']; rfl)
    rw [(DurableTask.leaseIsExpired_iff.1 hexp).1]
    rfl

theorem recoverAll_refines {ids : List ℕ} (hwf : db.WellFormed)
    (hact : ∀ k ∈ ids, actors (.attempt (.panelProvision k)))
    (h : recoverAll settings ambient db ids = .ok db') : db.Refines ambient.now actors db' := by
  induction ids generalizing db with
  | nil =>
    cases h
    exact .refl hwf
  | cons k rest ih =>
    obtain ⟨db₁, h₁, h₂⟩ := bind_eq_ok.1 h
    have hfirst := recoverOne_refines hwf (hact k (List.mem_cons_self ..)) h₁
    exact hfirst.trans (ih hfirst.wellFormed (fun j hj => hact j (List.mem_cons_of_mem _ hj)) h₂)

/-- No recovery writes a configuration: the task only returns to its queue. -/
theorem recoverAll_configurations {ids : List ℕ}
    (h : recoverAll settings ambient db ids = .ok db') :
    db'.vpnConfigurations = db.vpnConfigurations := by
  induction ids generalizing db with
  | nil =>
    cases h
    rfl
  | cons k rest ih =>
    obtain ⟨db₁, h₁, h₂⟩ := bind_eq_ok.1 h
    refine (ih h₂).trans ?_
    obtain ⟨found, -, h₁⟩ := bind_eq_ok.1 h₁
    cases found with
    | none => cases h₁; rfl
    | some p =>
      obtain ⟨p', -, h₁⟩ := bind_eq_ok.1 h₁
      cases h₁
      rfl

end DispatchPanelProvisionTask

namespace DispatchPanelRevokeTask

variable {settings : Settings} {ambient : Ambient} {db db' : Database} {k : ℕ}
  {q : PanelRevokeTask} {c : VpnConfiguration} {e : ServerEndpoint}
  {actors : Actor TaskRef → Prop}

theorem isCurrentRevoke_iff {generation : ℕ} :
    isCurrentRevoke generation c = true ↔ Wants c .revoke generation := by
  simp [isCurrentRevoke, Wants, and_assoc]

/-- A write of the task that keeps it open. -/
theorem requeue_refines (q' : PanelRevokeTask) (hwf : db.WellFormed)
    (hat : db.PanelRevokeTaskAt k q c e) (hact : actors (.attempt (.panelRevoke k)))
    (hid : q'.identity = q.identity) (hopen : q.status.isOpen = true)
    (hopen' : q'.status.isOpen = true) :
    db.Refines ambient.now actors (db.savePanelRevokeTask k q') := by
  have ha := fleet_of_row hat.configuration hat.endpoint
  exact ((Wrote.refl hwf ha).savePanelRevokeTask q' hat.row hid).refines ha
    (.requeue (TaskRef.panelRevoke k) ⟨.revoke, q.vpnGeneration, q.status⟩ q'.status hat.task
      hopen hopen') hact

theorem owns_open {token attemptNo : ℕ} (h : q.ownsLease token attemptNo = true) :
    q.status.isOpen = true := by
  rw [(DurableTask.ownsLease_iff.1 h).1]
  rfl

theorem prepare_refines {preparation : PanelRevokePreparation} (hwf : db.WellFormed)
    (hact : actors (.attempt (.panelRevoke k)))
    (h : prepare settings ambient db k = .ok (preparation, db')) :
    db.Refines ambient.now actors db' := by
  unfold prepare at h
  split at h
  next => cases h; exact .refl hwf
  next q hrow =>
    split_ifs at h with hterm hdis
    · cases h; exact .refl hwf
    · obtain ⟨q', hq', h⟩ := bind_eq_ok.1 h
      obtain ⟨-, -, hq'⟩ := PanelRevokeTask.startAttempt_eq_ok.1 hq'
      cases h
      obtain ⟨c, e, hat⟩ := hwf.panelRevokeTask hrow
      refine requeue_refines q' hwf hat hact (by rw [hq']; rfl) ?_ (by rw [hq']; rfl)
      simpa [TaskStatus.isOpen] using hterm
    · cases h; exact .refl hwf

theorem finalizeSuccess_refines {status : String} {w : PreparedPanelRevoke}
    (hwf : db.WellFormed) (hact : actors (.success (.panelRevoke w.taskId)))
    (h : finalizeSuccess ambient db w = .ok (status, db')) :
    db.Refines ambient.now actors db' := by
  unfold finalizeSuccess at h
  split at h
  next => cases h; exact .refl hwf
  next q hrow =>
    by_cases hactive : q.ownsActiveLease w.leaseToken w.attemptNo ambient.now = true
    · rw [if_pos hactive] at h
      obtain ⟨c, e, hat⟩ := hwf.panelRevokeTask hrow
      have ha := fleet_of_row hat.configuration hat.endpoint
      have hopen := owns_open (DurableTask.ownsActiveLease_iff.1 hactive).1
      obtain ⟨q', hq', h⟩ := bind_eq_ok.1 h
      obtain ⟨-, hq'⟩ := PanelRevokeTask.complete_eq_ok.1 hq'
      have hw := (Wrote.refl hwf ha).savePanelRevokeTask q' hrow (by rw [hq']; rfl)
      rw [show q'.status = .succeeded by rw [hq']; rfl] at hw
      have hcid : q'.vpnConfigurationId = q.vpnConfigurationId := by rw [hq']
      have hgen : q'.vpnGeneration = q.vpnGeneration := by rw [hq']
      have hc : (db.savePanelRevokeTask w.taskId q').getConfiguration q'.vpnConfigurationId =
          some c := by
        rw [hcid]
        exact hat.configuration
      simp only [hc] at h
      rw [hgen, hcid] at h
      split_ifs at h with hcur
      · obtain ⟨c', hc', h⟩ := bind_eq_ok.1 h
        obtain ⟨-, -, hc'⟩ := VpnConfiguration.revoke_eq_ok.1 hc'
        cases h
        have hw' := hw.saveStatus c' hat.configuration (by rw [hc']; rfl) (by rw [hc'])
          (by rw [hc'])
        rw [show c'.status = .revoked by rw [hc']] at hw'
        exact (hw'.appendAudit _ _ _).refines ha
          (.revoked (TaskRef.panelRevoke w.taskId) ⟨.revoke, q.vpnGeneration, q.status⟩ hat.task
            rfl hopen (current_iff.2 (isCurrentRevoke_iff.1 hcur))) hact
      · cases h
        exact hw.refines ha (.finish (TaskRef.panelRevoke w.taskId)
          ⟨.revoke, q.vpnGeneration, q.status⟩ hat.task hopen
          (current_iff.not.2 fun hwants => hcur (isCurrentRevoke_iff.2 hwants))) hact
    · rw [if_neg hactive] at h
      cases h
      exact .refl hwf

theorem finalizeFailure_refines {error status : String} {w : PreparedPanelRevoke}
    (hwf : db.WellFormed) (hact : actors (.attempt (.panelRevoke w.taskId)))
    (h : finalizeFailure settings ambient db w error = .ok (status, db')) :
    db.Refines ambient.now actors db' := by
  unfold finalizeFailure at h
  split at h
  next => cases h; exact .refl hwf
  next q hrow =>
    by_cases howns : q.ownsLease w.leaseToken w.attemptNo = true
    · rw [if_pos howns] at h
      obtain ⟨c, e, hat⟩ := hwf.panelRevokeTask hrow
      have ha := fleet_of_row hat.configuration hat.endpoint
      have hopen := owns_open howns
      set q' := q.retry ambient.now s!"panel revoke failed: {error}" settings.panelRetryBaseSeconds
        with hq'
      have hid : q'.identity = q.identity := rfl
      have hc : (db.savePanelRevokeTask w.taskId q').getConfiguration q'.vpnConfigurationId =
          some c := hat.configuration
      dsimp only at h
      by_cases hfailed : q'.status = .failed
      · rw [if_pos hfailed] at h
        have hw := (Wrote.refl hwf ha).savePanelRevokeTask q' hrow hid
        rw [hfailed] at hw
        simp only [hc] at h
        split_ifs at h with hcur
        · obtain ⟨c', hc', h⟩ := bind_eq_ok.1 h
          obtain ⟨-, hc'⟩ := VpnConfiguration.failRevoke_eq_ok.1 hc'
          cases h
          have hw' := hw.saveStatus c' hat.configuration (by rw [hc']; rfl) (by rw [hc'])
            (by rw [hc'])
          rw [show c'.status = .revokeFailed by rw [hc']] at hw'
          exact hw'.refines ha
            (.failRevoke (TaskRef.panelRevoke w.taskId) ⟨.revoke, q.vpnGeneration, q.status⟩
              hat.task rfl hopen (current_iff.2 (isCurrentRevoke_iff.1 hcur))) hact
        · cases h
          exact hw.refines ha (.settle (TaskRef.panelRevoke w.taskId)
            ⟨.revoke, q.vpnGeneration, q.status⟩ _ hat.task hopen (.inl rfl)
            (current_iff.not.2 fun hwants => hcur (isCurrentRevoke_iff.2 hwants))) hact
      · rw [if_neg hfailed] at h
        cases h
        refine requeue_refines q' hwf hat hact hid hopen ?_
        change (q.toDurableTask.retry _ _ _).status.isOpen = true
        change ¬ (q.toDurableTask.retry _ _ _).status = .failed at hfailed
        rw [DurableTask.retry_status] at hfailed ⊢
        split_ifs at hfailed ⊢
        · exact absurd rfl hfailed
        · rfl
    · rw [if_neg howns] at h
      cases h
      exact .refl hwf

theorem recoverOne_refines (hwf : db.WellFormed) (hact : actors (.attempt (.panelRevoke k)))
    (h : recoverOne ambient db k = .ok db') : db.Refines ambient.now actors db' := by
  unfold recoverOne at h
  split at h
  next => cases h; exact .refl hwf
  next q hrow =>
    obtain ⟨c, e, hat⟩ := hwf.panelRevokeTask hrow
    obtain ⟨q', hq', h⟩ := bind_eq_ok.1 h
    obtain ⟨hexp, hq'⟩ := PanelRevokeTask.recoverExpiredLease_eq_ok.1 hq'
    cases h
    refine requeue_refines q' hwf hat hact (by rw [hq']; rfl) ?_ (by rw [hq']; rfl)
    rw [(DurableTask.leaseIsExpired_iff.1 hexp).1]
    rfl

theorem recoverAll_refines {ids : List ℕ} (hwf : db.WellFormed)
    (hact : ∀ k ∈ ids, actors (.attempt (.panelRevoke k)))
    (h : recoverAll ambient db ids = .ok db') : db.Refines ambient.now actors db' := by
  induction ids generalizing db with
  | nil =>
    cases h
    exact .refl hwf
  | cons k rest ih =>
    obtain ⟨db₁, h₁, h₂⟩ := bind_eq_ok.1 h
    have hfirst := recoverOne_refines hwf (hact k (List.mem_cons_self ..)) h₁
    exact hfirst.trans (ih hfirst.wellFormed (fun j hj => hact j (List.mem_cons_of_mem _ hj)) h₂)

/-- No recovery writes a configuration: the task only returns to its queue. -/
theorem recoverAll_configurations {ids : List ℕ}
    (h : recoverAll ambient db ids = .ok db') :
    db'.vpnConfigurations = db.vpnConfigurations := by
  induction ids generalizing db with
  | nil =>
    cases h
    rfl
  | cons k rest ih =>
    obtain ⟨db₁, h₁, h₂⟩ := bind_eq_ok.1 h
    refine (ih h₂).trans ?_
    unfold recoverOne at h₁
    split at h₁
    next => cases h₁; rfl
    next =>
      obtain ⟨q', -, h₁⟩ := bind_eq_ok.1 h₁
      cases h₁
      rfl

end DispatchPanelRevokeTask

end ShopBot
