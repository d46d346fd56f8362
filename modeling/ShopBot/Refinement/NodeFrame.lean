import ShopBot.Refinement.NodeAttempts
import ShopBot.UseCases.DispatchPanelProvisionTask
import ShopBot.UseCases.DispatchPanelRevokeTask

/-! # Panel dispatch leaves the node ledger alone -/

namespace ShopBot

open Database

variable {settings : Settings} {ambient : Ambient} {db db' : Database} {k : ℕ}

namespace DispatchPanelProvisionTask

variable {p : PanelProvisionTask} {w : PreparedPanelDispatch} {error status : String}
  {outcome : PanelOutcome}

theorem prepare_nodeLedger {preparation : PanelPreparation}
    (h : prepare settings ambient db k = .ok (preparation, db')) :
    db'.nodeLedger = db.nodeLedger := by
  obtain ⟨found, -, h⟩ := bind_eq_ok.1 h
  cases found with
  | none =>
    cases h
    rfl
  | some p =>
    dsimp only at h
    split_ifs at h
    · cases h
      rfl
    · obtain ⟨p', -, h⟩ := bind_eq_ok.1 h
      cases h
      rfl
    · cases h
      rfl

theorem keepForCompensation_nodeLedger
    (h : keepForCompensation ambient db p k error = .ok (outcome, db')) :
    db'.nodeLedger = db.nodeLedger := by
  obtain ⟨p', -, h⟩ := bind_eq_ok.1 h
  cases h
  rfl

theorem finalizeProvisionSuccess_nodeLedger
    (h : finalizeProvisionSuccess settings ambient db w = .ok (outcome, db')) :
    db'.nodeLedger = db.nodeLedger := by
  obtain ⟨found, -, h⟩ := bind_eq_ok.1 h
  cases found with
  | none => cases h
  | some p =>
    dsimp only at h
    split_ifs at h
    · unfold settleProvision at h
      dsimp only at h
      split at h
      next => cases h
      next c _ =>
        split_ifs at h
        · obtain ⟨c', -, h⟩ := bind_eq_ok.1 h
          obtain ⟨p', -, h⟩ := bind_eq_ok.1 h
          cases h
          rfl
        · obtain ⟨c', -, h⟩ := bind_eq_ok.1 h
          have hkeep := keepForCompensation_nodeLedger h
          exact hkeep
        · exact keepForCompensation_nodeLedger h
    · exact keepForCompensation_nodeLedger h
    · cases h
      rfl

theorem failCurrentProvision_nodeLedger (h : failCurrentProvision db p = .ok db') :
    db'.nodeLedger = db.nodeLedger := by
  unfold failCurrentProvision at h
  split at h
  next =>
    cases h
    rfl
  next c _ =>
    split_ifs at h
    · cases hc : c.failProvisioning with
      | error e =>
        rw [hc] at h
        cases h
      | ok c' =>
        rw [hc] at h
        cases h
        rfl
    · cases h
      rfl

theorem finalizeRemoteFailure_nodeLedger
    (h : finalizeRemoteFailure settings ambient db w error = .ok (status, db')) :
    db'.nodeLedger = db.nodeLedger := by
  obtain ⟨found, -, h⟩ := bind_eq_ok.1 h
  cases found with
  | none =>
    cases h
    rfl
  | some p =>
    dsimp only at h
    split_ifs at h
    · obtain ⟨db₁, hf, h⟩ := bind_eq_ok.1 h
      cases h
      have hkeep := failCurrentProvision_nodeLedger hf
      exact hkeep
    · cases h
      rfl
    · cases h
      rfl

theorem recordCompensationSuccess_nodeLedger
    (h : recordCompensationSuccess settings ambient db w = .ok (status, db')) :
    db'.nodeLedger = db.nodeLedger := by
  obtain ⟨found, -, h⟩ := bind_eq_ok.1 h
  cases found with
  | none =>
    cases h
    rfl
  | some p =>
    dsimp only at h
    by_cases howns : p.ownsLease w.leaseToken w.attemptNo = true
    · rw [if_pos howns] at h
      split at h
      next =>
        cases h
        rfl
      next c _ =>
        split_ifs at h
        · obtain ⟨c', -, h⟩ := bind_eq_ok.1 h
          cases h
          rfl
        · obtain ⟨db₁, hf, h⟩ := bind_eq_ok.1 h
          cases h
          have hkeep := failCurrentProvision_nodeLedger hf
          exact hkeep
        · cases h
          rfl
    · rw [if_neg howns] at h
      cases h
      rfl

theorem recordCompensationFailure_nodeLedger
    (h : recordCompensationFailure settings ambient db w error = .ok db') :
    db'.nodeLedger = db.nodeLedger := by
  obtain ⟨found, -, h⟩ := bind_eq_ok.1 h
  cases found with
  | none =>
    cases h
    rfl
  | some p =>
    dsimp only at h
    split_ifs at h <;> cases h <;> rfl

theorem recoverAll_nodeLedger {ids : List ℕ} (h : recoverAll settings ambient db ids = .ok db') :
    db'.nodeLedger = db.nodeLedger := by
  induction ids generalizing db with
  | nil =>
    cases h
    rfl
  | cons k rest ih =>
    obtain ⟨db₁, h₁, h₂⟩ := bind_eq_ok.1 h
    refine (ih h₂).trans ?_
    obtain ⟨found, -, h₁⟩ := bind_eq_ok.1 h₁
    cases found with
    | none =>
      cases h₁
      rfl
    | some p =>
      obtain ⟨p', -, h₁⟩ := bind_eq_ok.1 h₁
      cases h₁
      rfl

end DispatchPanelProvisionTask

namespace DispatchPanelRevokeTask

variable {w : PreparedPanelRevoke} {error status : String}

theorem prepare_nodeLedger {preparation : PanelRevokePreparation}
    (h : prepare settings ambient db k = .ok (preparation, db')) :
    db'.nodeLedger = db.nodeLedger := by
  unfold prepare at h
  split at h
  next =>
    cases h
    rfl
  next =>
    split_ifs at h
    · cases h
      rfl
    · obtain ⟨q', -, h⟩ := bind_eq_ok.1 h
      cases h
      rfl
    · cases h
      rfl

theorem finalizeSuccess_nodeLedger (h : finalizeSuccess ambient db w = .ok (status, db')) :
    db'.nodeLedger = db.nodeLedger := by
  unfold finalizeSuccess at h
  split at h
  next =>
    cases h
    rfl
  next q _ =>
    by_cases howns : q.ownsActiveLease w.leaseToken w.attemptNo ambient.now = true
    · rw [if_pos howns] at h
      obtain ⟨q', -, h⟩ := bind_eq_ok.1 h
      dsimp only at h
      split at h
      next =>
        cases h
        rfl
      next =>
        split_ifs at h
        · obtain ⟨c', -, h⟩ := bind_eq_ok.1 h
          cases h
          rfl
        · cases h
          rfl
    · rw [if_neg howns] at h
      cases h
      rfl

theorem finalizeFailure_nodeLedger
    (h : finalizeFailure settings ambient db w error = .ok (status, db')) :
    db'.nodeLedger = db.nodeLedger := by
  unfold finalizeFailure at h
  split at h
  next =>
    cases h
    rfl
  next q _ =>
    by_cases howns : q.ownsLease w.leaseToken w.attemptNo = true
    · rw [if_pos howns] at h
      dsimp only at h
      by_cases hfailed : (q.retry ambient.now s!"panel revoke failed: {error}"
          settings.panelRetryBaseSeconds).status = .failed
      · rw [if_pos hfailed] at h
        split at h
        next =>
          cases h
          rfl
        next =>
          split_ifs at h
          · obtain ⟨c', -, h⟩ := bind_eq_ok.1 h
            cases h
            rfl
          · cases h
            rfl
      · rw [if_neg hfailed] at h
        cases h
        rfl
    · rw [if_neg howns] at h
      cases h
      rfl

theorem recoverAll_nodeLedger {ids : List ℕ} (h : recoverAll ambient db ids = .ok db') :
    db'.nodeLedger = db.nodeLedger := by
  induction ids generalizing db with
  | nil =>
    cases h
    rfl
  | cons k rest ih =>
    obtain ⟨db₁, h₁, h₂⟩ := bind_eq_ok.1 h
    refine (ih h₂).trans ?_
    unfold recoverOne at h₁
    split at h₁
    next =>
      cases h₁
      rfl
    next =>
      obtain ⟨q', -, h₁⟩ := bind_eq_ok.1 h₁
      cases h₁
      rfl

end DispatchPanelRevokeTask

end ShopBot
