import ShopBot.Lifecycle.NodeLedger
import ShopBot.Refinement.Inserted
import ShopBot.UseCases.DispatchNodeTask

/-! # Node dispatch refines the ledger of attempts

Each transaction of a worker starts, postpones or finishes the task it works on; plans and
follow-ups insert tasks that have not been attempted.
-/

namespace ShopBot

open Database

namespace Database

def nodeLedger (db : Database) : NodeLedger := ⟨db.nodeTasks, db.nodeTaskAttempts⟩

variable {db db' : Database}

theorem Inserted.ledger {mapper : RowMapper} (h : Inserted mapper db db') :
    NodeLedger.Run db.nodeLedger db'.nodeLedger := by
  obtain ⟨added, hrows, hnew⟩ := h.nodeTasks
  have hrun : ∀ (added : List NodeTask) (l : NodeLedger), (∀ t ∈ added, t.Fresh) →
      NodeLedger.Run l { l with tasks := l.tasks ++ added } := by
    intro added
    induction added with
    | nil =>
      intro l _
      rw [List.append_nil]
    | cons t rest ih =>
      intro l hnew
      have hrest := ih { l with tasks := l.tasks ++ [t] } fun u hu =>
        hnew u (List.mem_cons_of_mem _ hu)
      simp only [List.append_assoc, List.singleton_append] at hrest
      exact .head (.insert t (hnew t (List.mem_cons_self ..))) hrest
  unfold nodeLedger
  rw [hrows, h.nodeTaskAttempts]
  exact hrun added _ hnew

theorem createTaskAttempt_ledger {a : NodeTaskAttempt} {id : ℕ}
    (h : db.createTaskAttempt a = .ok (id, db')) :
    db' = { db with nodeTaskAttempts := db.nodeTaskAttempts ++ [a] } ∧
      id = db.nodeTaskAttempts.length ∧ ∀ b ∈ db.nodeTaskAttempts, b.key ≠ a.key := by
  unfold createTaskAttempt at h
  split_ifs at h with hany
  obtain ⟨rfl, rfl⟩ := Prod.mk.inj (Except.ok.inj h)
  refine ⟨rfl, rfl, fun b hb hkey => hany (List.any_eq_true.2 ⟨b, hb, ?_⟩)⟩
  simp only [NodeTaskAttempt.key, Prod.mk.injEq] at hkey
  simp [hkey]

end Database

namespace DurableTask

variable {t : DurableTask} {now : DateTime} {error : String} {base : ℤ}

theorem retry_unleased : (t.retry now error base).Unleased := by
  unfold retry
  split_ifs <;> exact clearLease_unleased _

@[simp]
theorem retry_attempts : (t.retry now error base).attempts = t.attempts := by
  unfold retry
  split_ifs <;> rfl

@[simp]
theorem retry_maxAttempts : (t.retry now error base).maxAttempts = t.maxAttempts := by
  unfold retry
  split_ifs <;> rfl

end DurableTask

namespace DispatchNodeTask

variable {settings : Settings} {ambient : Ambient} {db db₁ db' : Database} {k id : ℕ}
  {t : NodeTask} {error status : String} {response : Option NodeResponse}

/-- The attempt at a position is the attempt of a task with a number. -/
def AttemptAt (db : Database) (attemptId : ℕ) (key : ℕ × ℕ) : Prop :=
  (db.nodeTaskAttempts[attemptId]?).map (·.key) = some key

theorem markConfigurationFailure_ledger (h : markConfigurationFailure db t = .ok db') :
    db'.nodeLedger = db.nodeLedger := by
  have hsave : ∀ {x : Except Error VpnConfiguration} {j : ℕ},
      x.map (db.saveConfiguration j) = .ok db' → db'.nodeLedger = db.nodeLedger := by
    intro x j hx
    cases x with
    | error e => cases hx
    | ok c =>
      cases hx
      rfl
  unfold markConfigurationFailure at h
  split at h
  next =>
    cases h
    rfl
  next =>
    split at h
    next =>
      cases h
      rfl
    next =>
      split_ifs at h
      · cases h
        rfl
      · exact hsave h
      · exact hsave h
      · cases h
        rfl

theorem failOrRetry_ledger (h : failOrRetry settings ambient db t k error response =
    .ok (status, db')) : db'.nodeLedger = ⟨db.nodeTasks.set k
      (t.retry error response ambient.now settings.nodeRetryBaseSeconds), db.nodeTaskAttempts⟩ := by
  unfold failOrRetry at h
  dsimp only at h
  split_ifs at h
  · cases h
    rfl
  · obtain ⟨db₁, hm, h⟩ := bind_eq_ok.1 h
    cases h
    exact markConfigurationFailure_ledger hm

/-- An attempt that did not succeed ends, and its task is retried or fails. -/
theorem retry_step {l : NodeLedger} {rows : List NodeTaskAttempt} {now : DateTime} {base : ℤ}
    (row : l.tasks[k]? = some t) (status : t.status = .inProgress)
    (closes : NodeLedger.Closes (k, t.attempts) l.attempts rows) :
    l.Step ⟨l.tasks.set k (t.retry error response now base), rows⟩ := by
  have hs : (t.retry error response now base).status =
      if t.maxAttempts ≤ t.attempts then .failed else .pending := DurableTask.retry_status
  refine .finish k t _ rows row status ?_ ?_ DurableTask.retry_attempts
    DurableTask.retry_maxAttempts DurableTask.retry_unleased closes
  · rw [hs]
    split_ifs <;> simp
  · rw [hs]
    split_ifs with hmax
    · intro h
      cases h
    · intro _
      omega

/-- Recording an outcome closes the attempt it is recorded for. -/
theorem finishTaskAttempt_closes {attemptId : ℕ} {key : ℕ × ℕ} {outcome : NodeTaskAttemptStatus}
    {message : Option String} (hinv : db.nodeLedger.Inv) (hat : AttemptAt db attemptId key)
    (ho : outcome ≠ .started) : NodeLedger.Closes key db.nodeTaskAttempts
      (db.finishTaskAttempt attemptId outcome ambient.now response message).nodeTaskAttempts := by
  obtain ⟨a, ha, hkey⟩ := Option.map_eq_some_iff.1 hat
  exact .modify hinv.distinct ha hkey (fun _ => rfl) fun _ => ho

theorem fail_step {attemptId : ℕ} {response' : Option NodeResponse} {message : Option String}
    (hinv : db.nodeLedger.Inv) (hrow : db.getNodeTask k = some t) (hs : t.status = .inProgress)
    (hat : AttemptAt db attemptId (k, t.attempts))
    (h : failOrRetry settings ambient
      (db.finishTaskAttempt attemptId .failed ambient.now response' message) t k error response =
        .ok (status, db')) : db.nodeLedger.Step db'.nodeLedger := by
  have hfailed : NodeTaskAttemptStatus.failed ≠ .started := by simp
  rw [failOrRetry_ledger h]
  exact retry_step hrow hs (finishTaskAttempt_closes hinv hat hfailed)

/-! ## Claiming a task -/

theorem startTask_run {preparation : NodePreparation} {node : Node} (hinv : db.nodeLedger.Inv)
    (ht : db.getNodeTask k = some t)
    (h : startTask settings ambient db t k node = .ok (preparation, db')) :
    NodeLedger.Run db.nodeLedger db'.nodeLedger ∧
      ∀ p, preparation = .prepared p → AttemptAt db' p.attemptId (p.taskId, p.attemptNo) := by
  obtain ⟨t', ht', h⟩ := bind_eq_ok.1 h
  obtain ⟨hd, -, ht'⟩ := NodeTask.startAttempt_eq_ok.1 ht'
  obtain ⟨⟨attemptId, db₁⟩, hattempt, h⟩ := bind_eq_ok.1 h
  obtain ⟨hdb₁, hid, hfree⟩ := createTaskAttempt_ledger hattempt
  have hstart : db.nodeLedger.Step db₁.nodeLedger := by
    rw [hdb₁]
    exact .start k t t' _ ht (DurableTask.canDispatch_status hd) (by rw [ht']) (by rw [ht'])
      (by rw [ht']) (by rw [ht']; exact ⟨rfl, rfl, rfl⟩) rfl rfl rfl hfree
  have hat : AttemptAt db₁ attemptId (k, t'.attempts) := by
    rw [hdb₁, hid]
    simp [AttemptAt, NodeTaskAttempt.key]
  have hrow : db₁.getNodeTask k = some t' := by
    rw [hdb₁]
    simp [getNodeTask, saveNodeTask, (List.getElem?_eq_some_iff.1 ht).1]
  have hs : t'.status = .inProgress := by rw [ht']
  dsimp only at h
  split_ifs at h
  · obtain ⟨⟨status, db₂⟩, hf, h⟩ := bind_eq_ok.1 h
    cases h
    exact ⟨.tail (.single hstart) (fail_step (hstart.inv hinv) hrow hs hat hf),
      fun p hp => by cases hp⟩
  · cases h
    refine ⟨.single hstart, ?_⟩
    rintro p hp
    cases hp
    exact hat

theorem prepare_run {preparation : NodePreparation} (hinv : db.nodeLedger.Inv)
    (h : prepare settings ambient db k = .ok (preparation, db')) :
    NodeLedger.Run db.nodeLedger db'.nodeLedger ∧
      ∀ p, preparation = .prepared p → AttemptAt db' p.attemptId (p.taskId, p.attemptNo) := by
  have hkeep : ∀ {r : String}, .ok (.result r, db) =
      (.ok (preparation, db') : Except Error (NodePreparation × Database)) →
      NodeLedger.Run db.nodeLedger db'.nodeLedger ∧
        ∀ p, preparation = .prepared p → AttemptAt db' p.attemptId (p.taskId, p.attemptNo) := by
    rintro r h
    cases h
    exact ⟨.refl, fun p hp => by cases hp⟩
  unfold prepare at h
  split at h
  next => exact hkeep h
  next t ht =>
    have hdefer : ∀ {reason : String},
        deferUnavailableNode settings ambient db t k reason = .ok (preparation, db') →
        NodeLedger.Run db.nodeLedger db'.nodeLedger ∧
          ∀ p, preparation = .prepared p → AttemptAt db' p.attemptId (p.taskId, p.attemptNo) := by
      intro reason h
      obtain ⟨t', ht', h⟩ := bind_eq_ok.1 h
      obtain ⟨hs, -, ht'⟩ := NodeTask.deferWithoutAttempt_eq_ok.1 ht'
      cases h
      refine ⟨.single (.postpone k t t' ht hs ?_ ?_ ?_ ?_), fun p hp => by cases hp⟩
      · rw [ht']
        exact hs
      · rw [ht']
        rfl
      · rw [ht']
        rfl
      · rw [ht']
        exact DurableTask.clearLease_unleased _
    split at h
    next => exact hkeep h
    next =>
      split at h
      next => exact hdefer h
      next =>
        split_ifs at h
        · exact startTask_run hinv ht h
        · exact hdefer h

/-! ## Recording an outcome -/

theorem addFollowUp_inserted {mapper : RowMapper} {c : VpnConfiguration}
    {f : DispatchFinalization} {remoteStatus : String}
    (h : addFollowUp ambient db t c id remoteStatus = .ok (f, db')) : Inserted mapper db db' := by
  obtain ⟨⟨u, j, db₁⟩, hadd, h⟩ := bind_eq_ok.1 h
  cases h
  exact .addNodeTask ⟨rfl, rfl, rfl, rfl, rfl⟩ rfl hadd

theorem completeProvision_inserted {mapper : RowMapper} {f : DispatchFinalization}
    {remoteStatus : String} (h : completeProvision ambient db t id remoteStatus = .ok (f, db')) :
    Inserted mapper db db' := by
  unfold completeProvision at h
  dsimp only at h
  split at h
  next => cases h
  next c _ =>
    by_cases hcur : isCurrentProvision t.vpnGeneration c = true
    · rw [if_pos hcur] at h
      split_ifs at h
      · obtain ⟨c', -, h⟩ := bind_eq_ok.1 h
        cases h
        exact .of_eq rfl rfl rfl rfl
      · obtain ⟨c', -, h⟩ := bind_eq_ok.1 h
        have hsave : Inserted mapper db (db.saveConfiguration id { c' with
          remoteClientRef := orText t.remoteClientRef c'.remoteClientRef }) :=
            .of_eq rfl rfl rfl rfl
        exact hsave.trans (addFollowUp_inserted h)
    · rw [if_neg hcur] at h
      exact addFollowUp_inserted h

theorem completeRevoke_inserted {mapper : RowMapper} {f : DispatchFinalization}
    {remoteStatus : String} (h : completeRevoke ambient db t id remoteStatus = .ok (f, db')) :
    Inserted mapper db db' := by
  unfold completeRevoke at h
  split at h
  next =>
    cases h
    exact .refl _
  next =>
    split_ifs at h
    · obtain ⟨c', -, h⟩ := bind_eq_ok.1 h
      cases h
      exact .of_eq rfl rfl rfl rfl
    · cases h
      exact .refl _

theorem finalizeSuccess_run {f : DispatchFinalization} {r : NodeResponse} {attemptId : ℕ}
    (hinv : db.nodeLedger.Inv) (hrow : db.getNodeTask k = some t)
    (hat : AttemptAt db attemptId (k, t.attempts))
    (h : finalizeSuccess ambient
      (db.finishTaskAttempt attemptId .succeeded ambient.now (some r) none) t k r = .ok (f, db')) :
    NodeLedger.Run db.nodeLedger db'.nodeLedger := by
  obtain ⟨t', ht', h⟩ := bind_eq_ok.1 h
  obtain ⟨hs, ht'⟩ := NodeTask.complete_eq_ok.1 ht'
  have hclosed : NodeLedger.Closes (k, t.attempts) db.nodeTaskAttempts
      (db.finishTaskAttempt attemptId .succeeded ambient.now (some r) none).nodeTaskAttempts :=
    finishTaskAttempt_closes hinv hat (by simp)
  have hfinish : db.nodeLedger.Step
      ((db.finishTaskAttempt attemptId .succeeded ambient.now (some r) none).saveNodeTask k
        t').nodeLedger := by
    refine .finish k t t' _ hrow hs ?_ ?_ ?_ ?_ ?_ hclosed
    · rw [ht']
      simp
    · rw [ht']
      simp
    · rw [ht']
      rfl
    · rw [ht']
      rfl
    · rw [ht']
      exact DurableTask.clearLease_unleased _
  refine .trans (.single hfinish) (Inserted.ledger (?_ : Inserted .asWritten _ _))
  dsimp only at h
  split at h
  · exact completeProvision_inserted h
  · exact completeRevoke_inserted h
  · cases h
    exact .refl _

/-- A worker that owns the attempt finishes it; any other changes nothing. -/
theorem finalize_run {p : PreparedDispatch} {reply : NodeReply} {f : DispatchFinalization}
    (hinv : db.nodeLedger.Inv) (hat : AttemptAt db p.attemptId (p.taskId, p.attemptNo))
    (h : finalize settings ambient db p reply = .ok (f, db')) :
    NodeLedger.Run db.nodeLedger db'.nodeLedger := by
  unfold finalize at h
  split at h
  next =>
    cases h
    exact .refl
  next t ht =>
    by_cases howns : t.ownsActiveLease p.leaseToken p.attemptNo ambient.now = true
    · rw [if_pos howns] at h
      obtain ⟨hs, -, hno⟩ := DurableTask.ownsLease_iff.1 (DurableTask.ownsActiveLease_iff.1 howns).1
      rw [← hno] at hat
      split at h
      next text =>
        obtain ⟨⟨status, db₁⟩, hf, h⟩ := bind_eq_ok.1 h
        cases h
        exact .single (fail_step hinv ht hs hat hf)
      next r =>
        split_ifs at h
        · exact finalizeSuccess_run hinv ht hat h
        · obtain ⟨⟨status, db₁⟩, hf, h⟩ := bind_eq_ok.1 h
          cases h
          exact .single (fail_step hinv ht hs hat hf)
    · rw [if_neg howns] at h
      cases h
      exact .refl

/-! ## Recovering expired leases -/

theorem failStartedTaskAttempt_closes {attemptNo : ℕ} {now : DateTime} (hinv : db.nodeLedger.Inv) :
    NodeLedger.Closes (k, attemptNo) db.nodeTaskAttempts
      (db.failStartedTaskAttempt k attemptNo now error).nodeTaskAttempts := by
  refine .map (fun a ha => ?_) (fun _ => rfl) fun _ => by simp
  simp only [Bool.and_eq_true, decide_eq_true_eq, NodeTaskAttempt.key, Prod.mk.injEq]
  constructor
  · rintro ⟨⟨hkey, hs⟩, -⟩
    exact ⟨hkey, hs⟩
  · rintro ⟨hkey, hs⟩
    refine ⟨⟨hkey, hs⟩, ?_⟩
    rw [hinv.unfinished a ha hs]
    rfl

theorem recoverOne_run (hinv : db.nodeLedger.Inv)
    (h : recoverOne settings ambient db k = .ok db') :
    NodeLedger.Run db.nodeLedger db'.nodeLedger := by
  unfold recoverOne at h
  split at h
  next =>
    cases h
    exact .refl
  next t ht =>
    split_ifs at h with hexp
    · obtain ⟨t', ht', h⟩ := bind_eq_ok.1 h
      obtain ⟨-, rfl⟩ := NodeTask.recoverExpiredLease_eq_ok.1 ht'
      have hstep : db.nodeLedger.Step ⟨db.nodeTasks.set k (t.retry "node task lease expired" none
            ambient.now settings.nodeRetryBaseSeconds),
          (db.failStartedTaskAttempt k t.attempts ambient.now
            "node task lease expired").nodeTaskAttempts⟩ :=
        retry_step ht (DurableTask.leaseIsExpired_iff.1 hexp).1 (failStartedTaskAttempt_closes hinv)
      dsimp only at h
      split_ifs at h
      · have hl := markConfigurationFailure_ledger h
        refine .single ?_
        rw [hl]
        exact hstep
      · cases h
        exact .single hstep
    · cases h
      exact .refl

theorem recoverAll_run {ids : List ℕ} (hinv : db.nodeLedger.Inv)
    (h : recoverAll settings ambient db ids = .ok db') :
    NodeLedger.Run db.nodeLedger db'.nodeLedger := by
  induction ids generalizing db with
  | nil =>
    cases h
    exact .refl
  | cons k rest ih =>
    obtain ⟨db₁, h₁, h₂⟩ := bind_eq_ok.1 h
    have hfirst := recoverOne_run hinv h₁
    exact hfirst.trans (ih (hfirst.inv hinv) h₂)

end DispatchNodeTask

end ShopBot
