import Mathlib.Order.Interval.Finset.Nat
import ShopBot.Guarantees.PanelCalls

/-! # The attempts of panel provisions

An attempt provisions or compensates, and both count. A task is only claimed to provision
while it has attempts left, and not before what an attempt may have left on the panel has
been revoked by the owner of the lease.
-/

namespace ShopBot

open Database Relation

namespace PanelProvisionTask

variable {t : PanelProvisionTask} {now : DateTime}

theorem retry_maxAttempts {error : String} {base : ℤ} :
    (t.retry now error base).maxAttempts = t.maxAttempts := by
  unfold retry DurableTask.retry
  split_ifs <;> rfl

theorem compensationSucceeded_maxAttempts {terminal : Bool} :
    (t.compensationSucceeded now terminal).maxAttempts = t.maxAttempts := by
  unfold compensationSucceeded
  dsimp only
  split_ifs <;> rfl

theorem compensationSucceeded_attempts {terminal : Bool} :
    (t.compensationSucceeded now terminal).attempts = t.attempts := by
  unfold compensationSucceeded
  dsimp only
  split_ifs <;> rfl

end PanelProvisionTask

namespace System

variable {settings : Settings} {s s' : System} {cmd : Command} {i j k : ℕ} {d d' : PanelDispatch}
  {t t' : PanelProvisionTask} {now : DateTime}

/-! ## What a transaction does to one task -/

theorem Recovers.row {rows rows' : List PanelProvisionTask} (h : Recovers now rows rows')
    (ht' : rows'[k]? = some t') : rows[k]? = some t' ∨ ∃ t, rows[k]? = some t ∧
      t'.status = .pending ∧ t'.compensationRequired = true ∧ t'.attempts = t.attempts ∧
      t'.maxAttempts = t.maxAttempts := by
  induction h generalizing t' with
  | refl => exact .inl ht'
  | tail _ hstep ih =>
    obtain ⟨l, u, u', hrow, rfl, hrec⟩ := hstep
    rcases rows_set hrow ht' with ⟨rfl, rfl⟩ | ⟨-, ht'⟩
    · obtain ⟨-, rfl⟩ := PanelProvisionTask.recoverExpiredLease_eq_ok.1 hrec
      rcases ih hrow with hold | ⟨t, hold, -, -, ha, hm⟩
      · exact .inr ⟨u, hold, rfl, rfl, rfl, rfl⟩
      · exact .inr ⟨t, hold, rfl, rfl, ha, hm⟩
    · exact ih ht'

/-- How the row `t'` of provision task `k` has come about in a command. -/
inductive ProvisionRow (settings : Settings) (s s' : System) (cmd : Command) (k : ℕ)
    (t' : PanelProvisionTask) : Prop where
  | kept (row : s.db.panelProvisionTasks[k]? = some t')

  | created (absent : s.db.panelProvisionTasks[k]? = none) (fresh : t'.Fresh)
      (clean : t'.compensationRequired = false)

  | claimed (t : PanelProvisionTask) (ambient : Ambient) (leaseExpiresAt : DateTime)
      (row : s.db.panelProvisionTasks[k]? = some t)
      (started : t.startAttempt ambient.now leaseExpiresAt ambient.leaseToken = .ok t')

  | marked (t : PanelProvisionTask) (now : DateTime) (error : String) (worker : ℕ)
      (w : PanelDispatch) (moves : Moves s s' worker w .provisioning .compensating)
      (task : w.prepared.taskId = k) (row : s.db.panelProvisionTasks[k]? = some t)
      (owns : t.ownsLease w.prepared.leaseToken w.prepared.attemptNo = true)
      (marked : t.markCompensationRequired now error = .ok t')

  | completed (t : PanelProvisionTask) (now : DateTime) (worker : ℕ) (w : PanelDispatch)
      (moves : Moves s s' worker w .provisioning .finished) (task : w.prepared.taskId = k)
      (row : s.db.panelProvisionTasks[k]? = some t)
      (owns : t.ownsLease w.prepared.leaseToken w.prepared.attemptNo = true)
      (completed : t.complete now = .ok t')

  | retried (t : PanelProvisionTask) (now : DateTime) (error : String)
      (row : s.db.panelProvisionTasks[k]? = some t)
      (result : t' = t.retry now error settings.panelRetryBaseSeconds)

  | compensated (t : PanelProvisionTask) (ambient : Ambient) (terminal : Bool) (worker : ℕ)
      (w : PanelDispatch) (command : cmd = .recordCompensation ambient worker)
      (claimed : s.panelDispatches[worker]? = some w) (task : w.prepared.taskId = k)
      (row : s.db.panelProvisionTasks[k]? = some t)
      (owns : t.ownsLease w.prepared.leaseToken w.prepared.attemptNo = true)
      (result : t' = t.compensationSucceeded ambient.now terminal)

  | required (t : PanelProvisionTask) (now : DateTime) (error : String)
      (row : s.db.panelProvisionTasks[k]? = some t)
      (result : t' = t.requireCompensation now error)

  | recovered (t : PanelProvisionTask) (row : s.db.panelProvisionTasks[k]? = some t)
      (pending : t'.status = .pending) (required : t'.compensationRequired = true)
      (attempts : t'.attempts = t.attempts) (maxAttempts : t'.maxAttempts = t.maxAttempts)

theorem ProvisionEffect.row (h : ProvisionEffect settings s s' cmd)
    (ht' : s'.db.panelProvisionTasks[k]? = some t') : ProvisionRow settings s s' cmd k t' := by
  have hset : ∀ {l : ℕ} {u u' : PanelProvisionTask}, s.db.SetsProvision s'.db l u u' →
      s.db.panelProvisionTasks[k]? = some t' ∨ (l = k ∧ u' = t') := by
    intro l u u' hsets
    rw [hsets.rows] at ht'
    rcases rows_set hsets.row ht' with ⟨rfl, rfl⟩ | ⟨-, hrow⟩
    · exact .inr ⟨rfl, rfl⟩
    · exact .inl hrow
  cases h with
  | grows _ idle rows workers =>
    cases hrow : s.db.panelProvisionTasks[k]? with
    | none =>
      rcases Grown.cases rows ht' with hold | hnew
      · exact .kept hold
      · exact .created hrow hnew.1 hnew.2
    | some t =>
      obtain ⟨added, hadded, -⟩ := rows
      rw [hadded, List.getElem?_append_left (List.getElem?_eq_some_iff.1 hrow).1] at ht'
      exact .kept ht'
  | claims ambient l u u' p sets started prepared workers =>
    rcases hset sets with hrow | ⟨rfl, rfl⟩
    · exact .kept hrow
    · exact .claimed u ambient _ sets.row started
  | passes _ worker w stage next moves acts goesOn same =>
    rw [same] at ht'
    exact .kept ht'
  | keeps ambient worker w u u' error moves sets owns kept =>
    rcases hset sets with hrow | ⟨rfl, rfl⟩
    · exact .kept hrow
    · exact .marked u ambient.now error worker w moves rfl sets.row owns kept
  | activates ambient worker w u u' c moves sets owns completed =>
    rcases hset sets with hrow | ⟨rfl, rfl⟩
    · exact .kept hrow
    · exact .completed u ambient.now worker w moves rfl sets.row owns completed
  | retries ambient worker errorName w u moves sets owns =>
    rcases hset sets with hrow | ⟨rfl, rfl⟩
    · exact .kept hrow
    · exact .retried u ambient.now _ sets.row rfl
  | compensates ambient worker w u terminal moves sets owns =>
    rcases hset sets with hrow | ⟨rfl, rfl⟩
    · exact .kept hrow
    · exact .compensated u ambient terminal worker w rfl moves.row rfl sets.row owns rfl
  | requires ambient worker errorName w u moves sets owns =>
    rcases hset sets with hrow | ⟨rfl, rfl⟩
    · exact .kept hrow
    · exact .required u ambient.now _ sets.row rfl
  | recovers ambient locked limit rows workers =>
    rcases rows.row ht' with hrow | ⟨u, hrow, hs, hc, ha, hm⟩
    · exact .kept hrow
    · exact .recovered u hrow hs hc ha hm

/-- A task keeps the bound of its attempts. -/
theorem ProvisionRow.maxAttempts (h : ProvisionRow settings s s' cmd k t')
    (ht : s.db.panelProvisionTasks[k]? = some t) : t'.maxAttempts = t.maxAttempts := by
  cases h with
  | kept row => rw [Option.some.inj (row.symm.trans ht)]
  | created absent => cases absent.symm.trans ht
  | claimed u ambient leaseExpiresAt row started =>
    obtain ⟨-, -, rfl⟩ := PanelProvisionTask.startAttempt_eq_ok.1 started
    rw [← Option.some.inj (row.symm.trans ht)]
  | marked u now error worker w moves task row owns marked =>
    obtain ⟨-, rfl⟩ := PanelProvisionTask.markCompensationRequired_eq_ok.1 marked
    rw [← Option.some.inj (row.symm.trans ht)]
  | completed u now worker w moves task row owns completed =>
    obtain ⟨-, rfl⟩ := PanelProvisionTask.complete_eq_ok.1 completed
    rw [← Option.some.inj (row.symm.trans ht)]
    rfl
  | retried u now error row result =>
    rw [result, PanelProvisionTask.retry_maxAttempts, Option.some.inj (row.symm.trans ht)]
  | compensated u ambient terminal worker w command claimed task row owns result =>
    rw [result, PanelProvisionTask.compensationSucceeded_maxAttempts,
      Option.some.inj (row.symm.trans ht)]
  | required u now error row result =>
    rw [result, ← Option.some.inj (row.symm.trans ht)]
    rfl
  | recovered u row pending required attempts maxAttempts =>
    rw [maxAttempts, Option.some.inj (row.symm.trans ht)]

/-! ## Attempts and calls -/

/-- The workers that have claimed task `k` to provision; each calls the panel once. -/
def provisionCalls (s : System) (k : ℕ) : List PanelDispatch :=
  s.panelDispatches.filter fun d => d.prepared.taskId = k && d.prepared.action = .provision

/-- A task that can be claimed to provision has an attempt left, and no worker that owns its
lease can provision or complete it while a compensation is required. -/
structure AttemptInv (s : System) : Prop where
  left : ∀ t ∈ s.db.panelProvisionTasks, t.status = .pending → t.compensationRequired = false →
    t.attempts < t.maxAttempts
  numbered : ∀ d ∈ s.panelDispatches, d.prepared.action = .provision →
    ∃ t, s.db.panelProvisionTasks[d.prepared.taskId]? = some t ∧ 1 ≤ d.prepared.attemptNo ∧
      d.prepared.attemptNo ≤ t.maxAttempts
  clean : ∀ (i : ℕ) (d : PanelDispatch) (t : PanelProvisionTask),
    s.panelDispatches[i]? = some d → d.stage = .provisioning →
    s.db.panelProvisionTasks[d.prepared.taskId]? = some t → t.status = .inProgress →
    t.attempts = d.prepared.attemptNo → t.compensationRequired = false

theorem ProvisionRow.left (h : ProvisionRow settings s s' cmd k t') (hinv : s.AttemptInv)
    (hs : t'.status = .pending) (hc : t'.compensationRequired = false) :
    t'.attempts < t'.maxAttempts := by
  cases h with
  | kept row => exact hinv.left t' (List.mem_of_getElem? row) hs hc
  | created absent fresh clean =>
    rw [fresh.2.1]
    exact t'.maxAttempts_pos
  | claimed t ambient leaseExpiresAt row started =>
    obtain ⟨-, -, rfl⟩ := PanelProvisionTask.startAttempt_eq_ok.1 started
    cases hs
  | marked t now error worker w moves task row owns marked =>
    obtain ⟨-, rfl⟩ := PanelProvisionTask.markCompensationRequired_eq_ok.1 marked
    cases hc
  | completed t now worker w moves task row owns completed =>
    obtain ⟨-, rfl⟩ := PanelProvisionTask.complete_eq_ok.1 completed
    cases hs
  | retried t now error row result =>
    rw [result] at hs ⊢
    unfold PanelProvisionTask.retry DurableTask.retry at hs ⊢
    split_ifs at hs ⊢ with hlast
    · cases hs
    · exact not_le.1 hlast
  | compensated t ambient terminal worker w command claimed task row owns result =>
    rw [result, PanelProvisionTask.compensationSucceeded_status] at hs
    split_ifs at hs with hterm hlast
    rw [result, PanelProvisionTask.compensationSucceeded_attempts,
      PanelProvisionTask.compensationSucceeded_maxAttempts]
    exact not_le.1 hlast
  | required t now error row result =>
    rw [result] at hc
    cases hc
  | recovered t row pending required => cases hc.symm.trans required

/-- A worker that goes on provisioning owns a task of which no compensation is required. -/
theorem AttemptInv.clean_step (hinv : s.AttemptInv) (hr : Reachable settings s)
    (hexec : s.exec settings cmd = some s') (hd' : s'.panelDispatches[i]? = some d')
    (hstage : d'.stage = .provisioning)
    (ht' : s'.db.panelProvisionTasks[d'.prepared.taskId]? = some t')
    (hs : t'.status = .inProgress) (hn : t'.attempts = d'.prepared.attemptNo) :
    t'.compensationRequired = false := by
  have heffect := exec_provisionEffect hexec
  cases hd : s.panelDispatches[i]? with
  | none =>
    obtain ⟨t, u, hclaim⟩ := heffect.new_claim (List.getElem?_eq_none_iff.1 hd) hd'
    obtain rfl := Option.some.inj (hclaim.after.symm.trans ht')
    rw [hclaim.required]
    by_contra hreq
    rw [hclaim.stage, hclaim.action, if_pos (Bool.eq_true_of_not_eq_false hreq)] at hstage
    cases hstage
  | some d =>
    obtain ⟨e, he, hprep, hstages⟩ := heffect.worker hd
    obtain rfl := Option.some.inj (he.symm.trans hd')
    have hprov : d.stage = .provisioning := by
      rcases hstages with h | h | ⟨h, -⟩
      · exact h ▸ hstage
      · cases h.symm.trans hstage
      · exact h
    have hholds := provisionBoard_holds_before hr hexec hd ((provisionBoard_holds hd' ht').2 ⟨hs, hn⟩)
    have hclean : ∀ t, s.db.panelProvisionTasks[d.prepared.taskId]? = some t →
        t.compensationRequired = false := by
      intro t ht
      obtain ⟨hst, hat⟩ := (provisionBoard_holds hd ht).1 hholds
      exact hinv.clean i d t hd hprov ht hst hat
    rw [hprep] at ht'
    cases heffect.row ht' with
    | kept row => exact hclean t' row
    | created absent fresh => cases fresh.1.symm.trans hs
    | claimed t ambient leaseExpiresAt row started =>
      obtain ⟨-, -, rfl⟩ := PanelProvisionTask.startAttempt_eq_ok.1 started
      exact hclean t row
    | marked t now error worker w moves task row owns marked =>
      -- the worker that has marked the task is the one that holds it, and compensates now
      obtain ⟨hst, -, hat⟩ := DurableTask.ownsLease_iff.1 owns
      have hw := (provisionBoard_holds moves.row (task ▸ row)).2 ⟨hst, hat⟩
      obtain ⟨terms, hw⟩ := hw
      obtain ⟨terms', hi⟩ := hholds
      have hworker : ∀ {j : ℕ} {v : PanelDispatch}, s.panelDispatches[j]? = some v →
          s.provisionBoard.workers[j]? = some ⟨v.prepared.taskId, v.prepared.attemptNo⟩ := by
        intro j v hv
        simp [provisionBoard, hv]
      obtain rfl := hr.provisionBoard.holds_unique (hworker moves.row) (hworker hd) task hw hi
      rw [moves.workers, List.getElem?_set_self (List.getElem?_eq_some_iff.1 moves.row).1] at hd'
      rw [← Option.some.inj hd'] at hstage
      cases hstage
    | completed t now worker w moves task row owns completed =>
      obtain ⟨-, rfl⟩ := PanelProvisionTask.complete_eq_ok.1 completed
      cases hs
    | retried t now error row result =>
      rw [result] at hs
      exact absurd hs retry_ended
    | compensated t ambient terminal worker w command claimed task row owns result =>
      rw [result, PanelProvisionTask.compensationSucceeded_status] at hs
      split_ifs at hs
    | required t now error row result =>
      rw [result] at hs
      cases hs
    | recovered t row pending => cases pending.symm.trans hs

theorem AttemptInv.step (hinv : s.AttemptInv) (hr : Reachable settings s)
    (hexec : s.exec settings cmd = some s') : s'.AttemptInv := by
  have heffect := exec_provisionEffect hexec
  refine ⟨fun t' ht' hs hc => ?_, fun d' hd' haction => ?_,
    fun i d' t' => hinv.clean_step hr hexec⟩
  · obtain ⟨k, hk⟩ := List.mem_iff_getElem?.1 ht'
    exact (heffect.row hk).left hinv hs hc
  · obtain ⟨i, hi⟩ := List.mem_iff_getElem?.1 hd'
    cases hd : s.panelDispatches[i]? with
    | none =>
      obtain ⟨t, t', hclaim⟩ := heffect.new_claim (List.getElem?_eq_none_iff.1 hd) hi
      have hclean : t.compensationRequired = false := by
        by_contra hreq
        rw [hclaim.action, if_pos (Bool.eq_true_of_not_eq_false hreq)] at haction
        cases haction
      have hlt := hinv.left t (List.mem_of_getElem? hclaim.before) hclaim.pending hclean
      refine ⟨t', hclaim.after, ?_, ?_⟩
      · rw [hclaim.attemptNo]
        exact Nat.le_add_left 1 _
      · rw [hclaim.attemptNo, (heffect.row hclaim.after).maxAttempts hclaim.before]
        exact hlt
    | some d =>
      obtain ⟨e, he, hprep, -⟩ := heffect.worker hd
      obtain rfl := Option.some.inj (he.symm.trans hi)
      rw [hprep] at haction ⊢
      obtain ⟨t, ht, hpos, hle⟩ := hinv.numbered d (List.mem_of_getElem? hd) haction
      obtain ⟨t', ht', -⟩ := (exec_evolves hr.inv.1 hexec).keeps.panelProvisionTasks _ t ht
      exact ⟨t', ht', hpos, (heffect.row ht').maxAttempts ht ▸ hle⟩

theorem Reachable.attempts (h : Reachable settings s) : s.AttemptInv := by
  have hinit : ∀ s : System, Initial s → s.AttemptInv := by
    intro s hs
    rw [hs]
    exact ⟨by simp, by simp, by simp⟩
  have hstep : ∀ s s' : System, Reachable settings s → s.AttemptInv → Step settings s s' →
      s'.AttemptInv := by
    rintro s s' hr hinv ⟨cmd, hcmd⟩
    exact hinv.step hr hcmd
  exact Transition.Reachable.invariant AttemptInv hinit hstep h

/-- The claims of one task have different numbers, none above its bound. -/
theorem Reachable.provisionCalls_le (h : Reachable settings s)
    (ht : s.db.panelProvisionTasks[k]? = some t) : (s.provisionCalls k).length ≤ t.maxAttempts := by
  have hmem : ∀ d ∈ s.provisionCalls k, d ∈ s.panelDispatches ∧ d.prepared.taskId = k ∧
      d.prepared.action = .provision := by
    intro d hd
    simpa [provisionCalls, List.mem_filter] using hd
  have hworkers : List.Sublist ((s.provisionCalls k).map
      fun d => (⟨d.prepared.taskId, d.prepared.attemptNo⟩ : Leases.Worker))
        s.provisionBoard.workers := List.filter_sublist.map _
  have hnodup : ((s.provisionCalls k).map (·.prepared.attemptNo)).Nodup := by
    refine List.Nodup.of_map (fun n => (⟨k, n⟩ : Leases.Worker)) ?_
    rw [List.map_map]
    have heq : (s.provisionCalls k).map ((fun n => (⟨k, n⟩ : Leases.Worker)) ∘
        fun d => d.prepared.attemptNo) = (s.provisionCalls k).map
          (fun d => (⟨d.prepared.taskId, d.prepared.attemptNo⟩ : Leases.Worker)) :=
      List.map_congr_left fun d hd => by rw [(hmem d hd).2.1]; rfl
    rw [heq]
    exact h.provisionBoard.distinct.sublist hworkers
  have hsub : ((s.provisionCalls k).map (·.prepared.attemptNo)).toFinset ⊆
      Finset.Icc 1 t.maxAttempts := by
    intro n hn
    obtain ⟨d, hd, rfl⟩ := List.mem_map.1 (List.mem_toFinset.1 hn)
    obtain ⟨hdisp, htask, haction⟩ := hmem d hd
    obtain ⟨u, hu, hpos, hle⟩ := h.attempts.numbered d hdisp haction
    rw [htask] at hu
    obtain rfl := Option.some.inj (hu.symm.trans ht)
    exact Finset.mem_Icc.2 ⟨hpos, hle⟩
  have hcard := Finset.card_le_card hsub
  rwa [List.toFinset_card_of_nodup hnodup, List.length_map, Nat.card_Icc,
    Nat.add_sub_cancel] at hcard

/-- A worker that has lost its lease writes nothing. -/
theorem lost_lease_writes_nothing (hexec : s.exec settings cmd = some s')
    (hworker : cmd.provisionWorker = some i) (hd : s.panelDispatches[i]? = some d)
    (hlost : ∀ t, s.db.panelProvisionTasks[d.prepared.taskId]? = some t →
      t.ownsLease d.prepared.leaseToken d.prepared.attemptNo = false) : s'.db = s.db := by
  have howns : ∀ {worker : ℕ} {w : PanelDispatch} {u u' : PanelProvisionTask},
      worker = i → s.panelDispatches[worker]? = some w →
      s.db.SetsProvision s'.db w.prepared.taskId u u' →
      u.ownsLease w.prepared.leaseToken w.prepared.attemptNo = true → s'.db = s.db := by
    intro worker w u u' hi hw hsets howns
    subst hi
    obtain rfl := Option.some.inj (hw.symm.trans hd)
    cases (hlost u hsets.row).symm.trans howns
  cases exec_provisionEffect hexec with
  | grows _ idle => cases idle.symm.trans hworker
  | claims => cases hworker
  | passes _ worker w stage next moves acts goesOn same => exact same
  | keeps ambient worker w u u' error moves sets owns =>
    exact howns (Option.some.inj hworker) moves.row sets owns
  | activates ambient worker w u u' c moves sets owns =>
    exact howns (Option.some.inj hworker) moves.row sets owns
  | retries ambient worker errorName w u moves sets owns =>
    exact howns (Option.some.inj hworker) moves.row sets owns
  | compensates ambient worker w u terminal moves sets owns =>
    exact howns (Option.some.inj hworker) moves.row sets owns
  | requires ambient worker errorName w u moves sets owns =>
    exact howns (Option.some.inj hworker) moves.row sets owns
  | recovers => cases hworker

end System

/-! ## Provisions and compensations on the panel -/

namespace PanelNetwork

variable {settings : Settings} {n n₁ n' : PanelNetwork} {event : PanelEvent} {i j k : ℕ}
  {d : PanelDispatch} {t t' : PanelProvisionTask}

theorem exec_system (h : n.exec settings event = some n') :
    (∃ cmd, event = .transaction cmd ∧ n.genuine cmd = true ∧
      n.system.exec settings cmd = some n'.system) ∨ n'.system = n.system := by
  cases event with
  | transaction cmd =>
    simp only [exec, transaction] at h
    split_ifs at h with hguard
    obtain ⟨s, hs, rfl⟩ := Option.map_eq_some_iff.1 h
    exact .inl ⟨cmd, rfl, hguard.1, hs⟩
  | elapse duration =>
    cases h
    exact .inr rfl
  | provision worker | compensate worker | revoke worker =>
    obtain ⟨d, -, h⟩ := Option.bind_eq_some_iff.1 h
    split_ifs at h
    cases h
    exact .inr rfl

theorem reachable_system (h : Transition.Reachable Initial (Step settings) n) :
    System.Reachable settings n.system := by
  refine Transition.Reachable.simulate (·.system) (fun n hn => hn.1) (fun n n' _ hstep => ?_) h
  obtain ⟨event, hevent⟩ := hstep
  rcases exec_system hevent with ⟨cmd, -, -, hcmd⟩ | hsame
  · exact .single ⟨cmd, hcmd⟩
  · rw [hsame]

/-- After `n`, and before worker `i` has claimed anything, the owner of the lease of task `k`
has recorded that its revoke of the client returned. -/
inductive CompensatedBetween (settings : Settings) (n : PanelNetwork) (k i : ℕ)
    (n' : PanelNetwork) : Prop where
  | intro (m m' : PanelNetwork) (ambient : Ambient) (owner : ℕ) (w : PanelDispatch)
      (t : PanelProvisionTask) (after : ReflTransGen (Step settings) n m)
      (returned : owner ∈ m.compensated)
      (worker : m.system.panelDispatches[owner]? = some w) (task : w.prepared.taskId = k)
      (row : m.system.db.panelProvisionTasks[k]? = some t)
      (owns : t.ownsLease w.prepared.leaseToken w.prepared.attemptNo = true)
      (recorded : m.exec settings (.transaction (.recordCompensation ambient owner)) = some m')
      (before : m'.system.panelDispatches.length ≤ i)
      (rest : ReflTransGen (Step settings) m' n') : CompensatedBetween settings n k i n'

theorem CompensatedBetween.later (h : CompensatedBetween settings n k i n₁) (hi : i ≤ j)
    (hrun : ReflTransGen (Step settings) n₁ n') : CompensatedBetween settings n k j n' := by
  obtain ⟨m, m', ambient, owner, w, t, after, returned, worker, task, row, owns, recorded, before,
    rest⟩ := h
  exact ⟨m, m', ambient, owner, w, t, after, returned, worker, task, row, owns, recorded,
    before.trans hi, rest.trans hrun⟩

/-- A required compensation stays required until the owner of the lease has recorded it. -/
theorem required_or_compensated (hn : Transition.Reachable Initial (Step settings) n)
    (hrun : ReflTransGen (Step settings) n n₁) (hstep : n₁.exec settings event = some n')
    (ht : n₁.system.db.panelProvisionTasks[k]? = some t) (hreq : t.compensationRequired = true) :
    (∃ t', n'.system.db.panelProvisionTasks[k]? = some t' ∧ t'.compensationRequired = true) ∨
      CompensatedBetween settings n k n'.system.panelDispatches.length n' := by
  rcases exec_system hstep with ⟨cmd, rfl, hgen, hcmd⟩ | hsame
  · have hr := reachable_system (hn.trans hrun)
    obtain ⟨t', ht', -⟩ := (System.exec_evolves hr.inv.1 hcmd).keeps.panelProvisionTasks k t ht
    cases (System.exec_provisionEffect hcmd).row ht' with
    | kept row => exact .inl ⟨t', ht', Option.some.inj (row.symm.trans ht) ▸ hreq⟩
    | created absent => cases absent.symm.trans ht
    | claimed u ambient leaseExpiresAt row started =>
      obtain rfl := Option.some.inj (row.symm.trans ht)
      obtain ⟨-, -, rfl⟩ := PanelProvisionTask.startAttempt_eq_ok.1 started
      exact .inl ⟨_, ht', hreq⟩
    | marked u now error worker w moves task row owns marked =>
      obtain ⟨-, rfl⟩ := PanelProvisionTask.markCompensationRequired_eq_ok.1 marked
      exact .inl ⟨_, ht', rfl⟩
    | completed u now worker w moves task row owns completed =>
      -- the owner that still provisions has a task of which no compensation is required
      obtain rfl := Option.some.inj (row.symm.trans ht)
      obtain ⟨hs, -, ha⟩ := DurableTask.ownsLease_iff.1 owns
      have hclean := hr.attempts.clean worker w u moves.row moves.stage (task ▸ row) hs ha
      cases hclean.symm.trans hreq
    | retried u now error row result =>
      obtain rfl := Option.some.inj (row.symm.trans ht)
      exact .inl ⟨t', ht', by rw [result]; exact hreq⟩
    | compensated u ambient terminal worker w command claimed task row owns result =>
      subst command
      exact .inr ⟨n₁, n', ambient, worker, w, u, hrun, of_decide_eq_true hgen, claimed, task, row,
        owns, hstep, le_rfl, .refl⟩
    | required u now error row result => exact .inl ⟨t', ht', by rw [result]; rfl⟩
    | recovered u row pending required => exact .inl ⟨t', ht', required⟩
  · exact .inl ⟨t, by rw [hsame, ht], hreq⟩

theorem workers_le (h : n.exec settings event = some n') :
    n.system.panelDispatches.length ≤ n'.system.panelDispatches.length := by
  rcases exec_system h with ⟨cmd, -, -, hcmd⟩ | hsame
  · by_contra hlt
    obtain ⟨d', hd', -⟩ := (System.exec_provisionEffect hcmd).worker
      (List.getElem?_eq_getElem (not_le.1 hlt))
    exact Nat.lt_irrefl _ (List.getElem?_eq_some_iff.1 hd').1
  · rw [hsame]

/-- A task of which a compensation is required is not claimed to provision before that. -/
theorem compensated_before_provision (hn : Transition.Reachable Initial (Step settings) n)
    (ht : n.system.db.panelProvisionTasks[k]? = some t) (hreq : t.compensationRequired = true)
    (hrun : ReflTransGen (Step settings) n n') :
    ((∃ t', n'.system.db.panelProvisionTasks[k]? = some t' ∧ t'.compensationRequired = true) ∨
      CompensatedBetween settings n k n'.system.panelDispatches.length n') ∧
    ∀ (i : ℕ) (d : PanelDispatch), n.system.panelDispatches.length ≤ i →
      n'.system.panelDispatches[i]? = some d → d.prepared.taskId = k →
      d.prepared.action = .provision → CompensatedBetween settings n k i n' := by
  induction hrun with
  | refl =>
    refine ⟨.inl ⟨t, ht, hreq⟩, fun i d hi hd => ?_⟩
    exact absurd (List.getElem?_eq_some_iff.1 hd).1 hi.not_gt
  | @tail n₁ n' hrun hstep ih =>
    obtain ⟨hstate, hcalls⟩ := ih
    have hone := ReflTransGen.single hstep
    obtain ⟨event, hevent⟩ := hstep
    refine ⟨?_, fun i d hi hd htask haction => ?_⟩
    · rcases hstate with ⟨t₁, ht₁, hreq₁⟩ | hdone
      · exact required_or_compensated hn hrun hevent ht₁ hreq₁
      · exact .inr (hdone.later (workers_le hevent) hone)
    · rcases exec_system hevent with ⟨cmd, -, -, hcmd⟩ | hsame
      · have heffect := System.exec_provisionEffect hcmd
        cases hd₁ : n₁.system.panelDispatches[i]? with
        | some d₁ =>
          obtain ⟨e, he, hprep, -⟩ := heffect.worker hd₁
          obtain rfl := Option.some.inj (he.symm.trans hd)
          rw [hprep] at htask haction
          exact (hcalls i d₁ hi hd₁ htask haction).later le_rfl hone
        | none =>
          have hnew := List.getElem?_eq_none_iff.1 hd₁
          obtain ⟨u, u', hclaim⟩ := heffect.new_claim hnew hd
          rcases hstate with ⟨t₁, ht₁, hreq₁⟩ | hdone
          · have hbefore := hclaim.before
            rw [htask] at hbefore
            obtain rfl := Option.some.inj (hbefore.symm.trans ht₁)
            have hother := hclaim.action
            rw [if_pos hreq₁] at hother
            cases hother.symm.trans haction
          · exact hdone.later hnew hone
      · rw [hsame] at hd
        exact (hcalls i d hi hd htask haction).later le_rfl hone

/-- A task is called to be provisioned at most as often as it may be attempted; an attempt that
was marked, or whose lease was taken back, is compensated before the next such call; and a
worker that has lost its lease writes nothing. -/
theorem panel_provision_protocol (hn : Transition.Reachable Initial (Step settings) n) :
    (∀ (k : ℕ) (t : PanelProvisionTask), n.system.db.panelProvisionTasks[k]? = some t →
      (n.system.provisionCalls k).length ≤ t.maxAttempts) ∧
    (∀ (ambient : Ambient) (locked : List ℕ) (limit : ℕ) (s' : System) (k : ℕ)
      (t' : PanelProvisionTask),
      n.system.exec settings (.recoverPanelProvisions ambient locked limit) = some s' →
      s'.db.panelProvisionTasks[k]? = some t' →
      n.system.db.panelProvisionTasks[k]? = some t' ∨ t'.compensationRequired = true) ∧
    (∀ (k : ℕ) (t : PanelProvisionTask) (n' : PanelNetwork) (i : ℕ) (d : PanelDispatch),
      n.system.db.panelProvisionTasks[k]? = some t → t.compensationRequired = true →
      ReflTransGen (Step settings) n n' → n.system.panelDispatches.length ≤ i →
      n'.system.panelDispatches[i]? = some d → d.prepared.taskId = k →
      d.prepared.action = .provision → CompensatedBetween settings n k i n') ∧
    ∀ (cmd : Command) (s' : System) (i : ℕ) (d : PanelDispatch),
      n.system.exec settings cmd = some s' → cmd.provisionWorker = some i →
      n.system.panelDispatches[i]? = some d →
      (∀ t, n.system.db.panelProvisionTasks[d.prepared.taskId]? = some t →
        t.ownsLease d.prepared.leaseToken d.prepared.attemptNo = false) →
      s'.db = n.system.db := by
  refine ⟨fun k t => (reachable_system hn).provisionCalls_le, fun ambient locked limit s' k t' hexec ht' => ?_,
    fun k t n' i d ht hreq hrun => (compensated_before_provision hn ht hreq hrun).2 i d,
    fun cmd s' i d => System.lost_lease_writes_nothing⟩
  obtain ⟨db, hr, rfl⟩ := Option.map_eq_some_iff.1 hexec
  have hrows := (System.recoverAll_recovers (System.toOption_eq_some hr)).1
  exact (hrows.row ht').imp_right fun ⟨t, _, _, hreq, _⟩ => hreq

/-- The shop whose only endpoint is a panel. -/
def panel : PanelNetwork where
  system := shop panelEndpoint

/-- The first worker crashes after the panel has provisioned, and its lease is taken back. -/
def crashedProvision : List PanelEvent :=
  purchase.map .transaction ++ [
    .transaction (.provisionVpn { now := 0, clientUuid := 100, taskUuid := 1 } 0),
    .transaction (.preparePanel { now := 0, leaseToken := 5 } 0), .provision 0, .elapse 61000000,
    .transaction (.recoverPanelProvisions { now := seconds 61 } [] 10)]

/-- The second worker compensates, and the third one provisions again. -/
def compensatedProvision : List PanelEvent := [
  .transaction (.preparePanel { now := seconds 61, leaseToken := 6 } 0), .compensate 1,
  .transaction (.recordCompensation { now := seconds 61 } 1),
  .transaction (.preparePanel { now := seconds 61, leaseToken := 7 } 0)]

theorem panel_initial : panel.Initial := ⟨rfl, le_rfl, rfl⟩

theorem panel_provision_protocol_crashed : ∃ n n',
    Transition.Reachable Initial (Step shopSettings) n ∧
    CompensatedBetween shopSettings n 0 2 n' ∧ (n'.system.provisionCalls 0).length = 2 := by
  obtain ⟨n, hn, hcond⟩ := (Option.any_eq_true _ _).1
    (show (Transition.execAll (exec shopSettings) panel crashedProvision).any (fun n =>
      (n.system.db.panelProvisionTasks[0]?).any (·.compensationRequired) &&
      (Transition.execAll (exec shopSettings) n compensatedProvision).any fun n' =>
        (n'.system.panelDispatches[2]?).any fun d => n.system.panelDispatches.length ≤ 2 ∧
          (n'.system.provisionCalls 0).length = 2 ∧ d.prepared.taskId = 0 ∧
          d.prepared.action = .provision) = true by decide +kernel)
  obtain ⟨hreq, hcond⟩ := Bool.and_eq_true_iff.1 hcond
  obtain ⟨t, ht, hreq⟩ := (Option.any_eq_true _ _).1 hreq
  obtain ⟨n', hn', hcond⟩ := (Option.any_eq_true _ _).1 hcond
  obtain ⟨d, hd, hcond⟩ := (Option.any_eq_true _ _).1 hcond
  obtain ⟨hlength, hcalls, htask, haction⟩ := of_decide_eq_true hcond
  have hr := Transition.Reachable.of_execAll panel_initial hn
  exact ⟨n, n', hr, (panel_provision_protocol hr).2.2.1 0 t n' 2 d ht hreq
    (Transition.execAll_run hn') hlength hd htask haction, hcalls⟩

end PanelNetwork

end ShopBot
