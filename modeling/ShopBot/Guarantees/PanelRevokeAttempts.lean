import ShopBot.Guarantees.PanelCalls

/-! # The attempts of panel revokes

A claim counts as an attempt, and a failed call gives up after the last one. The recovery of
an expired lease does not count: it returns the task to the queue, also after its last
attempt.
-/

namespace ShopBot

open Lifecycle Database

/-! ## What a transaction does to one task -/

theorem DispatchPanelRevokeTask.recoverAll_length {ambient : Ambient} {db db' : Database}
    {ids : List ℕ} (h : recoverAll ambient db ids = .ok db') :
    db'.panelRevokeTasks.length = db.panelRevokeTasks.length := by
  induction ids generalizing db with
  | nil =>
    cases h
    rfl
  | cons j rest ih =>
    obtain ⟨db₁, h₁, h₂⟩ := bind_eq_ok.1 h
    rcases recoverOne_rows h₁ with rfl | ⟨u, u', hsets, -⟩
    · exact ih h₂
    · rw [ih h₂, hsets.rows, List.length_set]

theorem DispatchPanelRevokeTask.recoverAll_row {ambient : Ambient} {db db' : Database}
    {ids : List ℕ} {k : ℕ} {t : PanelRevokeTask} (h : recoverAll ambient db ids = .ok db')
    (ht : db.panelRevokeTasks[k]? = some t) : db'.panelRevokeTasks[k]? = some t ∨
      (k ∈ ids ∧ ∃ t', db'.panelRevokeTasks[k]? = some t' ∧
        t.recoverExpiredLease ambient.now "panel revoke lease expired" = .ok t') := by
  induction ids generalizing db t with
  | nil =>
    cases h
    exact .inl ht
  | cons j rest ih =>
    obtain ⟨db₁, h₁, h₂⟩ := bind_eq_ok.1 h
    rcases recoverOne_rows h₁ with rfl | ⟨u, u', hsets, hu'⟩
    · exact (ih h₂ ht).imp_right fun ⟨hk, ht'⟩ => ⟨List.mem_cons_of_mem _ hk, ht'⟩
    · by_cases hj : j = k
      · subst hj
        obtain rfl := Option.some.inj (ht.symm.trans hsets.row)
        have hrow : db₁.panelRevokeTasks[j]? = some u' := by
          rw [hsets.rows, List.getElem?_set_self (List.getElem?_eq_some_iff.1 ht).1]
        rcases ih h₂ hrow with hrow' | ⟨-, t', -, ht'⟩
        · exact .inr ⟨List.mem_cons_self, u', hrow', hu'⟩
        · -- a recovered task is pending, so no second recovery of it commits
          obtain ⟨-, rfl⟩ := PanelRevokeTask.recoverExpiredLease_eq_ok.1 hu'
          obtain ⟨hexp, -⟩ := PanelRevokeTask.recoverExpiredLease_eq_ok.1 ht'
          cases (DurableTask.leaseIsExpired_iff.1 hexp).1
      · have hrow : db₁.panelRevokeTasks[k]? = some t := by
          rw [hsets.rows, List.getElem?_set_ne hj, ht]
        exact (ih h₂ hrow).imp_right fun ⟨hk, ht'⟩ => ⟨List.mem_cons_of_mem _ hk, ht'⟩

namespace System

/-- How the row `t'` of revoke task `k` has come about in a command. -/
inductive RevokeRow (settings : Settings) (s : System) (cmd : Command) (k : ℕ)
    (t' : PanelRevokeTask) : Prop where
  | kept (row : s.db.panelRevokeTasks[k]? = some t')

  | created (absent : s.db.panelRevokeTasks[k]? = none) (fresh : t'.Fresh)

  | claimed (t : PanelRevokeTask) (ambient : Ambient) (leaseExpiresAt : DateTime)
      (row : s.db.panelRevokeTasks[k]? = some t)
      (started : t.startAttempt ambient.now leaseExpiresAt ambient.leaseToken = .ok t')

  | completed (t : PanelRevokeTask) (now : DateTime) (row : s.db.panelRevokeTasks[k]? = some t)
      (completed : t.complete now = .ok t')

  | retried (t : PanelRevokeTask) (ambient : Ambient) (worker : ℕ) (errorName : String)
      (w : PanelRevokeDispatch) (command : cmd = .failPanelRevoke ambient worker errorName)
      (claimed : s.panelRevokeDispatches[worker]? = some w) (task : w.prepared.taskId = k)
      (row : s.db.panelRevokeTasks[k]? = some t)
      (owns : t.ownsLease w.prepared.leaseToken w.prepared.attemptNo = true)
      (result : t' = t.retry ambient.now s!"panel revoke failed: {errorName}"
        settings.panelRetryBaseSeconds)

  | recovered (t : PanelRevokeTask) (ambient : Ambient) (locked : List ℕ) (limit : ℕ)
      (command : cmd = .recoverPanelRevokes ambient locked limit)
      (picked : k ∈ staleIds (s.db.panelRevokeTasks.map (·.toDurableTask)) ambient.now locked limit)
      (row : s.db.panelRevokeTasks[k]? = some t)
      (recovered : t.recoverExpiredLease ambient.now "panel revoke lease expired" = .ok t')

variable {settings : Settings} {s s' : System} {cmd : Command} {k : ℕ} {t t' : PanelRevokeTask}

theorem exec_revokeRow (h : s.exec settings cmd = some s')
    (ht' : s'.db.panelRevokeTasks[k]? = some t') : RevokeRow settings s cmd k t' := by
  have hset : ∀ {j : ℕ} {u u' : PanelRevokeTask}, s.db.SetsRevoke s'.db j u u' →
      s.db.panelRevokeTasks[k]? = some t' ∨ (j = k ∧ u' = t') := by
    intro j u u' hsets
    rw [hsets.rows] at ht'
    rcases rows_set hsets.row ht' with ⟨rfl, rfl⟩ | ⟨-, hrow⟩
    · exact .inr ⟨rfl, rfl⟩
    · exact .inl hrow
  cases exec_revokeEffect h with
  | grows _ rows workers =>
    cases hrow : s.db.panelRevokeTasks[k]? with
    | none =>
      rcases Grown.cases rows ht' with hold | hnew
      · exact .kept hold
      · exact .created hrow hnew
    | some t =>
      obtain ⟨added, hadded, -⟩ := rows
      rw [hadded, List.getElem?_append_left (List.getElem?_eq_some_iff.1 hrow).1] at ht'
      exact .kept ht'
  | passes _ worker w row unfinished workers rows =>
    rw [rows] at ht'
    exact .kept ht'
  | claims ambient j u u' p sets started =>
    rcases hset sets with hrow | ⟨rfl, rfl⟩
    · exact .kept hrow
    · exact .claimed u ambient _ sets.row started
  | completes ambient worker w u u' row unfinished workers sets owns completed =>
    rcases hset sets with hrow | ⟨rfl, rfl⟩
    · exact .kept hrow
    · exact .completed u ambient.now sets.row completed
  | retries ambient worker errorName w u row unfinished workers sets owns =>
    rcases hset sets with hrow | ⟨rfl, rfl⟩
    · exact .kept hrow
    · exact .retried u ambient worker errorName w rfl row rfl sets.row owns rfl
  | recovers ambient locked limit rows workers =>
    obtain ⟨db, hr, rfl⟩ := Option.map_eq_some_iff.1 h
    have hlt : k < s.db.panelRevokeTasks.length := by
      rw [← DispatchPanelRevokeTask.recoverAll_length (toOption_eq_some hr)]
      exact (List.getElem?_eq_some_iff.1 ht').1
    have hrow := List.getElem?_eq_getElem hlt
    rcases DispatchPanelRevokeTask.recoverAll_row (toOption_eq_some hr) hrow with
      hsame | ⟨hk, u', hu', hrec⟩
    · obtain rfl := Option.some.inj (hsame.symm.trans ht')
      exact .kept hrow
    · obtain rfl := Option.some.inj (hu'.symm.trans ht')
      exact .recovered _ ambient locked limit rfl hk hrow hrec

/-! ## Runs -/

/-- The recovery takes back the lease of a task that has no attempt left. -/
def RecoversLastRevoke (s : System) : Command → Prop
  | .recoverPanelRevokes ambient locked limit =>
    ∃ k ∈ staleIds (s.db.panelRevokeTasks.map (·.toDurableTask)) ambient.now locked limit,
      (s.db.panelRevokeTasks[k]?).any (fun t => t.maxAttempts ≤ t.attempts) = true
  | _ => False

/-- The revoke tasks whose lease a command takes back. -/
def recoveredRevokes (s : System) : Command → List ℕ
  | .recoverPanelRevokes ambient locked limit =>
    staleIds (s.db.panelRevokeTasks.map (·.toDurableTask)) ambient.now locked limit
  | _ => []

instance (s : System) (cmd : Command) : Decidable (RecoversLastRevoke s cmd) :=
  decidable_of_iff (∃ k ∈ recoveredRevokes s cmd,
      (s.db.panelRevokeTasks[k]?).any (fun t => t.maxAttempts ≤ t.attempts) = true) <| by
    cases cmd <;> simp [recoveredRevokes, RecoversLastRevoke]

/-- A transaction that takes back no lease of a last attempt. -/
def CountedStep (settings : Settings) (s s' : System) : Prop :=
  ∃ cmd, s.exec settings cmd = some s' ∧ ¬ RecoversLastRevoke s cmd

/-- A task that can be claimed has an attempt left. -/
structure Counted (t : PanelRevokeTask) : Prop where
  attempts : t.attempts ≤ t.maxAttempts
  pending : t.status = .pending → t.attempts < t.maxAttempts
  kept : t.status ≠ .cancelled

theorem RevokeRow.counted (h : RevokeRow settings s cmd k t')
    (hcmd : ¬ RecoversLastRevoke s cmd) (hinv : ∀ t ∈ s.db.panelRevokeTasks, Counted t) :
    Counted t' := by
  cases h with
  | kept row => exact hinv t' (List.mem_of_getElem? row)
  | created absent fresh =>
    obtain ⟨hs, ha, -⟩ := fresh
    refine ⟨by omega, fun _ => ?_, by simp [hs]⟩
    rw [ha]
    exact t'.maxAttempts_pos
  | claimed t ambient leaseExpiresAt row started =>
    obtain ⟨hd, -, rfl⟩ := PanelRevokeTask.startAttempt_eq_ok.1 started
    have hlt := (hinv t (List.mem_of_getElem? row)).pending (DurableTask.canDispatch_status hd)
    exact ⟨hlt, by simp, by simp⟩
  | completed t now row completed =>
    obtain ⟨-, rfl⟩ := PanelRevokeTask.complete_eq_ok.1 completed
    exact ⟨(hinv t (List.mem_of_getElem? row)).attempts, by simp, by simp⟩
  | retried t ambient worker errorName w command claimed task row owns result =>
    have hle := (hinv t (List.mem_of_getElem? row)).attempts
    rw [result]
    unfold PanelRevokeTask.retry DurableTask.retry
    split_ifs with hlast
    · exact ⟨hle, by simp, by simp⟩
    · exact ⟨hle, fun _ => not_le.1 hlast, by simp⟩
  | recovered t ambient locked limit command picked row recovered =>
    obtain ⟨-, rfl⟩ := PanelRevokeTask.recoverExpiredLease_eq_ok.1 recovered
    have hleft : t.attempts < t.maxAttempts := by
      by_contra hlast
      refine hcmd ?_
      rw [command]
      refine ⟨k, picked, ?_⟩
      rw [row]
      exact decide_eq_true (not_lt.1 hlast)
    exact ⟨hleft.le, fun _ => hleft, by simp⟩

theorem counted_run (h : Transition.Reachable Initial (CountedStep settings) s) :
    ∀ t ∈ s.db.panelRevokeTasks, Counted t := by
  have hinit : ∀ s : System, Initial s → ∀ t ∈ s.db.panelRevokeTasks, Counted t := by
    intro s hs t ht
    rw [hs] at ht
    cases ht
  have hstep : ∀ s s' : System, Transition.Reachable Initial (CountedStep settings) s →
      (∀ t ∈ s.db.panelRevokeTasks, Counted t) → CountedStep settings s s' →
      ∀ t ∈ s'.db.panelRevokeTasks, Counted t := by
    rintro s s' - hinv ⟨cmd, hcmd, hcounted⟩ t' ht'
    obtain ⟨k, hk⟩ := List.mem_iff_getElem?.1 ht'
    exact (exec_revokeRow hcmd hk).counted hcounted hinv
  exact Transition.Reachable.invariant (fun s : System => ∀ t ∈ s.db.panelRevokeTasks, Counted t)
    hinit hstep h

theorem reachable_of_counted (h : Transition.Reachable Initial (CountedStep settings) s) :
    Reachable settings s := by
  obtain ⟨s₀, h₀, hr⟩ := h
  exact ⟨s₀, h₀, Relation.ReflTransGen.mono (fun _ _ ⟨cmd, hcmd, _⟩ => ⟨cmd, hcmd⟩) _ _ hr⟩

/-- A revoke that has ended is not what its generation is being revoked by. -/
theorem Reachable.not_revoking_of_ended {c : VpnConfiguration} (h : Reachable settings s)
    (ht : s.db.panelRevokeTasks[k]? = some t) (hended : t.status.isOpen = false)
    (hc : s.db.vpnConfigurations[t.vpnConfigurationId]? = some c)
    (hg : c.generation = t.vpnGeneration) : c.status ≠ .revoking := by
  intro hs
  obtain ⟨c₀, e, hat⟩ := h.inv.1.panelRevokeTask ht
  obtain rfl := Option.some.inj (hat.configuration.symm.trans hc)
  have hst := (h.inv.2.each _ _ (fleet_of_row hat.configuration hat.endpoint)).status
  simp only [Aggregate.StatusInv, aggregateOf, hs] at hst
  have hopen := hst.2.1 _ _ hat.task rfl hg.symm
  exact Bool.false_ne_true (hended.symm.trans hopen)

/-- The failure of the last attempt fails the configuration that is still being revoked. -/
theorem RevokeRow.fails {c : VpnConfiguration} (h : RevokeRow settings s cmd k t')
    (hcmd : ¬ RecoversLastRevoke s cmd) (hr : Reachable settings s)
    (hexec : s.exec settings cmd = some s') (ht : s.db.panelRevokeTasks[k]? = some t)
    (hs : t.status = .inProgress) (hlast : t.maxAttempts ≤ t.attempts)
    (hended : t'.status ≠ .inProgress) (hfailed : t'.status ≠ .succeeded)
    (hc : s.db.vpnConfigurations[t.vpnConfigurationId]? = some c)
    (hrev : c.status = .revoking) (hg : c.generation = t.vpnGeneration) :
    t'.status = .failed ∧ ∃ c', s'.db.vpnConfigurations[t.vpnConfigurationId]? = some c' ∧
      c'.status = .revokeFailed := by
  cases h with
  | kept row =>
    obtain rfl := Option.some.inj (ht.symm.trans row)
    exact absurd hs hended
  | created absent => cases absent.symm.trans ht
  | claimed u ambient leaseExpiresAt row started =>
    obtain ⟨-, -, rfl⟩ := PanelRevokeTask.startAttempt_eq_ok.1 started
    exact absurd rfl hended
  | completed u now row completed =>
    obtain ⟨-, rfl⟩ := PanelRevokeTask.complete_eq_ok.1 completed
    exact absurd rfl hfailed
  | recovered u ambient locked limit command picked row recovered =>
    obtain rfl := Option.some.inj (ht.symm.trans row)
    refine absurd ?_ hcmd
    rw [command]
    refine ⟨k, picked, ?_⟩
    rw [row]
    exact decide_eq_true hlast
  | retried u ambient worker errorName w command claimed task row owns result =>
    obtain rfl := Option.some.inj (ht.symm.trans row)
    subst command task
    have hretry : t' = { t with
        toDurableTask := t.fail ambient.now s!"panel revoke failed: {errorName}" } := by
      rw [result]
      unfold PanelRevokeTask.retry DurableTask.retry
      rw [if_pos hlast]
    have hd : c.desiredState = .revoked := by
      obtain ⟨e, -, ha⟩ := hr.inv.1.row hc
      have hst := (hr.inv.2.each _ _ ha).status
      simp only [Aggregate.StatusInv, aggregateOf, hrev] at hst
      exact hst.1
    simp only [exec] at hexec
    obtain ⟨w', status, hw', -, hf, -⟩ := panelRevokeTransaction_eq_some hexec
    obtain rfl := Option.some.inj (claimed.symm.trans hw')
    unfold DispatchPanelRevokeTask.finalizeFailure at hf
    rw [show s.db.getPanelRevokeTask w.prepared.taskId = some t from ht] at hf
    dsimp only at hf
    rw [if_pos owns, ← result] at hf
    have hstatus : t'.status = .failed := by rw [hretry]; rfl
    have hid : t'.vpnConfigurationId = t.vpnConfigurationId := by rw [hretry]
    have hgen : t'.vpnGeneration = t.vpnGeneration := by rw [hretry]
    rw [if_pos hstatus, hid, hgen] at hf
    have hcurrent : DispatchPanelRevokeTask.isCurrentRevoke t.vpnGeneration c = true := by
      simp [DispatchPanelRevokeTask.isCurrentRevoke, hg, hd, hrev]
    have hget : (s.db.savePanelRevokeTask w.prepared.taskId t').getConfiguration
        t.vpnConfigurationId = some c := hc
    rw [hget] at hf
    dsimp only at hf
    rw [if_pos hcurrent] at hf
    obtain ⟨c', hc', hf⟩ := bind_eq_ok.1 hf
    obtain ⟨-, rfl⟩ := VpnConfiguration.failRevoke_eq_ok.1 hc'
    obtain ⟨-, hdb⟩ := Prod.mk.inj (Except.ok.inj hf)
    refine ⟨hstatus, { c with status := .revokeFailed }, ?_, rfl⟩
    rw [← hdb]
    exact (congrFun (Table.getElem?_set hc) _).trans (Function.update_self ..)

/-- In a run that takes back no lease of a last attempt, attempts stay within their bound, and
the end of the last one without a success fails the task and the configuration. -/
theorem revoke_attempts_bounded (h : Transition.Reachable Initial (CountedStep settings) s) :
    (∀ t ∈ s.db.panelRevokeTasks, t.attempts ≤ t.maxAttempts ∧
      (t.attempts = t.maxAttempts → t.status ≠ .inProgress → t.status ≠ .succeeded →
        t.status = .failed ∧ ∀ c, s.db.vpnConfigurations[t.vpnConfigurationId]? = some c →
          c.generation = t.vpnGeneration → c.status ≠ .revoking)) ∧
    ∀ (cmd : Command) (s' : System) (k : ℕ) (t t' : PanelRevokeTask) (c : VpnConfiguration),
      s.exec settings cmd = some s' → ¬ RecoversLastRevoke s cmd →
      s.db.panelRevokeTasks[k]? = some t → s'.db.panelRevokeTasks[k]? = some t' →
      t.status = .inProgress → t.attempts = t.maxAttempts →
      t'.status ≠ .inProgress → t'.status ≠ .succeeded →
      s.db.vpnConfigurations[t.vpnConfigurationId]? = some c →
      c.status = .revoking → c.generation = t.vpnGeneration →
      t'.status = .failed ∧ ∃ c', s'.db.vpnConfigurations[t.vpnConfigurationId]? = some c' ∧
        c'.status = .revokeFailed := by
  have hr := reachable_of_counted h
  refine ⟨fun t ht => ?_, fun cmd s' k t t' c hexec hcmd ht ht' hs hlast hended hfailed hc hrev hg =>
    (exec_revokeRow hexec ht').fails hcmd hr hexec ht hs hlast.ge hended hfailed hc hrev hg⟩
  have hcounted := counted_run h t ht
  refine ⟨hcounted.attempts, fun hlast hrun hsucc => ?_⟩
  have hstatus : t.status = .failed := by
    cases hst : t.status with
    | pending => exact absurd hlast (hcounted.pending hst).ne
    | inProgress => exact absurd hst hrun
    | succeeded => exact absurd hst hsucc
    | failed => rfl
    | cancelled => exact absurd hst hcounted.kept
  obtain ⟨k, hk⟩ := List.mem_iff_getElem?.1 ht
  exact ⟨hstatus, fun c hc hg => hr.not_revoking_of_ended hk (by rw [hstatus]; rfl) hc hg⟩

/-! ## Attempts that fail, and workers that crash -/

/-- The client of a panel is revoked before it has been provisioned. -/
def revokedOnPanel : List Command :=
  purchase ++ [.provisionVpn { now := 0, clientUuid := 100, taskUuid := 1 } 0,
    .revokeVpn { now := 1, taskUuid := 2 } 0 .force]

/-- The panel fails attempt `n`, which starts after `n` times 400 seconds. -/
def failedAttempt (n : ℕ) : List Command :=
  [.preparePanelRevoke { now := seconds (400 * n), leaseToken := n } 0,
    .failPanelRevoke { now := seconds (400 * n + 1) } (n - 1) "ReadTimeout"]

/-- The worker of attempt `n` crashes, and its lease is taken back. -/
def crashedAttempt (n : ℕ) : List Command :=
  [.preparePanelRevoke { now := seconds (400 * n), leaseToken := n } 0,
    .recoverPanelRevokes { now := seconds (400 * n + 60) } [] 10]

theorem counted_of_execAll {cmds : List Command} (h₀ : s.Initial)
    (h : Transition.execAll (fun s cmd => if RecoversLastRevoke s cmd then none
      else s.exec settings cmd) s cmds = some s') :
    Transition.Reachable Initial (CountedStep settings) s' := by
  refine ⟨s, h₀, Relation.ReflTransGen.mono ?_ _ _ (Transition.execAll_run h)⟩
  rintro t t' ⟨cmd, hcmd⟩
  dsimp only at hcmd
  split_ifs at hcmd with hlast
  exact ⟨cmd, hcmd, hlast⟩

theorem revoke_attempts_bounded_failures : ∃ s t c,
    Transition.Reachable Initial (CountedStep shopSettings) s ∧ t ∈ s.db.panelRevokeTasks ∧
    t.attempts = 5 ∧ t.status = .failed ∧
    s.db.vpnConfigurations[t.vpnConfigurationId]? = some c ∧ c.status ≠ .revoking := by
  obtain ⟨s, hs, hcond⟩ := (Option.any_eq_true _ _).1
    (show (Transition.execAll (fun s cmd => if RecoversLastRevoke s cmd then none
      else s.exec shopSettings cmd) (shop panelEndpoint)
        (revokedOnPanel ++ (List.range' 1 5).flatMap failedAttempt)).any (fun s =>
      (s.db.panelRevokeTasks[0]?).any fun t => t.attempts = 5 ∧ t.maxAttempts = 5 ∧
        t.status ≠ .inProgress ∧ t.status ≠ .succeeded ∧
        (s.db.vpnConfigurations[t.vpnConfigurationId]?).any fun c =>
          c.generation = t.vpnGeneration) = true by decide +kernel)
  obtain ⟨t, ht, hcond⟩ := (Option.any_eq_true _ _).1 hcond
  obtain ⟨ha, hm, hrun, hsucc, hcond⟩ := of_decide_eq_true hcond
  obtain ⟨c, hc, hg⟩ := (Option.any_eq_true _ _).1 hcond
  have hr := counted_of_execAll (shop_initial _) hs
  have hmem := List.mem_of_getElem? ht
  obtain ⟨hfailed, hconf⟩ :=
    ((revoke_attempts_bounded hr).1 t hmem).2 (ha.trans hm.symm) hrun hsucc
  exact ⟨s, t, c, hr, hmem, ha, hfailed, hc, hconf c hc (of_decide_eq_true hg)⟩

/-- Workers that crash attempt a revoke more often than it may be attempted, and after the last
of its attempts the task is pending again. -/
theorem revoke_attempts_exceeded : ∃ s s' t t', Reachable shopSettings s ∧
    Relation.ReflTransGen (Step shopSettings) s s' ∧
    s.db.panelRevokeTasks[0]? = some t ∧ t.attempts = t.maxAttempts ∧ t.status = .pending ∧
    s'.db.panelRevokeTasks[0]? = some t' ∧ t'.maxAttempts < t'.attempts := by
  obtain ⟨s, hs, hcond⟩ := (Option.any_eq_true _ _).1
    (show (Transition.execAll (exec shopSettings) (shop panelEndpoint)
        (revokedOnPanel ++ (List.range' 1 5).flatMap crashedAttempt)).any (fun s =>
      (s.db.panelRevokeTasks[0]?).any (fun t => t.attempts = t.maxAttempts ∧
        t.status = .pending) &&
      (Transition.execAll (exec shopSettings) s (crashedAttempt 6)).any fun s' =>
        (s'.db.panelRevokeTasks[0]?).any fun t' => t'.maxAttempts < t'.attempts) = true by
      decide +kernel)
  obtain ⟨hbefore, hafter⟩ := Bool.and_eq_true_iff.1 hcond
  obtain ⟨t, ht, hcond⟩ := (Option.any_eq_true _ _).1 hbefore
  obtain ⟨ha, hst⟩ := of_decide_eq_true hcond
  obtain ⟨s', hs', hcond⟩ := (Option.any_eq_true _ _).1 hafter
  obtain ⟨t', ht', hcond⟩ := (Option.any_eq_true _ _).1 hcond
  exact ⟨s, s', t, t', Transition.Reachable.of_execAll (shop_initial _) hs,
    Transition.execAll_run hs', ht, ha, hst, ht', of_decide_eq_true hcond⟩

end System

end ShopBot
