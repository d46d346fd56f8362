import ShopBot.Refinement.PanelWorkers

/-! # Panel tasks as leased work

Seen from the claims of its tasks, each panel ledger is a board of leased work, and every
command is a run of it: a worker that has lost its claim never holds the task again.
-/

namespace ShopBot

open Database Relation

namespace System

variable {settings : Settings} {s s' : System} {cmd : Command}

/-- The provision tasks with their claims. -/
def provisionBoard (s : System) : Leases.Board (Option DateTime) where
  items := s.db.panelProvisionTasks.map (·.toDurableTask.item)
  workers := s.panelDispatches.map fun d => ⟨d.prepared.taskId, d.prepared.attemptNo⟩

/-- The revoke tasks with their claims. -/
def revokeBoard (s : System) : Leases.Board (Option DateTime) where
  items := s.db.panelRevokeTasks.map (·.toDurableTask.item)
  workers := s.panelRevokeDispatches.map fun d => ⟨d.prepared.taskId, d.prepared.attemptNo⟩

/-- A lease starts at the clock of its command, is released by a worker that finishes, and
expires when its end has come. -/
def leaseCauses (settings : Settings) (now : DateTime) (finished : ℕ → Prop) :
    Leases.Cause (Option DateTime) → Prop
  | .add => True
  | .claim terms => terms = some (now + seconds settings.panelLeaseSeconds)
  | .release i => finished i
  | .expire terms => ∃ deadline, terms = some deadline ∧ deadline ≤ now

/-- The provision worker has no transaction left. -/
def ProvisionFinished (s : System) (i : ℕ) : Prop :=
  ∃ d, s.panelDispatches[i]? = some d ∧ d.stage = .finished

def RevokeFinished (s : System) (i : ℕ) : Prop :=
  ∃ d, s.panelRevokeDispatches[i]? = some d ∧ d.finished = true

section Items

variable {t t' : DurableTask} {now lease : DateTime}

theorem item_of_fresh (h : t.Fresh) : t.item = {} := by
  simp [DurableTask.item, h.1, h.2.1]

theorem item_of_owned {token : Uuid} {n : ℕ} (h : t.ownsLease token n = true) :
    t.item = { claims := n, terms := some t.leaseExpiresAt } := by
  obtain ⟨hs, -, hn⟩ := DurableTask.ownsLease_iff.1 h
  simp [DurableTask.item, hs, hn]

theorem item_of_released (hs : t'.status ≠ .inProgress) (ha : t'.attempts = t.attempts) :
    t'.item = { t.item with terms := none } := by
  simp [DurableTask.item, hs, ha]

theorem retry_ended {error : String} {base : ℤ} :
    (t.retry now error base).status ≠ .inProgress := by
  rw [DurableTask.retry_status]
  split_ifs <;> simp

end Items

variable {causes : Leases.Cause (Option DateTime) → Prop} {α : Type} {f : α → DurableTask}
  {workers : List Leases.Worker}

/-- Adding tasks that are new. -/
theorem grown_run {new : α → Prop} {rows rows' : List α} (h : Grown new rows rows')
    (hnew : ∀ t, new t → (f t).Fresh) (hadd : causes .add) :
    Leases.Board.Run causes ⟨rows.map fun t => (f t).item, workers⟩
      ⟨rows'.map fun t => (f t).item, workers⟩ := by
  obtain ⟨added, rfl, hall⟩ := h
  induction added generalizing rows with
  | nil =>
    rw [List.append_nil]
    exact .refl
  | cons t rest ih =>
    have hrest : Leases.Board.Run causes ⟨(rows ++ [t]).map fun t => (f t).item, workers⟩
        ⟨(rows ++ [t] ++ rest).map fun t => (f t).item, workers⟩ :=
      ih fun u hu => hall u (List.mem_cons_of_mem _ hu)
    rw [List.append_assoc, List.singleton_append] at hrest
    refine .head ⟨.add, hadd, ?_⟩ hrest
    have hstep : Leases.Board.Step ⟨rows.map fun t => (f t).item, workers⟩ .add _ := .add
    dsimp only at hstep
    rwa [List.map_append, List.map_singleton, item_of_fresh (hnew t (hall t (by simp)))]

/-- The holder of a task ends its claim. -/
theorem released_run {rows : List α} {t t' : α} {i k n : ℕ} {token : Uuid}
    (hrow : rows[k]? = some t) (hworker : workers[i]? = some ⟨k, n⟩)
    (howns : (f t).ownsLease token n = true) (hended : (f t').status ≠ .inProgress)
    (ha : (f t').attempts = (f t).attempts) (hcause : causes (.release i)) :
    Leases.Board.Run causes ⟨rows.map fun t => (f t).item, workers⟩
      ⟨(rows.set k t').map fun t => (f t).item, workers⟩ := by
  refine .single ⟨.release i, hcause, ?_⟩
  have hitem : (rows.map fun t => (f t).item)[k]? = some (f t).item := by
    rw [List.getElem?_map, hrow, Option.map_some]
  have hnumber : (f t).item.claims = n := by rw [item_of_owned howns]
  have hstep : Leases.Board.Step ⟨rows.map fun t => (f t).item, workers⟩ (.release i) _ :=
    .release i ⟨k, n⟩ _ hworker hitem hnumber
  dsimp only at hstep
  rwa [List.map_set, item_of_released hended ha]

/-- A worker claims a task that is pending. -/
theorem claimed_run {rows : List α} {t t' : α} {k n : ℕ} {terms : Option DateTime}
    (hrow : rows[k]? = some t) (hpending : (f t).status = .pending)
    (hitem : (f t').item = { claims := (f t).attempts + 1, terms := some terms })
    (hn : n = (f t).attempts + 1) (hcause : causes (.claim terms)) :
    Leases.Board.Run causes ⟨rows.map fun t => (f t).item, workers⟩
      ⟨(rows.set k t').map fun t => (f t).item, workers ++ [⟨k, n⟩]⟩ := by
  refine .single ⟨.claim terms, hcause, ?_⟩
  have hold : (rows.map fun t => (f t).item)[k]? = some (f t).item := by
    rw [List.getElem?_map, hrow, Option.map_some]
  have hfree : (f t).item.terms = none := by simp [DurableTask.item, hpending]
  have hclaims : (f t).item.claims = (f t).attempts := rfl
  have hstep : Leases.Board.Step ⟨rows.map fun t => (f t).item, workers⟩ (.claim terms) _ :=
    .claim k _ terms hold hfree
  rw [hclaims] at hstep
  dsimp only at hstep
  rwa [List.map_set, hitem, hn]

/-- Leases that have expired are taken back. -/
theorem recovered_run {now : DateTime} {rows rows' : List α} {recover : α → α → Prop}
    (h : ReflTransGen (fun rows rows' => ∃ (k : ℕ) (t t' : α), rows[k]? = some t ∧
      rows' = rows.set k t' ∧ recover t t') rows rows')
    (hexpired : ∀ t t', recover t t' → (f t).leaseIsExpired now = true)
    (hrelease : ∀ t t', recover t t' →
      (f t').status ≠ .inProgress ∧ (f t').attempts = (f t).attempts)
    (hcause : ∀ deadline, deadline ≤ now → causes (.expire (some deadline))) :
    Leases.Board.Run causes ⟨rows.map fun t => (f t).item, workers⟩
      ⟨rows'.map fun t => (f t).item, workers⟩ := by
  induction h with
  | refl => exact .refl
  | @tail rows₁ rows₂ _ hstep ih =>
    obtain ⟨k, t, t', hrow, rfl, hrec⟩ := hstep
    obtain ⟨hs, deadline, hd, hle⟩ := DurableTask.leaseIsExpired_iff.1 (hexpired t t' hrec)
    refine .tail ih ⟨.expire (some deadline), hcause deadline hle, ?_⟩
    have hitem : (rows₁.map fun t => (f t).item)[k]? = some (f t).item := by
      rw [List.getElem?_map, hrow, Option.map_some]
    have hheld : (f t).item.terms = some (some deadline) := by simp [DurableTask.item, hs, hd]
    have hexp : Leases.Board.Step ⟨rows₁.map fun t => (f t).item, workers⟩
        (.expire (some deadline)) _ := .expire k _ _ hitem hheld
    dsimp only at hexp
    rwa [List.map_set, item_of_released (hrelease t t' hrec).1 (hrelease t t' hrec).2]

/-! ## Every command -/

theorem Moves.worker {worker : ℕ} {w : PanelDispatch} {stage next : PanelStage}
    (h : Moves s s' worker w stage next) : s.provisionBoard.workers[worker]? =
      some ⟨w.prepared.taskId, w.prepared.attemptNo⟩ := by
  simp [provisionBoard, h.row]

theorem Moves.workers_eq {worker : ℕ} {w : PanelDispatch} {stage next : PanelStage}
    (h : Moves s s' worker w stage next) :
    s'.provisionBoard.workers = s.provisionBoard.workers := by
  unfold provisionBoard
  rw [h.workers]
  exact Table.map_set h.row rfl

theorem Moves.finished {worker : ℕ} {w : PanelDispatch} {stage : PanelStage}
    (h : Moves s s' worker w stage .finished) : s'.ProvisionFinished worker := by
  refine ⟨{ w with stage := .finished }, ?_, rfl⟩
  rw [h.workers]
  simp [(List.getElem?_eq_some_iff.1 h.row).1]

/-- Every command is a run of the board of provision tasks. -/
theorem exec_provisionBoard (h : s.exec settings cmd = some s') :
    Leases.Board.Run (leaseCauses settings cmd.now s'.ProvisionFinished) s.provisionBoard
      s'.provisionBoard := by
  have hboard : ∀ {b : System}, b.provisionBoard = ⟨b.db.panelProvisionTasks.map
      fun t => t.toDurableTask.item, b.provisionBoard.workers⟩ := rfl
  have hreleased : ∀ {worker : ℕ} {w : PanelDispatch} {stage : PanelStage}
      {t t' : PanelProvisionTask}, Moves s s' worker w stage .finished →
      s.db.SetsProvision s'.db w.prepared.taskId t t' →
      t.ownsLease w.prepared.leaseToken w.prepared.attemptNo = true →
      t'.status ≠ .inProgress → t'.attempts = t.attempts →
      Leases.Board.Run (leaseCauses settings cmd.now s'.ProvisionFinished) s.provisionBoard
        s'.provisionBoard := by
    intro worker w stage t t' hmoves hsets howns hended ha
    rw [hboard, hboard (b := s'), hmoves.workers_eq, hsets.rows]
    exact released_run hsets.row hmoves.worker howns hended ha hmoves.finished
  cases exec_provisionEffect h with
  | grows _ idle rows workers =>
    have hw : s'.provisionBoard.workers = s.provisionBoard.workers := by
      unfold provisionBoard
      rw [workers]
    rw [hboard, hboard (b := s'), hw]
    exact grown_run rows (fun t ht => ht.1) trivial
  | claims ambient k t t' p sets started prepared workers =>
    obtain ⟨hd, -, rfl⟩ := PanelProvisionTask.startAttempt_eq_ok.1 started
    have hw : s'.provisionBoard.workers = s.provisionBoard.workers ++ [⟨k, t.attempts + 1⟩] := by
      unfold provisionBoard
      rw [workers, List.map_append, prepared]
      rfl
    rw [hboard, hboard (b := s'), hw, sets.rows]
    exact claimed_run sets.row (DurableTask.canDispatch_status hd) rfl rfl rfl
  | passes _ worker w stage next moves acts goesOn same =>
    rw [hboard, hboard (b := s'), moves.workers_eq, same]
    exact .refl
  | keeps ambient worker w t t' error moves sets owns kept =>
    obtain ⟨-, rfl⟩ := PanelProvisionTask.markCompensationRequired_eq_ok.1 kept
    have hrows : s'.db.panelProvisionTasks.map (fun t => t.toDurableTask.item) =
        s.db.panelProvisionTasks.map fun t => t.toDurableTask.item := by
      rw [sets.rows]
      exact Table.map_set sets.row rfl
    rw [hboard, hboard (b := s'), moves.workers_eq, hrows]
    exact .refl
  | activates ambient worker w t t' c moves sets owns completed configuration active =>
    obtain ⟨-, rfl⟩ := PanelProvisionTask.complete_eq_ok.1 completed
    exact hreleased moves sets owns (by simp) rfl
  | retries ambient worker errorName w t moves sets owns =>
    exact hreleased moves sets owns retry_ended DurableTask.retry_attempts
  | compensates ambient worker w t terminal moves sets owns =>
    refine hreleased moves sets owns ?_ ?_
    · rw [PanelProvisionTask.compensationSucceeded_status]
      split_ifs <;> simp
    · unfold PanelProvisionTask.compensationSucceeded
      dsimp only
      split_ifs <;> rfl
  | requires ambient worker errorName w t moves sets owns =>
    exact hreleased moves sets owns (by simp [PanelProvisionTask.requireCompensation]) rfl
  | recovers ambient locked limit rows workers =>
    have hw : s'.provisionBoard.workers = s.provisionBoard.workers := by
      unfold provisionBoard
      rw [workers]
    rw [hboard, hboard (b := s'), hw]
    refine recovered_run rows (fun t t' hrec =>
      (PanelProvisionTask.recoverExpiredLease_eq_ok.1 hrec).1) (fun t t' hrec => ?_)
      fun deadline hle => ⟨deadline, rfl, hle⟩
    obtain ⟨-, rfl⟩ := PanelProvisionTask.recoverExpiredLease_eq_ok.1 hrec
    exact ⟨by simp, rfl⟩

/-- Every command is a run of the board of revoke tasks. -/
theorem exec_revokeBoard (h : s.exec settings cmd = some s') :
    Leases.Board.Run (leaseCauses settings cmd.now s'.RevokeFinished) s.revokeBoard
      s'.revokeBoard := by
  have hboard : ∀ {b : System}, b.revokeBoard = ⟨b.db.panelRevokeTasks.map
      fun t => t.toDurableTask.item, b.revokeBoard.workers⟩ := rfl
  have hkept : ∀ {worker : ℕ} {w : PanelRevokeDispatch},
      s.panelRevokeDispatches[worker]? = some w → s'.panelRevokeDispatches =
        s.panelRevokeDispatches.set worker { w with finished := true } →
      s'.revokeBoard.workers = s.revokeBoard.workers := by
    intro worker w hrow hworkers
    unfold revokeBoard
    rw [hworkers]
    exact Table.map_set hrow rfl
  have hreleased : ∀ {worker : ℕ} {w : PanelRevokeDispatch} {t t' : PanelRevokeTask},
      s.panelRevokeDispatches[worker]? = some w → s'.panelRevokeDispatches =
        s.panelRevokeDispatches.set worker { w with finished := true } →
      s.db.SetsRevoke s'.db w.prepared.taskId t t' →
      t.ownsLease w.prepared.leaseToken w.prepared.attemptNo = true →
      t'.status ≠ .inProgress → t'.attempts = t.attempts →
      Leases.Board.Run (leaseCauses settings cmd.now s'.RevokeFinished) s.revokeBoard
        s'.revokeBoard := by
    intro worker w t t' hrow hworkers hsets howns hended ha
    have hworker : s.revokeBoard.workers[worker]? =
        some ⟨w.prepared.taskId, w.prepared.attemptNo⟩ := by
      simp [revokeBoard, hrow]
    rw [hboard, hboard (b := s'), hkept hrow hworkers, hsets.rows]
    refine released_run hsets.row hworker howns hended ha ⟨{ w with finished := true }, ?_, rfl⟩
    rw [hworkers]
    simp [(List.getElem?_eq_some_iff.1 hrow).1]
  cases exec_revokeEffect h with
  | grows _ rows workers =>
    have hw : s'.revokeBoard.workers = s.revokeBoard.workers := by
      unfold revokeBoard
      rw [workers]
    rw [hboard, hboard (b := s'), hw]
    exact grown_run rows (fun t ht => ht) trivial
  | claims ambient k t t' p sets started prepared workers =>
    obtain ⟨hd, -, rfl⟩ := PanelRevokeTask.startAttempt_eq_ok.1 started
    have hw : s'.revokeBoard.workers = s.revokeBoard.workers ++ [⟨k, t.attempts + 1⟩] := by
      unfold revokeBoard
      rw [workers, List.map_append, prepared]
      rfl
    rw [hboard, hboard (b := s'), hw, sets.rows]
    exact claimed_run sets.row (DurableTask.canDispatch_status hd) rfl rfl rfl
  | passes _ worker w row unfinished workers rows =>
    rw [hboard, hboard (b := s'), hkept row workers, rows]
    exact .refl
  | completes ambient worker w t t' row unfinished workers sets owns completed =>
    obtain ⟨-, rfl⟩ := PanelRevokeTask.complete_eq_ok.1 completed
    exact hreleased row workers sets owns (by simp) rfl
  | retries ambient worker errorName w t row unfinished workers sets owns =>
    exact hreleased row workers sets owns retry_ended DurableTask.retry_attempts
  | recovers ambient locked limit rows workers =>
    have hw : s'.revokeBoard.workers = s.revokeBoard.workers := by
      unfold revokeBoard
      rw [workers]
    rw [hboard, hboard (b := s'), hw]
    refine recovered_run rows (fun t t' hrec =>
      (PanelRevokeTask.recoverExpiredLease_eq_ok.1 hrec).1) (fun t t' hrec => ?_)
      fun deadline hle => ⟨deadline, rfl, hle⟩
    obtain ⟨-, rfl⟩ := PanelRevokeTask.recoverExpiredLease_eq_ok.1 hrec
    exact ⟨by simp, rfl⟩

theorem Reachable.provisionBoard (h : Reachable settings s) : s.provisionBoard.Inv := by
  have hstep : ∀ s s' : System, Reachable settings s → s.provisionBoard.Inv →
      Step settings s s' → s'.provisionBoard.Inv := by
    rintro s s' - hinv ⟨cmd, hcmd⟩
    exact (exec_provisionBoard hcmd).inv hinv
  have hinit : ∀ s : System, Initial s → s.provisionBoard.Inv := by
    intro s hs
    rw [hs]
    exact ⟨by simp [System.provisionBoard], by simp [System.provisionBoard]⟩
  exact Transition.Reachable.invariant (fun s => s.provisionBoard.Inv) hinit hstep h

theorem Reachable.revokeBoard (h : Reachable settings s) : s.revokeBoard.Inv := by
  have hstep : ∀ s s' : System, Reachable settings s → s.revokeBoard.Inv →
      Step settings s s' → s'.revokeBoard.Inv := by
    rintro s s' - hinv ⟨cmd, hcmd⟩
    exact (exec_revokeBoard hcmd).inv hinv
  have hinit : ∀ s : System, Initial s → s.revokeBoard.Inv := by
    intro s hs
    rw [hs]
    exact ⟨by simp [System.revokeBoard], by simp [System.revokeBoard]⟩
  exact Transition.Reachable.invariant (fun s => s.revokeBoard.Inv) hinit hstep h

end System

end ShopBot
