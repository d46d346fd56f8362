import ShopBot.Guarantees.LiveSubscription
import ShopBot.Refinement.PanelBoards
import ShopBot.Refinement.Scheduled
import ShopBot.System.Recovery

/-! # No work is stranded

Whatever has happened to the jobs of the queue, every open task is found by the sweeps when its
time has come, and the recovery at the start of a worker enqueues all the work that waits.
-/

namespace ShopBot

open Database

namespace Database

variable {rows : List DurableTask} {now : DateTime} {locked : List ℕ} {limit k : ℕ}
  {t : DurableTask}

/-- The three ledgers of tasks. -/
def taskLedgers (db : Database) : List (List DurableTask) :=
  [db.nodeTasks.map (·.toDurableTask), db.panelProvisionTasks.map (·.toDurableTask),
    db.panelRevokeTasks.map (·.toDurableTask)]

theorem Scheduled.ledger {mapper : RowMapper} {db : Database} (h : Scheduled mapper db) (hrows : rows ∈ db.taskLedgers) :
    ∀ t ∈ rows, t.Scheduled := by
  simp only [taskLedgers, List.mem_cons, List.not_mem_nil, or_false] at hrows
  rcases hrows with rfl | rfl | rfl
  · simpa using h.nodeTasks
  · simpa using h.panelProvisionTasks
  · simpa using h.panelRevokeTasks

/-- Every open task of a ledger is enqueued, unless it waits, or another transaction has locked its
row, or a query has found as many tasks as it was asked for. -/
def FindsOpenWork {α : Type} (f : α → DurableTask) (job : ℕ → Job) (jobs : List Job) (rows rows' : List α)
    (stale due : DateTime) (locked : List ℕ) (limit : ℕ) (now : DateTime) : Prop :=
  ∀ k t, rows'[k]? = some t → (f t).status.isOpen = true →
    job k ∈ jobs ∨ (f t).Waits now ∨ k ∈ locked ∨
      (staleIds (rows.map f) stale locked limit).length = limit ∨
      (dueIds (rows'.map f) due limit).length = limit

/-- The tasks whose lease has expired are recovered, and then the tasks that are due are
enqueued. -/
theorem findsOpenWork {α : Type} {f : α → DurableTask} {change : α → α → Prop} {rows rows' : List α}
    {stale due : DateTime} {job : ℕ → Job} {jobs : List Job}
    (h : Table.Rewritten change (staleIds (rows.map f) stale locked limit) rows rows')
    (hchange : ∀ t t', change t t' → (f t').status ≠ .inProgress)
    (hs : ∀ t ∈ rows', (f t).Scheduled) (hstale : now ≤ stale) (hdue : now ≤ due)
    (hjobs : ∀ k ∈ dueIds (rows'.map f) due limit, job k ∈ jobs) :
    FindsOpenWork f job jobs rows rows' stale due locked limit now := by
  intro k t hrow hopen
  have hscheduled := hs t (List.mem_of_getElem? hrow)
  cases hstatus : (f t).status with
  | pending =>
    rcases hscheduled.cases hopen due with hisDue | hexpired | hwaits
    · have hrow' : (rows'.map f)[k]? = some (f t) := by rw [List.getElem?_map, hrow]; rfl
      rcases mem_dueIds hrow' hisDue limit with hfound | ⟨hfull, -⟩
      · exact .inl (hjobs k hfound)
      · exact .inr (.inr (.inr (.inr hfull)))
    · rw [DurableTask.leaseIsExpired_iff, hstatus] at hexpired
      cases hexpired.1
    · exact .inr (.inl (hwaits.mono hdue))
  | inProgress =>
    rcases hscheduled.cases hopen stale with hisDue | hexpired | hwaits
    · rw [DurableTask.isDue_iff, hstatus] at hisDue
      cases hisDue.1
    · -- a task that was found has been recovered, so this one was not found
      have hkept : k ∉ staleIds (rows.map f) stale locked limit := by
        intro hk
        obtain ⟨a, t', -, ht', hchanged⟩ := h.changed nodup_staleIds hk
        obtain rfl := Option.some.inj (hrow.symm.trans ht')
        exact hchange _ _ hchanged hstatus
      have hold : (rows.map f)[k]? = some (f t) := by
        rw [List.getElem?_map, ← h.other hkept, hrow]
        rfl
      by_cases hfree : k ∈ locked
      · exact .inr (.inr (.inl hfree))
      · rcases mem_staleIds hold hexpired hfree limit with hfound | ⟨hfull, -⟩
        · exact absurd hfound hkept
        · exact .inr (.inr (.inr (.inl hfull)))
    · exact .inr (.inl (hwaits.mono hstale))
  | succeeded | failed | cancelled =>
    rw [hstatus] at hopen
    cases hopen

/-- The rows whose lease has expired. -/
theorem stale_rows {α : Type} {f : α → DurableTask} {rows : List α} (locked : List ℕ)
    (limit : ℕ) :
    ∀ k ∈ staleIds (rows.map f) now locked limit,
      ∃ t, rows[k]? = some t ∧ (f t).leaseIsExpired now = true := by
  intro k hk
  obtain ⟨u, hu, hexpired, -⟩ := of_mem_staleIds hk
  rw [List.getElem?_map] at hu
  obtain ⟨t, ht, rfl⟩ := Option.map_eq_some_iff.1 hu
  exact ⟨t, ht, hexpired⟩

end Database

namespace System

variable {settings : Settings} {s s' : System} {ambient : Ambient} {locked : List ℕ} {limit k : ℕ}

/-- Every open task is found by a sweep when its time has come, unless the sweep is used up by
tasks whose time has come before, or waits until a time that is known. -/
theorem open_tasks_are_found (h : Reachable settings s) {rows : List DurableTask}
    (hrows : rows ∈ s.db.taskLedgers) {t : DurableTask} (hrow : rows[k]? = some t)
    (hopen : t.status.isOpen = true) (now : DateTime) (locked : List ℕ) (limit : ℕ) :
    (t.isDue now = true ∧ (k ∈ dueIds rows now limit ∨ (dueIds rows now limit).length = limit ∧
      ∀ j ∈ dueIds rows now limit, ∃ u, rows[j]? = some u ∧ u.isDue now = true ∧
        u.nextRetryAt.getD now ≤ t.nextRetryAt.getD now)) ∨
    (t.leaseIsExpired now = true ∧ (k ∈ locked ∨ k ∈ staleIds rows now locked limit ∨
      (staleIds rows now locked limit).length = limit ∧
      ∀ j ∈ staleIds rows now locked limit, ∃ u, rows[j]? = some u ∧
        u.leaseIsExpired now = true ∧ u.leaseExpiresAt.getD now ≤ t.leaseExpiresAt.getD now)) ∨
    t.Waits now := by
  have hscheduled := h.scheduled.ledger hrows t (List.mem_of_getElem? hrow)
  rcases hscheduled.cases hopen now with hdue | hexpired | hwaits
  · exact .inl ⟨hdue, mem_dueIds hrow hdue limit⟩
  · right
    left
    refine ⟨hexpired, ?_⟩
    by_cases hfree : k ∈ locked
    · exact .inl hfree
    · exact .inr (mem_staleIds hrow hexpired hfree limit)
  · exact .inr (.inr hwaits)

theorem claimed_reachable : Reachable shopSettings ((shop nodeEndpoint).after shopSettings claimed) :=
  .after (shop_initial _) (by decide +kernel)

theorem open_tasks_are_found_shop : ∃ t : NodeTask,
    ((shop nodeEndpoint).after shopSettings claimed).db.nodeTasks[0]? = some t ∧
    t.status = .inProgress ∧ ∀ now,
      (t.isDue now = true ∨ t.leaseIsExpired now = true ∨ t.Waits now) := by
  obtain ⟨t, ht⟩ := Option.isSome_iff_exists.1
    (show (((shop nodeEndpoint).after shopSettings claimed).db.nodeTasks[0]?).isSome = true by
      decide +kernel)
  have hstatus : (((shop nodeEndpoint).after shopSettings claimed).db.nodeTasks[0]?).map
      (·.status) = some .inProgress := by decide +kernel
  rw [ht, Option.map_some, Option.some.injEq] at hstatus
  refine ⟨t, ht, hstatus, fun now => ?_⟩
  have hrow : (((shop nodeEndpoint).after shopSettings claimed).db.nodeTasks.map
      (·.toDurableTask))[0]? = some t.toDurableTask := by rw [List.getElem?_map, ht]; rfl
  rcases open_tasks_are_found claimed_reachable (by simp [taskLedgers]) hrow
    (by rw [hstatus]; rfl) now [] 100 with ⟨hdue, -⟩ | ⟨hexpired, -⟩ | hwaits
  · exact .inl hdue
  · exact .inr (.inl hexpired)
  · exact .inr (.inr hwaits)

/-! ## The recovery at the start of a worker -/

theorem exec_paymentEvents {cmd : Command} (h : Reachable settings s)
    (hcmd : s.exec settings cmd = some s') (hvpn : cmd.onVpn = true) :
    s'.db.paymentEvents = s.db.paymentEvents :=
  congrArg Billing.events (exec_refines (Reachable.inv h).1 hcmd hvpn).billingLedger

theorem sweep_staleNodeTasks (h : Reachable settings s) (ambient : Ambient)
    (locked : List ℕ) (limit : ℕ) :
    ∃ jobs s', s.sweep settings ambient locked limit .staleNodeTasks = some (jobs, s') ∧
      Reachable settings s' ∧ s'.db.paymentEvents = s.db.paymentEvents ∧
      s'.db.panelTasks = s.db.panelTasks ∧
      Table.Rewritten (DispatchNodeTask.Recovered settings ambient.now)
        (staleIds (s.db.nodeTasks.map (·.toDurableTask)) ambient.now locked limit)
        s.db.nodeTasks s'.db.nodeTasks := by
  obtain ⟨db', hall, hrows⟩ := DispatchNodeTask.recoverAll_total settings ambient s.db
    nodup_staleIds (stale_rows locked limit)
  have hcmd : s.exec settings (.recoverNodes ambient locked limit) = some { s with db := db' } := by
    change s.commitDb (DispatchNodeTask.recoverAll settings ambient s.db _) = _
    rw [hall]
    rfl
  have hsweep : s.sweep settings ambient locked limit .staleNodeTasks = some
      (((staleIds (s.db.nodeTasks.map (·.toDurableTask)) ambient.now locked limit).filter fun id =>
        (db'.nodeTasks[id]?).any (·.status = .pending)).map .dispatchNodeTask,
        { s with db := db' }) := by
    unfold sweep
    rw [hcmd]
    rfl
  exact ⟨_, _, hsweep, h.tail ⟨_, hcmd⟩, exec_paymentEvents h hcmd rfl,
    DispatchNodeTask.recoverAll_panelTasks hall, hrows⟩

theorem sweep_stalePanelProvisionTasks (h : Reachable settings s) (ambient : Ambient)
    (locked : List ℕ) (limit : ℕ) :
    ∃ jobs s', s.sweep settings ambient locked limit .stalePanelProvisionTasks = some (jobs, s') ∧
      Reachable settings s' ∧ s'.db.paymentEvents = s.db.paymentEvents ∧
      s'.db.nodeTasks = s.db.nodeTasks ∧ s'.db.panelRevokeTasks = s.db.panelRevokeTasks ∧
      Table.Rewritten (DispatchPanelProvisionTask.Recovered ambient.now)
        (staleIds (s.db.panelProvisionTasks.map (·.toDurableTask)) ambient.now locked limit)
        s.db.panelProvisionTasks s'.db.panelProvisionTasks := by
  obtain ⟨db', hall, hrows⟩ := DispatchPanelProvisionTask.recoverAll_total ambient s.db
    h.scheduled.readable nodup_staleIds (stale_rows locked limit)
  have hcmd : s.exec settings (.recoverPanelProvisions ambient locked limit) =
      some { s with db := db' } := by
    change s.commitDb (DispatchPanelProvisionTask.recoverAll settings ambient s.db _) = _
    rw [hall]
    rfl
  have hsweep : s.sweep settings ambient locked limit .stalePanelProvisionTasks = some
      ((staleIds (s.db.panelProvisionTasks.map (·.toDurableTask)) ambient.now locked limit).map
        .dispatchPanelProvisionTask, { s with db := db' }) := by
    unfold sweep
    rw [hcmd]
    rfl
  exact ⟨_, _, hsweep, h.tail ⟨_, hcmd⟩, exec_paymentEvents h hcmd rfl,
    congrArg NodeLedger.tasks (DispatchPanelProvisionTask.recoverAll_nodeLedger hall),
    (recoverAll_recovers hall).2, hrows⟩

theorem sweep_stalePanelRevokeTasks (h : Reachable settings s) (ambient : Ambient)
    (locked : List ℕ) (limit : ℕ) :
    ∃ jobs s', s.sweep settings ambient locked limit .stalePanelRevokeTasks = some (jobs, s') ∧
      Reachable settings s' ∧ s'.db.paymentEvents = s.db.paymentEvents ∧
      s'.db.nodeTasks = s.db.nodeTasks ∧
      s'.db.panelProvisionTasks = s.db.panelProvisionTasks ∧
      Table.Rewritten (DispatchPanelRevokeTask.Recovered ambient.now)
        (staleIds (s.db.panelRevokeTasks.map (·.toDurableTask)) ambient.now locked limit)
        s.db.panelRevokeTasks s'.db.panelRevokeTasks := by
  obtain ⟨db', hall, hrows⟩ := DispatchPanelRevokeTask.recoverAll_total ambient s.db
    nodup_staleIds (stale_rows locked limit)
  have hcmd : s.exec settings (.recoverPanelRevokes ambient locked limit) =
      some { s with db := db' } := by
    change s.commitDb (DispatchPanelRevokeTask.recoverAll ambient s.db _) = _
    rw [hall]
    rfl
  have hsweep : s.sweep settings ambient locked limit .stalePanelRevokeTasks = some
      ((staleIds (s.db.panelRevokeTasks.map (·.toDurableTask)) ambient.now locked limit).map
        .dispatchPanelRevokeTask, { s with db := db' }) := by
    unfold sweep
    rw [hcmd]
    rfl
  exact ⟨_, _, hsweep, h.tail ⟨_, hcmd⟩, exec_paymentEvents h hcmd rfl,
    congrArg NodeLedger.tasks (DispatchPanelRevokeTask.recoverAll_nodeLedger hall),
    (recoverAll_revokes hall).2, hrows⟩

theorem sweeps_cons {s₁ : System} {sweep : Sweep} {rest : List Sweep} {jobs later : List Job}
    {ambient : Sweep → Ambient} {locked : Sweep → List ℕ}
    (h : s.sweep settings (ambient sweep) (locked sweep) limit sweep = some (jobs, s₁))
    (hrest : sweeps settings ambient locked limit s₁ rest = some (later, s')) :
    sweeps settings ambient locked limit s (sweep :: rest) = some (jobs ++ later, s') := by
  unfold sweeps
  rw [h, Option.bind_eq_bind, Option.bind_some]
  dsimp only
  rw [hrest]
  rfl

end System

end ShopBot
