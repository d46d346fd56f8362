import ShopBot.Persistence.Scheduling
import ShopBot.System.Command

/-! # Sweeps

Redis may lose every job that it was given. A worker finds the work that waits in the database:
all of it when the worker starts, and then again every minute.
-/

namespace ShopBot

open Database

/-- The queries for work that waits. -/
inductive Sweep where
  /-- `recover_payment_events` -/
  | paymentEvents

  /-- `DispatchNodeTask.recover_stale` -/
  | staleNodeTasks

  /-- `DispatchNodeTask.dispatch_due` -/
  | dueNodeTasks

  | stalePanelProvisionTasks

  | duePanelProvisionTasks

  | stalePanelRevokeTasks

  | duePanelRevokeTasks
deriving DecidableEq, Repr

def STARTUP_RECOVERY_LIMIT : ℕ := 100

namespace System

variable (settings : Settings)

/-- The jobs that a sweep enqueues, and the system that it leaves. A node task is enqueued again
unless its last attempt has expired; `locked` are the rows that other transactions hold. -/
def sweep (s : System) (ambient : Ambient) (locked : List ℕ) (limit : ℕ) :
    Sweep → Option (List Job × System)
  | .paymentEvents => some ((s.db.listReceivedPaymentEventIds limit).map .processPaymentEvent, s)
  | .staleNodeTasks => do
    let s' ← s.exec settings (.recoverNodes ambient locked limit)
    let ids := staleIds (s.db.nodeTasks.map (·.toDurableTask)) ambient.now locked limit
    let requeueIds := ids.filter fun id => (s'.db.nodeTasks[id]?).any (·.status = .pending)
    return (requeueIds.map .dispatchNodeTask, s')
  | .dueNodeTasks =>
    some ((dueIds (s.db.nodeTasks.map (·.toDurableTask)) ambient.now limit).map
      .dispatchNodeTask, s)
  | .stalePanelProvisionTasks => do
    let s' ← s.exec settings (.recoverPanelProvisions ambient locked limit)
    let ids := staleIds (s.db.panelProvisionTasks.map (·.toDurableTask)) ambient.now locked limit
    return (ids.map .dispatchPanelProvisionTask, s')
  | .duePanelProvisionTasks =>
    some ((dueIds (s.db.panelProvisionTasks.map (·.toDurableTask)) ambient.now limit).map
      .dispatchPanelProvisionTask, s)
  | .stalePanelRevokeTasks => do
    let s' ← s.exec settings (.recoverPanelRevokes ambient locked limit)
    let ids := staleIds (s.db.panelRevokeTasks.map (·.toDurableTask)) ambient.now locked limit
    return (ids.map .dispatchPanelRevokeTask, s')
  | .duePanelRevokeTasks =>
    some ((dueIds (s.db.panelRevokeTasks.map (·.toDurableTask)) ambient.now limit).map
      .dispatchPanelRevokeTask, s)

/-- Sweeps one after the other, each at its own time. -/
def sweeps (ambient : Sweep → Ambient) (locked : Sweep → List ℕ) (limit : ℕ) :
    System → List Sweep → Option (List Job × System)
  | s, [] => some ([], s)
  | s, sweep :: rest => do
    let (jobs, s) ← s.sweep settings (ambient sweep) (locked sweep) limit sweep
    let (later, s) ← sweeps ambient locked limit s rest
    return (jobs ++ later, s)

/-- `run_startup_recovery` -/
def runStartupRecovery (s : System) (ambient : Sweep → Ambient) (locked : Sweep → List ℕ)
    (limit : ℕ) : Option (List Job × System) :=
  sweeps settings ambient locked limit s
    [.paymentEvents, .staleNodeTasks, .dueNodeTasks, .stalePanelProvisionTasks,
      .duePanelProvisionTasks, .stalePanelRevokeTasks, .duePanelRevokeTasks]

end System

end ShopBot
