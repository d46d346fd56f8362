import Mathlib.Logic.Function.Basic
import ShopBot.Domain.Task
import ShopBot.Domain.Vpn

/-! # The lifecycle of one configuration

What a configuration and its tasks are for, without leases, payloads or clocks. A
configuration wants a client present or absent; tasks carry out operations for one
generation of that wish; a result counts for the wish it was started for and no other.
References to tasks and subscriptions are arbitrary types.
-/

namespace ShopBot.Lifecycle

inductive Operation where
  | provision

  | revoke
deriving DecidableEq, Repr

/-- The ledger that holds the tasks of a configuration. -/
inductive Route where
  | node

  | panel
deriving DecidableEq, Repr

structure Task where
  operation : Operation
  generation : ℕ
  status : TaskStatus
deriving DecidableEq, Repr

/-- A configuration with its tasks. -/
@[ext]
structure Aggregate (S T : Type*) where
  subscription : S
  route : Route
  status : VpnConfigurationStatus
  desired : VpnDesiredState
  generation : ℕ
  task : T → Option Task

/-- Who acts in a transaction. -/
inductive Actor (T : Type*) where
  /-- A use case of its own. -/
  | request

  /-- A task that is claimed, retried or given up. -/
  | attempt (r : T)

  /-- A task whose operation has succeeded. -/
  | success (r : T)

  /-- A task whose effect has been undone. -/
  | compensation (r : T)

variable {S T : Type*} [DecidableEq T]

namespace Aggregate

def setTask (a : Aggregate S T) (r : T) (t : Task) : Aggregate S T :=
  { a with task := Function.update a.task r (some t) }

def setStatus (a : Aggregate S T) (status : VpnConfigurationStatus) : Aggregate S T :=
  { a with status := status }

/-- Want the client absent from now on: a new generation. -/
def requestRevoke (a : Aggregate S T) : Aggregate S T :=
  { a with status := .revoking, desired := .revoked, generation := a.generation + 1 }

/-- The task works for what the configuration still wants and has not yet got. -/
def Current (a : Aggregate S T) (t : Task) : Prop :=
  t.generation = a.generation ∧
    match t.operation with
    | .provision => a.desired = .active ∧ a.status = .provisioning
    | .revoke => a.desired = .revoked ∧ a.status = .revoking

/-- Create the task of an operation for the current generation, unless one is there. -/
inductive Adds (a : Aggregate S T) (op : Operation) : Aggregate S T → Prop where
  | inserted (r : T) (free : a.task r = none)
      (fresh : ∀ r t, a.task r = some t → t.operation = op → t.generation ≠ a.generation) :
      Adds a op (a.setTask r ⟨op, a.generation, .pending⟩)

  | existing (r : T) (t : Task) (found : a.task r = some t) (operation : t.operation = op)
      (generation : op = .revoke → t.generation = a.generation) : Adds a op a

/-- One committed transaction, as far as this configuration is concerned; `funded` says
which subscriptions have a current paid period at that moment. -/
inductive Step (funded : S → Prop) (a : Aggregate S T) : Actor T → Aggregate S T → Prop where
  | requeue (r : T) (t : Task) (s : TaskStatus) (ht : a.task r = some t)
      (isOpen : t.status.isOpen = true) (stays : s.isOpen = true) :
      Step funded a (.attempt r) (a.setTask r { t with status := s })

  | settle (r : T) (t : Task) (s : TaskStatus) (ht : a.task r = some t)
      (isOpen : t.status.isOpen = true) (givesUp : s = .failed ∨ s = .cancelled)
      (stale : ¬ a.Current t) :
      Step funded a (.attempt r) (a.setTask r { t with status := s })

  | finish (r : T) (t : Task) (ht : a.task r = some t) (isOpen : t.status.isOpen = true)
      (stale : ¬ a.Current t) :
      Step funded a (.success r) (a.setTask r { t with status := .succeeded })

  | activate (r : T) (t : Task) (ht : a.task r = some t) (hop : t.operation = .provision)
      (isOpen : t.status.isOpen = true) (current : a.Current t) (hf : funded a.subscription) :
      Step funded a (.success r) ((a.setTask r { t with status := .succeeded }).setStatus .active)

  | failProvision (r : T) (t : Task) (ht : a.task r = some t) (hop : t.operation = .provision)
      (isOpen : t.status.isOpen = true) (current : a.Current t) :
      Step funded a (.attempt r) ((a.setTask r { t with status := .failed }).setStatus .failed)

  | revoked (r : T) (t : Task) (ht : a.task r = some t) (hop : t.operation = .revoke)
      (isOpen : t.status.isOpen = true) (current : a.Current t) :
      Step funded a (.success r) ((a.setTask r { t with status := .succeeded }).setStatus .revoked)

  | failRevoke (r : T) (t : Task) (ht : a.task r = some t) (hop : t.operation = .revoke)
      (isOpen : t.status.isOpen = true) (current : a.Current t) :
      Step funded a (.attempt r) ((a.setTask r { t with status := .failed }).setStatus .revokeFailed)

  | lapseNode (r : T) (t : Task) (a' : Aggregate S T) (hr : a.route = .node)
      (ht : a.task r = some t) (hop : t.operation = .provision) (isOpen : t.status.isOpen = true)
      (current : a.Current t) (hf : ¬ funded a.subscription)
      (adds : Adds (a.setTask r { t with status := .succeeded }).requestRevoke .revoke a') :
      Step funded a (.success r) a'

  | lapsePanel (r : T) (t : Task) (hr : a.route = .panel) (ht : a.task r = some t)
      (hop : t.operation = .provision) (isOpen : t.status.isOpen = true)
      (current : a.Current t) (hf : ¬ funded a.subscription) :
      Step funded a (.success r) a.requestRevoke

  | compensated (r : T) (t : Task) (hr : a.route = .panel) (ht : a.task r = some t)
      (hop : t.operation = .provision) (isOpen : t.status.isOpen = true)
      (hs : a.status = .revoking) (hd : a.desired = .revoked)
      (overtaken : a.generation = t.generation + 1) :
      Step funded a (.compensation r)
        ((a.setTask r { t with status := .cancelled }).setStatus .revoked)

  | followUp (r : T) (t : Task) (a' : Aggregate S T) (hr : a.route = .node)
      (ht : a.task r = some t) (hop : t.operation = .provision) (isOpen : t.status.isOpen = true)
      (stale : ¬ a.Current t)
      (adds : Adds (a.setTask r { t with status := .succeeded }) .revoke a') :
      Step funded a (.success r) a'

  | recoverProvision (r : T) (t : Task) (ht : a.task r = some t)
      (hop : t.operation = .provision) (done : t.status = .succeeded)
      (hs : a.status = .provisioning) (hd : a.desired = .active) (hf : funded a.subscription) :
      Step funded a (.success r) (a.setStatus .active)

  | recoverRevoke (r : T) (t : Task) (ht : a.task r = some t) (hop : t.operation = .revoke)
      (hg : t.generation = a.generation) (done : t.status = .succeeded)
      (hs : a.status = .revoking) (hd : a.desired = .revoked) :
      Step funded a (.success r) (a.setStatus .revoked)

  | request (a' : Aggregate S T)
      (hs : a.status = .active ∨ a.status = .revokeFailed ∨ a.status = .provisioning ∨
        a.status = .failed)
      (adds : Adds a.requestRevoke .revoke a') : Step funded a .request a'

  | restoreRevoke (a' : Aggregate S T) (hs : a.status = .revoking)
      (adds : Adds a .revoke a') : Step funded a .request a'

  | restoreProvision (a' : Aggregate S T) (hs : a.status = .provisioning)
      (hd : a.desired = .active) (adds : Adds a .provision a') : Step funded a .request a'

/-- A configuration that has just been created, with its provision task. -/
def Fresh (a : Aggregate S T) : Prop :=
  a.status = .provisioning ∧ a.desired = .active ∧ a.generation = 1 ∧
    ∃ r, a.task = Function.update (fun _ => none) r (some ⟨.provision, 1, .pending⟩)

variable {a : Aggregate S T} {r r' : T} {t t' : Task} {s : VpnConfigurationStatus}

@[simp]
theorem setTask_task_self : (a.setTask r t).task r = some t := by
  simp [setTask]

theorem setTask_task_of_ne (h : r' ≠ r) : (a.setTask r t).task r' = a.task r' := by
  simp [setTask, h]

@[simp]
theorem setTask_status : (a.setTask r t).status = a.status := rfl

@[simp]
theorem setTask_desired : (a.setTask r t).desired = a.desired := rfl

@[simp]
theorem setTask_generation : (a.setTask r t).generation = a.generation := rfl

@[simp]
theorem setTask_route : (a.setTask r t).route = a.route := rfl

@[simp]
theorem setTask_subscription : (a.setTask r t).subscription = a.subscription := rfl

/-- A write at a known task keeps every other task. -/
theorem setTask_task_eq (h : (a.setTask r t).task r' = some t') :
    (r' = r ∧ t' = t) ∨ (r' ≠ r ∧ a.task r' = some t') := by
  by_cases hr : r' = r
  · subst hr
    rw [setTask_task_self] at h
    exact .inl ⟨rfl, (Option.some.inj h).symm⟩
  · rw [setTask_task_of_ne hr] at h
    exact .inr ⟨hr, h⟩

end Aggregate

end ShopBot.Lifecycle
