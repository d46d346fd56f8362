import ShopBot.Refinement.System

/-! # The panel and the calls on their way

After a commit a worker calls the panel at some later moment: a provision worker once to
provision and once to compensate, a revoke worker once to revoke. A call takes effect
between its send and its return, or never. A call that returns has taken effect; one that
raises may have.
-/

namespace ShopBot

/-- The system with the clients of the panel. -/
structure PanelNetwork where
  system : System
  clock : DateTime := 0
  clients : List Uuid := []
  /-- The ends of the leases of the provision workers. -/
  deadlines : List DateTime := []
  /-- The ends of the leases of the revoke workers. -/
  revokeDeadlines : List DateTime := []
  /-- The provision workers whose provision has taken effect. -/
  provisioned : List ℕ := []
  /-- The provision workers whose compensation has taken effect. -/
  compensated : List ℕ := []
  /-- The revoke workers whose call has taken effect. -/
  revoked : List ℕ := []

inductive PanelEvent where
  | transaction (cmd : Command)

  | elapse (duration : ℕ)

  /-- The provision call of a worker takes effect. -/
  | provision (worker : ℕ)

  | compensate (worker : ℕ)

  | revoke (worker : ℕ)

namespace PanelNetwork

variable (settings : Settings)

/-- Success is recorded only of a call that has taken effect. -/
def genuine (n : PanelNetwork) : Command → Bool
  | .finalizeProvision _ worker | .abortProvision worker => worker ∈ n.provisioned
  | .recordCompensation _ worker => worker ∈ n.compensated
  | .finalizePanelRevoke _ worker => worker ∈ n.revoked
  | _ => true

/-- Commit a transaction, which has read the clock before. -/
def transaction (n : PanelNetwork) (cmd : Command) : Option PanelNetwork :=
  if n.genuine cmd ∧ cmd.now ≤ n.clock then
    let deadline := cmd.now + seconds settings.panelLeaseSeconds
    (n.system.exec settings cmd).map fun s => { n with
      system := s
      deadlines := n.deadlines ++
        List.replicate (s.panelDispatches.length - n.deadlines.length) deadline
      revokeDeadlines := n.revokeDeadlines ++
        List.replicate (s.panelRevokeDispatches.length - n.revokeDeadlines.length) deadline }
  else none

def provision (n : PanelNetwork) (worker : ℕ) : Option PanelNetwork := do
  let d ← n.system.panelDispatches[worker]?
  if d.stage = .provisioning ∧ worker ∉ n.provisioned then
    some { n with
      clients := d.prepared.payload.clientUuid :: n.clients
      provisioned := worker :: n.provisioned }
  else none

def compensate (n : PanelNetwork) (worker : ℕ) : Option PanelNetwork := do
  let d ← n.system.panelDispatches[worker]?
  if d.stage = .compensating ∧ worker ∉ n.compensated then
    some { n with
      clients := n.clients.filter (· ≠ d.prepared.payload.clientUuid)
      compensated := worker :: n.compensated }
  else none

def revoke (n : PanelNetwork) (worker : ℕ) : Option PanelNetwork := do
  let d ← n.system.panelRevokeDispatches[worker]?
  if d.finished = false ∧ worker ∉ n.revoked then
    some { n with
      clients := n.clients.filter (· ≠ d.prepared.payload.clientUuid)
      revoked := worker :: n.revoked }
  else none

def exec (n : PanelNetwork) : PanelEvent → Option PanelNetwork
  | .transaction cmd => n.transaction settings cmd
  | .elapse duration => some { n with clock := n.clock + duration }
  | .provision worker => n.provision worker
  | .compensate worker => n.compensate worker
  | .revoke worker => n.revoke worker

/-- No client and no call before the first order. -/
def Initial (n : PanelNetwork) : Prop :=
  n.system.Initial ∧ 0 ≤ n.clock ∧ n = { system := n.system, clock := n.clock }

def Step : PanelNetwork → PanelNetwork → Prop := Transition.Labelled (exec settings)

/-- No panel task of the configuration is open, and no worker of it has a call to make or a
result to record. -/
def Quiescent (n : PanelNetwork) (id : ℕ) : Prop :=
  (∀ t ∈ n.system.db.panelProvisionTasks, t.vpnConfigurationId = id →
    t.status.isTerminal = true) ∧
  (∀ t ∈ n.system.db.panelRevokeTasks, t.vpnConfigurationId = id →
    t.status.isTerminal = true) ∧
  (∀ d ∈ n.system.panelDispatches, ∀ t ∈ n.system.db.panelProvisionTasks[d.prepared.taskId]?,
    t.vpnConfigurationId = id → d.stage = .finished) ∧
  ∀ d ∈ n.system.panelRevokeDispatches, ∀ t ∈ n.system.db.panelRevokeTasks[d.prepared.taskId]?,
    t.vpnConfigurationId = id → d.finished = true

/-! ## Runs that are excluded -/

/-- A compensation takes effect although its task has been provisioned since: the task has
succeeded, or the worker of its current attempt has provisioned. -/
def LateCompensation (n : PanelNetwork) : PanelEvent → Prop
  | .compensate worker => ∃ d ∈ n.system.panelDispatches[worker]?,
      ∃ t ∈ n.system.db.panelProvisionTasks[d.prepared.taskId]?,
        t.status = .succeeded ∨ (t.status = .inProgress ∧ ∃ owner ∈ n.provisioned,
          ∃ d' ∈ n.system.panelDispatches[owner]?, d'.prepared.taskId = d.prepared.taskId ∧
            d'.prepared.attemptNo = t.attempts ∧ d'.stage = .provisioning)
  | _ => False

instance (n : PanelNetwork) (event : PanelEvent) : Decidable (n.LateCompensation event) := by
  cases event <;> dsimp only [LateCompensation] <;> infer_instance

/-- Execute an event unless it is a compensation that comes too late. -/
def execPunctual (n : PanelNetwork) (event : PanelEvent) : Option PanelNetwork :=
  if n.LateCompensation event then none else n.exec settings event

/-- Steps in which no compensation takes effect too late. -/
def PunctualStep : PanelNetwork → PanelNetwork → Prop :=
  Transition.Labelled (execPunctual settings)

/-- A call takes effect before the lease of its worker ends. -/
def Timely (n : PanelNetwork) : PanelEvent → Prop
  | .provision worker | .compensate worker => ∃ deadline ∈ n.deadlines[worker]?, n.clock < deadline
  | .revoke worker => ∃ deadline ∈ n.revokeDeadlines[worker]?, n.clock < deadline
  | _ => True

instance (n : PanelNetwork) (event : PanelEvent) : Decidable (n.Timely event) := by
  cases event <;> dsimp only [Timely] <;> infer_instance

/-- Execute an event unless it is a call that takes effect after its lease. -/
def execTimely (n : PanelNetwork) (event : PanelEvent) : Option PanelNetwork :=
  if n.Timely event then n.exec settings event else none

/-- Steps in which calls take effect before the lease of their worker ends. -/
def TimelyStep : PanelNetwork → PanelNetwork → Prop := Transition.Labelled (execTimely settings)

/-- The configuration is revoked, or the worker of the current attempt of its current revoke
has called the panel and only has to record it. -/
def RevokeApplied (n : PanelNetwork) (id : ℕ) (c : VpnConfiguration) : Prop :=
  c.status = .revoked ∨ ∃ worker ∈ n.revoked, ∃ d ∈ n.system.panelRevokeDispatches[worker]?,
    d.finished = false ∧ ∃ t ∈ n.system.db.panelRevokeTasks[d.prepared.taskId]?,
      t.vpnConfigurationId = id ∧ t.vpnGeneration = c.generation ∧ t.status = .inProgress ∧
        t.attempts = d.prepared.attemptNo

instance (n : PanelNetwork) (id : ℕ) (c : VpnConfiguration) : Decidable (n.RevokeApplied id c) := by
  unfold RevokeApplied
  infer_instance

/-- The last attempt of a provision raises and the task is given up, although the client is
on the panel and its revoke has been there already. -/
def AbandonsClient (n : PanelNetwork) : PanelEvent → Prop
  | .transaction (.failProvision _ worker _) => ∃ d ∈ n.system.panelDispatches[worker]?,
      ∃ t ∈ n.system.db.panelProvisionTasks[d.prepared.taskId]?,
        t.ownsLease d.prepared.leaseToken d.prepared.attemptNo = true ∧
        t.maxAttempts ≤ t.attempts ∧ t.payload.clientUuid ∈ n.clients ∧
        ∃ c ∈ n.system.db.vpnConfigurations[t.vpnConfigurationId]?,
          n.RevokeApplied t.vpnConfigurationId c
  | _ => False

instance (n : PanelNetwork) (event : PanelEvent) : Decidable (n.AbandonsClient event) := by
  cases event with
  | transaction cmd => cases cmd <;> dsimp only [AbandonsClient] <;> infer_instance
  | _ => exact instDecidableFalse

/-- Execute a timely event unless it abandons a client. -/
def execThorough (n : PanelNetwork) (event : PanelEvent) : Option PanelNetwork :=
  if n.AbandonsClient event then none else n.execTimely settings event

/-- Timely steps in which no client is abandoned. -/
def ThoroughStep : PanelNetwork → PanelNetwork → Prop :=
  Transition.Labelled (execThorough settings)

end PanelNetwork

end ShopBot
