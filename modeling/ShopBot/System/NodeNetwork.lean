import ShopBot.Refinement.System

/-! # Nodes and the requests on their way

Each claimed node task sends one request. The node applies a request at some moment, or
never; a request whose key it has applied before has no further effect. A reply that
reports success comes from a request that has been applied; any other reply may come from
a request that is applied before it, after it, or not at all.
-/

namespace ShopBot

inductive RequestState where
  | inFlight

  | applied

  | dropped
deriving DecidableEq, Repr

/-- The system with its nodes: their clients, the keys they have applied, and the request
of each worker that has claimed a node task. -/
structure NodeNetwork where
  system : System
  clients : List (ℕ × Uuid) := []
  applied : List IdempotencyKey := []
  requests : List RequestState := []

inductive NodeEvent where
  | transaction (cmd : Command)

  | deliver (worker : ℕ)

  | drop (worker : ℕ)

namespace NodeNetwork

variable (settings : Settings)

/-- The operation of a node on its clients. -/
def operate (clients : List (ℕ × Uuid)) (t : NodeTask) : List (ℕ × Uuid) :=
  match t.operation with
  | .provisionClient => (t.nodeId, t.payload.clientUuid) :: clients
  | .revokeClient => clients.filter (· ≠ (t.nodeId, t.payload.clientUuid))
  | .syncStatus => clients

/-- A reply that the worker would take for success comes from an applied request. -/
def genuine (n : NodeNetwork) : Command → Bool
  | .finalizeNode _ worker (.response r) =>
    match n.system.nodeDispatches[worker]? with
    | none => true
    | some d => !d.prepared.task.acceptsRemoteStatus (r.status.getD "failed") ||
        n.requests[worker]? = some .applied
  | _ => true

/-- Commit a transaction; a task that it claims has its request sent. -/
def transaction (n : NodeNetwork) (cmd : Command) : Option NodeNetwork :=
  if n.genuine cmd then
    (n.system.exec settings cmd).map fun s => { n with
      system := s
      requests := n.requests ++
        List.replicate (s.nodeDispatches.length - n.requests.length) .inFlight }
  else none

/-- The node applies a request that is in flight. -/
def deliver (n : NodeNetwork) (worker : ℕ) : Option NodeNetwork :=
  match n.requests[worker]?, n.system.nodeDispatches[worker]? with
  | some .inFlight, some d =>
    let n' := { n with requests := n.requests.set worker .applied }
    if d.prepared.task.idempotencyKey ∈ n.applied then some n'
    else some { n' with
      clients := operate n.clients d.prepared.task
      applied := n.applied ++ [d.prepared.task.idempotencyKey] }
  | _, _ => none

def drop (n : NodeNetwork) (worker : ℕ) : Option NodeNetwork :=
  if n.requests[worker]? = some .inFlight then
    some { n with requests := n.requests.set worker .dropped }
  else none

def exec (n : NodeNetwork) : NodeEvent → Option NodeNetwork
  | .transaction cmd => n.transaction settings cmd
  | .deliver worker => n.deliver worker
  | .drop worker => n.drop worker

/-- No client and no request before the first order. -/
def Initial (n : NodeNetwork) : Prop :=
  n.system.Initial ∧ n.clients = [] ∧ n.applied = [] ∧ n.requests = []

def Step : NodeNetwork → NodeNetwork → Prop := Transition.Labelled (exec settings)

/-- No node task of the configuration is open and no request for it is in flight. -/
def Quiescent (n : NodeNetwork) (id : ℕ) : Prop :=
  (∀ t ∈ n.system.db.nodeTasks, t.vpnConfigurationId = some id → t.status.isTerminal = true) ∧
    ∀ (worker : ℕ) (d : NodeDispatch), n.system.nodeDispatches[worker]? = some d →
      d.prepared.task.vpnConfigurationId = some id → n.requests[worker]? ≠ some .inFlight

/-- The node applies a provision although it has applied the revoke of the current
generation of the configuration, which is being removed or has been. -/
def LateProvision (n : NodeNetwork) : NodeEvent → Prop
  | .deliver worker => ∃ d ∈ n.system.nodeDispatches[worker]?,
      d.prepared.task.operation = .provisionClient ∧
      d.prepared.task.idempotencyKey ∉ n.applied ∧
      ∃ id ∈ d.prepared.task.vpnConfigurationId, ∃ c ∈ n.system.db.vpnConfigurations[id]?,
        (c.status = .revoking ∨ c.status = .revoked) ∧ ∃ t ∈ n.system.db.nodeTasks,
          Database.isVpnTask id .revokeClient c.generation t = true ∧ t.idempotencyKey ∈ n.applied
  | _ => False

instance (n : NodeNetwork) (event : NodeEvent) : Decidable (n.LateProvision event) := by
  cases event <;> dsimp only [LateProvision] <;> infer_instance

/-- Execute an event unless it is a provision that comes too late. -/
def execPunctual (n : NodeNetwork) (event : NodeEvent) : Option NodeNetwork :=
  if n.LateProvision event then none else n.exec settings event

/-- Steps in which no node applies a provision too late. -/
def PunctualStep : NodeNetwork → NodeNetwork → Prop := Transition.Labelled (execPunctual settings)

end NodeNetwork

end ShopBot
