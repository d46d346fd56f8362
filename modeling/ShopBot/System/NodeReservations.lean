import ShopBot.System.Command

/-! # Reserving capacity on a node

The transaction that creates a configuration on a node, statement by statement: an endpoint
is selected on rows that are not locked, the row of its node is locked and the candidate is
read again, and the configuration is inserted when the transaction commits. The row of the
subscription is locked from the beginning. Other transactions commit in between.
-/

namespace ShopBot

/-- `_CAPACITY_RESERVING_STATUSES` -/
def CAPACITY_RESERVING_STATUSES : List VpnConfigurationStatus :=
  [.provisioning, .active, .failed, .revoking, .revokeFailed]

theorem mem_capacityReservingStatuses {s : VpnConfigurationStatus} :
    s ∈ CAPACITY_RESERVING_STATUSES ↔ s.isTerminal = false := by
  cases s <;> decide

namespace Database

/-- The configuration reserves capacity of the node. -/
def reserves (db : Database) (nodeId : ℕ) (c : VpnConfiguration) : Bool :=
  c.status ∈ CAPACITY_RESERVING_STATUSES &&
    (db.serverEndpoints[c.serverEndpointId]?).any (·.nodeId = some nodeId)

/-- The configurations of a node, over all its endpoints, that reserve capacity. -/
def reservedClients (db : Database) (nodeId : ℕ) : ℕ :=
  db.vpnConfigurations.countP (db.reserves nodeId)

def maxClients (db : Database) (nodeId : ℕ) : ℕ :=
  ((db.nodes[nodeId]?).bind fun node => node.health.bind (·.maxClients)).getD 0

end Database

namespace ProvisionVpn

variable (settings : Settings) (ambient : Ambient)

/-- What is read before an endpoint is selected, for a subscription that needs a new
configuration: its latest configuration and the end of its access. -/
def needsConfiguration (db : Database) (subscriptionId : ℕ) :
    Option (Option (VpnConfiguration × ℕ) × DateTime) := do
  let subscription ← db.getSubscription subscriptionId
  if subscription.status ≠ .active then none
  else
    let period ← db.getCurrentPeriod subscriptionId ambient.now
    if (db.getActiveForSubscription subscriptionId).isSome then none
    else match db.getLatestForSubscription subscriptionId with
      | none => return (none, period.expiresAt)
      | some (latest, id) =>
        if latest.status ∈ [.revoking, .revokeFailed, .failed, .provisioning] then none
        else return (some (latest, id), period.expiresAt)

/-- The candidate selected on rows that are not locked. -/
def selectCandidate (db : Database) : Option NodeSelectionCandidate :=
  WeightedNodeSelector.select ambient.ticket (nodeSelectionCandidates db) ambient.now
    ⟨settings.nodeHealthStaleAfterSeconds⟩

/-- `lock_and_revalidate_candidate`: the candidate read again under the lock of its node,
when it is still eligible. -/
def revalidate (db : Database) (selected : NodeSelectionCandidate) :
    Option (NodeSelectionCandidate × ServerEndpoint) :=
  match (nodeSelectionCandidates db).find? (fun c => c.nodeId = selected.nodeId &&
      c.endpointId = selected.endpointId) with
  | none => none
  | some locked =>
    if NodeAvailabilityPolicy.eligible ⟨settings.nodeHealthStaleAfterSeconds⟩ locked ambient.now then
      (db.serverEndpoints[locked.endpointId]?).map (locked, ·)
    else none

variable {settings ambient} {db : Database} {subscriptionId : ℕ}

/-- On one state of the rows, the statements select what the transaction selects. -/
theorem selectEndpoint_eq : selectEndpoint settings ambient db =
    match selectCandidate settings ambient db with
    | some selected => (revalidate settings ambient db selected).map fun r => (r.2, r.1.endpointId)
    | none => if (nodeSelectionCandidates db).isEmpty then firstEnabledEndpoint db else none := by
  unfold selectEndpoint selectCandidate
  dsimp only
  cases WeightedNodeSelector.select ambient.ticket (nodeSelectionCandidates db) ambient.now
    ⟨settings.nodeHealthStaleAfterSeconds⟩ with
  | none => rfl
  | some selected =>
    unfold revalidate
    dsimp only
    cases (nodeSelectionCandidates db).find? (fun c => c.nodeId = selected.nodeId &&
        c.endpointId = selected.endpointId) with
    | none => rfl
    | some locked =>
      dsimp only
      split_ifs
      · rw [Option.map_map]
        rfl
      · rfl

theorem preparePlan_of_needsConfiguration {latest : Option (VpnConfiguration × ℕ)}
    {expiresAt : DateTime} (h : needsConfiguration ambient db subscriptionId =
      some (latest, expiresAt)) : preparePlan settings ambient db subscriptionId =
        provisionNew settings ambient db subscriptionId latest expiresAt := by
  obtain ⟨s, hs, h⟩ := Option.bind_eq_some_iff.1 h
  split_ifs at h with hactive hsome
  · obtain ⟨_, -, h⟩ := Option.bind_eq_some_iff.1 h
    cases h
  obtain ⟨period, hperiod, h⟩ := Option.bind_eq_some_iff.1 h
  unfold preparePlan
  rw [hs]
  dsimp only
  rw [if_neg hactive, hperiod, Option.not_isSome_iff_eq_none.1 hsome]
  dsimp only
  cases hl : db.getLatestForSubscription subscriptionId with
  | none =>
    rw [hl] at h
    cases h
    rfl
  | some found =>
    obtain ⟨c, id⟩ := found
    rw [hl] at h
    obtain ⟨hst, h⟩ := Option.ite_none_left_eq_some.1 h
    cases h
    simp only [List.mem_cons, List.not_mem_nil, or_false, not_or] at hst
    obtain ⟨h₁, h₂, h₃, h₄⟩ := hst
    dsimp only
    split <;> first | contradiction | rfl

end ProvisionVpn

/-- A transaction between the selection of an endpoint and its commit. -/
structure Reservation where
  ambient : Ambient
  subscriptionId : ℕ
  latest : Option (VpnConfiguration × ℕ)
  expiresAt : DateTime
  selected : NodeSelectionCandidate
  locked : Option (NodeSelectionCandidate × ServerEndpoint) := none
  finished : Bool := false
deriving DecidableEq, Repr

namespace Reservation

def locksSubscription (r : Reservation) (subscriptionId : ℕ) : Bool :=
  !r.finished && r.subscriptionId = subscriptionId

def locksNode (r : Reservation) (nodeId : ℕ) : Bool :=
  !r.finished && r.locked.any (·.1.nodeId = nodeId)

end Reservation

inductive ReservationEvent where
  | command (cmd : Command)

  | select (ambient : Ambient) (subscriptionId : ℕ)

  | lock (reservation : ℕ)

  | commit (reservation : ℕ)

  | rollback (reservation : ℕ)

structure NodeReservations where
  system : System
  reservations : List Reservation := []
deriving DecidableEq, Repr

namespace NodeReservations

variable (settings : Settings)

/-- The new configurations of a transaction need no lock that is held: they are on
endpoints without a node, for subscriptions that are not locked. -/
def unblocked (n : NodeReservations) (s' : System) : Bool :=
  (s'.db.vpnConfigurations.drop n.system.db.vpnConfigurations.length).all fun c =>
    (s'.db.serverEndpoints[c.serverEndpointId]?).all (·.nodeId.isNone) &&
      !n.reservations.any (·.locksSubscription c.subscriptionId)

def select (n : NodeReservations) (ambient : Ambient) (subscriptionId : ℕ) :
    Option NodeReservations :=
  if n.reservations.any (·.locksSubscription subscriptionId) then none
  else do
    let (latest, expiresAt) ← ProvisionVpn.needsConfiguration ambient n.system.db subscriptionId
    let selected ← ProvisionVpn.selectCandidate settings ambient n.system.db
    return { n with reservations := n.reservations ++ [{
      ambient := ambient
      subscriptionId := subscriptionId
      latest := latest
      expiresAt := expiresAt
      selected := selected }] }

/-- The lock is granted when no other transaction holds it. -/
def lock (n : NodeReservations) (i : ℕ) : Option NodeReservations := do
  let r ← n.reservations[i]?
  if r.finished || r.locked.isSome || n.reservations.any (·.locksNode r.selected.nodeId) then none
  else match ProvisionVpn.revalidate settings r.ambient n.system.db r.selected with
    | none => return { n with reservations := n.reservations.set i { r with finished := true } }
    | some locked =>
      return { n with reservations := n.reservations.set i { r with locked := some locked } }

def commit (n : NodeReservations) (i : ℕ) : Option NodeReservations := do
  let r ← n.reservations[i]?
  if r.finished then none
  else
    let (locked, endpoint) ← r.locked
    let (_, db) ← (ProvisionVpn.provisionOn settings r.ambient n.system.db r.subscriptionId endpoint
      locked.endpointId r.latest r.expiresAt).toOption
    return {
      system := { n.system with db := db }
      reservations := n.reservations.set i { r with finished := true } }

def rollback (n : NodeReservations) (i : ℕ) : Option NodeReservations := do
  let r ← n.reservations[i]?
  return { n with reservations := n.reservations.set i { r with finished := true } }

def exec (n : NodeReservations) : ReservationEvent → Option NodeReservations
  | .command cmd => do
    let s ← n.system.exec settings cmd
    if n.unblocked s then return { n with system := s } else none
  | .select ambient subscriptionId => n.select settings ambient subscriptionId
  | .lock i => n.lock settings i
  | .commit i => n.commit settings i
  | .rollback i => n.rollback i

def Initial (n : NodeReservations) : Prop := n.system.Initial ∧ n.reservations = []

def Step : NodeReservations → NodeReservations → Prop := Transition.Labelled (exec settings)

/-- No node is given less room than it had. -/
def Grows (n n' : NodeReservations) : Prop :=
  ∀ nodeId, n.system.db.maxClients nodeId ≤ n'.system.db.maxClients nodeId

end NodeReservations

end ShopBot
