import Mathlib.Data.List.Sort
import ShopBot.Domain.Node

/-! # Node selection

Availability of a node for an operation, eligibility of an endpoint for a new client,
and the weighted choice among eligible nodes. The random ticket is an argument.
-/

namespace ShopBot

structure NodeSelectionCandidate where
  nodeId : ℕ
  endpointId : ℕ
  nodeStatus : NodeStatus
  isEnabled : Bool
  lastCheckedAt : Option DateTime
  activeClients : Option ℕ
  maxClients : Option ℕ
  selectionWeight : ℕ
  localReservedClients : ℕ := 0
deriving DecidableEq, Repr

def NodeSelectionCandidate.effectiveClients (c : NodeSelectionCandidate) : ℕ :=
  max (c.activeClients.getD 0) c.localReservedClients

structure NodeAvailabilityPolicy where
  staleAfterSeconds : ℤ := 180
deriving DecidableEq, Repr

namespace NodeAvailabilityPolicy

def allowsOperation (policy : NodeAvailabilityPolicy) (nodeStatus : NodeStatus)
    (isEnabled : Bool) (lastCheckedAt : Option DateTime) (now : DateTime)
    (requireEnabled : Bool) : Bool :=
  if requireEnabled && !isEnabled then false
  else match lastCheckedAt with
    | none => false
    | some checked =>
      if checked < now - seconds policy.staleAfterSeconds then false
      else nodeStatus = .online || nodeStatus = .degraded

def eligible (policy : NodeAvailabilityPolicy) (c : NodeSelectionCandidate) (now : DateTime) :
    Bool :=
  match c.maxClients with
  | none => false
  | some limit =>
    if limit = 0 then false
    else if !policy.allowsOperation c.nodeStatus c.isEnabled c.lastCheckedAt now true then false
    else c.effectiveClients < limit

end NodeAvailabilityPolicy

namespace WeightedNodeSelector

/-- `by_node.setdefault(candidate.node_id, candidate)` over the sorted pool. -/
def byNode : List NodeSelectionCandidate → List NodeSelectionCandidate → List NodeSelectionCandidate
  | chosen, [] => chosen
  | chosen, c :: rest =>
    if chosen.any (·.nodeId = c.nodeId) then byNode chosen rest else byNode (chosen ++ [c]) rest

/-- Walk the cumulative weights up to the ticket. -/
def pick (ticket : ℕ) : ℕ → List NodeSelectionCandidate → Option NodeSelectionCandidate
  | _, [] => none
  | cumulative, c :: rest =>
    if ticket < cumulative + max 1 c.selectionWeight then some c
    else pick ticket (cumulative + max 1 c.selectionWeight) rest

def candidateLe (a b : NodeSelectionCandidate) : Prop :=
  a.nodeId < b.nodeId ∨ (a.nodeId = b.nodeId ∧ a.endpointId ≤ b.endpointId)

instance : DecidableRel candidateLe := fun _ _ => inferInstanceAs (Decidable (_ ∨ _))

/-- `ticket` is the result of `randbelow(total)`. -/
def select (ticket : ℕ) (candidates : List NodeSelectionCandidate) (now : DateTime)
    (policy : NodeAvailabilityPolicy) : Option NodeSelectionCandidate :=
  let eligible := candidates.filter (policy.eligible · now)
  let online := eligible.filter (·.nodeStatus = .online)
  let pool := if online.isEmpty then eligible.filter (·.nodeStatus = .degraded) else online
  let nodes := byNode [] (pool.insertionSort candidateLe)
  match nodes with
  | [] => none
  | _ => (pick ticket 0 nodes).orElse fun _ => nodes.getLast?

variable {ticket cumulative : ℕ} {cs chosen : List NodeSelectionCandidate}
  {c : NodeSelectionCandidate} {now : DateTime} {policy : NodeAvailabilityPolicy}

theorem mem_of_mem_byNode (h : c ∈ byNode chosen cs) : c ∈ chosen ∨ c ∈ cs := by
  induction cs generalizing chosen with
  | nil => exact .inl h
  | cons d rest ih =>
    unfold byNode at h
    split_ifs at h
    · exact (ih h).imp_right (List.mem_cons_of_mem _)
    · rcases ih h with h | h
      · rcases List.mem_append.1 h with h | h
        · exact .inl h
        · exact .inr (List.mem_cons.2 (.inl (List.mem_singleton.1 h)))
      · exact .inr (List.mem_cons_of_mem _ h)

theorem mem_of_pick (h : pick ticket cumulative cs = some c) : c ∈ cs := by
  induction cs generalizing cumulative with
  | nil => simp [pick] at h
  | cons d rest ih =>
    unfold pick at h
    split_ifs at h
    · exact List.mem_cons.2 (.inl (Option.some.inj h).symm)
    · exact List.mem_cons_of_mem _ (ih h)

/-- The selector returns one of the candidates, and an eligible one. -/
theorem select_eligible (h : select ticket cs now policy = some c) :
    c ∈ cs ∧ policy.eligible c now = true := by
  suffices hm : ∀ pool : List NodeSelectionCandidate,
      (∀ d ∈ pool, d ∈ cs ∧ policy.eligible d now = true) →
      (match byNode [] (pool.insertionSort candidateLe) with
        | [] => none
        | _ => (pick ticket 0 (byNode [] (pool.insertionSort candidateLe))).orElse
            fun _ => (byNode [] (pool.insertionSort candidateLe)).getLast?) = some c →
      c ∈ cs ∧ policy.eligible c now = true by
    refine hm _ ?_ h
    intro d hd
    split_ifs at hd <;>
    · obtain ⟨hd, -⟩ := List.mem_filter.1 hd
      exact List.mem_filter.1 hd
  intro pool hpool hc
  refine hpool c ?_
  have hnode : c ∈ byNode [] (pool.insertionSort candidateLe) := by
    split at hc
    · cases hc
    · rcases hp : pick ticket 0 (byNode [] (pool.insertionSort candidateLe)) with _ | d
      · rw [hp] at hc
        exact List.mem_of_getLast? hc
      · rw [hp] at hc
        cases hc
        exact mem_of_pick hp
  rcases mem_of_mem_byNode hnode with h | h
  · cases h
  · exact (List.mem_insertionSort _).1 h

end WeightedNodeSelector

end ShopBot
