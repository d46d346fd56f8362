import ShopBot.Library.Transition
import ShopBot.Persistence.NodeProbes

/-! # Histories of probes

Nodes are registered and reported, probes are claimed at a clock that does not run backwards,
and probes are finalised in any order and by any token. Every lease that was ever given is
remembered beside the tables.
-/

namespace ShopBot

structure ProbeLease where
  nodeId : ℕ
  token : Uuid
  expiresAt : DateTime
deriving DecidableEq, Repr

structure ProbeHistory where
  tables : NodeTables := {}
  /-- When probes were last claimed. -/
  clock : DateTime := 0
  grants : List ProbeLease := []
  /-- The tokens of the accepted finalisations. -/
  returned : List Uuid := []

namespace ProbeHistory

/-- The lease that a claim gives. -/
def grant (expiresAt : DateTime) (claim : NodeProbeClaim) : ProbeLease :=
  { nodeId := claim.nodeId, token := claim.leaseToken, expiresAt }

inductive Step (h : ProbeHistory) : ProbeHistory → Prop where
  | createNode (nodeKey displayName apiBaseUrl : String) (isEnabled : Bool) (selectionWeight : ℤ)
      (status : NodeStatus) (now : DateTime) (nodeId : ℕ) (t : NodeTables)
      (created : h.tables.createNode nodeKey displayName apiBaseUrl isEnabled selectionWeight
        status now = .ok (nodeId, t)) :
      Step h { h with tables := t }

  | upsertNodeStatus (nodeId : ℕ) (report : NodeReport)
      (lastCheckedAt lastFailedAt : Option DateTime) (now : DateTime) (t : NodeTables)
      (stored : h.tables.upsertNodeStatus nodeId report lastCheckedAt lastFailedAt now = .ok t) :
      Step h { h with tables := t }

  | markNodeUnreachable (nodeId : ℕ) (errorMessage : String) (seenAt : DateTime) (t : NodeTables)
      (stored : h.tables.markNodeUnreachable nodeId errorMessage seenAt = .ok t) :
      Step h { h with tables := t }

  /-- The tokens that are drawn are new. -/
  | claimDueProbeTargets (now dueBefore : DateTime) (limit : ℕ) (leaseSeconds : ℤ)
      (uuid4 : ℕ → Uuid) (clock : h.clock ≤ now) (distinct : Function.Injective uuid4)
      (fresh : ∀ i, ∀ l ∈ h.grants, l.token ≠ uuid4 i) :
      Step h { h with
        tables := (h.tables.claimDueProbeTargets now dueBefore limit leaseSeconds uuid4).2
        clock := now
        grants := h.grants ++ (h.tables.probeClaims now dueBefore limit uuid4).map
          (grant (now + seconds leaseSeconds)) }

  | finalizeProbe (nodeId : ℕ) (leaseToken : Uuid) (report : NodeReport) (completedAt : DateTime)
      (accepted : Bool) (t : NodeTables)
      (finalized : h.tables.finalizeProbe nodeId leaseToken report completedAt
        = .ok (accepted, t)) :
      Step h { h with
        tables := t
        returned := if accepted then leaseToken :: h.returned else h.returned }

/-- No node is registered yet. -/
def Initial (h : ProbeHistory) : Prop :=
  h.tables = {} ∧ h.grants = [] ∧ h.returned = []

def Reachable : ProbeHistory → Prop := Transition.Reachable Initial Step

/-- A lease that has neither been handed back nor expired at a time. -/
structure Holds (h : ProbeHistory) (l : ProbeLease) (now : DateTime) : Prop where
  granted : l ∈ h.grants
  notReturned : l.token ∉ h.returned
  unexpired : now < l.expiresAt

end ProbeHistory

end ShopBot
