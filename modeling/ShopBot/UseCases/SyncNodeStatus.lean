import ShopBot.Domain.NodeHealth
import ShopBot.Persistence.NodeProbes

/-! # Probing nodes

A worker asks a node for its snapshot and records it in one transaction. Whatever raises on
the way there, the recording included, is recorded as a node that is offline.
-/

namespace ShopBot

namespace SyncNodeStatus

variable (texts : JsonTexts)

/-- What a worker has made of a node: none of the counters counts the first two. -/
inductive ProbeOutcome where
  | noCredential

  | leaseLost

  | synced

  | offline
deriving DecidableEq, Repr

/-- The values that a snapshot is stored with. -/
def snapshotReport (snapshot : NodeHealthSnapshot) (completed : DateTime) : NodeReport where
  healthStatus := snapshot.healthStatus
  agentVersion := snapshot.agentVersion
  capabilities := texts.dumps (.object snapshot.capabilities)
  metrics := {
    activeClients := snapshot.capacity.activeClients
    maxClients := snapshot.capacity.maxClients }
  statusPayload := texts.dumps (.object snapshot.statusPayload)
  inbounds := texts.dumps (.array (snapshot.inbounds.map .object))
  lastSeenAt := some completed

def offlineReport (errorText : String) : NodeReport where
  healthStatus := .offline
  agentVersion := none
  capabilities := "\x7b\x7d"
  metrics := {}
  statusPayload := "\x7b\x7d"
  inbounds := "[]"
  lastError := some errorText

/-- The transaction of a success; only a claimed node has a lease. -/
def recordSuccess (t : NodeTables) (nodeId : ℕ) (leaseToken : Option Uuid) (report : NodeReport)
    (completed : DateTime) : Except Error (Bool × NodeTables) :=
  match leaseToken with
  | some token => t.finalizeProbe nodeId token report completed
  | none => do
    let t ← t.upsertNodeStatus nodeId report (some completed) none completed
    return (true, t)

def recordFailure (t : NodeTables) (nodeId : ℕ) (leaseToken : Option Uuid) (errorText : String)
    (completed : DateTime) : Except Error NodeTables :=
  match leaseToken with
  | some token => do
    let (_, t) ← t.finalizeProbe nodeId token (offlineReport errorText) completed
    return t
  | none => t.markNodeUnreachable nodeId errorText completed

/-- One node of a worker: the gateway answers with a payload or with the text of an exception.
The clock is read before each of the two transactions. -/
def probeNode (errorText : Error → String) (t : NodeTables) (nodeId : ℕ)
    (leaseToken : Option Uuid) (hasCredential : Bool) (answer : Except String JsonObject)
    (completed failed : DateTime) : Except Error (ProbeOutcome × NodeTables) :=
  if !hasCredential then .ok (.noCredential, t)
  else
    let attempt : Except String (Bool × NodeTables) := do
      let payload ← answer
      (NodeHealthSnapshot.fromPayload texts payload >>= fun snapshot =>
        recordSuccess t nodeId leaseToken (snapshotReport texts snapshot completed)
          completed).mapError errorText
    match attempt with
    | .ok (accepted, t) => .ok (if accepted then .synced else .leaseLost, t)
    | .error text => do
      let t ← recordFailure t nodeId leaseToken text failed
      return (.offline, t)

end SyncNodeStatus

end ShopBot
