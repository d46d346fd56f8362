import ShopBot.Library.Transition
import ShopBot.UseCases.AdminOperations
import ShopBot.UseCases.CreatePayment
import ShopBot.UseCases.DispatchNodeTask
import ShopBot.UseCases.DispatchPanelProvisionTask
import ShopBot.UseCases.DispatchPanelRevokeTask
import ShopBot.UseCases.IngestWebhook
import ShopBot.UseCases.ProcessPayment
import ShopBot.UseCases.ProvisionVpn
import ShopBot.UseCases.ReconcileSubscriptions
import ShopBot.UseCases.RevokeVpn

/-! # The system

The database with the workers that are between two of their transactions. Each command
is one committed transaction; commands run in any order, any number of times, at any
clock value, and a worker that stops between its transactions simply issues no further
command. A transaction that raises is rolled back and is not a step.
-/

namespace ShopBot

structure NodeDispatch where
  prepared : PreparedDispatch
  finished : Bool := false
deriving DecidableEq, Repr

/-- Where a panel worker stands: it provisions, or it compensates a provision. -/
inductive PanelStage where
  | provisioning

  | compensating

  | finished
deriving DecidableEq, Repr

structure PanelDispatch where
  prepared : PreparedPanelDispatch
  stage : PanelStage
deriving DecidableEq, Repr

structure PanelRevokeDispatch where
  prepared : PreparedPanelRevoke
  finished : Bool := false
deriving DecidableEq, Repr

structure InvoiceClaim where
  prepared : PreparedPaymentOrder
  token : Uuid
  finished : Bool := false
deriving DecidableEq, Repr

structure ReconcileBatch where
  now : DateTime
  anomalies : List ReconciliationAnomaly
deriving DecidableEq, Repr

structure System where
  db : Database
  nodeDispatches : List NodeDispatch := []
  panelDispatches : List PanelDispatch := []
  panelRevokeDispatches : List PanelRevokeDispatch := []
  invoiceClaims : List InvoiceClaim := []
  batches : List ReconcileBatch := []
deriving DecidableEq, Repr

inductive Command where
  | provisionVpn (ambient : Ambient) (subscriptionId : ℕ)

  | revokeVpn (ambient : Ambient) (vpnConfigurationId : ℕ) (reason : VpnRevokeReason)

  | prepareNode (ambient : Ambient) (taskId : ℕ)

  | finalizeNode (ambient : Ambient) (worker : ℕ) (reply : NodeReply)

  | recoverNodes (ambient : Ambient) (locked : List ℕ) (limit : ℕ)

  | preparePanel (ambient : Ambient) (taskId : ℕ)

  /-- The panel has confirmed the provision. -/
  | finalizeProvision (ambient : Ambient) (worker : ℕ)

  /-- The success finalisation itself has raised. -/
  | abortProvision (worker : ℕ)

  /-- The provision call has raised. -/
  | failProvision (ambient : Ambient) (worker : ℕ) (errorName : String)

  | recordCompensation (ambient : Ambient) (worker : ℕ)

  | recordCompensationFailure (ambient : Ambient) (worker : ℕ) (errorName : String)

  | recoverPanelProvisions (ambient : Ambient) (locked : List ℕ) (limit : ℕ)

  | preparePanelRevoke (ambient : Ambient) (taskId : ℕ)

  | finalizePanelRevoke (ambient : Ambient) (worker : ℕ)

  | failPanelRevoke (ambient : Ambient) (worker : ℕ) (errorName : String)

  | recoverPanelRevokes (ambient : Ambient) (locked : List ℕ) (limit : ℕ)

  | createPayment (request : PaymentRequest) (now : DateTime) (leaseSeconds : ℤ) (token : Uuid)

  | finalizeInvoice (claim : ℕ) (intent : PaymentIntent) (now : DateTime)

  | failInvoice (claim : ℕ) (now : DateTime)

  | ingestWebhook (provider : String) (webhook : NormalizedWebhookEvent)
      (headers rawPayload : Payload) (now : DateTime)

  | processPayment (now : DateTime) (eventId : ℕ)

  | markPaymentOrderPaid (orderId : ℕ) (now : DateTime)

  | listAnomalies (now : DateTime) (afterKindOrder afterEntityId limit : ℕ)

  | processAnomaly (batch index : ℕ)

  /-- Probes and administration: nodes and tariffs change, endpoints are added. -/
  | administer (nodes : List Node) (tariffs : List Tariff) (endpoints : List ServerEndpoint)

namespace System

variable (settings : Settings)

/-- Replace the database by the result of a transaction, if it commits. -/
def commit {α : Type} (s : System) (result : Except Error (α × Database)) : Option System :=
  result.toOption.map fun r => { s with db := r.2 }

def commitDb (s : System) (result : Except Error Database) : Option System :=
  result.toOption.map fun db => { s with db := db }

def prepareNode (s : System) (ambient : Ambient) (taskId : ℕ) : Option System := do
  let (preparation, db) ← (DispatchNodeTask.prepare settings ambient s.db taskId).toOption
  match preparation with
  | .prepared p => return { s with
      db := db
      nodeDispatches := s.nodeDispatches ++ [{ prepared := p }] }
  | .result _ => return { s with db := db }

def finalizeNode (s : System) (ambient : Ambient) (worker : ℕ) (reply : NodeReply) :
    Option System := do
  let w ← s.nodeDispatches[worker]?
  if w.finished then none
  else
    let (_, db) ← (DispatchNodeTask.finalize settings ambient s.db w.prepared reply).toOption
    return { s with
      db := db
      nodeDispatches := s.nodeDispatches.set worker { w with finished := true } }

/-- The stage of a panel worker that has claimed a task. -/
def stageOf : PanelAction → PanelStage
  | .provision => .provisioning
  | .compensate => .compensating

def preparePanel (s : System) (ambient : Ambient) (taskId : ℕ) : Option System := do
  let (preparation, db) ←
    (DispatchPanelProvisionTask.prepare settings ambient s.db taskId).toOption
  match preparation with
  | .prepared p => return { s with
      db := db
      panelDispatches := s.panelDispatches ++ [{ prepared := p, stage := stageOf p.action }] }
  | .result _ => return { s with db := db }

/-- Run a transaction of a panel worker that stands at a given stage. -/
def panelTransaction (s : System) (worker : ℕ) (stage : PanelStage)
    (run : PreparedPanelDispatch → Except Error (PanelStage × Database)) : Option System := do
  let w ← s.panelDispatches[worker]?
  if w.stage ≠ stage then none
  else
    let (next, db) ← (run w.prepared).toOption
    return { s with
      db := db
      panelDispatches := s.panelDispatches.set worker { w with stage := next } }

/-- How a worker goes on after the success finalisation. -/
def stageAfter : PanelOutcome → PanelStage
  | .compensate => .compensating
  | _ => .finished

def preparePanelRevoke (s : System) (ambient : Ambient) (taskId : ℕ) : Option System := do
  let (preparation, db) ← (DispatchPanelRevokeTask.prepare settings ambient s.db taskId).toOption
  match preparation with
  | .prepared p => return { s with
      db := db
      panelRevokeDispatches := s.panelRevokeDispatches ++ [{ prepared := p }] }
  | .result _ => return { s with db := db }

def panelRevokeTransaction (s : System) (worker : ℕ)
    (run : PreparedPanelRevoke → Except Error (String × Database)) : Option System := do
  let w ← s.panelRevokeDispatches[worker]?
  if w.finished then none
  else
    let (_, db) ← (run w.prepared).toOption
    return { s with
      db := db
      panelRevokeDispatches := s.panelRevokeDispatches.set worker { w with finished := true } }

def createPayment (s : System) (request : PaymentRequest) (now : DateTime) (leaseSeconds : ℤ)
    (token : Uuid) : Option System := do
  let (p, db) ← (CreatePayment.prepareOrder s.db request now leaseSeconds token).toOption
  if p.ownsCreationClaim then
    return { s with
      db := db
      invoiceClaims := s.invoiceClaims ++ [{ prepared := p, token := token }] }
  else return { s with db := db }

def invoiceTransaction (s : System) (claim : ℕ)
    (run : InvoiceClaim → Except Error Database) : Option System := do
  let w ← s.invoiceClaims[claim]?
  if w.finished then none
  else
    let db ← (run w).toOption
    return { s with
      db := db
      invoiceClaims := s.invoiceClaims.set claim { w with finished := true } }

def exec (s : System) : Command → Option System
  | .provisionVpn ambient subscriptionId =>
    s.commit (ProvisionVpn.preparePlan settings ambient s.db subscriptionId)
  | .revokeVpn ambient id reason => s.commit (RevokeVpn.preparePlan settings ambient s.db id reason)
  | .prepareNode ambient taskId => s.prepareNode settings ambient taskId
  | .finalizeNode ambient worker reply => s.finalizeNode settings ambient worker reply
  | .recoverNodes ambient locked limit =>
    s.commitDb (DispatchNodeTask.recoverStale settings ambient s.db locked limit)
  | .preparePanel ambient taskId => s.preparePanel settings ambient taskId
  | .finalizeProvision ambient worker =>
    s.panelTransaction worker .provisioning fun p => do
      let (outcome, db) ← DispatchPanelProvisionTask.finalizeProvisionSuccess settings ambient
        s.db p
      return (stageAfter outcome, db)
  | .abortProvision worker =>
    s.panelTransaction worker .provisioning fun _ => .ok (.compensating, s.db)
  | .failProvision ambient worker errorName =>
    s.panelTransaction worker .provisioning fun p => do
      let (_, db) ← DispatchPanelProvisionTask.finalizeRemoteFailure settings ambient s.db p
        errorName
      return (.finished, db)
  | .recordCompensation ambient worker =>
    s.panelTransaction worker .compensating fun p => do
      let (_, db) ← DispatchPanelProvisionTask.recordCompensationSuccess settings ambient s.db p
      return (.finished, db)
  | .recordCompensationFailure ambient worker errorName =>
    s.panelTransaction worker .compensating fun p => do
      let db ← DispatchPanelProvisionTask.recordCompensationFailure settings ambient s.db p
        errorName
      return (.finished, db)
  | .recoverPanelProvisions ambient locked limit =>
    s.commitDb (DispatchPanelProvisionTask.recoverStale settings ambient s.db locked limit)
  | .preparePanelRevoke ambient taskId => s.preparePanelRevoke settings ambient taskId
  | .finalizePanelRevoke ambient worker =>
    s.panelRevokeTransaction worker (DispatchPanelRevokeTask.finalizeSuccess ambient s.db)
  | .failPanelRevoke ambient worker errorName =>
    s.panelRevokeTransaction worker fun p =>
      DispatchPanelRevokeTask.finalizeFailure settings ambient s.db p errorName
  | .recoverPanelRevokes ambient locked limit =>
    s.commitDb (DispatchPanelRevokeTask.recoverStale ambient s.db locked limit)
  | .createPayment request now leaseSeconds token =>
    s.createPayment request now leaseSeconds token
  | .finalizeInvoice claim intent now =>
    s.invoiceTransaction claim fun w => do
      let (_, db) ← CreatePayment.finalizeOwnedClaim s.db w.prepared.orderId w.prepared.order
        w.prepared.attemptId w.token intent now
      return db
  | .failInvoice claim now =>
    s.invoiceTransaction claim fun w =>
      CreatePayment.failOwnedClaim s.db w.prepared.attemptId w.token now
  | .ingestWebhook provider webhook headers rawPayload now =>
    s.commit (IngestWebhook.execute s.db provider webhook headers rawPayload now)
  | .processPayment now eventId => s.commit (ProcessPayment.execute now s.db eventId)
  | .markPaymentOrderPaid orderId now =>
    s.commit (AdminOperations.markPaymentOrderPaid s.db orderId now)
  | .listAnomalies now afterKindOrder afterEntityId limit =>
    some { s with batches := s.batches ++ [{
      now := now
      anomalies := s.db.listReconciliationAnomalies now afterKindOrder afterEntityId limit }] }
  | .processAnomaly batch index => do
    let b ← s.batches[batch]?
    let a ← b.anomalies[index]?
    return { s with db := ReconcileSubscriptions.processAnomaly s.db a b.now }
  | .administer nodes tariffs endpoints =>
    some { s with db := { s.db with
      nodes := nodes
      tariffs := tariffs
      serverEndpoints := s.db.serverEndpoints ++ endpoints } }

/-- Nothing has been ordered, provisioned or queued yet. -/
def Initial (s : System) : Prop :=
  s = { db := {
    users := s.db.users
    tariffs := s.db.tariffs
    nodes := s.db.nodes
    serverEndpoints := s.db.serverEndpoints } }

def Step : System → System → Prop := Transition.Labelled (exec settings)

def Reachable : System → Prop := Transition.Reachable Initial (Step settings)

end System

end ShopBot
