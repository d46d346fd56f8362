import ShopBot.Persistence.Maintenance
import ShopBot.Persistence.Reconciliation
import ShopBot.UseCases.Settings

/-! # Reconciling subscriptions

A batch of anomalies is listed at one instant and worked off at the same instant:
subscriptions without access are ended here, everything else is enqueued as a job. A run holds
a lease, works off a few batches, each after the last anomaly of the one before, and gives the
lease back.
-/

namespace ShopBot

def RECONCILIATION_LEASE_NAME : String := "reconcile_subscriptions"

inductive ReconcileStatus where
  | completed

  | alreadyRunning

  | leaseLost
deriving DecidableEq, Repr

structure ReconcileResult where
  status : ReconcileStatus := .completed
  batches : ℕ := 0
  processedAnomalies : ℕ := 0
  expiredSubscriptions : ℕ := 0
  vpnToRevoke : ℕ := 0
  subscriptionsToProvision : ℕ := 0
  vpnCleanup : ℕ := 0
  provisionRepairs : ℕ := 0
  revokeRepairs : ℕ := 0
  enqueueFailures : ℕ := 0
deriving DecidableEq, Repr

structure ReconcileTables where
  db : Database
  leases : MaintenanceLeases

/-- What a run meets: the readings of its clock, what others commit before each of its
transactions, and whether the queue takes each of its jobs. -/
structure ReconcileSurroundings where
  ownerToken : Uuid
  clock : ℕ → DateTime
  others : ℕ → ReconcileTables → ReconcileTables
  enqueued : ℕ → Bool

/-- A batch as it was listed. -/
structure ReconcileListing where
  db : Database
  batchNow : DateTime
  afterKindOrder : ℕ
  afterEntityId : ℕ

/-- A run so far, with the batches it has listed and the anomalies it has worked off. -/
structure ReconcileRun where
  tables : ReconcileTables
  readings : ℕ := 0
  transactions : ℕ := 0
  jobs : ℕ := 0
  result : ReconcileResult := {}
  listings : List ReconcileListing := []
  processed : List ReconciliationAnomaly := []

/-- The use case with its bounds. -/
structure ReconcileSubscriptions where
  batchSize : ℕ := 500
  maxBatchesPerRun : ℕ := 4
  leaseSeconds : ℤ := 120

namespace ReconcileSubscriptions

/-- `_expire_subscription`: whether the subscription was ended. -/
def expireSubscription (db : Database) (subscriptionId : ℕ) (now : DateTime) : Bool × Database :=
  match db.getSubscription subscriptionId with
  | none => (false, db)
  | some s =>
    if s.status ≠ .active then (false, db)
    else if (db.getCurrentPeriod subscriptionId now).isSome then (false, db)
    else (true, (db.saveSubscription subscriptionId (s.expire now)).appendAudit
      .subscriptionEnded .subscription subscriptionId)

/-- `_enqueue_anomaly`; an expired subscription has no job. -/
def jobOf (a : ReconciliationAnomaly) : Option Job :=
  match a.kind with
  | .expireSubscription => none
  | .revokeVpn => some (.revokeVpnConfiguration a.entityId .expiration)
  | .cleanupVpn => some (.revokeVpnConfiguration a.entityId .replacementCleanup)
  | .repairRevoke => some (.revokeVpnConfiguration a.entityId .force)
  | .provisionSubscription | .repairProvision => some (.provisionSubscription a.entityId)

/-- One anomaly of a batch listed at `batchNow`. -/
def processAnomaly (db : Database) (a : ReconciliationAnomaly) (batchNow : DateTime) : Database :=
  match a.kind with
  | .expireSubscription => (expireSubscription db a.entityId batchNow).2
  | _ => db

/-- `_record_enqueued` -/
def recordEnqueued (result : ReconcileResult) : ReconciliationAnomalyKind → ReconcileResult
  | .revokeVpn => { result with vpnToRevoke := result.vpnToRevoke + 1 }
  | .cleanupVpn => { result with
      vpnToRevoke := result.vpnToRevoke + 1
      vpnCleanup := result.vpnCleanup + 1 }
  | .repairRevoke => { result with
      vpnToRevoke := result.vpnToRevoke + 1
      revokeRepairs := result.revokeRepairs + 1 }
  | .provisionSubscription => { result with
      subscriptionsToProvision := result.subscriptionsToProvision + 1 }
  | .repairProvision => { result with
      subscriptionsToProvision := result.subscriptionsToProvision + 1
      provisionRepairs := result.provisionRepairs + 1 }
  | .expireSubscription => result

section Run

variable (u : ReconcileSubscriptions) (surroundings : ReconcileSurroundings)

/-- One transaction, after what others have committed. -/
def transaction {α : Type} (r : ReconcileRun) (f : ReconcileTables → α × ReconcileTables) :
    α × ReconcileRun :=
  let (a, tables) := f (surroundings.others r.transactions r.tables)
  (a, { r with tables := tables, transactions := r.transactions + 1 })

def reading (r : ReconcileRun) : DateTime × ReconcileRun :=
  (surroundings.clock r.readings, { r with readings := r.readings + 1 })

def acquireLease (r : ReconcileRun) : Bool × ReconcileRun :=
  let (now, r) := reading surroundings r
  transaction surroundings r fun tables =>
    let (acquired, leases) := tables.leases.acquireLease RECONCILIATION_LEASE_NAME
      surroundings.ownerToken now u.leaseSeconds
    (acquired, { tables with leases := leases })

def renewLease (r : ReconcileRun) : Bool × ReconcileRun :=
  let (now, r) := reading surroundings r
  transaction surroundings r fun tables =>
    let (renewed, leases) := tables.leases.renewLease RECONCILIATION_LEASE_NAME
      surroundings.ownerToken now u.leaseSeconds
    (renewed, { tables with leases := leases })

def releaseLease (r : ReconcileRun) : ReconcileRun :=
  (transaction surroundings r fun tables =>
    let (released, leases) := tables.leases.releaseLease RECONCILIATION_LEASE_NAME
      surroundings.ownerToken
    (released, { tables with leases := leases })).2

/-- The body of the inner loop. -/
def workOff (batchNow : DateTime) (r : ReconcileRun) (a : ReconciliationAnomaly) : ReconcileRun :=
  let r := { r with
    processed := r.processed ++ [a]
    result := { r.result with processedAnomalies := r.result.processedAnomalies + 1 } }
  match jobOf a with
  | none =>
    let (ended, r) := transaction surroundings r fun tables =>
      let (ended, db) := expireSubscription tables.db a.entityId batchNow
      (ended, { tables with db := db })
    if ended then { r with
      result := { r.result with expiredSubscriptions := r.result.expiredSubscriptions + 1 } }
    else r
  | some _ =>
    let result := if surroundings.enqueued r.jobs then recordEnqueued r.result a.kind
      else { r.result with enqueueFailures := r.result.enqueueFailures + 1 }
    { r with jobs := r.jobs + 1, result := result }

/-- The next batch, listed at `batchNow`. -/
def listBatch (r : ReconcileRun) (cursor : ℕ × ℕ) (batchNow : DateTime) :
    List ReconciliationAnomaly × ReconcileRun :=
  let (anomalies, r') := transaction surroundings r fun tables =>
    (tables.db.listReconciliationAnomalies batchNow cursor.1 cursor.2 u.batchSize, tables)
  (anomalies, { r' with listings := r'.listings ++ [{
    db := r'.tables.db
    batchNow := batchNow
    afterKindOrder := cursor.1
    afterEntityId := cursor.2 }] })

/-- The outer loop, with the batches that are left to it. -/
def workOffBatches : ℕ → ℕ × ℕ → ReconcileRun → ReconcileRun
  | 0, _, r => r
  | batches + 1, cursor, r =>
    let (batchNow, r) := reading surroundings r
    let (anomalies, r) := listBatch u surroundings r cursor batchNow
    match anomalies.getLast? with
    | none => r
    | some last =>
      let r := anomalies.foldl (workOff surroundings batchNow) r
      let r := { r with result := { r.result with batches := r.result.batches + 1 } }
      let (renewed, r) := renewLease u surroundings r
      if !renewed then { r with result := { r.result with status := .leaseLost } }
      else if anomalies.length < u.batchSize then r
      else workOffBatches batches (last.kind.order, last.entityId) r

def execute (tables : ReconcileTables) : ReconcileRun :=
  let (acquired, r) := acquireLease u surroundings { tables := tables }
  if !acquired then { r with result := { r.result with status := .alreadyRunning } }
  else releaseLease surroundings (workOffBatches u surroundings u.maxBatchesPerRun (0, 0) r)

end Run

/-- Consecutive runs, each with surroundings of its own. -/
def consecutive (u : ReconcileSubscriptions) :
    List ReconcileSurroundings → ReconcileTables → List ReconcileRun
  | [], _ => []
  | surroundings :: rest, tables =>
    let r := u.execute surroundings tables
    r :: consecutive u rest r.tables

end ReconcileSubscriptions

end ShopBot
