import ShopBot.UseCases.Settings

/-! # Dispatching panel provision tasks

A claimed task either provisions the client or compensates an earlier provision whose
outcome is not known. A provision that is no longer wanted keeps its claim and is
compensated by the same worker.
-/

namespace ShopBot

inductive PanelAction where
  | provision

  | compensate
deriving DecidableEq, Repr

structure PreparedPanelDispatch where
  taskId : ℕ
  leaseToken : Uuid
  attemptNo : ℕ
  action : PanelAction
  payload : PanelPayload
deriving DecidableEq, Repr

inductive PanelPreparation where
  | prepared (p : PreparedPanelDispatch)

  | result (status : String)
deriving DecidableEq, Repr

inductive PanelOutcome where
  | activated

  | leaseLost

  | compensate
deriving DecidableEq, Repr

namespace DispatchPanelProvisionTask

variable (settings : Settings) (ambient : Ambient)

def prepare (db : Database) (taskId : ℕ) : Except Error (PanelPreparation × Database) := do
  match ← db.getPanelProvisionTask settings.mapper taskId with
  | none => return (.result "missing", db)
  | some t =>
    if t.status.isTerminal then return (.result t.status.text, db)
    else if t.canDispatch ambient.now then
      let t ← t.startAttempt ambient.now (ambient.now + seconds settings.panelLeaseSeconds)
        ambient.leaseToken
      return (.prepared {
        taskId := taskId
        leaseToken := ambient.leaseToken
        attemptNo := t.attempts
        action := if t.compensationRequired then .compensate else .provision
        payload := t.payload }, db.savePanelProvisionTask taskId t)
    else return (.result t.status.text, db)

/-- The current operation of a configuration that is being provisioned. -/
def isCurrentProvision (generation : ℕ) (c : VpnConfiguration) : Bool :=
  generation = c.generation && c.desiredState = .active && c.status = .provisioning

/-- The provision has taken effect but is not wanted: keep the claim and compensate. -/
def keepForCompensation (db : Database) (t : PanelProvisionTask) (taskId : ℕ) (error : String) :
    Except Error (PanelOutcome × Database) := do
  let t ← t.markCompensationRequired ambient.now error
  return (.compensate, db.savePanelProvisionTask taskId t)

/-- The part of the success finalisation that runs while the lease is active. -/
def settleProvision (db : Database) (t : PanelProvisionTask) (taskId : ℕ) :
    Except Error (PanelOutcome × Database) :=
  let period := db.getCurrentPeriod t.subscriptionId ambient.now
  match db.getConfiguration t.vpnConfigurationId with
  | none => .error (.runtime "VPN configuration for panel task was not found")
  | some c =>
    if isCurrentProvision t.vpnGeneration c then
      if period.isSome then do
        let c ← c.activate none
        let t ← t.complete ambient.now
        return (.activated, ((db.saveConfiguration t.vpnConfigurationId c).savePanelProvisionTask
          taskId t).appendAudit .vpnConfigurationActivated .vpnConfiguration
          t.vpnConfigurationId)
      else do
        let c ← c.cancelProvisioningForRevoke
        keepForCompensation ambient (db.saveConfiguration t.vpnConfigurationId c) t taskId
          "subscription access expired during panel provisioning"
    else keepForCompensation ambient db t taskId "stale panel provision success requires compensation"

def finalizeProvisionSuccess (db : Database) (prepared : PreparedPanelDispatch) :
    Except Error (PanelOutcome × Database) := do
  match ← db.getPanelProvisionTask settings.mapper prepared.taskId with
  | none => .error (.runtime "Panel provision task disappeared during finalization")
  | some t =>
    if t.ownsActiveLease prepared.leaseToken prepared.attemptNo ambient.now then
      settleProvision ambient db t prepared.taskId
    else if t.ownsLease prepared.leaseToken prepared.attemptNo then
      keepForCompensation ambient db t prepared.taskId "panel lease expired after remote success"
    else return (.leaseLost, db)

/-- Fail the configuration of a task that has failed for good. -/
def failCurrentProvision (db : Database) (t : PanelProvisionTask) : Except Error Database :=
  match db.getConfiguration t.vpnConfigurationId with
  | none => .ok db
  | some c =>
    if isCurrentProvision t.vpnGeneration c then
      c.failProvisioning.map (db.saveConfiguration t.vpnConfigurationId)
    else .ok db

def finalizeRemoteFailure (db : Database) (prepared : PreparedPanelDispatch)
    (errorName : String) : Except Error (String × Database) := do
  match ← db.getPanelProvisionTask settings.mapper prepared.taskId with
  | none => return ("lease_lost", db)
  | some t =>
    if t.ownsLease prepared.leaseToken prepared.attemptNo then
      let t := t.retry ambient.now s!"panel provision failed: {errorName}"
        settings.panelRetryBaseSeconds
      let db := db.savePanelProvisionTask prepared.taskId t
      if t.status = .failed then
        let db ← failCurrentProvision db t
        return ("failed", db)
      else return ("retry_scheduled", db)
    else return ("lease_lost", db)

/-- A revoke that overtook the provision is completed by its compensation. -/
def completesCancelledProvision (c : VpnConfiguration) (t : PanelProvisionTask) : Bool :=
  c.status = .revoking && c.desiredState = .revoked && c.generation = t.vpnGeneration + 1

/-- The configuration no longer wants the provision that has been compensated. -/
def terminalLocalState (c : Option VpnConfiguration) (t : PanelProvisionTask) : Bool :=
  match c with
  | none => true
  | some c => t.vpnGeneration ≠ c.generation || c.desiredState = .revoked || c.isTerminal

def recordCompensationSuccess (db : Database) (prepared : PreparedPanelDispatch) :
    Except Error (String × Database) := do
  match ← db.getPanelProvisionTask settings.mapper prepared.taskId with
  | none => return ("lease_lost", db)
  | some t =>
    if t.ownsLease prepared.leaseToken prepared.attemptNo then
      let configuration := db.getConfiguration t.vpnConfigurationId
      let t := t.compensationSucceeded ambient.now (terminalLocalState configuration t)
      let db := db.savePanelProvisionTask prepared.taskId t
      match configuration with
      | none => return (t.status.text, db)
      | some c =>
        if completesCancelledProvision c t then
          let c ← c.revoke ambient.now
          return (t.status.text, (db.saveConfiguration t.vpnConfigurationId c).appendAudit
            .vpnConfigurationRevoked .vpnConfiguration t.vpnConfigurationId)
        else if t.status = .failed then
          let db ← failCurrentProvision db t
          return (t.status.text, db)
        else return (t.status.text, db)
    else return ("lease_lost", db)

def recordCompensationFailure (db : Database) (prepared : PreparedPanelDispatch)
    (errorName : String) : Except Error Database := do
  match ← db.getPanelProvisionTask settings.mapper prepared.taskId with
  | none => return db
  | some t =>
    if t.ownsLease prepared.leaseToken prepared.attemptNo then
      return db.savePanelProvisionTask prepared.taskId
        (t.requireCompensation ambient.now s!"panel compensation failed: {errorName}")
    else return db

def recoverOne (db : Database) (taskId : ℕ) : Except Error Database := do
  match ← db.getPanelProvisionTask settings.mapper taskId with
  | none => return db
  | some t =>
    let t ← t.recoverExpiredLease ambient.now
      "panel provision lease expired; compensation required before retry"
    return db.savePanelProvisionTask taskId t

/-- The rows are distinct, so each is read when its turn comes. -/
def recoverAll (db : Database) : List ℕ → Except Error Database
  | [] => .ok db
  | taskId :: rest => do
    let db ← recoverOne settings ambient db taskId
    recoverAll db rest

def recoverStale (db : Database) (locked : List ℕ) (limit : ℕ) : Except Error Database :=
  recoverAll settings ambient db
    (Database.staleIds (db.panelProvisionTasks.map (·.toDurableTask)) ambient.now locked limit)

end DispatchPanelProvisionTask

end ShopBot
