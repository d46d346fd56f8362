import ShopBot.UseCases.Settings

/-! # Dispatching panel revoke tasks

A worker claims a task, revokes the client on the panel, and records success or
failure. Expired claims return to the queue.
-/

namespace ShopBot

structure PreparedPanelRevoke where
  taskId : ℕ
  leaseToken : Uuid
  attemptNo : ℕ
  payload : PanelPayload
deriving DecidableEq, Repr

inductive PanelRevokePreparation where
  | prepared (p : PreparedPanelRevoke)

  | result (status : String)
deriving DecidableEq, Repr

namespace DispatchPanelRevokeTask

variable (settings : Settings) (ambient : Ambient)

def prepare (db : Database) (taskId : ℕ) : Except Error (PanelRevokePreparation × Database) :=
  match db.getPanelRevokeTask taskId with
  | none => .ok (.result "missing", db)
  | some t =>
    if t.status.isTerminal then .ok (.result t.status.text, db)
    else if t.canDispatch ambient.now then do
      let t ← t.startAttempt ambient.now (ambient.now + seconds settings.panelLeaseSeconds)
        ambient.leaseToken
      return (.prepared {
        taskId := taskId
        leaseToken := ambient.leaseToken
        attemptNo := t.attempts
        payload := t.payload }, db.savePanelRevokeTask taskId t)
    else .ok (.result t.status.text, db)

/-- The current revoke of a configuration that is being revoked. -/
def isCurrentRevoke (generation : ℕ) (c : VpnConfiguration) : Bool :=
  generation = c.generation && c.desiredState = .revoked && c.status = .revoking

def finalizeSuccess (db : Database) (prepared : PreparedPanelRevoke) :
    Except Error (String × Database) :=
  match db.getPanelRevokeTask prepared.taskId with
  | none => .ok ("missing", db)
  | some t =>
    if t.ownsActiveLease prepared.leaseToken prepared.attemptNo ambient.now then do
      let t ← t.complete ambient.now
      let db := db.savePanelRevokeTask prepared.taskId t
      match db.getConfiguration t.vpnConfigurationId with
      | none => return ("succeeded", db)
      | some c =>
        if isCurrentRevoke t.vpnGeneration c then
          let c ← c.revoke ambient.now
          return ("succeeded", (db.saveConfiguration t.vpnConfigurationId c).appendAudit
            .vpnConfigurationRevoked .vpnConfiguration t.vpnConfigurationId)
        else return ("succeeded", db)
    else .ok ("stale_attempt", db)

def finalizeFailure (db : Database) (prepared : PreparedPanelRevoke) (errorName : String) :
    Except Error (String × Database) :=
  match db.getPanelRevokeTask prepared.taskId with
  | none => .ok ("stale_attempt", db)
  | some t =>
    if t.ownsLease prepared.leaseToken prepared.attemptNo then do
      let t := t.retry ambient.now s!"panel revoke failed: {errorName}"
        settings.panelRetryBaseSeconds
      let db := db.savePanelRevokeTask prepared.taskId t
      if t.status = .failed then
        match db.getConfiguration t.vpnConfigurationId with
        | none => return ("failed", db)
        | some c =>
          if isCurrentRevoke t.vpnGeneration c then
            let c ← c.failRevoke
            return ("failed", db.saveConfiguration t.vpnConfigurationId c)
          else return ("failed", db)
      else return ("retry_scheduled", db)
    else .ok ("stale_attempt", db)

def recoverOne (db : Database) (taskId : ℕ) : Except Error Database :=
  match db.getPanelRevokeTask taskId with
  | none => .ok db
  | some t => do
    let t ← t.recoverExpiredLease ambient.now "panel revoke lease expired"
    return db.savePanelRevokeTask taskId t

/-- The rows are distinct, so each is read when its turn comes. -/
def recoverAll (db : Database) : List ℕ → Except Error Database
  | [] => .ok db
  | taskId :: rest => do
    let db ← recoverOne ambient db taskId
    recoverAll db rest

def recoverStale (db : Database) (locked : List ℕ) (limit : ℕ) : Except Error Database :=
  recoverAll ambient db
    (Database.staleIds (db.panelRevokeTasks.map (·.toDurableTask)) ambient.now locked limit)

end DispatchPanelRevokeTask

end ShopBot
