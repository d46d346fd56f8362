import ShopBot.Library.LockOrder
import ShopBot.System.Command

/-! # Row locks of the transactions

The rows that each transaction locks, by `SELECT … FOR UPDATE` or by an `UPDATE`, in the
order of its statements. What it reads in between, and so which branch it takes, depends on
the rows that are committed by then. Writing a row that the transaction has locked before
takes no further lock and is left out.
-/

namespace ShopBot

namespace RowLocks

open LockOrder

inductive RowClass where
  | paymentEvent

  | paymentOrder

  | paymentAttempt

  | task

  | subscription

  | period

  | configuration

  | node
deriving DecidableEq, Repr

inductive Row where
  | event (id : ℕ)

  | order (id : ℕ)

  | attempt (id : ℕ)

  | nodeTask (id : ℕ)

  | panelProvisionTask (id : ℕ)

  | panelRevokeTask (id : ℕ)

  | subscription (id : ℕ)

  | period (id : ℕ)

  | configuration (id : ℕ)

  | node (id : ℕ)
deriving DecidableEq, Repr

def Row.rowClass : Row → RowClass
  | event _ => .paymentEvent
  | order _ => .paymentOrder
  | attempt _ => .paymentAttempt
  | nodeTask _ | panelProvisionTask _ | panelRevokeTask _ => .task
  | subscription _ => .subscription
  | period _ => .period
  | configuration _ => .configuration
  | node _ => .node

abbrev Transaction := Script Database Row

variable (settings : Settings) (ambient : Ambient)

/-! ## Payments -/

/-- `_prepare_order`; the order is found by its key, or it is the one just inserted. -/
def prepareOrder (r : PaymentRequest) (now : DateTime) : Transaction :=
  .read fun db =>
    match CreatePayment.resolveUser db r, db.tariffs[r.tariffId]? with
    | .ok (userId, db), some t =>
      if !t.isEnabled then .ends
      else
        let candidate := CreatePayment.candidateOrder r userId t
        let orderId := (db.addOrder candidate).1
        .lock (.order orderId) (.read fun db =>
          match db.getOrder orderId with
          | none => .ends
          | some o =>
            if o.hasSameCreationIdentity candidate then
              .read fun db =>
                match db.getLatestAttempt orderId with
                | some (a, attemptId) =>
                  if a.status = .created && !a.creationClaimIsActive now then
                    .lock (.attempt attemptId) .ends
                  else .ends
                | none => .ends
            else .ends)
    | _, _ => .ends

/-- `_finalize_owned_claim` and `_fail_owned_claim`. -/
def settleOwnedClaim (attemptId : ℕ) : Transaction := .lock (.attempt attemptId) .ends

/-- `ActivateSubscription.execute`. -/
def activateSubscription (userId tariffId : ℕ) : Transaction :=
  .read fun db =>
    match db.getActiveSubscriptionForUser userId with
    | none => .ends
    | some (_, subscriptionId) =>
      .lock (.subscription subscriptionId) (.read fun db =>
        match db.getSubscription subscriptionId with
        | none => .ends
        | some s =>
          if s.status = .active ∧ s.tariffId = tariffId then
            .read fun db =>
              let rows := Table.select (fun p => p.subscriptionId = some subscriptionId)
                db.subscriptionPeriods
              match Database.latestBy (·.1.expiresAt) rows with
              | none => .ends
              | some (_, periodId) => .lock (.period periodId) .ends
          else .ends)

/-- The rest of a refund that has reached the amount of its order. -/
def withdrawFunding (orderId : ℕ) : Transaction :=
  .read fun db =>
    match db.getPeriodByPaymentOrderId orderId with
    | none => .ends
    | some (period, periodId) =>
      .lock (.period periodId)
        (match period.subscriptionId with
        | none => .ends
        | some subscriptionId => .lock (.subscription subscriptionId) .ends)

/-- The order and the attempt of an event that refers to the attempt. -/
def lockOrderAndAttempt (attemptId : ℕ) (next : Transaction) : Transaction :=
  .read fun db =>
    match db.getAttempt attemptId with
    | none => .ends
    | some a =>
      .lock (.order a.paymentOrderId) (.read fun db =>
        match db.getOrder a.paymentOrderId with
        | none => .ends
        | some _ => .lock (.attempt attemptId) next)

def processRefund (e : PaymentEvent) : Transaction :=
  match e.paymentAttemptId with
  | none => .ends
  | some attemptId =>
    lockOrderAndAttempt attemptId (.read fun db =>
      match (db.getAttempt attemptId).bind fun a =>
        (db.getOrder a.paymentOrderId).map (·, a.paymentOrderId) with
      | none => .ends
      | some (o, orderId) =>
        match e.amountMinor, e.currency with
        | some amount, some currency =>
          if amount ≤ 0 then .ends
          else if currency ≠ o.amount.currency || (o.amount.minor : ℤ) < amount then .ends
          else .read fun db =>
            let cumulative := db.sumProviderTransactions orderId e.provider "refund_succeeded"
              "succeeded"
            if (o.amount.minor : ℤ) ≤ cumulative then withdrawFunding orderId else .ends
        | _, _ => .ends)

def processPaid (now : DateTime) (e : PaymentEvent) : Transaction :=
  match e.paymentAttemptId with
  | none => .ends
  | some attemptId =>
    lockOrderAndAttempt attemptId (.read fun db =>
      match (db.getAttempt attemptId).bind fun a => (db.getOrder a.paymentOrderId).map (a, ·) with
      | none => .ends
      | some (a, o) =>
        match validatePaidSettlement e a a.paymentOrderId o with
        | .error _ => .ends
        | .ok () =>
          if (a.applyProviderStatus .paid e.payload).2 = .stale then .ends
          else match o.markPaid now with
            | .ok (_, true) => activateSubscription o.userId o.tariffId
            | _ => .ends)

/-- An event that is not paid: its own attempt is locked, the latest one when it is saved. -/
def processOther (e : PaymentEvent) : Transaction :=
  .read fun db =>
    match ProcessPayment.resolveOrderReference db e with
    | none => .ends
    | some orderId =>
      .lock (.order orderId) (.read fun db =>
        match db.getOrder orderId, e.paymentAttemptId with
        | none, _ => .ends
        | some _, some attemptId => .lock (.attempt attemptId) .ends
        | some _, none => .read fun db =>
          match db.getLatestAttempt orderId with
          | none => .ends
          | some (a, attemptId) =>
            let status := e.normalizedPaymentStatus
            if status = .failed ∨ status = .expired ∨ status = .cancelled then
              if (a.applyProviderStatus status e.payload).2 = .stale then .ends
              else .lock (.attempt attemptId) .ends
            else .ends)

def processPayment (now : DateTime) (eventId : ℕ) : Transaction :=
  .lock (.event eventId) (.read fun db =>
    match db.getEvent eventId with
    | none => .ends
    | some e =>
      if e.status = .processed ∨ e.status = .ignored then .ends
      else if e.eventType = "refund.succeeded" then processRefund e
      else if e.normalizedPaymentStatus = .paid then processPaid now e
      else processOther e)

def markPaymentOrderPaid (orderId : ℕ) (now : DateTime) : Transaction :=
  .lock (.order orderId) (.read fun db =>
    match db.getOrder orderId with
    | none => .ends
    | some o =>
      match o.markPaid now with
      | .ok (_, true) => activateSubscription o.userId o.tariffId
      | _ => .ends)

/-! ## Subscriptions and configurations -/

def expireSubscription (subscriptionId : ℕ) : Transaction :=
  .lock (.subscription subscriptionId) .ends

def selectEndpoint : Transaction :=
  .read fun db =>
    match WeightedNodeSelector.select ambient.ticket (ProvisionVpn.nodeSelectionCandidates db)
        ambient.now ⟨settings.nodeHealthStaleAfterSeconds⟩ with
    | none => .ends
    | some selected => .lock (.node selected.nodeId) .ends

/-- A provision that has succeeded is recovered by an update of its configuration. -/
def reuseExistingProvisioning (latest : VpnConfiguration) (id : ℕ) : Transaction :=
  if latest.desiredState ≠ .active then .ends
  else .read fun db =>
    match (db.getConfigurationWithEndpoint id).map (·.2.nodeId) with
    | none => .ends
    | some (some _) => .read fun db =>
      match db.getVpnTaskForGeneration id .provisionClient latest.generation with
      | none => .ends
      | some (t, _) => if t.status = .succeeded then .lock (.configuration id) .ends else .ends
    | some none => .read fun db =>
      match db.getPanelTaskForConfiguration settings.mapper id with
      | .ok (some (t, _)) =>
        if t.status = .succeeded then .lock (.configuration id) .ends else .ends
      | _ => .ends

def provisionVpn (subscriptionId : ℕ) : Transaction :=
  .lock (.subscription subscriptionId) (.read fun db =>
    match db.getSubscription subscriptionId with
    | none => .ends
    | some subscription =>
      if subscription.status ≠ .active then .ends
      else .read fun db =>
        if (db.getCurrentPeriod subscriptionId ambient.now).isNone then .ends
        else .read fun db =>
          if (db.getActiveForSubscription subscriptionId).isSome then .ends
          else .read fun db =>
            match db.getLatestForSubscription subscriptionId with
            | none => selectEndpoint settings ambient
            | some (latest, id) =>
              match latest.status with
              | .revoking | .revokeFailed | .failed => .ends
              | .provisioning => reuseExistingProvisioning settings latest id
              | _ => selectEndpoint settings ambient)

def revokeVpn (id : ℕ) (reason : VpnRevokeReason) : Transaction :=
  .read fun db =>
    match db.getConfigurationWithEndpoint id with
    | none => .ends
    | some (c, _) =>
      if reason = .expiration then
        .lock (.subscription c.subscriptionId) (.read fun db =>
          match db.getSubscription c.subscriptionId with
          | none => .ends
          | some subscription => .read fun db =>
            if subscription.status = .active &&
                (db.getCurrentPeriod c.subscriptionId ambient.now).isSome then .ends
            else .lock (.configuration id) .ends)
      else .lock (.configuration id) .ends

/-! ## Node tasks -/

/-- `_mark_configuration_failure`, when the task has failed for good. -/
def markConfigurationFailure (t : NodeTask) (next : Transaction) : Transaction :=
  if t.status = .failed then
    match t.vpnConfigurationId with
    | none => next
    | some id => .lock (.configuration id) next
  else next

def failOrRetry (t : NodeTask) (lastError : String) (response : Option NodeResponse) :
    Transaction :=
  markConfigurationFailure (t.retry lastError response ambient.now settings.nodeRetryBaseSeconds)
    .ends

def prepareNode (taskId : ℕ) : Transaction :=
  .lock (.nodeTask taskId) (.read fun db =>
    match db.getNodeTask taskId with
    | none => .ends
    | some t =>
      if (DispatchNodeTask.earlyResult t ambient.now).isSome then .ends
      else .read fun db =>
        match db.nodes[t.nodeId]? with
        | none => .ends
        | some node =>
          if DispatchNodeTask.allowsOperation settings ambient t node then
            match t.startAttempt ambient.now (ambient.now + seconds settings.nodeLeaseSeconds)
                ambient.leaseToken with
            | .error _ => .ends
            | .ok t =>
              if node.activeCredential.isNone then
                failOrRetry settings ambient t "Active node credential not found" none
              else .ends
          else .ends)

/-- Task, subscription, configuration. -/
def completeProvision (t : NodeTask) (configurationId : ℕ) : Transaction :=
  match t.subscriptionId with
  | none => .lock (.configuration configurationId) .ends
  | some subscriptionId =>
    .lock (.subscription subscriptionId) (.lock (.configuration configurationId) .ends)

def finalizeNode (prepared : PreparedDispatch) (reply : NodeReply) : Transaction :=
  .lock (.nodeTask prepared.taskId) (.read fun db =>
    match db.getNodeTask prepared.taskId with
    | none => .ends
    | some t =>
      if t.ownsActiveLease prepared.leaseToken prepared.attemptNo ambient.now then
        match reply with
        | .error text => failOrRetry settings ambient t text none
        | .response r =>
          if t.acceptsRemoteStatus (r.status.getD "failed") then
            match t.operation, t.vpnConfigurationId with
            | .provisionClient, some id => completeProvision t id
            | .revokeClient, some id => .lock (.configuration id) .ends
            | _, _ => .ends
          else failOrRetry settings ambient t (DispatchNodeTask.errorFromResponse r) (some r)
      else .ends)

/-- The claimed tasks one after the other. -/
def recoverTasks : List Row → Transaction
  | .nodeTask taskId :: rest =>
    .read fun db =>
      match db.getNodeTask taskId with
      | none => recoverTasks rest
      | some t =>
        if t.leaseIsExpired ambient.now then
          match t.recoverExpiredLease ambient.now "node task lease expired"
              settings.nodeRetryBaseSeconds with
          | .error _ => .ends
          | .ok t => markConfigurationFailure t (recoverTasks rest)
        else recoverTasks rest
  | _ => .ends

def stale (rows : List DurableTask) (row : ℕ → Row) : List Row :=
  (Database.staleIds rows ambient.now [] rows.length).map row

def recoverNodes (limit : ℕ) : Transaction :=
  .read fun db => .claim (stale ambient (db.nodeTasks.map (·.toDurableTask)) .nodeTask) limit
    (recoverTasks settings ambient)

/-! ## Panel tasks -/

/-- `prepare` and `_record_compensation_failure`. -/
def updatePanelTask (taskId : ℕ) : Transaction := .lock (.panelProvisionTask taskId) .ends

/-- A panel task, and what its owner locks besides. -/
def ownPanelTask (taskId : ℕ) (next : PanelProvisionTask → Transaction) : Transaction :=
  .lock (.panelProvisionTask taskId) (.read fun db =>
    match db.getPanelProvisionTask settings.mapper taskId with
    | .ok (some t) => next t
    | _ => .ends)

def finalizeProvisionSuccess (prepared : PreparedPanelDispatch) : Transaction :=
  ownPanelTask settings prepared.taskId fun t =>
    if t.ownsActiveLease prepared.leaseToken prepared.attemptNo ambient.now then
      .lock (.subscription t.subscriptionId) (.lock (.configuration t.vpnConfigurationId) .ends)
    else .ends

def finalizeRemoteFailure (prepared : PreparedPanelDispatch) (error : String) : Transaction :=
  ownPanelTask settings prepared.taskId fun t =>
    if t.ownsLease prepared.leaseToken prepared.attemptNo ∧
        (t.retry ambient.now error settings.panelRetryBaseSeconds).status = .failed then
      .lock (.configuration t.vpnConfigurationId) .ends
    else .ends

def recordCompensationSuccess (prepared : PreparedPanelDispatch) : Transaction :=
  ownPanelTask settings prepared.taskId fun t =>
    if t.ownsLease prepared.leaseToken prepared.attemptNo then
      .lock (.configuration t.vpnConfigurationId) .ends
    else .ends

def recoverPanelTasks (limit : ℕ) : Transaction :=
  .read fun db => .claim (stale ambient (db.panelProvisionTasks.map (·.toDurableTask))
    .panelProvisionTask) limit fun _ => .ends

def prepareRevoke (taskId : ℕ) : Transaction := .lock (.panelRevokeTask taskId) .ends

def ownRevokeTask (taskId : ℕ) (wanted : PanelRevokeTask → Bool) : Transaction :=
  .lock (.panelRevokeTask taskId) (.read fun db =>
    match db.getPanelRevokeTask taskId with
    | none => .ends
    | some t => if wanted t then .lock (.configuration t.vpnConfigurationId) .ends else .ends)

def finalizeRevokeSuccess (prepared : PreparedPanelRevoke) : Transaction :=
  ownRevokeTask prepared.taskId fun t =>
    t.ownsActiveLease prepared.leaseToken prepared.attemptNo ambient.now

def finalizeRevokeFailure (prepared : PreparedPanelRevoke) (error : String) : Transaction :=
  ownRevokeTask prepared.taskId fun t =>
    t.ownsLease prepared.leaseToken prepared.attemptNo &&
      (t.retry ambient.now error settings.panelRetryBaseSeconds).status = .failed

def recoverRevokeTasks (limit : ℕ) : Transaction :=
  .read fun db => .claim (stale ambient (db.panelRevokeTasks.map (·.toDurableTask))
    .panelRevokeTask) limit fun _ => .ends

/-! ## The transactions of the application -/

inductive UseCase where
  | prepareOrder (r : PaymentRequest) (now : DateTime)

  | settleOwnedClaim (attemptId : ℕ)

  | processPayment (now : DateTime) (eventId : ℕ)

  | markPaymentOrderPaid (orderId : ℕ) (now : DateTime)

  | expireSubscription (subscriptionId : ℕ)

  | provisionVpn (ambient : Ambient) (subscriptionId : ℕ)

  | revokeVpn (ambient : Ambient) (id : ℕ) (reason : VpnRevokeReason)

  | prepareNode (ambient : Ambient) (taskId : ℕ)

  | finalizeNode (ambient : Ambient) (prepared : PreparedDispatch) (reply : NodeReply)

  | recoverNodes (ambient : Ambient) (limit : ℕ)

  | updatePanelTask (taskId : ℕ)

  | finalizeProvisionSuccess (ambient : Ambient) (prepared : PreparedPanelDispatch)

  | finalizeRemoteFailure (ambient : Ambient) (prepared : PreparedPanelDispatch) (error : String)

  | recordCompensationSuccess (prepared : PreparedPanelDispatch)

  | recoverPanelTasks (ambient : Ambient) (limit : ℕ)

  | prepareRevoke (taskId : ℕ)

  | finalizeRevokeSuccess (ambient : Ambient) (prepared : PreparedPanelRevoke)

  | finalizeRevokeFailure (ambient : Ambient) (prepared : PreparedPanelRevoke) (error : String)

  | recoverRevokeTasks (ambient : Ambient) (limit : ℕ)

def UseCase.transaction : UseCase → Transaction
  | prepareOrder r now => RowLocks.prepareOrder r now
  | settleOwnedClaim attemptId => RowLocks.settleOwnedClaim attemptId
  | processPayment now eventId => RowLocks.processPayment now eventId
  | markPaymentOrderPaid orderId now => RowLocks.markPaymentOrderPaid orderId now
  | expireSubscription subscriptionId => RowLocks.expireSubscription subscriptionId
  | provisionVpn ambient subscriptionId => RowLocks.provisionVpn settings ambient subscriptionId
  | revokeVpn ambient id reason => RowLocks.revokeVpn ambient id reason
  | prepareNode ambient taskId => RowLocks.prepareNode settings ambient taskId
  | finalizeNode ambient prepared reply => RowLocks.finalizeNode settings ambient prepared reply
  | recoverNodes ambient limit => RowLocks.recoverNodes settings ambient limit
  | updatePanelTask taskId => RowLocks.updatePanelTask taskId
  | finalizeProvisionSuccess ambient prepared =>
    RowLocks.finalizeProvisionSuccess settings ambient prepared
  | finalizeRemoteFailure ambient prepared error =>
    RowLocks.finalizeRemoteFailure settings ambient prepared error
  | recordCompensationSuccess prepared => RowLocks.recordCompensationSuccess settings prepared
  | recoverPanelTasks ambient limit => RowLocks.recoverPanelTasks ambient limit
  | prepareRevoke taskId => RowLocks.prepareRevoke taskId
  | finalizeRevokeSuccess ambient prepared => RowLocks.finalizeRevokeSuccess ambient prepared
  | finalizeRevokeFailure ambient prepared error =>
    RowLocks.finalizeRevokeFailure settings ambient prepared error
  | recoverRevokeTasks ambient limit => RowLocks.recoverRevokeTasks ambient limit

end RowLocks

end ShopBot
