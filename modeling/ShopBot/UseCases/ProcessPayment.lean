import ShopBot.UseCases.ActivateSubscription
import ShopBot.UseCases.Settings

/-! # Processing payment events

One transaction applies one stored event: a paid event settles its order and funds a
period, a refund accumulates and may withdraw the funding, any other final status
closes the attempt and the order.
-/

namespace ShopBot

structure PaymentResult where
  status : String
  subscriptionId : Option ℕ := none
  revokeVpnConfigurationId : Option ℕ := none
deriving DecidableEq, Repr

/-- `validate_paid_settlement`; the error is the text of the violation. -/
def validatePaidSettlement (e : PaymentEvent) (a : PaymentAttempt) (orderId : ℕ)
    (o : PaymentOrder) : Except Error Unit := do
  require (e.provider = o.provider && e.provider = a.provider)
    (.paymentInvariantViolation "payment provider mismatch")
  require ((orText e.providerPaymentId none).isSome && (orText a.providerPaymentId none).isSome)
    (.paymentInvariantViolation "provider payment id is required")
  require (e.providerPaymentId = a.providerPaymentId)
    (.paymentInvariantViolation "provider payment id mismatch")
  require (a.paymentOrderId = orderId)
    (.paymentInvariantViolation "payment attempt order mismatch")
  require (e.paymentOrderId = some a.paymentOrderId)
    (.paymentInvariantViolation "payment event order mismatch")
  require (e.reportedPaymentOrderId.all (· = a.paymentOrderId))
    (.paymentInvariantViolation "provider-reported order mismatch")
  require e.amountMinor.isSome
    (.paymentInvariantViolation "verified payment amount is required")
  require (e.amountMinor = some (o.amount.minor : ℤ))
    (.paymentInvariantViolation "payment amount mismatch")
  require e.currency.isSome
    (.paymentInvariantViolation "verified payment currency is required")
  require (e.currency = some o.amount.currency)
    (.paymentInvariantViolation "payment currency mismatch")

namespace ProcessPayment

variable (now : DateTime)

/-- `_reject_paid_event`: the event fails but stays open for another processing. -/
def rejectEvent (db : Database) (e : PaymentEvent) (eventId : ℕ) (reason : String) :
    PaymentResult × Database :=
  ({ status := "rejected" }, db.saveEvent eventId (e.fail now reason))

def ignoreEvent (db : Database) (e : PaymentEvent) (eventId : ℕ) : PaymentResult × Database :=
  ({ status := "ignored" }, db.saveEvent eventId (e.ignore now none))

/-! ## Refunds -/

/-- What a fully refunded order still funds: its period is no longer paid, the active
configuration is revoked when nothing funds it now, and the subscription ends when
nothing funds it later. -/
def withdrawFunding (db : Database) (orderId : ℕ) : Option ℕ × Database :=
  match db.getPeriodByPaymentOrderId orderId with
  | none => (none, db.appendAudit .refundEntitlementReconciliationRequired .paymentOrder orderId)
  | some (period, periodId) =>
    let db := db.savePeriod periodId { period with isPaid := false }
    match period.subscriptionId with
    | none => (none, db)
    | some subscriptionId =>
      let revokeId :=
        if (db.getCurrentPeriod subscriptionId now).isNone then
          (db.getActiveForSubscription subscriptionId).map (·.2)
        else none
      match db.getSubscription subscriptionId with
      | none => (revokeId, db)
      | some s =>
        if db.hasFundedPeriodAfter subscriptionId now then (revokeId, db)
        else (revokeId, db.saveSubscription subscriptionId (s.expire now))

def refundTransaction (e : PaymentEvent) (orderId attemptId : ℕ) (amount : ℤ)
    (currency : Currency) : ProviderTransaction where
  paymentOrderId := orderId
  paymentAttemptId := some attemptId
  provider := e.provider
  transactionType := "refund_succeeded"
  providerTransactionKey := e.eventKey
  transactionStatus := "succeeded"
  amountMinor := amount
  currency := currency
  payload := e.payload

def settleRefund (db : Database) (e : PaymentEvent) (eventId orderId attemptId : ℕ)
    (o : PaymentOrder) (amount : ℤ) (currency : Currency) : PaymentResult × Database :=
  let db := db.createProviderTransaction (refundTransaction e orderId attemptId amount currency)
  let cumulative := db.sumProviderTransactions orderId e.provider "refund_succeeded" "succeeded"
  let (revokeId, db) :=
    if (o.amount.minor : ℤ) ≤ cumulative then withdrawFunding now db orderId else (none, db)
  ({ status := "processed", revokeVpnConfigurationId := revokeId },
    db.saveEvent eventId (e.markProcessed now))

def processRefund (db : Database) (e : PaymentEvent) (eventId : ℕ) : PaymentResult × Database :=
  match e.paymentAttemptId with
  | none => rejectEvent now db e eventId "refund has no original payment attempt"
  | some attemptId =>
    match db.getAttempt attemptId with
    | none => rejectEvent now db e eventId "refund original payment attempt is missing"
    | some a =>
      match db.getOrder a.paymentOrderId with
      | none => rejectEvent now db e eventId "refund payment order is missing"
      | some o =>
        match e.amountMinor, e.currency with
        | some amount, some currency =>
          if amount ≤ 0 then rejectEvent now db e eventId "refund amount/currency is missing"
          else if currency ≠ o.amount.currency || (o.amount.minor : ℤ) < amount then
            rejectEvent now db e eventId "refund amount/currency does not match order"
          else settleRefund now db e eventId a.paymentOrderId attemptId o amount currency
        | _, _ => rejectEvent now db e eventId "refund amount/currency is missing"

/-! ## Paid events -/

def paidTransaction (e : PaymentEvent) (orderId attemptId : ℕ) (amount : ℤ)
    (currency : Currency) : ProviderTransaction where
  paymentOrderId := orderId
  paymentAttemptId := some attemptId
  provider := e.provider
  transactionType := "payment_paid"
  providerTransactionKey := e.eventKey
  transactionStatus := "paid"
  amountMinor := amount
  currency := currency
  payload := e.payload

/-- Mark the order paid and fund a period, unless it has been paid before. -/
def settleOrder (db : Database) (orderId : ℕ) (o : PaymentOrder) :
    Except Error (Option ℕ × Database) := do
  let (o, changed) ← o.markPaid now
  if changed then
    let db := db.saveOrder orderId o
    let (subscriptionId, _, db) ← ActivateSubscription.execute db o.userId o.tariffId
      o.requestedPeriodDays now (some orderId)
    return (some subscriptionId,
      db.appendAudit .subscriptionActivated .subscription subscriptionId)
  else return (none, db)

def processPaid (db : Database) (e : PaymentEvent) (eventId : ℕ) (a : PaymentAttempt)
    (attemptId orderId : ℕ) (o : PaymentOrder) : Except Error (PaymentResult × Database) :=
  match validatePaidSettlement e a orderId o with
  | .error (.paymentInvariantViolation reason) =>
    .ok (rejectEvent now db e eventId s!"payment settlement rejected: {reason}")
  | .error other => .error other
  | .ok () =>
    let (a, transition) := a.applyProviderStatus .paid e.payload
    if transition = .stale then
      .ok ({ status := "ignored" },
        db.saveEvent eventId (e.ignore now (some
          s!"stale paid event for attempt already {a.status.text}")))
    else do
      let db ← db.saveAttempt attemptId a
      let (subscriptionId, db) ← settleOrder now db orderId o
      let db := db.createProviderTransaction (paidTransaction e orderId attemptId
        (e.amountMinor.getD 0) (e.currency.getD o.amount.currency))
      return ({ status := "processed", subscriptionId := subscriptionId },
        db.saveEvent eventId (e.markProcessed now))

/-- `_resolve_paid_context` followed by `_process_paid`. -/
def resolvePaid (db : Database) (e : PaymentEvent) (eventId : ℕ) :
    Except Error (PaymentResult × Database) :=
  match e.paymentAttemptId with
  | none => .ok (rejectEvent now db e eventId "paid event has no exact payment attempt")
  | some attemptId =>
    match db.getAttempt attemptId with
    | none => .ok (rejectEvent now db e eventId "exact payment attempt is missing")
    | some a =>
      match db.getOrder a.paymentOrderId with
      | none => .ok (rejectEvent now db e eventId "payment order is missing")
      | some o => processPaid now db e eventId a attemptId a.paymentOrderId o

/-! ## Unsuccessful events -/

def auditNameOf : PaymentStatus → AuditEventName
  | .expired => .paymentExpired
  | .cancelled => .paymentCancelled
  | _ => .paymentFailed

def closeOrder (db : Database) (e : PaymentEvent) (eventId orderId : ℕ) (o : PaymentOrder)
    (status : PaymentStatus) : Except Error (PaymentResult × Database) := do
  let (o, changed) ← o.applyExternalStatus status now
  let db := if changed then db.saveOrder orderId o else db
  let db := db.appendAudit (auditNameOf status) .paymentOrder orderId
  return ({ status := "processed" }, db.saveEvent eventId (e.markProcessed now))

def processUnsuccessful (db : Database) (e : PaymentEvent) (eventId : ℕ)
    (attempt : Option (PaymentAttempt × ℕ)) (orderId : ℕ) (o : PaymentOrder)
    (status : PaymentStatus) : Except Error (PaymentResult × Database) :=
  match attempt with
  | none => closeOrder now db e eventId orderId o status
  | some (a, attemptId) =>
    let (a, transition) := a.applyProviderStatus status e.payload
    if transition = .stale then
      .ok ({ status := "processed" },
        db.saveEvent eventId (e.ignore now (some
          s!"stale provider status {status.text} for attempt already {a.status.text}")))
    else do
      let db ← db.saveAttempt attemptId a
      closeOrder now db e eventId orderId o status

/-- The order an event refers to, itself or through its attempt. -/
def resolveOrderReference (db : Database) (e : PaymentEvent) : Option ℕ :=
  match e.paymentOrderId with
  | some orderId => some orderId
  | none => e.paymentAttemptId.bind fun id => (db.getAttempt id).map (·.paymentOrderId)

/-- The attempt of an event that is not paid: its own, or the latest of the order. -/
def attemptOf (db : Database) (e : PaymentEvent) (orderId : ℕ) : Option (PaymentAttempt × ℕ) :=
  match e.paymentAttemptId.bind fun id => (db.getAttempt id).map (·, id) with
  | some attempt => some attempt
  | none => db.getLatestAttempt orderId

def resolveOther (db : Database) (e : PaymentEvent) (eventId : ℕ) :
    Except Error (PaymentResult × Database) :=
  match (resolveOrderReference db e).bind fun id => (db.getOrder id).map (·, id) with
  | none => .ok (ignoreEvent now db e eventId)
  | some (o, orderId) =>
    match e.normalizedPaymentStatus with
    | .failed | .expired | .cancelled =>
      processUnsuccessful now db e eventId (attemptOf db e orderId) orderId o
        e.normalizedPaymentStatus
    | _ => .ok ({ status := "processed" }, db.saveEvent eventId (e.ignore now none))

def execute (db : Database) (eventId : ℕ) : Except Error (PaymentResult × Database) :=
  match db.getEvent eventId with
  | none => .ok ({ status := "missing" }, db)
  | some e =>
    if e.status = .processed then .ok ({ status := "processed" }, db)
    else if e.status = .ignored then .ok ({ status := "ignored" }, db)
    else if e.eventType = "refund.succeeded" then .ok (processRefund now db e eventId)
    else if e.normalizedPaymentStatus = .paid then resolvePaid now db e eventId
    else resolveOther now db e eventId

/-- Jobs enqueued after the transaction. -/
def jobs (r : PaymentResult) : List Job :=
  (r.subscriptionId.map .provisionSubscription).toList ++
    (r.revokeVpnConfigurationId.map (.revokeVpnConfiguration · .expiration)).toList

end ProcessPayment

end ShopBot
