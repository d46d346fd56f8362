import ShopBot.Persistence.PaymentRepository

/-! # Creating payments

An order is created once for its idempotency key. One worker at a time owns the
creation of its invoice; the gateway is called outside any transaction, and the owner
stores the result or the failure in another.
-/

namespace ShopBot

structure PreparedPaymentOrder where
  orderId : ℕ
  order : PaymentOrder
  tariffName : String
  attemptId : ℕ
  attempt : PaymentAttempt
  ownsCreationClaim : Bool
  creationLeaseToken : Option Uuid := none
deriving DecidableEq, Repr

/-- What a gateway returns for a created invoice. -/
structure PaymentIntent where
  providerPaymentId : String
  status : PaymentStatus := .pending
  paymentUrl : Option String := none
  payload : Payload := []
deriving DecidableEq, Repr

/-- The arguments of `CreatePayment.execute`. -/
structure PaymentRequest where
  telegramId : ℤ
  tariffId : ℕ
  provider : String
  idempotencyKey : String
  username : Option String := none
  nameOrNick : Option String := none
deriving DecidableEq, Repr

namespace CreatePayment

/-- The user of the request, registered when it is new. -/
def resolveUser (db : Database) (r : PaymentRequest) : Except Error (ℕ × Database) :=
  match db.getUserByTelegramId r.telegramId with
  | some (_, id) => .ok (id, db)
  | none => do
    let name := (orText r.nameOrNick (orText r.username none)).getD s!"telegram-{r.telegramId}"
    require (stripText name ≠ "") (.domainValidation "User name cannot be blank")
    return db.addUser { telegramId := r.telegramId, nameOrNick := stripText name }

def candidateOrder (r : PaymentRequest) (userId : ℕ) (t : Tariff) : PaymentOrder where
  userId := userId
  tariffId := r.tariffId
  provider := stripText r.provider
  status := .pending
  amount := t.price
  amount_pos := t.price_pos
  requestedPeriodDays := t.periodDays
  requestedPeriodDays_pos := t.periodDays_pos
  idempotencyKey := stripText r.idempotencyKey
  metadata := [("telegram_id", .number r.telegramId)]

/-- Insert the claim that makes the caller the owner of the invoice creation. -/
def claimCreation (db : Database) (orderId : ℕ) (o : PaymentOrder) (tariffName : String)
    (now : DateTime) (leaseSeconds : ℤ) (token : Uuid) :
    Except Error (PreparedPaymentOrder × Database) := do
  let claim : PaymentAttempt := {
    paymentOrderId := orderId
    provider := o.provider
    status := .created
    payload := [("creation_state", .text "claimed")] }
  let claim ← claim.claimCreation now (now + seconds leaseSeconds) token
  let (attemptId, db) ← db.addAttempt claim
  return ({
    orderId := orderId
    order := o
    tariffName := tariffName
    attemptId := attemptId
    attempt := claim
    ownsCreationClaim := true
    creationLeaseToken := some token }, db)

/-- Continue with the latest attempt of the order, or claim a new one. -/
def resolveAttempt (db : Database) (orderId : ℕ) (o : PaymentOrder) (tariffName : String)
    (now : DateTime) (leaseSeconds : ℤ) (token : Uuid) :
    Except Error (PreparedPaymentOrder × Database) :=
  match db.getLatestAttempt orderId with
  | none => claimCreation db orderId o tariffName now leaseSeconds token
  | some (a, attemptId) =>
    let existing : PreparedPaymentOrder := {
      orderId := orderId
      order := o
      tariffName := tariffName
      attemptId := attemptId
      attempt := a
      ownsCreationClaim := false }
    if a.status = .created then
      if a.creationClaimIsActive now then .ok (existing, db)
      else do
        let db ← db.saveAttempt attemptId (a.failCreation now "creation_claim_abandoned")
        claimCreation db orderId o tariffName now leaseSeconds token
    else if a.status = .failed && a.providerPaymentId.isNone then
      claimCreation db orderId o tariffName now leaseSeconds token
    else .ok (existing, db)

def prepareOrder (db : Database) (r : PaymentRequest) (now : DateTime) (leaseSeconds : ℤ)
    (token : Uuid) : Except Error (PreparedPaymentOrder × Database) := do
  let (userId, db) ← resolveUser db r
  match db.tariffs[r.tariffId]? with
  | none => .error (.notFound "Tariff was not found")
  | some t =>
    require t.isEnabled (.validation "Tariff is disabled")
    let candidate := candidateOrder r userId t
    require (candidate.provider ≠ "" && candidate.idempotencyKey ≠ "")
      (.domainValidation "Payment provider and idempotency key cannot be blank")
    let (orderId, db) := db.addOrder candidate
    match db.getOrder orderId with
    | none => .error (.runtime "Payment order disappeared during creation")
    | some o =>
      require (o.hasSameCreationIdentity candidate)
        (.conflict "Idempotency key is already used by another payment request")
      resolveAttempt db orderId o t.name now leaseSeconds token

def invoiceTransaction (orderId : ℕ) (o : PaymentOrder) (attemptId : ℕ)
    (intent : PaymentIntent) : ProviderTransaction where
  paymentOrderId := orderId
  paymentAttemptId := some attemptId
  provider := o.provider
  transactionType := "invoice_created"
  providerTransactionKey := intent.providerPaymentId
  transactionStatus := intent.status.text
  amountMinor := o.amount.minor
  currency := o.amount.currency
  payload := intent.payload

/-- `_finalize_owned_claim`, with the order as it was prepared. -/
def finalizeOwnedClaim (db : Database) (orderId : ℕ) (o : PaymentOrder) (attemptId : ℕ)
    (token : Uuid) (intent : PaymentIntent) (now : DateTime) :
    Except Error (PaymentAttempt × Database) :=
  match db.getAttempt attemptId with
  | none => .error (.runtime "Payment creation claim disappeared before finalization")
  | some a =>
    if a.ownsCreationClaim token then do
      let a ← a.finalizeCreation intent.status intent.providerPaymentId intent.paymentUrl
        intent.payload now
      let db ← db.saveAttempt attemptId a
      return (a, db.createProviderTransaction (invoiceTransaction orderId o attemptId intent))
    else
      match db.getLatestAttempt orderId with
      | none => .error (.conflict "Payment creation ownership was lost")
      | some (current, _) => .ok (current, db)

/-- `_fail_owned_claim`, after the gateway has raised. -/
def failOwnedClaim (db : Database) (attemptId : ℕ) (token : Uuid) (now : DateTime) :
    Except Error Database :=
  match db.getAttempt attemptId with
  | none => .ok db
  | some a =>
    if a.ownsCreationClaim token then
      db.saveAttempt attemptId (a.failCreation now "provider_create_failed")
    else .ok db

end CreatePayment

end ShopBot
