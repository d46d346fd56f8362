import ShopBot.UseCases.CreatePayment
import ShopBot.Library.ReadCommitted
import ShopBot.Library.Transition

/-! # Invoice creation, statement by statement

Concurrent calls of `CreatePayment.execute` on the order, attempt and transaction tables.
Each SQL statement of a call is one step under READ COMMITTED, a statement that has to wait
for a row of another transaction is not enabled, and between the reserve and the finalise
transaction of a call lies the request to the gateway.
-/

namespace ShopBot

/-- `update_attempt_status`: the version that the UPDATE leaves of the row. -/
def PaymentAttempt.saveInto (a row : PaymentAttempt) : PaymentAttempt where
  paymentOrderId := row.paymentOrderId
  provider := row.provider
  status := a.status
  providerPaymentId := a.providerPaymentId.or row.providerPaymentId
  paymentUrl := a.paymentUrl.or row.paymentUrl
  payload := a.payload
  updatedAt := a.updatedAt
  creationClaimedAt := if a.creationLeaseToken.isNone then none else a.creationClaimedAt
  creationLeaseExpiresAt :=
    if a.creationLeaseToken.isNone then none else a.creationLeaseExpiresAt
  creationLeaseToken := a.creationLeaseToken

namespace InvoiceTransactions

open ReadCommitted

/-- What a transaction returns once it has committed. -/
inductive Outcome where
  | prepared (p : PreparedPaymentOrder)

  | current (a : PaymentAttempt)

  | gatewayFailed
deriving DecidableEq, Repr

/-- The statement that a call executes next. -/
inductive Stage where
  | addOrder

  | readOrder

  | lockOrder (orderId : ℕ)

  | readAttempt (orderId : ℕ) (o : PaymentOrder)

  | failAttempt (orderId : ℕ) (o : PaymentOrder) (attemptId : ℕ) (a : PaymentAttempt)
      (now : DateTime)

  | addAttempt (orderId : ℕ) (o : PaymentOrder) (now : DateTime)

  | commit (outcome : Outcome)

  | gateway (p : PreparedPaymentOrder)

  | lockAttempt (p : PreparedPaymentOrder) (intent : Option PaymentIntent)

  | readLatest (p : PreparedPaymentOrder)

  | saveAttempt (p : PreparedPaymentOrder) (intent : Option PaymentIntent) (a : PaymentAttempt)

  | addTransaction (p : PreparedPaymentOrder) (intent : PaymentIntent) (a : PaymentAttempt)

  | returned (a : PaymentAttempt)

  | raised (e : Error)

  | gatewayRaised

  | crashed
deriving DecidableEq, Repr

def Stage.ended : Stage → Bool
  | returned _ | raised _ | gatewayRaised | crashed => true
  | _ => false

structure Call where
  candidate : PaymentOrder
  tariffName : String
  stage : Stage
deriving DecidableEq, Repr

/-- The tables, and the calls that have been made; a call is also the transaction it has
open. -/
structure Ledgers where
  orders : List (Row PaymentOrder) := []
  attempts : List (Row PaymentAttempt) := []
  transactions : List (Row ProviderTransaction) := []
  calls : List Call := []
deriving DecidableEq

namespace Ledgers

def goto (s : Ledgers) (i : ℕ) (c : Call) (stage : Stage) : Ledgers :=
  { s with calls := s.calls.set i { c with stage := stage } }

/-- The transaction of the call is rolled back. -/
def rollback (s : Ledgers) (i : ℕ) (c : Call) (stage : Stage) : Ledgers where
  orders := rollbackAll i s.orders
  attempts := rollbackAll i s.attempts
  transactions := rollbackAll i s.transactions
  calls := s.calls.set i { c with stage := stage }

def commit (s : Ledgers) (i : ℕ) (c : Call) (stage : Stage) : Ledgers where
  orders := commitAll i s.orders
  attempts := commitAll i s.attempts
  transactions := commitAll i s.transactions
  calls := s.calls.set i { c with stage := stage }

end Ledgers

def hasKey (c : Call) (o : PaymentOrder) : Bool :=
  o.idempotencyKey = c.candidate.idempotencyKey

/-- `uq_payment_attempts_one_creation_claim_per_order`. -/
def sameClaim (a b : PaymentAttempt) : Bool :=
  a.status = .created && b.status = .created && a.paymentOrderId = b.paymentOrderId

/-- `uq_payment_attempts_provider_payment_id`. -/
def sameInvoice (a b : PaymentAttempt) : Bool :=
  a.providerPaymentId.isSome && a.provider = b.provider &&
    a.providerPaymentId = b.providerPaymentId

/-- The unique indexes admit the version at the position, or the statement has to wait. -/
def admits (i j : ℕ) (a : PaymentAttempt) (attempts : List (Row PaymentAttempt)) :
    Option (Except Error Unit) :=
  let others := attempts.eraseIdx j
  if others.any (Row.blocks i fun b => sameClaim a b || sameInvoice a b) then none
  else if others.any (Row.clashes i (sameClaim a)) then
    some (.error (.integrity "uq_payment_attempts_one_creation_claim_per_order"))
  else if others.any (Row.clashes i (sameInvoice a)) then
    some (.error (.integrity "uq_payment_attempts_provider_payment_id"))
  else some (.ok ())

/-! ## The reserve transaction -/

variable (s : Ledgers) (i : ℕ) (c : Call)

/-- `INSERT … ON CONFLICT DO NOTHING` into the orders. -/
def addOrder : Option Ledgers :=
  if s.orders.any (Row.blocks i (hasKey c)) then none
  else if s.orders.any (Row.clashes i (hasKey c)) then some (s.goto i c .readOrder)
  else some ({ s with orders := s.orders ++ [Row.write i c.candidate {}] }.goto i c
    (.lockOrder s.orders.length))

def readOrder : Ledgers :=
  match lastVisible i (hasKey c) s.orders with
  | none => s.rollback i c (.raised (.runtime "Failed to create payment order"))
  | some (_, orderId) => s.goto i c (.lockOrder orderId)

/-- `SELECT … FOR UPDATE` of the order, and the comparison with the candidate. -/
def lockOrder (orderId : ℕ) : Option Ledgers :=
  let r := row s.orders orderId
  if r.Free i then
    match r.visible i with
    | none => some (s.rollback i c
        (.raised (.runtime "Payment order disappeared during creation")))
    | some o =>
      if o.hasSameCreationIdentity c.candidate then
        some ({ s with orders := s.orders.set orderId (r.lock i) }.goto i c
          (.readAttempt orderId o))
      else some (s.rollback i c
        (.raised (.conflict "Idempotency key is already used by another payment request")))
  else none

/-- The latest attempt is read without a lock. -/
def readAttempt (orderId : ℕ) (o : PaymentOrder) (now : DateTime) : Ledgers :=
  match lastVisible i (fun a => a.paymentOrderId = orderId) s.attempts with
  | none => s.goto i c (.addAttempt orderId o now)
  | some (a, attemptId) =>
    let existing : PreparedPaymentOrder := {
      orderId := orderId
      order := o
      tariffName := c.tariffName
      attemptId := attemptId
      attempt := a
      ownsCreationClaim := false }
    if a.status = .created then
      if a.creationClaimIsActive now then s.goto i c (.commit (.prepared existing))
      else s.goto i c (.failAttempt orderId o attemptId
        (a.failCreation now "creation_claim_abandoned") now)
    else if a.status = .failed && a.providerPaymentId.isNone then
      s.goto i c (.addAttempt orderId o now)
    else s.goto i c (.commit (.prepared existing))

/-- `UPDATE` of an attempt by its identifier: the row as it is by then gets the values. -/
def updateAttempt (attemptId : ℕ) (a : PaymentAttempt) (next : Stage) : Option Ledgers :=
  let r := row s.attempts attemptId
  if r.Free i then
    match r.visible i with
    | none => some (s.goto i c next)
    | some v =>
      match admits i attemptId (a.saveInto v) s.attempts with
      | none => none
      | some (.error e) => some (s.rollback i c (.raised e))
      | some (.ok ()) =>
        some ({ s with attempts := s.attempts.set attemptId (r.write i (a.saveInto v)) }.goto
          i c next)
  else none

/-- Insert the claim that makes the caller the owner of the invoice creation. -/
def addAttempt (orderId : ℕ) (o : PaymentOrder) (now : DateTime) (leaseSeconds : ℤ)
    (token : Uuid) : Option Ledgers :=
  let claim : PaymentAttempt := {
    paymentOrderId := orderId
    provider := o.provider
    status := .created
    payload := [("creation_state", .text "claimed")] }
  match claim.claimCreation now (now + seconds leaseSeconds) token with
  | .error e => some (s.rollback i c (.raised e))
  | .ok claim =>
    match admits i s.attempts.length claim s.attempts with
    | none => none
    | some (.error e) => some (s.rollback i c (.raised e))
    | some (.ok ()) =>
      some ({ s with attempts := s.attempts ++ [Row.write i claim {}] }.goto i c
        (.commit (.prepared {
          orderId := orderId
          order := o
          tariffName := c.tariffName
          attemptId := s.attempts.length
          attempt := claim
          ownsCreationClaim := true
          creationLeaseToken := some token })))

/-! ## The finalise and the fail transaction -/

/-- `SELECT … FOR UPDATE` of the attempt, and what its owner makes of the gateway's answer. -/
def lockAttempt (p : PreparedPaymentOrder) (intent : Option PaymentIntent) (now : DateTime) :
    Option Ledgers :=
  let r := row s.attempts p.attemptId
  if r.Free i then
    match r.visible i, intent with
    | none, some _ => some (s.rollback i c
        (.raised (.runtime "Payment creation claim disappeared before finalization")))
    | none, none => some (s.goto i c (.commit .gatewayFailed))
    | some a, intent =>
      let locked : Ledgers :=
        { s with attempts := s.attempts.set p.attemptId (r.lock i) }
      if p.creationLeaseToken.any (a.ownsCreationClaim ·) then
        match intent with
        | none => some (locked.goto i c
            (.saveAttempt p none (a.failCreation now "provider_create_failed")))
        | some n =>
          match a.finalizeCreation n.status n.providerPaymentId n.paymentUrl n.payload now with
          | .error e => some (s.rollback i c (.raised e))
          | .ok a => some (locked.goto i c (.saveAttempt p (some n) a))
      else
        match intent with
        | none => some (locked.goto i c (.commit .gatewayFailed))
        | some _ => some (locked.goto i c (.readLatest p))
  else none

def readLatest (p : PreparedPaymentOrder) : Ledgers :=
  match lastVisible i (fun a => a.paymentOrderId = p.orderId) s.attempts with
  | none => s.rollback i c (.raised (.conflict "Payment creation ownership was lost"))
  | some (current, _) => s.goto i c (.commit (.current current))

/-- `INSERT … ON CONFLICT DO NOTHING` into the provider transactions. -/
def addTransaction (p : PreparedPaymentOrder) (intent : PaymentIntent) (a : PaymentAttempt) :
    Option Ledgers :=
  let t := CreatePayment.invoiceTransaction p.orderId p.order p.attemptId intent
  let sameKey (u : ProviderTransaction) : Bool :=
    u.provider = t.provider && u.providerTransactionKey = t.providerTransactionKey
  if s.transactions.any (Row.blocks i sameKey) then none
  else if s.transactions.any (Row.clashes i sameKey) then
    some (s.goto i c (.commit (.current a)))
  else some ({ s with transactions := s.transactions ++ [Row.write i t {}] }.goto i c
    (.commit (.current a)))

/-- What the call does once its transaction has committed. -/
def Outcome.next : Outcome → Stage
  | prepared p => if p.ownsCreationClaim then .gateway p else .returned p.attempt
  | current a => .returned a
  | gatewayFailed => .gatewayRaised

/-! ## Runs -/

/-- The next statement of the call. -/
def statement (leaseSeconds : ℤ) (now : DateTime) (token : Uuid) : Option Ledgers :=
  match c.stage with
  | .addOrder => addOrder s i c
  | .readOrder => some (readOrder s i c)
  | .lockOrder orderId => lockOrder s i c orderId
  | .readAttempt orderId o => some (readAttempt s i c orderId o now)
  | .failAttempt orderId o attemptId a claimedAt =>
    updateAttempt s i c attemptId a (.addAttempt orderId o claimedAt)
  | .addAttempt orderId o claimedAt => addAttempt s i c orderId o claimedAt leaseSeconds token
  | .commit outcome => some (s.commit i c outcome.next)
  | .lockAttempt p intent => lockAttempt s i c p intent now
  | .readLatest p => some (readLatest s i c p)
  | .saveAttempt p intent a =>
    updateAttempt s i c p.attemptId a (match intent with
      | none => .commit .gatewayFailed
      | some n => .addTransaction p n a)
  | .addTransaction p intent a => addTransaction s i c p intent a
  | _ => none

inductive Action where
  | call (r : PaymentRequest) (userId : ℕ) (t : Tariff)

  | statement (i : ℕ) (now : DateTime) (token : Uuid)

  /-- The gateway has returned an intent, or raised. -/
  | answer (i : ℕ) (intent : Option PaymentIntent)

  /-- The call ends where it stands; its transaction is rolled back. -/
  | crash (i : ℕ)
deriving DecidableEq

/-- The checks of a request before its first statement. -/
def firstStage (candidate : PaymentOrder) (t : Tariff) : Stage :=
  if !t.isEnabled then .raised (.validation "Tariff is disabled")
  else if candidate.provider ≠ "" && candidate.idempotencyKey ≠ "" then .addOrder
  else .raised (.domainValidation "Payment provider and idempotency key cannot be blank")

def exec (leaseSeconds : ℤ) (s : Ledgers) : Action → Option Ledgers
  | .call r userId t =>
    let candidate := CreatePayment.candidateOrder r userId t
    some { s with calls := s.calls ++ [⟨candidate, t.name, firstStage candidate t⟩] }
  | .statement i now token =>
    s.calls[i]?.bind fun c => statement s i c leaseSeconds now token
  | .answer i intent =>
    s.calls[i]?.bind fun c =>
      match c.stage with
      | .gateway p => some (s.goto i c (.lockAttempt p intent))
      | _ => none
  | .crash i =>
    s.calls[i]?.bind fun c =>
      if c.stage.ended then none else some (s.rollback i c .crashed)

def Init (s : Ledgers) : Prop := s = {}

end InvoiceTransactions

end ShopBot
