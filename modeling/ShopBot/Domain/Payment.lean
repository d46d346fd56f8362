import ShopBot.Domain.Common

/-! # Payments

Orders, payment attempts and provider events with their status machines. Money and
currencies are held in their canonical form: minor units, and the stripped upper-case
code that both the order and the stored event are normalised to.
-/

namespace ShopBot

inductive PaymentStatus where
  | created

  | pending

  | authorized

  | paid

  | failed

  | expired

  | cancelled
deriving DecidableEq, Repr

def PaymentStatus.text : PaymentStatus → String
  | .created => "created"
  | .pending => "pending"
  | .authorized => "authorized"
  | .paid => "paid"
  | .failed => "failed"
  | .expired => "expired"
  | .cancelled => "cancelled"

inductive PaymentEventStatus where
  | received

  | processing

  | processed

  | ignored

  | failed
deriving DecidableEq, Repr

inductive PaymentTransitionResult where
  | applied

  | duplicate

  | stale
deriving DecidableEq, Repr

/-- A value of a JSON object; nested values are known by their truth value only. -/
inductive PayloadValue where
  | null

  | text (value : String)

  | number (value : ℤ)

  | flag (value : Bool)

  | nested (nonempty : Bool)
deriving DecidableEq, Repr

abbrev Payload := List (String × PayloadValue)

namespace PayloadValue

def isTruthy : PayloadValue → Bool
  | null => false
  | text value => value ≠ ""
  | number value => value ≠ 0
  | flag value => value
  | nested nonempty => nonempty

end PayloadValue

namespace Payload

/-- `payload.get(key)`. -/
def get (payload : Payload) (key : String) : PayloadValue :=
  (payload.lookup key).getD .null

/-- `{**payload, key: value}`. -/
def insert (payload : Payload) (key : String) (value : PayloadValue) : Payload :=
  payload.filter (fun entry => entry.1 ≠ key) ++ [(key, value)]

end Payload

structure Currency where
  code : String
deriving DecidableEq, Repr

structure Money where
  minor : ℕ
  currency : Currency
deriving DecidableEq, Repr

structure PaymentOrder where
  userId : ℕ
  tariffId : ℕ
  provider : String
  status : PaymentStatus
  amount : Money
  amount_pos : 0 < amount.minor
  requestedPeriodDays : ℕ
  requestedPeriodDays_pos : 0 < requestedPeriodDays
  idempotencyKey : String
  metadata : Payload := []
  updatedAt : Option DateTime := none
  paidAt : Option DateTime := none
deriving DecidableEq, Repr

namespace PaymentOrder

variable {o o' : PaymentOrder} {now : DateTime}

def hasSameCreationIdentity (o other : PaymentOrder) : Bool :=
  o.userId = other.userId && o.tariffId = other.tariffId && o.provider = other.provider &&
    o.amount = other.amount && o.requestedPeriodDays = other.requestedPeriodDays

/-- The order after the call, and whether it changed. -/
def markPaid (o : PaymentOrder) (now : DateTime) : Except Error (PaymentOrder × Bool) :=
  if o.status = .paid then .ok (o, false)
  else if o.status = .created then
    .error (.invalidStateTransition "Created order must become pending before payment")
  else .ok ({ o with status := .paid, paidAt := some now, updatedAt := some now }, true)

def finish (o : PaymentOrder) (target : PaymentStatus) (now : DateTime) :
    Except Error (PaymentOrder × Bool) :=
  if o.status = target then .ok (o, false)
  else if o.status = .paid then
    .error (.invalidStateTransition "Paid order cannot transition to a failure state")
  else if o.status ≠ .pending then .ok (o, false)
  else .ok ({ o with status := target, updatedAt := some now }, true)

def applyExternalStatus (o : PaymentOrder) (status : PaymentStatus) (now : DateTime) :
    Except Error (PaymentOrder × Bool) :=
  if o.status = .paid ∧ status ≠ .paid then .ok (o, false)
  else match status with
    | .paid => o.markPaid now
    | .cancelled => o.finish .cancelled now
    | .failed => o.finish .failed now
    | .expired => o.finish .expired now
    | _ => .ok (o, false)

end PaymentOrder

structure PaymentAttempt where
  paymentOrderId : ℕ
  provider : String
  status : PaymentStatus
  providerPaymentId : Option String := none
  paymentUrl : Option String := none
  payload : Payload := []
  updatedAt : Option DateTime := none
  creationClaimedAt : Option DateTime := none
  creationLeaseExpiresAt : Option DateTime := none
  creationLeaseToken : Option Uuid := none
deriving DecidableEq, Repr

/-- Position of a status in the provider lifecycle. -/
def PaymentStatus.rank : PaymentStatus → ℕ
  | .created => 0
  | .pending => 1
  | .authorized => 2
  | .paid | .failed | .expired | .cancelled => 3

def PaymentStatus.isFinal : PaymentStatus → Bool
  | .paid | .failed | .expired | .cancelled => true
  | _ => false

namespace PaymentAttempt

def claimCreation (a : PaymentAttempt) (now leaseExpiresAt : DateTime) (leaseToken : Uuid) :
    Except Error PaymentAttempt :=
  if a.status ≠ .created then
    .error (.invalidStateTransition "Only created payment attempt can own invoice creation")
  else if leaseExpiresAt ≤ now then
    .error (.domainValidation "Payment creation lease must expire after claim time")
  else
    .ok { a with
      creationClaimedAt := some now
      creationLeaseExpiresAt := some leaseExpiresAt
      creationLeaseToken := some leaseToken
      updatedAt := some now }

def creationClaimIsActive (a : PaymentAttempt) (now : DateTime) : Bool :=
  a.status = .created && a.creationLeaseToken.isSome && a.creationLeaseExpiresAt.any (now < ·)

def ownsCreationClaim (a : PaymentAttempt) (token : Uuid) : Bool :=
  a.status = .created && a.creationLeaseToken = some token

def clearCreationClaim (a : PaymentAttempt) : PaymentAttempt :=
  { a with creationClaimedAt := none, creationLeaseExpiresAt := none, creationLeaseToken := none }

def finalizeCreation (a : PaymentAttempt) (status : PaymentStatus) (providerPaymentId : String)
    (paymentUrl : Option String) (payload : Payload) (now : DateTime) :
    Except Error PaymentAttempt :=
  if a.status ≠ .created then
    .error (.invalidStateTransition "Only created payment attempt can be finalized")
  else if status = .created then
    .error (.invalidStateTransition "Provider result cannot remain in creation-claim state")
  else
    .ok (clearCreationClaim { a with
      status := status
      providerPaymentId := some providerPaymentId
      paymentUrl := paymentUrl
      payload := payload
      updatedAt := some now })

def failCreation (a : PaymentAttempt) (now : DateTime) (diagnostic : String) : PaymentAttempt :=
  if a.status ≠ .created then a
  else clearCreationClaim { a with
    status := .failed
    payload := a.payload.insert "creation_error" (.text diagnostic)
    updatedAt := some now }

/-- Statuses are monotonic in the provider lifecycle and final once terminal. -/
def applyProviderStatus (a : PaymentAttempt) (target : PaymentStatus) (payload : Payload) :
    PaymentAttempt × PaymentTransitionResult :=
  if a.status.isFinal then (a, if a.status = target then .duplicate else .stale)
  else if target.rank < a.status.rank then (a, .stale)
  else ({ a with status := target, payload := payload }, .applied)

end PaymentAttempt

structure PaymentEvent where
  paymentOrderId : Option ℕ
  paymentAttemptId : Option ℕ
  provider : String
  eventType : String
  eventKey : String
  status : PaymentEventStatus
  payload : Payload
  occurredAt : DateTime
  providerPaymentId : Option String := none
  reportedPaymentOrderId : Option ℕ := none
  paymentStatus : Option PaymentStatus := none
  amountMinor : Option ℤ := none
  currency : Option Currency := none
  processedAt : Option DateTime := none
  errorMessage : Option String := none
deriving DecidableEq, Repr

namespace PaymentEvent

def statusAlias : String → Option PaymentStatus
  | "paid" | "succeeded" | "success" | "completed" => some .paid
  | "failed" | "error" => some .failed
  | "expired" => some .expired
  | "cancelled" | "canceled" => some .cancelled
  | _ => none

def statusOfEventType (eventType : String) : PaymentStatus :=
  let lowered := lowerText eventType
  if ["paid", "succeeded", "completed"].any (textContains lowered) then .paid
  else if textContains lowered "cancel" then .cancelled
  else if textContains lowered "expire" then .expired
  else if textContains lowered "fail" || textContains lowered "error" then .failed
  else .pending

def inferPaymentStatus (eventType : String) (payload : Payload) : PaymentStatus :=
  let raw :=
    if (payload.get "status").isTruthy then payload.get "status"
    else if (payload.get "payment_status").isTruthy then payload.get "payment_status"
    else payload.get "state"
  match raw with
  | .text value => (statusAlias (lowerText value)).getD (statusOfEventType eventType)
  | _ => statusOfEventType eventType

def normalizedPaymentStatus (e : PaymentEvent) : PaymentStatus :=
  e.paymentStatus.getD (inferPaymentStatus e.eventType e.payload)

def markProcessed (e : PaymentEvent) (now : DateTime) : PaymentEvent :=
  { e with status := .processed, processedAt := some now, errorMessage := none }

def ignore (e : PaymentEvent) (now : DateTime) (error : Option String) : PaymentEvent :=
  { e with
    status := .ignored
    processedAt := some now
    errorMessage := error.orElse fun _ => e.errorMessage }

def fail (e : PaymentEvent) (now : DateTime) (error : String) : PaymentEvent :=
  { e with status := .failed, processedAt := some now, errorMessage := some error }

end PaymentEvent

end ShopBot
