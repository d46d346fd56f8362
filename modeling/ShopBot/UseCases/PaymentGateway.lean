import ShopBot.UseCases.CreatePayment

/-! # The payment gateway

The registry of adapters, what the adapter of YooKassa makes of a reply, the status that its
webhooks report, and the part of `CreatePayment.execute` that follows an owned claim.
-/

namespace ShopBot

/-- What a call of the gateway raises. -/
inductive GatewayError where
  | application (e : Error)

  | keyError (key : String)

  | attributeError (name : String)

  /-- An exception of a library, by the name of its type. -/
  | other (name : String)
deriving DecidableEq, Repr

/-- The value of `body.get("confirmation", {})`. -/
inductive Confirmation where
  | object (confirmationUrl : Option String)

  /-- A value without the method `get`. -/
  | other
deriving DecidableEq, Repr

structure YooKassaBody where
  payload : Payload
  confirmation : Confirmation := .object none
deriving DecidableEq, Repr

inductive YooKassaReply where
  /-- Missing credentials, a transport error, an error status, or no JSON object. -/
  | raised (e : GatewayError)

  | body (body : YooKassaBody)
deriving DecidableEq, Repr

/-- A payment intent with the status as the gateway gave it. -/
structure GatewayIntent where
  providerPaymentId : String
  status : PayloadValue
  paymentUrl : Option String
  payload : Payload
deriving DecidableEq, Repr

/-- What the providers answer; of the adapters kept out of production only the outcome. -/
structure GatewayReplies where
  yooKassa : YooKassaReply
  other : String → Except GatewayError GatewayIntent

/-- `str(value)`; the text of a nested value is an argument. -/
def PayloadValue.str (nestedText : Bool → String) : PayloadValue → String
  | null => "None"
  | text value => value
  | number value => toString value
  | flag value => if value then "True" else "False"
  | nested nonempty => nestedText nonempty

namespace PaymentStatus

def values : List PaymentStatus := [created, pending, authorized, paid, failed, expired, cancelled]

/-- `PaymentStatus(value)`. -/
def ofValue : PayloadValue → Except Error PaymentStatus
  | .text value => enumFromText values text "PaymentStatus" value
  | _ => .error (.valueError "value is not a valid PaymentStatus")

end PaymentStatus

namespace PaymentAdapterRegistry

def adapters (isProduction : Bool) : List String :=
  "yookassa" :: if isProduction then [] else ["dummy", "cryptobot", "heleket", "ton"]

def get (isProduction : Bool) (provider : String) : Except Error Unit :=
  require (provider ∈ adapters isProduction)
    (.valueError s!"Unsupported payment provider: {provider}")

end PaymentAdapterRegistry

namespace YooKassaAdapter

variable (nestedText : Bool → String)

def createPayment : YooKassaReply → Except GatewayError GatewayIntent
  | .raised e => .error e
  | .body body =>
    match body.payload.lookup "id" with
    | none => .error (.keyError "id")
    | some id =>
      match body.confirmation with
      | .other => .error (.attributeError "get")
      | .object url => .ok {
          providerPaymentId := id.str nestedText
          status := (body.payload.lookup "status").getD (.text "pending")
          paymentUrl := url
          payload := body.payload }

def normalizeStatus (value : String) : PaymentStatus :=
  (([("succeeded", .paid), ("paid", .paid), ("pending", .pending),
    ("waiting_for_capture", .authorized), ("canceled", .cancelled), ("cancelled", .cancelled),
    ("failed", .failed)] : List (String × PaymentStatus)).lookup value).getD .pending

/-- The status that `_normalize_payment` gives a webhook about the object. -/
def webhookStatus (providerObject : Payload) : PaymentStatus :=
  let raw := providerObject.get "status"
  let status := if raw.isTruthy then raw else .text "pending"
  normalizeStatus (lowerText (status.str nestedText))

end YooKassaAdapter

/-- `create_payment` of the adapter that the registry has for the provider. -/
def PaymentAdapterRegistry.createPayment (nestedText : Bool → String) (provider : String)
    (replies : GatewayReplies) : Except GatewayError GatewayIntent :=
  if provider = "yookassa" then YooKassaAdapter.createPayment nestedText replies.yooKassa
  else replies.other provider

namespace CreatePayment

variable (isProduction : Bool) (nestedText : Bool → String)

/-- `_finalize_owned_claim`; the status is converted once the claim is known to be owned. -/
def finalizeIntent (db : Database) (p : PreparedPaymentOrder) (token : Uuid)
    (intent : GatewayIntent) (now : DateTime) : Except Error (PaymentAttempt × Database) :=
  match db.getAttempt p.attemptId with
  | none => .error (.runtime "Payment creation claim disappeared before finalization")
  | some a =>
    if a.ownsCreationClaim token then do
      let status ← PaymentStatus.ofValue intent.status
      finalizeOwnedClaim db p.orderId p.order p.attemptId token {
        providerPaymentId := intent.providerPaymentId
        status
        paymentUrl := intent.paymentUrl
        payload := intent.payload } now
    else
      match db.getLatestAttempt p.orderId with
      | none => .error (.conflict "Payment creation ownership was lost")
      | some (current, _) => .ok (current, db)

/-- The rest of `execute` for the owner of a claim: the outcome, and the database behind the
second transaction. -/
def executeOwned (db : Database) (p : PreparedPaymentOrder) (token : Uuid)
    (replies : GatewayReplies) (now : DateTime) : Except GatewayError PaymentAttempt × Database :=
  -- the adapter is looked up before the block that fails the claim
  match PaymentAdapterRegistry.get isProduction p.order.provider with
  | .error e => (.error (.application e), db)
  | .ok () =>
    match PaymentAdapterRegistry.createPayment nestedText p.order.provider replies with
    | .error e => (.error e, (failOwnedClaim db p.attemptId token now).toOption.getD db)
    | .ok intent =>
      match finalizeIntent db p token intent now with
      | .error e => (.error (.application e), db)
      | .ok (a, db) => (.ok a, db)

end CreatePayment

end ShopBot
