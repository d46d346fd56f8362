import ShopBot.Domain.Amounts
import ShopBot.Domain.NodeHealth
import ShopBot.UseCases.IngestWebhook
import ShopBot.UseCases.PaymentGateway

/-! # Webhooks of YooKassa

YooKassa signs nothing. The adapter takes from a webhook what it is about, and everything else
from the object that the API returns for it.
-/

namespace ShopBot

/-- What the verification of a webhook raises. -/
inductive WebhookError where
  | authentication (message : String)

  | payload (message : String)

  | valueError (message : String)

  /-- An exception that nobody expects. -/
  | other
deriving DecidableEq, Repr

/-- What is left to the standard library besides the texts of documents. -/
structure WebhookTexts extends JsonTexts where
  /-- `json.loads`; a body that it cannot read is none. -/
  loads : List UInt8 → Option Json
  upper : String → String
  /-- `int` of a text. -/
  int : String → Option ℤ
  fromIsoformat : String → Option DateTime

/-- What the API of YooKassa is asked for. -/
inductive YooKassaResource where
  | payments

  | refunds
deriving DecidableEq, Repr

structure YooKassaSettings where
  shopId : Option String
  secretKey : Option String
deriving DecidableEq, Repr

/-- The answers of the API to a shop that knows its key; an error and a text that is no JSON
are none. -/
abbrev YooKassaApi := YooKassaResource → String → Option Json

/-- `str(value)`. -/
def Json.textOf (texts : WebhookTexts) : Json → String
  | .str value => value
  | value => texts.str value

namespace YooKassaAdapter

variable (texts : WebhookTexts)

def parseJson (rawBody : List UInt8) : Except WebhookError JsonObject :=
  match texts.loads rawBody with
  | some (.object entries) => .ok entries
  | _ => .error (.payload "YooKassa webhook payload is invalid")

/-- The value is `None` or an empty text. -/
def isBlank : Json → Bool
  | .null => true
  | .str value => value = ""
  | _ => false

def optionalInt (value : Json) : Except WebhookError (Option ℤ) :=
  if isBlank value then .ok none
  else
    match texts.int (value.textOf texts) with
    | some n => .ok (some n)
    | none => .error (.payload "YooKassa order reference is invalid")

/-- `_money_to_minor` -/
def minorOf (value : Json) : Except WebhookError (Option ℤ) :=
  match moneyToMinor (if isBlank value then none else some (value.textOf texts)) with
  | .ok minor => .ok minor
  | .error (.webhookPayload message) => .error (.payload message)
  | .error (.other (.valueError message)) => .error (.valueError message)
  | .error _ => .error .other

/-- `text.strip().upper() or None`, as a currency. -/
def canonicalCurrency (text : String) : Option Currency :=
  let code := texts.upper (stripText text)
  if code = "" then none else some ⟨code⟩

/-- `_optional_currency`, and then `_canonical_currency` of the use case. -/
def currencyOf : Json → Option Currency
  | .null => none
  | value => (canonicalCurrency texts (value.textOf texts)).bind fun c => canonicalCurrency texts c.code

/-- `raw.replace("Z", "+00:00")` -/
def replaceZulu (raw : String) : String :=
  .ofList (raw.toList.flatMap fun c => if c = 'Z' then "+00:00".toList else [c])

def instantOf : Json → Option DateTime
  | .str raw => if raw = "" then none else texts.fromIsoformat (replaceZulu raw)
  | _ => none

def occurredAt (providerObject : JsonObject) (now : DateTime) : DateTime :=
  (instantOf texts (Json.get providerObject "captured_at")).getD
    ((instantOf texts (Json.get providerObject "created_at")).getD now)

/-- The status of an object, in lower case. -/
def rawStatus (providerObject : JsonObject) (default : String) : String :=
  lowerText (((Json.get providerObject "status").or (.str default)).textOf texts)

/-- The value of a key that may be missing. -/
def optionalObject (value : Json) (message : String) : Except WebhookError JsonObject :=
  match value with
  | .null => .ok []
  | .object entries => .ok entries
  | _ => .error (.payload message)

/-- The event as it is stored, with the object that it rests on. -/
def eventPayload (eventType : String) (providerObject : JsonObject) : Payload :=
  [("event", .text eventType), ("object", .nested !providerObject.isEmpty)]

def refundKey (refundId : String) : String := s!"yookassa:refund:{refundId}:succeeded"

def normalizeRefund (providerObject : JsonObject) (refundId : String) (now : DateTime) :
    Except WebhookError NormalizedWebhookEvent :=
  if rawStatus texts providerObject "" ≠ "succeeded" then
    .error (.authentication "YooKassa refund is not succeeded")
  else
    match Json.get providerObject "payment_id" with
    | .str paymentId =>
      if stripText paymentId = "" then
        .error (.payload "YooKassa refund payment_id is missing")
      else
        match Json.get providerObject "amount" with
        | .object amount => do
          let amountMinor ← minorOf texts (Json.get amount "value")
          return {
            eventKey := refundKey refundId
            eventType := "refund.succeeded"
            status := none
            occurredAt := occurredAt texts providerObject now
            providerPaymentId := some paymentId
            paymentOrderId := none
            amountMinor := amountMinor
            currency := currencyOf texts (Json.get amount "currency")
            payload := eventPayload "refund.succeeded" providerObject }
        | _ => .error (.payload "YooKassa refund amount is invalid")
    | _ => .error (.payload "YooKassa refund payment_id is missing")

/-- The reference of our own orders; a negative one names no order and is left out here. -/
def orderReference : Option ℤ → Except WebhookError (Option ℕ)
  | none => .ok none
  | some n => if n < 0 then .error .other else .ok (some n.toNat)

def paymentKey (paymentId eventType status : String) : String :=
  s!"yookassa:{paymentId}:{eventType}:{status}"

def normalizePayment (providerObject : JsonObject) (eventType : String) (now : DateTime) :
    Except WebhookError NormalizedWebhookEvent := do
  let paymentId := (Json.get providerObject "id").textOf texts
  let status := rawStatus texts providerObject "pending"
  let amount ← optionalObject (Json.get providerObject "amount") "YooKassa amount is invalid"
  let metadata ← optionalObject (Json.get providerObject "metadata") "YooKassa metadata is invalid"
  let reference ← optionalInt texts (Json.get metadata "payment_order_id")
  let amountMinor ← minorOf texts (Json.get amount "value")
  let paymentOrderId ← orderReference reference
  return {
    eventKey := paymentKey paymentId eventType status
    eventType := eventType
    status := some (normalizeStatus status)
    occurredAt := occurredAt texts providerObject now
    providerPaymentId := some paymentId
    paymentOrderId := paymentOrderId
    amountMinor := amountMinor
    currency := currencyOf texts (Json.get amount "currency")
    payload := eventPayload eventType providerObject }

/-- The object that the API returns, if it is the one that was asked for. -/
def fetchObject (api : YooKassaApi) (resource : YooKassaResource) (objectId : String) :
    Except WebhookError JsonObject :=
  match api resource objectId with
  | some (.object providerObject) =>
    match Json.get providerObject "id" with
    | .str id =>
      if id = objectId then .ok providerObject
      else .error (.authentication "YooKassa webhook authentication failed")
    | _ => .error (.authentication "YooKassa webhook authentication failed")
  | _ => .error (.authentication "YooKassa webhook authentication failed")

def hasCredentials (settings : YooKassaSettings) : Bool :=
  (orText settings.shopId none).isSome && (orText settings.secretKey none).isSome

/-- The identifier of the object that a webhook is about. -/
def objectIdOf (inbound : JsonObject) : Except WebhookError String :=
  match Json.get inbound "object" with
  | .object entries =>
    match Json.get entries "id" with
    | .str objectId =>
      if stripText objectId = "" then .error (.payload "YooKassa object id is missing")
      else .ok objectId
    | _ => .error (.payload "YooKassa object id is missing")
  | _ => .error (.payload "YooKassa webhook object is missing")

def verifyAndNormalizeWebhook (settings : YooKassaSettings) (api : YooKassaApi) (now : DateTime)
    (rawBody : List UInt8) : Except WebhookError NormalizedWebhookEvent := do
  let inbound ← parseJson texts rawBody
  let eventType := ((Json.get inbound "event").or (.str "payment.unknown")).textOf texts
  let objectId ← objectIdOf inbound
  if !hasCredentials settings then
    throw (.authentication "YooKassa webhook authentication failed")
  if eventType = "refund.succeeded" then
    normalizeRefund texts (← fetchObject api .refunds objectId) objectId now
  else
    normalizePayment texts (← fetchObject api .payments objectId) eventType now

end YooKassaAdapter

end ShopBot
