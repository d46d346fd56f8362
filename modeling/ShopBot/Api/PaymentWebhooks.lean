import ShopBot.Api.Webhooks
import ShopBot.UseCases.WebhookGateway

/-! # The webhook of payments

The request is checked before its body is read, and nothing is stored before the provider has
vouched for it.
-/

namespace ShopBot

/-- A request to the webhook with its body as it arrives. -/
structure WebhookRequest extends Webhooks.Request where
  contentLength : Option String
  chunks : List (List UInt8)
  headers : Payload := []

structure WebhookSettings extends YooKassaSettings where
  isProduction : Bool
  webhookMaxBodyBytes : ℕ
  trustedProxyCidrs : List String
  yookassaWebhookAllowedNetworks : List String

namespace Webhooks

variable (texts : WebhookTexts)

def bodyTooLarge : HttpError where
  statusCode := 413
  detail := "webhook body too large"

def invalidWebhook : HttpError where
  statusCode := 401
  detail := "invalid webhook"

def invalidPayload : HttpError where
  statusCode := 400
  detail := "invalid webhook payload"

def unsupportedProvider : HttpError where
  statusCode := 404
  detail := "unsupported payment provider"

def internalError : HttpError where
  statusCode := 500
  detail := "Internal Server Error"

/-- The chunks of the body, as long as they fit. -/
def readChunks (maximum : ℕ) (body : List UInt8) :
    List (List UInt8) → Except HttpError (List UInt8)
  | [] => .ok body
  | chunk :: rest =>
    if maximum < (body ++ chunk).length then .error bodyTooLarge
    else readChunks maximum (body ++ chunk) rest

/-- `_read_bounded_body` -/
def readBoundedBody (request : WebhookRequest) (maximum : ℕ) : Except HttpError (List UInt8) := do
  match orText request.contentLength none with
  | none => pure ()
  | some rawLength =>
    match texts.int rawLength with
    | none => throw { statusCode := 400, detail := "invalid content length" }
    | some n => if (maximum : ℤ) < n then throw bodyTooLarge
  readChunks maximum [] request.chunks

/-- `PaymentAdapterRegistry.get` and the verification of its adapter. The adapters that are kept
out of production are arguments. -/
def verify (settings : WebhookSettings) (api : YooKassaApi)
    (others : String → List UInt8 → Except WebhookError NormalizedWebhookEvent) (provider : String)
    (now : DateTime) (rawBody : List UInt8) : Except WebhookError NormalizedWebhookEvent :=
  match PaymentAdapterRegistry.get settings.isProduction provider with
  | .error _ => .error (.valueError s!"Unsupported payment provider: {provider}")
  | .ok () =>
    if provider = "yookassa" then
      YooKassaAdapter.verifyAndNormalizeWebhook texts settings.toYooKassaSettings api now rawBody
    else others provider rawBody

def httpError : WebhookError → HttpError
  | .authentication _ => invalidWebhook
  | .payload _ => invalidPayload
  | .valueError _ => unsupportedProvider
  | .other => internalError

/-- `_handle_payment_webhook`; `rawPayload` is what the inbox keeps of the body. -/
def handlePaymentWebhook (settings : WebhookSettings) (api : YooKassaApi)
    (others : String → List UInt8 → Except WebhookError NormalizedWebhookEvent) (provider : String)
    (request : WebhookRequest) (rawPayload : Payload) (now : DateTime) (db : Database) :
    Except HttpError (IngestResult × Database) := do
  checkSource provider request.toRequest settings.trustedProxyCidrs
    settings.yookassaWebhookAllowedNetworks
  let rawBody ← readBoundedBody texts request settings.webhookMaxBodyBytes
  match verify texts settings api others provider now rawBody with
  | .error e => throw (httpError e)
  | .ok webhook =>
    match IngestWebhook.execute db provider webhook request.headers rawPayload now with
    | .error _ => throw internalError
    | .ok result => return result

end Webhooks

end ShopBot
