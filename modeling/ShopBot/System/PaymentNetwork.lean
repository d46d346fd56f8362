import ShopBot.Api.PaymentWebhooks
import ShopBot.System.Command

/-! # The shop and YooKassa

Anybody may send a webhook, with any body and from anywhere. What is paid and what is refunded
is known to YooKassa alone, and its API answers at any time with what it knows then.
-/

namespace ShopBot

/-- The command stores a webhook. -/
def Command.isWebhook : Command → Bool
  | .ingestWebhook .. => true
  | _ => false

namespace YooKassaApi

variable (texts : WebhookTexts)

/-- YooKassa knows the payment or the refund, and that it has succeeded. -/
def Succeeded (api : YooKassaApi) (resource : YooKassaResource) (id : String)
    (amount paymentId : Json) : Prop :=
  ∃ providerObject, api resource id = some (.object providerObject) ∧
    Json.get providerObject "id" = .str id ∧
    YooKassaAdapter.rawStatus texts providerObject "" ∈ ["succeeded", "paid"] ∧
    Json.get providerObject "amount" = amount ∧ Json.get providerObject "payment_id" = paymentId

/-- A payment or refund that has succeeded keeps its amount and stays. -/
def Later (api api' : YooKassaApi) : Prop :=
  ∀ resource id amount paymentId, api.Succeeded texts resource id amount paymentId →
    api'.Succeeded texts resource id amount paymentId

end YooKassaApi

structure PaymentNetwork where
  shop : System
  api : YooKassaApi

namespace PaymentNetwork

/-- One transaction of the shop, one webhook that is accepted, or a change at YooKassa. The API
has answered for a webhook some time before it is stored. -/
inductive Step (settings : Settings) (webhooks : WebhookSettings) (texts : WebhookTexts)
    (others : String → List UInt8 → Except WebhookError NormalizedWebhookEvent)
    (n : PaymentNetwork) : PaymentNetwork → Prop where
  | shop (cmd : Command) (shop' : System) (command : cmd.isWebhook = false)
      (step : n.shop.exec settings cmd = some shop') :
      Step settings webhooks texts others n { n with shop := shop' }

  | webhook (api : YooKassaApi) (provider : String) (request : WebhookRequest)
      (rawPayload : Payload) (now : DateTime) (result : IngestResult) (db : Database)
      (answered : api.Later texts n.api)
      (accepted : Webhooks.handlePaymentWebhook texts webhooks api others provider request
        rawPayload now n.shop.db = .ok (result, db)) :
      Step settings webhooks texts others n { n with shop := { n.shop with db := db } }

  | yooKassa (api' : YooKassaApi) (later : n.api.Later texts api') :
      Step settings webhooks texts others n { n with api := api' }

/-- The shop has sold nothing yet. -/
def Initial (n : PaymentNetwork) : Prop := n.shop.Initial

def Reachable (settings : Settings) (webhooks : WebhookSettings) (texts : WebhookTexts)
    (others : String → List UInt8 → Except WebhookError NormalizedWebhookEvent) :
    PaymentNetwork → Prop :=
  Transition.Reachable Initial (Step settings webhooks texts others)

end PaymentNetwork

end ShopBot
