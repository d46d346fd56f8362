import ShopBot.Persistence.PaymentRepository
import ShopBot.UseCases.Settings

/-! # Ingesting webhooks

A verified and normalised webhook is stored once, linked to the payment attempt that
carries its provider payment id at that moment, and enqueued for processing.
-/

namespace ShopBot

/-- What a gateway returns for a webhook it has verified. -/
structure NormalizedWebhookEvent where
  eventKey : String
  eventType : String
  status : Option PaymentStatus := none
  occurredAt : DateTime := 0
  providerPaymentId : Option String := none
  paymentOrderId : Option ℕ := none
  amountMinor : Option ℤ := none
  currency : Option Currency := none
  payload : Payload := []
deriving DecidableEq, Repr

structure IngestResult where
  duplicate : Bool
  eventKey : String
  paymentEventId : ℕ
deriving DecidableEq, Repr

namespace IngestWebhook

/-- The event row of a webhook; a blank provider payment id links no attempt. -/
def eventOf (db : Database) (provider : String) (w : NormalizedWebhookEvent) : PaymentEvent :=
  let attempt := (orText w.providerPaymentId none).bind (db.getAttemptByProviderPaymentId provider)
  { paymentOrderId := attempt.map (·.1.paymentOrderId)
    paymentAttemptId := attempt.map (·.2)
    provider := provider
    eventType := w.eventType
    eventKey := w.eventKey
    status := .received
    payload := w.payload
    occurredAt := w.occurredAt
    providerPaymentId := w.providerPaymentId
    reportedPaymentOrderId := w.paymentOrderId
    paymentStatus := w.status
    amountMinor := w.amountMinor
    currency := w.currency }

def execute (db : Database) (provider : String) (w : NormalizedWebhookEvent)
    (headers rawPayload : Payload) (now : DateTime) : Except Error (IngestResult × Database) := do
  let (inserted, inboxId, db) := db.saveWebhookInbox {
    provider := provider
    eventKey := w.eventKey
    headers := headers
    payload := rawPayload
    status := .received }
  let (eventId, db) ← db.createPaymentEvent (eventOf db provider w)
  return ({ duplicate := !inserted, eventKey := w.eventKey, paymentEventId := eventId },
    db.markWebhookInboxProcessed inboxId now)

/-- Jobs enqueued after the transaction. -/
def jobs (r : IngestResult) : List Job := [.processPaymentEvent r.paymentEventId]

end IngestWebhook

end ShopBot
