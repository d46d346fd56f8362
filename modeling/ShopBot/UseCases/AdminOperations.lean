import ShopBot.UseCases.ActivateSubscription
import ShopBot.UseCases.Settings

/-! # Manual settlement -/

namespace ShopBot

namespace AdminOperations

/-- The funded subscription, or none when the order had been paid before. -/
def markPaymentOrderPaid (db : Database) (orderId : ℕ) (now : DateTime) :
    Except Error (Option ℕ × Database) :=
  match db.getOrder orderId with
  | none => .error (.notFound "Order not found")
  | some o => do
    let (o, changed) ← o.markPaid now
    if changed then
      let o := { o with metadata := o.metadata.insert "manual_settlement" (.nested true) }
      let db := db.saveOrder orderId o
      let (subscriptionId, _, db) ← ActivateSubscription.execute db o.userId o.tariffId
        o.requestedPeriodDays now (some orderId)
      let db := db.appendAudit .subscriptionActivated .subscription subscriptionId
      return (some subscriptionId, db.appendAudit .paymentManuallySettled .paymentOrder orderId)
    else return (none, db)

/-- `queue_revoke`. -/
def queueRevoke (vpnConfigurationId : ℕ) : List Job :=
  [.revokeVpnConfiguration vpnConfigurationId .force]

/-- `queue_provisioning`. -/
def queueProvisioning (subscriptionId : ℕ) : List Job := [.provisionSubscription subscriptionId]

end AdminOperations

end ShopBot
