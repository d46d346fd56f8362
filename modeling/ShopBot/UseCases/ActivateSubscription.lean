import ShopBot.Persistence.PaymentRepository

/-! # Activating a subscription

A paid order extends the active subscription of its user when the tariff is the same,
replaces it when the tariff differs, and starts one when there is none.
-/

namespace ShopBot

/-- The result of the pure policy; the identifier is that of the extended subscription. -/
structure SubscriptionActivation where
  subscription : Subscription
  period : SubscriptionPeriod
  createdNewSubscription : Bool
  replacedSubscription : Option Subscription := none

/-- `SubscriptionPolicy.apply_paid_period`. -/
def applyPaidPeriod (activeSubscription : Option (Subscription × ℕ))
    (lastPeriod : Option SubscriptionPeriod) (userId tariffId periodDays : ℕ) (now : DateTime) :
    Except Error SubscriptionActivation :=
  match activeSubscription with
  | none => do
    let (s, p) ← (Subscription.start userId tariffId now).extend none periodDays now lastPeriod
    return { subscription := s, period := p, createdNewSubscription := true }
  | some (active, id) =>
    if active.tariffId ≠ tariffId then do
      let (s, p) ← (Subscription.start userId tariffId now).extend none periodDays now none
      return {
        subscription := s
        period := p
        createdNewSubscription := true
        replacedSubscription := some (active.expire now) }
    else do
      let (s, p) ← active.extend (some id) periodDays now lastPeriod
      return { subscription := s, period := p, createdNewSubscription := false }

namespace ActivateSubscription

/-- End the subscription that is replaced, if there is one. -/
def saveReplaced (db : Database) (activation : SubscriptionActivation)
    (active : Option (Subscription × ℕ)) : Database :=
  match activation.replacedSubscription, active with
  | some replaced, some (_, id) => db.saveSubscription id replaced
  | _, _ => db

/-- Insert the new subscription, or save the extended one. -/
def storeSubscription (db : Database) (activation : SubscriptionActivation)
    (active : Option (Subscription × ℕ)) : Except Error (ℕ × Database) :=
  match activation.createdNewSubscription, active with
  | false, some (_, id) => .ok (id, db.saveSubscription id activation.subscription)
  | _, _ => db.addSubscription activation.subscription

/-- The identifiers of the subscription and of the new period, and the new state. -/
def execute (db : Database) (userId tariffId periodDays : ℕ) (now : DateTime)
    (paymentOrderId : Option ℕ) : Except Error (ℕ × ℕ × Database) := do
  let active := db.getActiveSubscriptionForUser userId
  let lastPeriod := active.bind fun (s, id) =>
    if s.tariffId = tariffId then db.getLastPeriod id else none
  let activation ← applyPaidPeriod active lastPeriod userId tariffId periodDays now
  let (subscriptionId, db) ← storeSubscription (saveReplaced db activation active) activation active
  let (periodId, db) ← db.addPeriod { activation.period with
    subscriptionId := some subscriptionId
    paymentOrderId := paymentOrderId }
  return (subscriptionId, periodId, db)

end ActivateSubscription

end ShopBot
