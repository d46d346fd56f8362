import ShopBot.Library.Transition
import ShopBot.UseCases.ProcessPayment
import ShopBot.UseCases.ReconcileSubscriptions

/-! # Histories of subscriptions

Activations, full refunds and expirations follow each other in any order, each at a clock
of its own. What was bought is remembered beside the periods.
-/

namespace ShopBot

structure SubscriptionHistory where
  db : Database
  /-- For every period the days that were bought and the moment of the activation. -/
  purchases : List (ℕ × DateTime) := []

inductive SubscriptionEvent where
  | activate (userId tariffId periodDays : ℕ) (now : DateTime) (paymentOrderId : Option ℕ)

  /-- All of an order has been refunded. -/
  | refund (orderId : ℕ) (now : DateTime)

  | expire (subscriptionId : ℕ) (now : DateTime)

namespace SubscriptionHistory

def activate (h : SubscriptionHistory) (userId tariffId periodDays : ℕ) (now : DateTime)
    (paymentOrderId : Option ℕ) : Option SubscriptionHistory :=
  (ActivateSubscription.execute h.db userId tariffId periodDays now paymentOrderId).toOption.map
    fun r => { db := r.2.2, purchases := h.purchases ++ [(periodDays, now)] }

def exec (h : SubscriptionHistory) : SubscriptionEvent → Option SubscriptionHistory
  | .activate userId tariffId periodDays now paymentOrderId =>
    h.activate userId tariffId periodDays now paymentOrderId
  | .refund orderId now => some { h with db := (ProcessPayment.withdrawFunding now h.db orderId).2 }
  | .expire subscriptionId now => some { h with
      db := (ReconcileSubscriptions.expireSubscription h.db subscriptionId now).2 }

/-- Nobody has bought anything yet. -/
def Initial (h : SubscriptionHistory) : Prop :=
  h.db.subscriptions = [] ∧ h.db.subscriptionPeriods = [] ∧ h.purchases = []

def Reachable : SubscriptionHistory → Prop :=
  Transition.Reachable Initial (Transition.Labelled exec)

end SubscriptionHistory

end ShopBot
