import ShopBot.Library.Transition
import ShopBot.Persistence.PaymentRepository

/-! # The billing ledger

Orders, attempts, events, transactions, subscriptions and periods, and what a transaction
of the billing may do to them. An order is paid together with the period it funds, and a
refund is recorded together with the withdrawal it causes.
-/

namespace ShopBot

open Relation

/-- What an order was created for. -/
def PaymentOrder.purchase (o : PaymentOrder) :=
  (o.userId, o.tariffId, o.provider, o.amount, o.requestedPeriodDays, o.idempotencyKey)

/-- An administrator has settled the order. -/
def PaymentOrder.manuallySettled (o : PaymentOrder) : Bool :=
  (o.metadata.get "manual_settlement").isTruthy

/-- The order that a period belongs to and the time it covers, paid or not. -/
def SubscriptionPeriod.funding (p : SubscriptionPeriod) : Option ℕ × DateTime × DateTime :=
  (p.paymentOrderId, p.startsAt, p.expiresAt)

/-- What a webhook reported, whatever has become of the event. -/
def PaymentEvent.report (e : PaymentEvent) : PaymentEvent :=
  { e with status := .received, processedAt := none, errorMessage := none }

/-- The event will not be processed again. -/
def PaymentEvent.isClosed (e : PaymentEvent) : Bool :=
  e.status = .processed || e.status = .ignored

structure Billing where
  orders : List PaymentOrder
  attempts : List PaymentAttempt
  events : List PaymentEvent
  transactions : List ProviderTransaction
  subscriptions : List Subscription
  periods : List SubscriptionPeriod

/-- The subscription of a user is extended, replaced or started. -/
structure Subscribes (now : DateTime) (userId sid : ℕ) (subs subs' : List Subscription) :
    Prop where
  subscription : ∃ s, subs'[sid]? = some s ∧ s.status = .active ∧ s.userId = userId
  rows : ∀ (i : ℕ) (s' : Subscription), subs'[i]? = some s' → i = sid ∨ ∃ s, subs[i]? = some s
  kept : ∀ (i : ℕ) (s : Subscription), subs[i]? = some s →
    ∃ s', subs'[i]? = some s' ∧ (s' = s ∨ s' = s.expire now)
  alone : subs[sid]? = none → ∀ (i : ℕ) (s' : Subscription), subs'[i]? = some s' →
    s'.userId = userId → s'.status = .active → i = sid

/-- The paid period that an order funds, and what it does to the subscriptions. -/
structure Activation (now : DateTime) (o : PaymentOrder) (orderId sid : ℕ)
    (subs subs' : List Subscription) (periods periods' : List SubscriptionPeriod) : Prop
    extends Subscribes now o.userId sid subs subs' where
  period : ∃ p : SubscriptionPeriod, periods' = periods ++ [p] ∧ p.subscriptionId = some sid ∧
    p.paymentOrderId = some orderId ∧ p.isPaid = true ∧ now ≤ p.startsAt ∧
    p.expiresAt = p.startsAt + days o.requestedPeriodDays
  unfunded : ∀ p ∈ periods, p.paymentOrderId ≠ some orderId

/-- What a full refund takes away: the period of the order is no longer paid, and its
subscription ends unless a later period funds it. -/
inductive Withdrawal (now : DateTime) (orderId : ℕ) (subs : List Subscription)
    (periods : List SubscriptionPeriod) : List Subscription → List SubscriptionPeriod → Prop where
  | nothing (free : ∀ p ∈ periods, p.paymentOrderId ≠ some orderId) :
      Withdrawal now orderId subs periods subs periods

  | unpaid (k : ℕ) (p : SubscriptionPeriod) (row : periods[k]? = some p)
      (order : p.paymentOrderId = some orderId) :
      Withdrawal now orderId subs periods subs (periods.set k { p with isPaid := false })

  | ended (k sid : ℕ) (p : SubscriptionPeriod) (s : Subscription) (row : periods[k]? = some p)
      (order : p.paymentOrderId = some orderId) (subscription : subs[sid]? = some s)
      (unfunded : ∀ q ∈ periods.set k { p with isPaid := false }, q.subscriptionId = some sid →
        q.isPaid = true → q.expiresAt ≤ now) :
      Withdrawal now orderId subs periods (subs.set sid (s.expire now))
        (periods.set k { p with isPaid := false })

namespace Billing

/-- `create_provider_transaction`: the provider's key is stored once. -/
def record (t : ProviderTransaction) (rows : List ProviderTransaction) :
    List ProviderTransaction :=
  if rows.any fun u => u.provider = t.provider &&
      u.providerTransactionKey = t.providerTransactionKey then rows
  else rows ++ [t]

/-- What has been refunded of an order. -/
def refunded (rows : List ProviderTransaction) (orderId : ℕ) (provider : String) : ℤ :=
  ((rows.filter fun t => t.paymentOrderId = orderId && t.provider = provider &&
    t.transactionType = "refund_succeeded" && t.transactionStatus = "succeeded").map
      (·.amountMinor)).sum

/-- A paid event that agrees with an attempt and its order in every respect. -/
structure Agrees (e : PaymentEvent) (a : PaymentAttempt) (orderId : ℕ) (o : PaymentOrder) :
    Prop where
  provider : e.provider = o.provider ∧ e.provider = a.provider
  paymentId : e.providerPaymentId = a.providerPaymentId ∧ e.providerPaymentId ≠ none
  attempt : a.paymentOrderId = orderId
  order : e.paymentOrderId = some orderId
  reported : ∀ id, e.reportedPaymentOrderId = some id → id = orderId
  amount : e.amountMinor = some (o.amount.minor : ℤ)
  currency : e.currency = some o.amount.currency

/-- A processed event that justifies the payment of an order. -/
def Justified (b : Billing) (orderId : ℕ) (o : PaymentOrder) : Prop :=
  ∃ (i j : ℕ) (e : PaymentEvent) (a : PaymentAttempt), b.events[i]? = some e ∧
    e.status = .processed ∧ e.paymentAttemptId = some j ∧ b.attempts[j]? = some a ∧
    a.status = .paid ∧ Agrees e a orderId o

/-- What may be written: orders that are settled by hand, and events that are refunds. -/
structure Actor where
  settles : ℕ → Prop
  refunds : ℕ → Prop

/-- One change of the ledger. -/
inductive Step (admin : Actor) (b : Billing) : Billing → Prop where
  | openOrder (o : PaymentOrder) (status : o.status = .pending) (paidAt : o.paidAt = none)
      (manual : o.manuallySettled = false) :
      Step admin b { b with orders := b.orders ++ [o] }

  | claim (a : PaymentAttempt) (status : a.status = .created)
      (order : ∃ o, b.orders[a.paymentOrderId]? = some o ∧ a.provider = o.provider) :
      Step admin b { b with attempts := b.attempts ++ [a] }

  | attempt (j : ℕ) (a a' : PaymentAttempt) (row : b.attempts[j]? = some a)
      (status : a.status.isFinal = false) (order : a'.paymentOrderId = a.paymentOrderId)
      (provider : a'.provider = a.provider) :
      Step admin b { b with attempts := b.attempts.set j a' }

  | transact (t : ProviderTransaction) (type : t.transactionType ≠ "refund_succeeded") :
      Step admin b { b with transactions := record t b.transactions }

  | receive (e : PaymentEvent) (status : e.status = .received)
      (fresh : ∀ f ∈ b.events, f.eventKey ≠ e.eventKey)
      (linked : ∀ j, e.paymentAttemptId = some j →
        ∃ a, b.attempts[j]? = some a ∧ e.provider = a.provider) :
      Step admin b { b with events := b.events ++ [e] }

  /-- The event is rejected, or it is stale. -/
  | dismiss (i : ℕ) (e e' : PaymentEvent) (row : b.events[i]? = some e)
      (status : e.isClosed = false) (report : e'.report = e.report)
      (status' : e'.status = .failed ∨ e'.status = .ignored) :
      Step admin b { b with events := b.events.set i e' }

  | process (i : ℕ) (e e' : PaymentEvent) (row : b.events[i]? = some e)
      (status : e.isClosed = false) (report : e'.report = e.report)
      (status' : e'.status = .processed) (type : e.eventType ≠ "refund.succeeded") :
      Step admin b { b with events := b.events.set i e' }

  | close (k : ℕ) (o o' : PaymentOrder) (row : b.orders[k]? = some o) (status : o.status ≠ .paid)
      (status' : o'.status ≠ .paid) (opened : o'.status ≠ .created)
      (purchase : o'.purchase = o.purchase)
      (manual : o'.manuallySettled = o.manuallySettled) :
      Step admin b { b with orders := b.orders.set k o' }

  | pay (now : DateTime) (k sid : ℕ) (o o' : PaymentOrder) (subs : List Subscription)
      (periods : List SubscriptionPeriod) (row : b.orders[k]? = some o) (status : o.status ≠ .paid)
      (status' : o'.status = .paid) (paidAt : o'.paidAt = some now)
      (purchase : o'.purchase = o.purchase)
      (justified : admin.settles k ∧ o'.manuallySettled = true ∨
        o'.manuallySettled = o.manuallySettled ∧ b.Justified k o)
      (activation : Activation now o k sid b.subscriptions subs b.periods periods) :
      Step admin b { b with
        orders := b.orders.set k o'
        subscriptions := subs
        periods := periods }

  | refund (now : DateTime) (i j k : ℕ) (e e' : PaymentEvent) (a : PaymentAttempt)
      (o : PaymentOrder) (t : ProviderTransaction) (subs : List Subscription)
      (periods : List SubscriptionPeriod) (actor : admin.refunds i)
      (row : b.events[i]? = some e) (status : e.isClosed = false) (report : e'.report = e.report)
      (status' : e'.status = .processed) (type : e.eventType = "refund.succeeded")
      (attempt : e.paymentAttemptId = some j) (attemptRow : b.attempts[j]? = some a)
      (order : a.paymentOrderId = k) (orderRow : b.orders[k]? = some o)
      (amount : e.amountMinor = some t.amountMinor) (positive : 0 < t.amountMinor)
      (covers : t.amountMinor ≤ o.amount.minor) (orderId : t.paymentOrderId = k)
      (provider : t.provider = e.provider) (key : t.providerTransactionKey = e.eventKey)
      (refunds : t.transactionType = "refund_succeeded" ∧ t.transactionStatus = "succeeded")
      (withdrawal : if (o.amount.minor : ℤ) ≤ refunded (record t b.transactions) k e.provider
        then Withdrawal now k b.subscriptions b.periods subs periods
        else subs = b.subscriptions ∧ periods = b.periods) :
      Step admin b { b with
        events := b.events.set i e'
        transactions := record t b.transactions
        subscriptions := subs
        periods := periods }

  | expire (now : DateTime) (sid : ℕ) (s : Subscription) (row : b.subscriptions[sid]? = some s)
      (status : s.status = .active)
      (unfunded : ∀ p ∈ b.periods, p.subscriptionId = some sid → p.contains now = false) :
      Step admin b { b with subscriptions := b.subscriptions.set sid (s.expire now) }

abbrev Run (admin : Actor) : Billing → Billing → Prop := ReflTransGen (Step admin)

end Billing

end ShopBot
