import ShopBot.Persistence.VpnRepository

/-! # Repositories of the billing ledgers

Orders, attempts, events, provider transactions, the webhook inbox and the rows of
subscriptions and periods, with the unique indexes that make an insert fail or return
the row that is already there.
-/

namespace ShopBot

namespace Database

/-! ## Users and tariffs -/

def getUserByTelegramId (db : Database) (telegramId : ℤ) : Option (User × ℕ) :=
  Table.firstWhere (fun u => u.telegramId = telegramId) db.users

def addUser (db : Database) (u : User) : ℕ × Database :=
  (db.users.length, { db with users := db.users ++ [u] })

/-! ## Orders and attempts -/

/-- `create_order`: the inserted row, or the row that already has the idempotency key. -/
def addOrder (db : Database) (o : PaymentOrder) : ℕ × Database :=
  match Table.firstWhere (fun p => p.idempotencyKey = o.idempotencyKey) db.paymentOrders with
  | some (_, id) => (id, db)
  | none => (db.paymentOrders.length, { db with paymentOrders := db.paymentOrders ++ [o] })

def getOrder (db : Database) (id : ℕ) : Option PaymentOrder := db.paymentOrders[id]?

def saveOrder (db : Database) (id : ℕ) (o : PaymentOrder) : Database :=
  { db with paymentOrders := db.paymentOrders.set id o }

def getAttempt (db : Database) (id : ℕ) : Option PaymentAttempt := db.paymentAttempts[id]?

def getLatestAttempt (db : Database) (orderId : ℕ) : Option (PaymentAttempt × ℕ) :=
  Table.lastWhere (fun a => a.paymentOrderId = orderId) db.paymentAttempts

def getAttemptByProviderPaymentId (db : Database) (provider providerPaymentId : String) :
    Option (PaymentAttempt × ℕ) :=
  Table.firstWhere
    (fun a => a.provider = provider && a.providerPaymentId = some providerPaymentId)
    db.paymentAttempts

/-- `create_attempt`; one attempt of an order may be in creation. -/
def addAttempt (db : Database) (a : PaymentAttempt) : Except Error (ℕ × Database) :=
  if a.status = .created && db.paymentAttempts.any fun b =>
      b.paymentOrderId = a.paymentOrderId && b.status = .created then
    .error (.integrity "uq_payment_attempts_one_creation_claim_per_order")
  else
    .ok (db.paymentAttempts.length, { db with paymentAttempts := db.paymentAttempts ++ [a] })

/-- `save_attempt_entity`; the provider's payment id is unique. -/
def saveAttempt (db : Database) (id : ℕ) (a : PaymentAttempt) : Except Error Database :=
  if a.providerPaymentId.isSome && (Table.select (fun b => b.provider = a.provider &&
      b.providerPaymentId = a.providerPaymentId) db.paymentAttempts).any (·.2 ≠ id) then
    .error (.integrity "uq_payment_attempts_provider_payment_id")
  else .ok { db with paymentAttempts := db.paymentAttempts.set id a }

/-! ## Events, transactions and the inbox -/

/-- `save_webhook_inbox`: whether the row is new, and its identifier. -/
def saveWebhookInbox (db : Database) (row : WebhookInboxRow) : Bool × ℕ × Database :=
  match Table.firstWhere (fun r => r.provider = row.provider && r.eventKey = row.eventKey)
      db.webhookInbox with
  | some (_, id) => (false, id, db)
  | none => (true, db.webhookInbox.length, { db with webhookInbox := db.webhookInbox ++ [row] })

def markWebhookInboxProcessed (db : Database) (id : ℕ) (now : DateTime) : Database :=
  { db with webhookInbox := db.webhookInbox.modify id fun r =>
      { r with status := .processed, processedAt := some now } }

/-- `create_payment_event`: the inserted row, or the row of the provider that already has
the key; the key alone is unique as well. -/
def createPaymentEvent (db : Database) (e : PaymentEvent) : Except Error (ℕ × Database) :=
  match Table.firstWhere (fun f => f.provider = e.provider && f.eventKey = e.eventKey)
      db.paymentEvents with
  | some (_, id) => .ok (id, db)
  | none =>
    if db.paymentEvents.any (·.eventKey = e.eventKey) then
      .error (.integrity "uq_payment_events_event_key")
    else .ok (db.paymentEvents.length, { db with paymentEvents := db.paymentEvents ++ [e] })

def getEvent (db : Database) (id : ℕ) : Option PaymentEvent := db.paymentEvents[id]?

def saveEvent (db : Database) (id : ℕ) (e : PaymentEvent) : Database :=
  { db with paymentEvents := db.paymentEvents.set id e }

def createProviderTransaction (db : Database) (t : ProviderTransaction) : Database :=
  if db.providerTransactions.any fun u => u.provider = t.provider &&
      u.providerTransactionKey = t.providerTransactionKey then db
  else { db with providerTransactions := db.providerTransactions ++ [t] }

def sumProviderTransactions (db : Database) (orderId : ℕ)
    (provider transactionType transactionStatus : String) : ℤ :=
  ((db.providerTransactions.filter fun t => t.paymentOrderId = orderId &&
    t.provider = provider && t.transactionType = transactionType &&
    t.transactionStatus = transactionStatus).map (·.amountMinor)).sum

/-! ## Subscriptions and periods -/

def getActiveSubscriptionForUser (db : Database) (userId : ℕ) : Option (Subscription × ℕ) :=
  Table.firstWhere (fun s => s.userId = userId && s.status = .active) db.subscriptions

/-- `add_entity`; a user has at most one active subscription. -/
def addSubscription (db : Database) (s : Subscription) : Except Error (ℕ × Database) :=
  if s.status = .active && db.subscriptions.any fun r =>
      r.userId = s.userId && r.status = .active then
    .error (.integrity "uq_subscriptions_one_active_per_user")
  else .ok (db.subscriptions.length, { db with subscriptions := db.subscriptions ++ [s] })

def saveSubscription (db : Database) (id : ℕ) (s : Subscription) : Database :=
  { db with subscriptions := db.subscriptions.set id s }

def getLastPeriod (db : Database) (subscriptionId : ℕ) : Option SubscriptionPeriod :=
  latestBy (·.expiresAt)
    (db.subscriptionPeriods.filter (·.subscriptionId = some subscriptionId))

def getPeriodByPaymentOrderId (db : Database) (orderId : ℕ) :
    Option (SubscriptionPeriod × ℕ) :=
  Table.firstWhere (fun p => p.paymentOrderId = some orderId) db.subscriptionPeriods

def hasFundedPeriodAfter (db : Database) (subscriptionId : ℕ) (now : DateTime) : Bool :=
  db.subscriptionPeriods.any fun p =>
    p.subscriptionId = some subscriptionId && p.isPaid && now < p.expiresAt

/-- `add_period_entity`; an order funds at most one period. -/
def addPeriod (db : Database) (p : SubscriptionPeriod) : Except Error (ℕ × Database) :=
  if p.subscriptionId.isNone then
    .error (.valueError "Subscription period requires subscription_id")
  else if p.paymentOrderId.isSome && db.subscriptionPeriods.any fun q =>
      q.paymentOrderId = p.paymentOrderId then
    .error (.integrity "uq_subscription_periods_payment_order_id")
  else .ok (db.subscriptionPeriods.length,
    { db with subscriptionPeriods := db.subscriptionPeriods ++ [p] })

def savePeriod (db : Database) (id : ℕ) (p : SubscriptionPeriod) : Database :=
  { db with subscriptionPeriods := db.subscriptionPeriods.set id p }

end Database

end ShopBot
