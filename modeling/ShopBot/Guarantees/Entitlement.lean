import ShopBot.Guarantees.Fencing
import ShopBot.Lifecycle.BillingHistory

/-! # What a payment entitles to

An order funds one period, once, and for good. A subscription that is ended by a refund
has no paid time left; one that is ended by the reconciler may have, in the future.
-/

namespace ShopBot

open Database Relation

namespace System

variable {settings : Settings} {s s' : System} {cmd : Command}

theorem Reachable.entitled (h : Reachable settings s) :
    Billing.Entitled s.db.paymentOrders s.db.billingLedger.fundings := by
  refine Transition.Reachable.invariant
    (fun s : System => Billing.Entitled s.db.paymentOrders s.db.billingLedger.fundings)
    (fun s hs => ?_) ?_ h
  · rw [hs]
    exact ⟨fun k o ho => (nomatch ho), fun f hf => (nomatch hf)⟩
  · rintro s s' hr hent ⟨cmd, hcmd⟩
    exact (exec_evolves (Reachable.inv hr).1 hcmd).billing.entitled hent

theorem Reachable.paid_order (h : Reachable settings s) (hr : ReflTransGen (Step settings) s s')
    {k : ℕ} {o : PaymentOrder} (ho : s.db.paymentOrders[k]? = some o) (hs : o.status = .paid) :
    s'.db.paymentOrders[k]? = some o := by
  induction hr with
  | refl => exact ho
  | tail hr hstep ih =>
    obtain ⟨cmd, hcmd⟩ := hstep
    exact (exec_evolves (h.steps hr).inv.1 hcmd).billing.paid_order ih hs

/-- An order has one period when it is paid and none before, of the length that was
requested, and the row of a paid order never changes again. -/
theorem one_entitlement_per_order (h : Reachable settings s) :
    (∀ (k : ℕ) (o : PaymentOrder), s.db.paymentOrders[k]? = some o →
      s.db.subscriptionPeriods.countP (·.paymentOrderId = some k) =
        (if o.status = .paid then 1 else 0) ∧
      ∀ p ∈ s.db.subscriptionPeriods, p.paymentOrderId = some k →
        p.expiresAt = p.startsAt + days o.requestedPeriodDays) ∧
    (∀ (s' : System) (k : ℕ) (o : PaymentOrder), ReflTransGen (Step settings) s s' →
      s.db.paymentOrders[k]? = some o → o.status = .paid →
      s'.db.paymentOrders[k]? = some o) := by
  refine ⟨fun k o ho => ⟨?_, fun p hp hpo => ?_⟩, fun s' k o hr ho hs => h.paid_order hr ho hs⟩
  · have hcount := h.entitled.count k o ho
    rw [Billing.fundings, List.countP_map] at hcount
    exact hcount
  · obtain ⟨o', ho', hlen⟩ := h.entitled.length p.funding (List.mem_map_of_mem hp) k hpo
    cases ho.symm.trans ho'
    exact hlen

theorem one_entitlement_per_order_shop : ∃ o,
    ((shop nodeEndpoint).after shopSettings purchase).db.paymentOrders[0]? = some o ∧
      ((shop nodeEndpoint).after shopSettings purchase).db.subscriptionPeriods.countP
        (·.paymentOrderId = some 0) = 1 := by
  have hr : Reachable shopSettings ((shop nodeEndpoint).after shopSettings purchase) :=
    .after (shop_initial _) (by decide +kernel)
  obtain ⟨o, ho, hpaid⟩ := (Option.any_eq_true _ _).1
    (show (((shop nodeEndpoint).after shopSettings purchase).db.paymentOrders[0]?).any
      (·.status = .paid) = true by decide +kernel)
  refine ⟨o, ho, ((one_entitlement_per_order hr).1 0 o ho).1.trans ?_⟩
  rw [if_pos (of_decide_eq_true hpaid)]

end System

/-! ## The end of a subscription -/

variable {db db' : Database} {now : DateTime} {sid : ℕ} {sub sub' : Subscription}

/-- The paid periods of a subscription. -/
def Database.paidPeriods (db : Database) (sid : ℕ) : List SubscriptionPeriod :=
  db.subscriptionPeriods.filter fun p => p.subscriptionId = some sid && p.isPaid

theorem Database.mem_paidPeriods {p : SubscriptionPeriod} :
    p ∈ db.paidPeriods sid ↔ p ∈ db.subscriptionPeriods ∧ p.subscriptionId = some sid ∧
      p.isPaid = true := by
  simp [paidPeriods]

/-- The subscription is ended by the write of one row. -/
theorem ended_of_set {subs : List Subscription} {k : ℕ} {t : Subscription}
    (hrow : subs[k]? = some t) (hs : subs[sid]? = some sub) (hactive : sub.status = .active)
    (hs' : (subs.set k (t.expire now))[sid]? = some sub') (hended : sub'.status = .ended) :
    k = sid ∧ sub'.endedAt = some now := by
  by_cases hk : sid = k
  · subst hk
    cases hrow.symm.trans hs
    rw [List.getElem?_set_self (List.getElem?_eq_some_iff.1 hs).1] at hs'
    obtain rfl := Option.some.inj hs'
    rcases sub.expire_eq now with heq | ⟨-, -, hat⟩
    · rw [heq, hactive] at hended
      cases hended
    · exact ⟨rfl, hat⟩
  · rw [List.getElem?_set_ne (Ne.symm hk)] at hs'
    cases hs.symm.trans hs'
    exact nomatch hactive.symm.trans hended

theorem Withdrawal.ended_of_active {orderId : ℕ} {subs subs' : List Subscription}
    {periods periods' : List SubscriptionPeriod}
    (h : Withdrawal now orderId subs periods subs' periods') (hs : subs[sid]? = some sub)
    (hactive : sub.status = .active) (hs' : subs'[sid]? = some sub')
    (hended : sub'.status = .ended) : sub'.endedAt = some now ∧ ∀ p ∈ periods',
      p.subscriptionId = some sid → p.isPaid = true → p.expiresAt ≤ now := by
  cases h with
  | nothing | unpaid =>
    cases hs.symm.trans hs'
    exact nomatch hactive.symm.trans hended
  | ended k n p t row order subscription unfunded =>
    obtain ⟨rfl, hat⟩ := ended_of_set subscription hs hactive hs' hended
    exact ⟨hat, unfunded⟩

theorem ProcessPayment.settleRefund_ended {e : PaymentEvent} {eventId orderId attemptId : ℕ}
    {o : PaymentOrder} {amount : ℤ} {currency : Currency}
    (h : (settleRefund now db e eventId orderId attemptId o amount currency).2 = db')
    (hs : db.subscriptions[sid]? = some sub) (hactive : sub.status = .active)
    (hs' : db'.subscriptions[sid]? = some sub') (hended : sub'.status = .ended) :
    sub'.endedAt = some now ∧ ∀ p ∈ db'.paidPeriods sid, p.expiresAt ≤ now := by
  have hledger := createProviderTransaction_ledger db
    (refundTransaction e orderId attemptId amount currency)
  unfold settleRefund at h
  dsimp only at h
  generalize db.createProviderTransaction (refundTransaction e orderId attemptId amount currency) =
    db₁ at hledger h
  have hsubs : db₁.subscriptions = db.subscriptions := congrArg Billing.subscriptions hledger
  split_ifs at h
  · subst h
    obtain ⟨-, -, hw⟩ := withdrawFunding_withdrawal now db₁ orderId
    rw [hsubs] at hw
    obtain ⟨hat, hbound⟩ := hw.ended_of_active hs hactive hs' hended
    refine ⟨hat, fun p hp => ?_⟩
    obtain ⟨hm, hsid, hpaid⟩ := mem_paidPeriods.1 hp
    exact hbound p hm hsid hpaid
  · subst h
    change db₁.subscriptions[sid]? = some sub' at hs'
    rw [hsubs] at hs'
    cases hs.symm.trans hs'
    exact nomatch hactive.symm.trans hended

/-- A refund ends a subscription that has no paid time left. -/
theorem ProcessPayment.processRefund_ended {e : PaymentEvent} {eventId : ℕ}
    (h : (processRefund now db e eventId).2 = db') (hs : db.subscriptions[sid]? = some sub)
    (hactive : sub.status = .active) (hs' : db'.subscriptions[sid]? = some sub')
    (hended : sub'.status = .ended) : sub'.endedAt = some now ∧
      ∀ p ∈ db'.paidPeriods sid, p.expiresAt ≤ now := by
  have hreject : ∀ reason, (rejectEvent now db e eventId reason).2 = db' → False := by
    rintro reason rfl
    cases hs.symm.trans hs'
    exact nomatch hactive.symm.trans hended
  unfold processRefund at h
  split at h
  · exact (hreject _ h).elim
  · split at h
    · exact (hreject _ h).elim
    · split at h
      · exact (hreject _ h).elim
      · split at h
        · split_ifs at h
          · exact (hreject _ h).elim
          · exact (hreject _ h).elim
          · exact settleRefund_ended h hs hactive hs' hended
        · exact (hreject _ h).elim

/-- The reconciler ends a subscription without a current period. -/
theorem ReconcileSubscriptions.processAnomaly_ended {a : ReconciliationAnomaly}
    (h : processAnomaly db a now = db') (hs : db.subscriptions[sid]? = some sub)
    (hactive : sub.status = .active) (hs' : db'.subscriptions[sid]? = some sub')
    (hended : sub'.status = .ended) : sub'.endedAt = some now ∧
      ((∀ p ∈ db'.paidPeriods sid, p.expiresAt ≤ now) ↔
        ∀ p ∈ db.paidPeriods sid, p.startsAt ≤ now) := by
  have hsame : db = db' → False := by
    rintro rfl
    cases hs.symm.trans hs'
    exact nomatch hactive.symm.trans hended
  unfold processAnomaly at h
  split at h
  · unfold expireSubscription at h
    split at h
    · exact (hsame h).elim
    next t hrow =>
      split_ifs at h with hstatus hcurrent
      · exact (hsame h).elim
      · exact (hsame h).elim
      · subst h
        obtain ⟨rfl, hat⟩ := ended_of_set hrow hs hactive hs' hended
        refine ⟨hat, ?_⟩
        change (∀ p ∈ db.paidPeriods a.entityId, _) ↔ _
        constructor
        · intro h p hp
          exact (p.starts_lt_expires.le).trans (h p hp)
        · intro h p hp
          by_contra hlater
          obtain ⟨hm, hsid, hpaid⟩ := mem_paidPeriods.1 hp
          refine hcurrent (getCurrentPeriod_isSome.2 ⟨p, hm, hsid, ?_⟩)
          exact SubscriptionPeriod.contains_iff.2 ⟨hpaid, h p hp, not_le.1 hlater⟩
  · exact (hsame h).elim

namespace System

variable {settings : Settings} {s s' : System} {cmd : Command}

/-- The reconciler works off an anomaly. -/
def Reconciles (cmd : Command) : Prop := ∃ batch index, cmd = .processAnomaly batch index

/-- A refund is processed. -/
def Refunds (s : System) (cmd : Command) : Prop :=
  ∃ now eventId e, cmd = .processPayment now eventId ∧ s.db.paymentEvents[eventId]? = some e ∧
    e.eventType = "refund.succeeded"

/-- A subscription that the reconciler or a refund ends at some instant has no paid time left
after it, exactly when the reconciler ends none with a paid period that starts later. -/
theorem ended_without_paid_time_iff (hcmd : s.exec settings cmd = some s')
    (hpath : Reconciles cmd ∨ Refunds s cmd) (hs : s.db.subscriptions[sid]? = some sub)
    (hactive : sub.status = .active) (hs' : s'.db.subscriptions[sid]? = some sub')
    (hended : sub'.status = .ended) : ∃ now, sub'.endedAt = some now ∧
      ((∀ p ∈ s'.db.paidPeriods sid, p.expiresAt ≤ now) ↔
        (Reconciles cmd → ∀ p ∈ s.db.paidPeriods sid, p.startsAt ≤ now)) := by
  rcases hpath with ⟨batch, index, rfl⟩ | ⟨now, eventId, e, rfl, he, htype⟩
  · obtain ⟨b, -, h⟩ := Option.bind_eq_some_iff.1 hcmd
    obtain ⟨a, -, h₁⟩ := Option.bind_eq_some_iff.1 h
    cases h₁
    obtain ⟨hat, hiff⟩ := ReconcileSubscriptions.processAnomaly_ended rfl hs hactive hs' hended
    exact ⟨b.now, hat, hiff.trans ⟨fun h _ => h, fun h => h ⟨batch, index, rfl⟩⟩⟩
  · obtain ⟨r, h⟩ := commit_eq_some hcmd
    have hsame : s.db = s'.db → False := by
      intro hdb
      rw [hdb] at hs
      cases hs.symm.trans hs'
      exact nomatch hactive.symm.trans hended
    have hdb : (ProcessPayment.processRefund now s.db e eventId).2 = s'.db := by
      simp only [ProcessPayment.execute, getEvent, he] at h
      split_ifs at h
      · exact (hsame (congrArg Prod.snd (Except.ok.inj h))).elim
      · exact (hsame (congrArg Prod.snd (Except.ok.inj h))).elim
      · exact congrArg Prod.snd (Except.ok.inj h)
    obtain ⟨hat, hbound⟩ := ProcessPayment.processRefund_ended hdb hs hactive hs' hended
    refine ⟨now, hat, ⟨?_, fun _ => hbound⟩⟩
    rintro - ⟨_, _, h⟩
    cases h

/-- The provider reports a refund. -/
def refundReported (name : String) (amount : ℤ) (now : DateTime) : Command :=
  .ingestWebhook "yookassa" {
    eventKey := "refund of " ++ name
    eventType := "refund.succeeded"
    providerPaymentId := some name
    amountMinor := some amount
    currency := some ⟨"RUB"⟩ } [] [] now

/-- The only order of the client has been refunded, which is not processed yet. -/
def refunded : List Command := buy 0 month 0 "month" 0 ++ [refundReported "month" 500 1]

theorem ended_without_paid_time_iff_shop : ∃ (s' : System) (now : DateTime),
    (s'.db.subscriptions[0]?).any (·.status = .ended) = true ∧
      ∀ p ∈ s'.db.paidPeriods 0, p.expiresAt ≤ now := by
  obtain ⟨s', hs', hcond⟩ := (Option.any_eq_true _ _).1
    (show (((shop nodeEndpoint).after shopSettings refunded).exec shopSettings
      (.processPayment 2 1)).any (fun s' => (s'.db.subscriptions[0]?).any (·.status = .ended)) =
        true by decide +kernel)
  obtain ⟨sub', hsub', hended⟩ := (Option.any_eq_true _ _).1 hcond
  obtain ⟨sub, hsub, hactive⟩ := (Option.any_eq_true _ _).1
    (show ((shop nodeEndpoint).after shopSettings refunded).db.subscriptions[0]?.any
      (·.status = .active) = true by decide +kernel)
  obtain ⟨e, he, htype⟩ := (Option.any_eq_true _ _).1
    (show ((shop nodeEndpoint).after shopSettings refunded).db.paymentEvents[1]?.any
      (·.eventType = "refund.succeeded") = true by decide +kernel)
  obtain ⟨now, -, hiff⟩ := ended_without_paid_time_iff hs'
    (.inr ⟨2, 1, e, rfl, he, of_decide_eq_true htype⟩) hsub (of_decide_eq_true hactive) hsub'
    (of_decide_eq_true hended)
  exact ⟨s', now, hcond, hiff.2 fun ⟨_, _, h⟩ => nomatch h⟩

/-- The client has paid for two months, and the running one has been refunded: the reconciler
ends the subscription although the second month is paid. -/
theorem ended_with_paid_time :
    ¬ ∀ (settings : Settings) (s s' : System) (cmd : Command) (sid : ℕ) (sub sub' : Subscription)
      (now : DateTime), Reachable settings s → s.exec settings cmd = some s' →
      Reconciles cmd ∨ Refunds s cmd → s.db.subscriptions[sid]? = some sub →
      sub.status = .active → s'.db.subscriptions[sid]? = some sub' → sub'.status = .ended →
      sub'.endedAt = some now → ∀ p ∈ s'.db.paidPeriods sid, p.expiresAt ≤ now := by
  intro hall
  let before := (shop nodeEndpoint).after shopSettings
    (buy 0 month 0 "month" 0 ++ buy 1 month 0 "again" 1 ++
      [refundReported "month" 500 2, .processPayment 3 2, .listAnomalies 4 0 0 10])
  have hr : Reachable shopSettings before := .after (shop_initial _) (by decide +kernel)
  obtain ⟨s', hs', hcond⟩ := (Option.any_eq_true _ _).1
    (show (before.exec shopSettings (.processAnomaly 0 0)).any (fun s' =>
      ((s'.db.subscriptions[0]?).any fun sub => sub.status = .ended && sub.endedAt = some 4) &&
        (s'.db.paidPeriods 0).any (4 < ·.expiresAt)) = true by decide +kernel)
  obtain ⟨hended, hpaid⟩ := Bool.and_eq_true_iff.1 hcond
  obtain ⟨sub', hsub', hended⟩ := (Option.any_eq_true _ _).1 hended
  obtain ⟨p, hp, hlater⟩ := List.any_eq_true.1 hpaid
  obtain ⟨sub, hsub, hactive⟩ := (Option.any_eq_true _ _).1
    (show before.db.subscriptions[0]?.any (·.status = .active) = true by decide +kernel)
  simp only [Bool.and_eq_true, decide_eq_true_eq] at hended hlater hactive
  have hle := hall shopSettings before s' _ 0 sub sub' 4 hr hs' (.inl ⟨0, 0, rfl⟩) hsub hactive
    hsub' hended.1 hended.2 p hp
  exact absurd hlater (not_lt.2 hle)

end System

end ShopBot
