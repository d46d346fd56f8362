import ShopBot.Guarantees.CreationClaims
import ShopBot.Guarantees.Entitlement
import ShopBot.Guarantees.LiveSubscription

/-! # Webhooks that race with the creation of their invoice

A webhook may arrive before the payment that it is about is stored. Its event is then linked to
no attempt, and since it is stored only once, no later delivery links it: the event that a
delivery returns pays the order when the webhook was first delivered after the payment was
stored.
-/

namespace ShopBot

open Database Relation

/-- The statuses that a paid event finds stale. -/
def unsuccessfulStatuses : List PaymentStatus := [.failed, .expired, .cancelled]

/-- The webhook reports that an order was paid. -/
structure NormalizedWebhookEvent.ReportsPaid (w : NormalizedWebhookEvent) (id : String) (k : ℕ)
    (o : PaymentOrder) : Prop where
  type : w.eventType ≠ "refund.succeeded"
  status : w.status.getD (PaymentEvent.inferPaymentStatus w.eventType w.payload) = .paid
  payment : w.providerPaymentId = some id
  order : ∀ n, w.paymentOrderId = some n → n = k
  amount : w.amountMinor = some (o.amount.minor : ℤ)
  currency : w.currency = some o.amount.currency

/-- The event is what some delivery of the webhook has stored. -/
def Delivers (provider : String) (w : NormalizedWebhookEvent) (e : PaymentEvent) : Prop :=
  ∃ db, e.report = IngestWebhook.eventOf db provider w

variable {settings : Settings} {s s' : System} {db db' : Database} {provider id : String}
  {w : NormalizedWebhookEvent} {i j k : ℕ} {o : PaymentOrder} {a : PaymentAttempt}
  {e e' : PaymentEvent} {now : DateTime}

theorem Delivers.report (h : Delivers provider w e) (hr : e'.report = e.report) :
    Delivers provider w e' := by
  obtain ⟨db, hdb⟩ := h
  exact ⟨db, hr.trans hdb⟩

theorem Delivers.paid (h : Delivers provider w e) (hw : w.ReportsPaid id k o) :
    e.eventType ≠ "refund.succeeded" ∧ e.normalizedPaymentStatus = .paid := by
  obtain ⟨db, hdb⟩ := h
  have htype : e.eventType = w.eventType := congrArg (·.eventType) hdb
  have hstatus : e.normalizedPaymentStatus =
      w.status.getD (PaymentEvent.inferPaymentStatus w.eventType w.payload) :=
    congrArg PaymentEvent.normalizedPaymentStatus hdb
  rw [htype, hstatus]
  exact ⟨hw.type, hw.status⟩

theorem Delivers.provider_eq (h : Delivers provider w e) : e.provider = provider := by
  obtain ⟨db, hdb⟩ := h
  exact congrArg (·.provider) hdb

theorem Delivers.payment (h : Delivers provider w e) :
    e.providerPaymentId = w.providerPaymentId := by
  obtain ⟨db, hdb⟩ := h
  exact congrArg (·.providerPaymentId) hdb

/-- A delivery that is linked to the attempt with the payment agrees with its order. -/
theorem Delivers.agrees (h : Delivers provider w e) (hw : w.ReportsPaid id k o)
    (hlink : e.paymentOrderId = some k) (hprovider : a.provider = provider)
    (hid : a.providerPaymentId = some id) (horder : a.paymentOrderId = k)
    (ho : o.provider = provider) : Billing.Agrees e a k o := by
  have hpayment := h.payment
  have heq := h.provider_eq
  obtain ⟨db, hdb⟩ := h
  have hreported : e.reportedPaymentOrderId = w.paymentOrderId :=
    congrArg (·.reportedPaymentOrderId) hdb
  have hamount : e.amountMinor = w.amountMinor := congrArg (·.amountMinor) hdb
  have hcurrency : e.currency = w.currency := congrArg (·.currency) hdb
  rw [hw.payment] at hpayment
  refine ⟨⟨heq.trans ho.symm, heq.trans hprovider.symm⟩, ⟨hpayment.trans hid.symm, ?_⟩, horder,
    hlink, ?_, hamount.trans hw.amount, hcurrency.trans hw.currency⟩
  · rw [hpayment]
    exact Option.some_ne_none id
  · intro n hn
    exact hw.order n (hreported.symm.trans hn)

/-! ## Deliveries -/

/-- A delivery finds the event of an earlier one, or stores its own. -/
theorem IngestWebhook.execute_cases {headers rawPayload : Payload} {r : IngestResult}
    (h : execute db provider w headers rawPayload now = .ok (r, db')) :
    db'.paymentAttempts = db.paymentAttempts ∧ db'.paymentOrders = db.paymentOrders ∧
      (∃ e, db'.paymentEvents[r.paymentEventId]? = some e ∧ e.eventKey = w.eventKey) ∧
      ((∃ e ∈ db.paymentEvents, e.eventKey = w.eventKey) ∧
          db'.paymentEvents = db.paymentEvents ∨
        (∀ e ∈ db.paymentEvents, e.eventKey ≠ w.eventKey) ∧
          db'.paymentEvents = db.paymentEvents ++ [eventOf db provider w]) := by
  obtain ⟨⟨eventId, db₁⟩, he, h₁⟩ := bind_eq_ok.1 h
  cases h₁
  obtain ⟨inbox, hledger, he⟩ : ∃ inbox : Database, inbox.billingLedger = db.billingLedger ∧
      inbox.createPaymentEvent (eventOf inbox provider w) = .ok (eventId, db₁) :=
    ⟨_, saveWebhookInbox_ledger ⟨provider, w.eventKey, headers, rawPayload, .received, none⟩, he⟩
  have hattempts : inbox.paymentAttempts = db.paymentAttempts := congrArg Billing.attempts hledger
  have horders : inbox.paymentOrders = db.paymentOrders := congrArg Billing.orders hledger
  have hevents : inbox.paymentEvents = db.paymentEvents := congrArg Billing.events hledger
  have hevent : eventOf inbox provider w = eventOf db provider w := by
    unfold eventOf getAttemptByProviderPaymentId
    rw [hattempts]
  rw [hevent] at he
  unfold createPaymentEvent at he
  rw [hevents] at he
  split at he
  next f n hfirst =>
    obtain ⟨hrow, hmatch⟩ := Table.firstWhere_some hfirst
    simp only [Bool.and_eq_true, decide_eq_true_eq] at hmatch
    cases he
    exact ⟨hattempts, horders, ⟨f, by rw [← hevents] at hrow; exact hrow, hmatch.2⟩,
      .inl ⟨⟨f, List.mem_of_getElem? hrow, hmatch.2⟩, hevents⟩⟩
  · split_ifs at he with hany
    cases he
    refine ⟨hattempts, horders, ⟨eventOf db provider w, ?_, rfl⟩, .inr ⟨fun f hf hkey => ?_, rfl⟩⟩
    · change (db.paymentEvents ++ [eventOf db provider w])[db.paymentEvents.length]? = _
      rw [List.getElem?_append_right le_rfl, Nat.sub_self]
      rfl
    · exact hany (List.any_eq_true.2 ⟨f, hf, decide_eq_true hkey⟩)

/-! ## Events that pay nothing -/

/-- Only the attempt `j` has the payment. -/
def OnlyInvoice (provider id : String) (j : ℕ) (db : Database) : Prop :=
  ∀ (n : ℕ) (b : PaymentAttempt), db.paymentAttempts[n]? = some b → b.provider = provider →
    b.providerPaymentId = some id → n = j

/-- The attempt `j` was closed without a payment. -/
def Unsuccessful (j : ℕ) (db : Database) : Prop :=
  ∃ a, db.paymentAttempts[j]? = some a ∧ a.status ∈ unsuccessfulStatuses

theorem stale_of_unsuccessful (h : a.status ∈ unsuccessfulStatuses) (payload : Payload) :
    (a.applyProviderStatus .paid payload).2 = .stale := by
  unfold PaymentAttempt.applyProviderStatus
  simp only [unsuccessfulStatuses, List.mem_cons, List.not_mem_nil, or_false] at h
  rcases h with h | h | h <;> rw [h] <;> rfl

theorem ProcessPayment.execute_closed (hrow : db.paymentEvents[i]? = some e)
    (hclosed : e.isClosed = true) : ∃ r, execute now db i = .ok (r, db) := by
  simp only [PaymentEvent.isClosed, Bool.or_eq_true, decide_eq_true_eq] at hclosed
  unfold execute getEvent
  rw [hrow]
  dsimp only
  rcases hclosed with hs | hs <;> rw [hs]
  · exact ⟨_, rfl⟩
  · exact ⟨_, rfl⟩

/-- An open delivery is processed as a paid event. -/
theorem ProcessPayment.execute_paid (hrow : db.paymentEvents[i]? = some e)
    (hopen : e.isClosed = false) (htype : e.eventType ≠ "refund.succeeded")
    (hstatus : e.normalizedPaymentStatus = .paid) :
    execute now db i = resolvePaid now db e i := by
  simp only [PaymentEvent.isClosed, Bool.or_eq_false_iff, decide_eq_false_iff_not] at hopen
  unfold execute getEvent
  rw [hrow]
  dsimp only
  rw [if_neg hopen.1, if_neg hopen.2, if_neg htype, if_pos hstatus]

/-- A delivery is rejected, or is stale, when it is not linked to an attempt that can be paid. -/
theorem ProcessPayment.execute_barren (hrow : db.paymentEvents[i]? = some e)
    (hdelivers : Delivers provider w e) (hw : w.ReportsPaid id k o)
    (honly : OnlyInvoice provider id j db)
    (hlink : e.paymentAttemptId = some j → Unsuccessful j db) :
    ∃ r, execute now db i = .ok (r, db) ∨
      ∃ e', e'.report = e.report ∧ execute now db i = .ok (r, db.saveEvent i e') := by
  obtain ⟨htype, hstatus⟩ := hdelivers.paid hw
  have hreject : ∀ reason, ∃ r, (Except.ok (rejectEvent now db e i reason) :
      Except Error (PaymentResult × Database)) = .ok (r, db) ∨ ∃ e', e'.report = e.report ∧
      (Except.ok (rejectEvent now db e i reason) : Except Error (PaymentResult × Database)) =
        .ok (r, db.saveEvent i e') :=
    fun reason => ⟨_, .inr ⟨e.fail now reason, rfl, rfl⟩⟩
  cases hopen : e.isClosed with
  | true =>
    obtain ⟨r, hr⟩ := execute_closed hrow hopen
    exact ⟨r, .inl hr⟩
  | false =>
  rw [execute_paid hrow hopen htype hstatus]
  unfold resolvePaid
  cases hn : e.paymentAttemptId with
  | none => exact hreject _
  | some n =>
    cases hb : db.getAttempt n with
    | none =>
      dsimp only
      rw [hb]
      exact hreject _
    | some b =>
      dsimp only
      rw [hb]
      dsimp only
      cases hp : db.getOrder b.paymentOrderId with
      | none => exact hreject _
      | some p =>
        unfold processPaid
        dsimp only
        cases hvalid : validatePaidSettlement e b b.paymentOrderId p with
        | error err =>
          obtain ⟨reason, rfl⟩ := validatePaidSettlement_error hvalid
          exact hreject _
        | ok u =>
          -- the event agrees with its attempt, so that is the attempt with the payment
          have hagrees := validatePaidSettlement_ok hvalid
          have hid := hagrees.paymentId.1.symm.trans (hdelivers.payment.trans hw.payment)
          obtain rfl : n = j :=
            honly n b hb (hagrees.provider.2.symm.trans hdelivers.provider_eq) hid
          obtain ⟨a, ha, hclosed⟩ := hlink hn
          obtain rfl := Option.some.inj (ha.symm.trans hb)
          dsimp only
          rw [if_pos (stale_of_unsuccessful hclosed e.payload)]
          exact ⟨_, .inr ⟨e.ignore now _, rfl, rfl⟩⟩

/-- No delivery of the webhook pays the order, now or later. -/
structure Barren (provider : String) (w : NormalizedWebhookEvent) (id : String) (j k : ℕ)
    (o : PaymentOrder) (db : Database) : Prop where
  only : OnlyInvoice provider id j db
  events : ∀ e ∈ db.paymentEvents, e.eventKey = w.eventKey →
    Delivers provider w e ∧ (e.paymentAttemptId = some j → Unsuccessful j db)
  cause : (∃ e ∈ db.paymentEvents, e.eventKey = w.eventKey) ∨ id = "" ∨ Unsuccessful j db
  order : db.paymentOrders[k]? = some o

theorem Barren.ingest (h : Barren provider w id j k o db) (hw : w.ReportsPaid id k o)
    {headers rawPayload : Payload} {r : IngestResult}
    (hr : IngestWebhook.execute db provider w headers rawPayload now = .ok (r, db')) :
    Barren provider w id j k o db' := by
  obtain ⟨hattempts, horders, -, hevents⟩ := IngestWebhook.execute_cases hr
  have honly : OnlyInvoice provider id j db' := by
    unfold OnlyInvoice
    rw [hattempts]
    exact h.only
  have hclosed : Unsuccessful j db' ↔ Unsuccessful j db := by
    unfold Unsuccessful
    rw [hattempts]
  rcases hevents with ⟨-, hsame⟩ | ⟨hnone, hnew⟩
  · refine ⟨honly, ?_, ?_, horders ▸ h.order⟩
    · rw [hsame, hclosed]
      exact h.events
    · rw [hsame, hclosed]
      exact h.cause
  · have hmem : IngestWebhook.eventOf db provider w ∈ db'.paymentEvents := by
      rw [hnew]
      exact List.mem_append_right _ (List.mem_singleton_self _)
    refine ⟨honly, fun e he hkey => ?_, .inl ⟨_, hmem, rfl⟩, horders ▸ h.order⟩
    rw [hclosed]
    rw [hnew, List.mem_append, List.mem_singleton] at he
    rcases he with hold | rfl
    · exact h.events e hold hkey
    refine ⟨⟨db, rfl⟩, fun hlink => ?_⟩
    rcases h.cause with ⟨f, hf, hfound⟩ | rfl | hcause
    · exact absurd hfound (hnone f hf)
    · -- a blank payment is linked to no attempt
      unfold IngestWebhook.eventOf at hlink
      rw [hw.payment] at hlink
      cases hlink
    · exact hcause

/-- Nothing but the state of an event changes. -/
theorem Barren.event (h : Barren provider w id j k o db) (hrow : db.paymentEvents[i]? = some e)
    (hr : e'.report = e.report) : Barren provider w id j k o (db.saveEvent i e') := by
  have hkey : e'.eventKey = e.eventKey := congrArg (·.eventKey) hr
  have hlink : e'.paymentAttemptId = e.paymentAttemptId := congrArg (·.paymentAttemptId) hr
  have hmem := List.mem_of_getElem? hrow
  refine ⟨h.only, fun f hf hfkey => ?_, h.cause.imp_left ?_, h.order⟩
  · rcases List.mem_or_eq_of_mem_set hf with hold | rfl
    · exact h.events f hold hfkey
    · obtain ⟨hdelivers, hbarren⟩ := h.events e hmem (hkey.symm.trans hfkey)
      rw [hlink]
      exact ⟨hdelivers.report hr, hbarren⟩
  · rintro ⟨f, hf, hfkey⟩
    obtain ⟨n, hn⟩ := List.getElem?_of_mem hf
    by_cases hni : n = i
    · subst hni
      obtain rfl := Option.some.inj (hrow.symm.trans hn)
      exact ⟨e', List.mem_set (List.getElem?_eq_some_iff.1 hrow).1 e', hkey.trans hfkey⟩
    · exact ⟨f, List.mem_of_getElem? ((List.getElem?_set_ne (Ne.symm hni)).trans hn), hfkey⟩

variable (now) in
/-- Processing a delivery succeeds, and pays nothing. -/
theorem Barren.process (h : Barren provider w id j k o db) (hw : w.ReportsPaid id k o)
    (hrow : db.paymentEvents[i]? = some e) (hkey : e.eventKey = w.eventKey) :
    ∃ r db', ProcessPayment.execute now db i = .ok (r, db') ∧ Barren provider w id j k o db' := by
  obtain ⟨hdelivers, hlink⟩ := h.events e (List.mem_of_getElem? hrow) hkey
  obtain ⟨r, hsame | ⟨e', hr, hset⟩⟩ : ∃ r, ProcessPayment.execute now db i = .ok (r, db) ∨ _ :=
    ProcessPayment.execute_barren hrow hdelivers hw h.only hlink
  · exact ⟨r, db, hsame, h⟩
  · exact ⟨r, _, hset, h.event hrow hr⟩

/-! ## Events that pay the order -/

/-- The order has been paid. -/
def PaidOrder (k : ℕ) (db : Database) : Prop :=
  ∃ o, db.paymentOrders[k]? = some o ∧ o.status = .paid

theorem applyProviderStatus_paid (h : a.status ∉ unsuccessfulStatuses) (payload : Payload) :
    ∃ a', a.applyProviderStatus .paid payload = (a', (a.applyProviderStatus .paid payload).2) ∧
      (a.applyProviderStatus .paid payload).2 ≠ .stale ∧ a'.status = .paid ∧
      a'.provider = a.provider ∧ a'.providerPaymentId = a.providerPaymentId ∧
      a'.paymentOrderId = a.paymentOrderId := by
  refine ⟨(a.applyProviderStatus .paid payload).1, rfl, ?_⟩
  unfold PaymentAttempt.applyProviderStatus
  cases hs : a.status with
  | paid => exact ⟨nofun, hs, rfl, rfl, rfl⟩
  | created | pending | authorized => exact ⟨nofun, rfl, rfl, rfl, rfl⟩
  | failed | expired | cancelled =>
    rw [hs] at h
    exact absurd (by decide) h

theorem OnlyInvoice.saveAttempt (h : OnlyInvoice provider id j db) (hprovider : a.provider = provider)
    (hid : a.providerPaymentId = some id) :
    db.saveAttempt j a = .ok { db with paymentAttempts := db.paymentAttempts.set j a } := by
  unfold Database.saveAttempt
  refine if_neg ?_
  simp only [Bool.and_eq_true, List.any_eq_true, decide_eq_true_eq, not_and, not_exists]
  rintro - ⟨b, n⟩ hb hn
  obtain ⟨hrow, hmatch⟩ := Table.mem_select.1 hb
  simp only [Bool.and_eq_true, decide_eq_true_eq] at hmatch
  exact hn (h n b hrow (hmatch.1.trans hprovider) (hmatch.2.trans hid))

/-- An order that is paid for the first time can be given its period. -/
theorem ProcessPayment.settleOrder_ok (hrow : db.paymentOrders[k]? = some o)
    (hopened : o.status ≠ .created) (hone : Billing.OneActive db.subscriptions)
    (hfree : o.status ≠ .paid → ∀ p ∈ db.subscriptionPeriods, p.paymentOrderId ≠ some k) :
    ∃ sid db' o', settleOrder now db k o = .ok (sid, db') ∧
      db'.paymentOrders[k]? = some o' ∧ o'.status = .paid ∧ o'.purchase = o.purchase ∧
      db'.paymentAttempts = db.paymentAttempts ∧ db'.paymentEvents = db.paymentEvents := by
  unfold settleOrder PaymentOrder.markPaid
  by_cases hpaid : o.status = .paid
  · rw [if_pos hpaid]
    exact ⟨none, db, o, rfl, hrow, hpaid, rfl, rfl, rfl⟩
  · rw [if_neg hpaid, if_neg hopened]
    obtain ⟨o', ho'⟩ : ∃ o' : PaymentOrder,
        o' = { o with status := .paid, paidAt := some now, updatedAt := some now } := ⟨_, rfl⟩
    obtain ⟨⟨sid, pid, db₁⟩, hact⟩ : ∃ r, ActivateSubscription.execute (db.saveOrder k o')
        o'.userId o'.tariffId o'.requestedPeriodDays now (some k) = .ok r :=
      ActivateSubscription.execute_ok hone o'.requestedPeriodDays_pos (hfree hpaid)
    obtain ⟨hdb₁, -⟩ := ActivateSubscription.execute_activation hact
    rw [← ho']
    refine ⟨some sid, db₁.appendAudit .subscriptionActivated .subscription sid, o',
      bind_eq_ok.2 ⟨_, rfl, bind_eq_ok.2 ⟨_, hact, rfl⟩⟩, ?_, by rw [ho'], by rw [ho']; rfl, ?_, ?_⟩
    · change db₁.paymentOrders[k]? = _
      rw [hdb₁]
      exact List.getElem?_set_self (List.getElem?_eq_some_iff.1 hrow).1
    · change db₁.paymentAttempts = _
      rw [hdb₁]
      rfl
    · change db₁.paymentEvents = _
      rw [hdb₁]
      rfl

/-- A delivery that is linked to the attempt with the payment pays the order, whatever it finds
the order and the attempt to be. -/
theorem ProcessPayment.resolvePaid_pays (hlink : e.paymentAttemptId = some j) (ha : db.paymentAttempts[j]? = some a)
    (ho : db.paymentOrders[k]? = some o) (horder : a.paymentOrderId = k)
    (hopen : a.status ∉ unsuccessfulStatuses) (hagrees : Billing.Agrees e a k o)
    (hblank : e.providerPaymentId ≠ some "") (honly : OnlyInvoice a.provider id j db)
    (hid : a.providerPaymentId = some id) (hopened : o.status ≠ .created)
    (hone : Billing.OneActive db.subscriptions)
    (hfree : o.status ≠ .paid → ∀ p ∈ db.subscriptionPeriods, p.paymentOrderId ≠ some k) :
    ∃ r db' a' o', resolvePaid now db e i = .ok (r, db') ∧
      db'.paymentOrders[k]? = some o' ∧ o'.status = .paid ∧ o'.purchase = o.purchase ∧
      db'.paymentAttempts = db.paymentAttempts.set j a' ∧ a'.status = .paid ∧
      a'.provider = a.provider ∧ a'.providerPaymentId = a.providerPaymentId ∧
      a'.paymentOrderId = a.paymentOrderId ∧
      db'.paymentEvents = db.paymentEvents.set i (e.markProcessed now) := by
  obtain ⟨a', happly, hstale, hpaid, hprovider, hpayment, hsame⟩ :=
    applyProviderStatus_paid hopen e.payload
  have hsave := honly.saveAttempt hprovider (hpayment.trans hid)
  obtain ⟨sid, db₁, o', hsettle, ho', hpaid', hpurchase, hattempts, hevents⟩ : ∃ sid db₁ o',
      settleOrder now { db with paymentAttempts := db.paymentAttempts.set j a' } k o =
        .ok (sid, db₁) ∧ _ :=
    settleOrder_ok ho hopened hone hfree
  subst horder
  unfold resolvePaid
  rw [hlink]
  dsimp only
  rw [getAttempt, ha]
  dsimp only
  rw [getOrder, ho]
  dsimp only
  unfold processPaid
  rw [validatePaidSettlement_eq_ok hagrees hblank]
  dsimp only
  rw [if_neg hstale, happly]
  have hledger := createProviderTransaction_ledger db₁ (paidTransaction e a.paymentOrderId j
    (e.amountMinor.getD 0) (e.currency.getD o.amount.currency))
  refine ⟨_, _, a', o', bind_eq_ok.2 ⟨_, hsave, bind_eq_ok.2 ⟨_, hsettle, rfl⟩⟩,
    (congrArg (·[a.paymentOrderId]?) (congrArg Billing.orders hledger)).trans ho', hpaid',
    hpurchase, (congrArg Billing.attempts hledger).trans hattempts, hpaid, hprovider, hpayment,
    hsame, ?_⟩
  rw [saveEvent, createProviderTransaction_events, hevents]

/-- Every delivery of the webhook is linked to the attempt with the payment, and pays the
order. -/
structure Fruitful (provider : String) (w : NormalizedWebhookEvent) (id : String) (j k : ℕ)
    (o : PaymentOrder) (db : Database) : Prop where
  only : OnlyInvoice provider id j db
  attempt : ∃ a, db.paymentAttempts[j]? = some a ∧ a.provider = provider ∧
    a.providerPaymentId = some id ∧ a.paymentOrderId = k ∧ a.status ∉ unsuccessfulStatuses
  order : ∃ o', db.paymentOrders[k]? = some o' ∧ o'.purchase = o.purchase
  events : ∀ e ∈ db.paymentEvents, e.eventKey = w.eventKey →
    Delivers provider w e ∧ e.paymentAttemptId = some j ∧ e.paymentOrderId = some k ∧
      (e.isClosed = true → PaidOrder k db)

theorem Fruitful.eventOf (h : Fruitful provider w id j k o db) (hw : w.ReportsPaid id k o)
    (hblank : id ≠ "") : (IngestWebhook.eventOf db provider w).paymentAttemptId = some j ∧
      (IngestWebhook.eventOf db provider w).paymentOrderId = some k := by
  obtain ⟨a, ha, hprovider, hid, horder, -⟩ := h.attempt
  have hfound : db.getAttemptByProviderPaymentId provider id = some (a, j) := by
    cases hfirst : db.getAttemptByProviderPaymentId provider id with
    | none =>
      have hno := Table.firstWhere_eq_none.1 hfirst j a ha
      simp [hprovider, hid] at hno
    | some found =>
      obtain ⟨b, n⟩ := found
      obtain ⟨hb, hmatch⟩ := Table.firstWhere_some hfirst
      simp only [Bool.and_eq_true, decide_eq_true_eq] at hmatch
      obtain rfl := h.only n b hb hmatch.1 hmatch.2
      obtain rfl := Option.some.inj (ha.symm.trans hb)
      rfl
  have htext : orText w.providerPaymentId none = some id := by
    rw [hw.payment]
    exact if_neg hblank
  unfold IngestWebhook.eventOf
  dsimp only
  rw [htext, Option.bind_some, hfound, Option.map_some, Option.map_some, horder]
  exact ⟨rfl, rfl⟩

theorem Fruitful.ingest (h : Fruitful provider w id j k o db) (hw : w.ReportsPaid id k o)
    (hblank : id ≠ "") {headers rawPayload : Payload} {r : IngestResult}
    (hr : IngestWebhook.execute db provider w headers rawPayload now = .ok (r, db')) :
    Fruitful provider w id j k o db' := by
  obtain ⟨hattempts, horders, -, hevents⟩ := IngestWebhook.execute_cases hr
  have honly : OnlyInvoice provider id j db' := by
    unfold OnlyInvoice
    rw [hattempts]
    exact h.only
  have hpaid : PaidOrder k db' ↔ PaidOrder k db := by
    unfold PaidOrder
    rw [horders]
  refine ⟨honly, hattempts ▸ h.attempt, horders ▸ h.order, fun e he hkey => ?_⟩
  rw [hpaid]
  rcases hevents with ⟨-, hsame⟩ | ⟨-, hnew⟩
  · exact h.events e (hsame ▸ he) hkey
  · rw [hnew, List.mem_append, List.mem_singleton] at he
    rcases he with hold | rfl
    · exact h.events e hold hkey
    · obtain ⟨hattempt, horder⟩ := h.eventOf hw hblank
      exact ⟨⟨db, rfl⟩, hattempt, horder, nofun⟩

variable (now) in
/-- Processing a delivery succeeds, and the order is paid. -/
theorem Fruitful.process (h : Fruitful provider w id j k o db) (hw : w.ReportsPaid id k o)
    (hblank : id ≠ "") (hprovider : o.provider = provider)
    (hrow : db.paymentEvents[i]? = some e) (hkey : e.eventKey = w.eventKey)
    (hopened : Billing.Payable db.paymentOrders) (hone : Billing.OneActive db.subscriptions)
    (hentitled : Billing.Entitled db.paymentOrders db.billingLedger.fundings) :
    ∃ r db', ProcessPayment.execute now db i = .ok (r, db') ∧ Fruitful provider w id j k o db' ∧
      PaidOrder k db' := by
  obtain ⟨hdelivers, hlink, horder, hclosed⟩ := h.events e (List.mem_of_getElem? hrow) hkey
  obtain ⟨htype, hstatus⟩ := hdelivers.paid hw
  cases hopen : e.isClosed with
  | true =>
    obtain ⟨r, hr⟩ : ∃ r, ProcessPayment.execute now db i = .ok (r, db) :=
      ProcessPayment.execute_closed hrow hopen
    exact ⟨r, db, hr, h, hclosed hopen⟩
  | false =>
  rw [ProcessPayment.execute_paid hrow hopen htype hstatus]
  obtain ⟨a, ha, haprovider, hid, haorder, hpayable⟩ := h.attempt
  obtain ⟨o₀, ho₀, hpurchase₀⟩ := h.order
  have hpurchase := hpurchase₀
  simp only [PaymentOrder.purchase, Prod.mk.injEq] at hpurchase
  obtain ⟨-, -, hsame, hamount, -⟩ := hpurchase
  have hw₀ : w.ReportsPaid id k o₀ :=
    { hw with
      amount := by rw [hamount]; exact hw.amount
      currency := by rw [hamount]; exact hw.currency }
  have hagrees : Billing.Agrees e a k o₀ :=
    hdelivers.agrees hw₀ horder haprovider hid haorder (hsame.trans hprovider)
  have hfree : o₀.status ≠ .paid → ∀ p ∈ db.subscriptionPeriods, p.paymentOrderId ≠ some k := by
    intro hunpaid p hp hpk
    have hcount := hentitled.count k o₀ ho₀
    rw [if_neg hunpaid, List.countP_eq_zero] at hcount
    exact hcount p.funding (List.mem_map_of_mem hp) (decide_eq_true hpk)
  obtain ⟨r, db', a', o', hok, ho', hpaid, hpurchase', hattempts, hdone, hprovider', hid', horder',
      hevents⟩ : ∃ r db' a' o', ProcessPayment.resolvePaid now db e i = .ok (r, db') ∧ _ :=
    ProcessPayment.resolvePaid_pays hlink ha ho₀ haorder hpayable hagrees
      (by rw [hdelivers.payment, hw.payment]; simpa using hblank) (haprovider ▸ h.only) hid
      (hopened o₀ (List.mem_of_getElem? ho₀)) hone hfree
  have hsettled : PaidOrder k db' := ⟨o', ho', hpaid⟩
  have hset : db'.paymentAttempts[j]? = some a' := by
    rw [hattempts]
    exact List.getElem?_set_self (List.getElem?_eq_some_iff.1 ha).1
  refine ⟨r, db', hok, ⟨fun n b hb hbprovider hbid => ?_, ?_, ⟨o', ho', ?_⟩, fun f hf hfkey => ?_⟩,
    hsettled⟩
  · by_contra hn
    rw [hattempts, List.getElem?_set_ne (Ne.symm hn)] at hb
    exact hn (h.only n b hb hbprovider hbid)
  · refine ⟨a', hset, hprovider'.trans haprovider, hid'.trans hid, horder'.trans haorder, ?_⟩
    rw [hdone]
    decide
  · exact hpurchase'.trans hpurchase₀
  · rw [hevents] at hf
    rcases List.mem_or_eq_of_mem_set hf with hold | rfl
    · obtain ⟨hfdelivers, hflink, hforder, -⟩ := h.events f hold hfkey
      exact ⟨hfdelivers, hflink, hforder, fun _ => hsettled⟩
    · exact ⟨hdelivers.report rfl, hlink, horder, fun _ => hsettled⟩

/-! ## The race -/

namespace System

/-- The webhook is delivered, or an event with its key is processed. -/
inductive Race (settings : Settings) (provider : String) (w : NormalizedWebhookEvent)
    (s : System) : System → Prop where
  | ingest (headers rawPayload : Payload) (now : DateTime) (s' : System)
      (exec : s.exec settings (.ingestWebhook provider w headers rawPayload now) = some s') :
      Race settings provider w s s'

  | process (now : DateTime) (i : ℕ) (e : PaymentEvent) (s' : System)
      (row : s.db.paymentEvents[i]? = some e) (key : e.eventKey = w.eventKey)
      (exec : s.exec settings (.processPayment now i) = some s') : Race settings provider w s s'

/-- Processing the event leaves the order paid. -/
def Pays (db : Database) (now : DateTime) (i k : ℕ) : Prop :=
  ∃ r db', ProcessPayment.execute now db i = .ok (r, db') ∧ PaidOrder k db'

theorem Reachable.payable (h : Reachable settings s) : Billing.Payable s.db.paymentOrders := by
  refine Transition.Reachable.invariant (fun s : System => Billing.Payable s.db.paymentOrders)
    (fun s hs => ?_) ?_ h
  · rw [hs]
    rintro _ ⟨⟩
  · rintro s s' hr hinv ⟨cmd, hcmd⟩
    exact (exec_evolves (Reachable.inv hr).1 hcmd).billing.payable hinv

theorem Reachable.ordered (h : Reachable settings s) :
    Billing.Ordered s.db.paymentOrders s.db.paymentAttempts := by
  refine Transition.Reachable.invariant
    (fun s : System => Billing.Ordered s.db.paymentOrders s.db.paymentAttempts)
    (fun s hs => ?_) ?_ h
  · rw [hs]
    rintro _ ⟨⟩
  · rintro s s' hr hinv ⟨cmd, hcmd⟩
    exact (exec_evolves (Reachable.inv hr).1 hcmd).billing.ordered hinv

theorem Race.step (h : Race settings provider w s s') : Step settings s s' := by
  cases h with
  | ingest headers rawPayload now s' exec => exact ⟨_, exec⟩
  | process now i e s' row key exec => exact ⟨_, exec⟩

theorem Race.barren (h : Race settings provider w s s') (hw : w.ReportsPaid id k o)
    (hinv : Barren provider w id j k o s.db) : Barren provider w id j k o s'.db := by
  cases h with
  | ingest headers rawPayload now s' exec =>
    obtain ⟨⟨r, db⟩, hr, rfl⟩ := Option.map_eq_some_iff.1 exec
    exact hinv.ingest hw (toOption_eq_some hr)
  | process now i e s' row key exec =>
    obtain ⟨⟨r, db⟩, hr, rfl⟩ := Option.map_eq_some_iff.1 exec
    obtain ⟨r', db', hok, hbarren⟩ := hinv.process now hw row key
    cases hok.symm.trans (toOption_eq_some hr)
    exact hbarren

theorem Race.fruitful (h : Race settings provider w s s') (hr : Reachable settings s)
    (hw : w.ReportsPaid id k o) (hblank : id ≠ "") (hprovider : o.provider = provider)
    (hinv : Fruitful provider w id j k o s.db) : Fruitful provider w id j k o s'.db := by
  cases h with
  | ingest headers rawPayload now s' exec =>
    obtain ⟨⟨r, db⟩, hr, rfl⟩ := Option.map_eq_some_iff.1 exec
    exact hinv.ingest hw hblank (toOption_eq_some hr)
  | process now i e s' row key exec =>
    obtain ⟨⟨r, db⟩, hok, rfl⟩ := Option.map_eq_some_iff.1 exec
    obtain ⟨r', db', hok', hfruitful, -⟩ := hinv.process now hw hblank hprovider row key
      hr.payable hr.oneActiveSubscription hr.entitled
    cases hok'.symm.trans (toOption_eq_some hok)
    exact hfruitful

theorem Reachable.race (h : Reachable settings s)
    (hr : ReflTransGen (Race settings provider w) s s') : Reachable settings s' :=
  h.steps (hr.lift (fun s => s) fun _ _ hstep => hstep.step)

theorem race_events (h : Reachable settings s)
    (hr : ReflTransGen (Race settings provider w) s s') :
    Table.Keeps PaymentEvent.report s.db.paymentEvents s'.db.paymentEvents := by
  induction hr with
  | refl => exact .refl
  | tail hrun hstep ih =>
    obtain ⟨cmd, hcmd⟩ := hstep.step
    exact ih.trans (exec_evolves (h.race hrun).inv.1 hcmd).billing.events

theorem barren_race (hw : w.ReportsPaid id k o)
    (hr : ReflTransGen (Race settings provider w) s s')
    (hinv : Barren provider w id j k o s.db) : Barren provider w id j k o s'.db :=
  Transition.preserves_run (fun s : System => Barren provider w id j k o s.db)
    (fun _ _ hinv hstep => hstep.barren hw hinv) hr hinv

theorem fruitful_race (h : Reachable settings s) (hw : w.ReportsPaid id k o) (hblank : id ≠ "")
    (hprovider : o.provider = provider) (hr : ReflTransGen (Race settings provider w) s s')
    (hinv : Fruitful provider w id j k o s.db) : Fruitful provider w id j k o s'.db := by
  induction hr with
  | refl => exact hinv
  | tail hrun hstep ih => exact hstep.fruitful (h.race hrun) hw hblank hprovider ih

/-- The owner of a claim stores the payment, which no other attempt has. -/
theorem exec_finalizeInvoice {claim : InvoiceClaim} {intent : PaymentIntent} {n : ℕ}
    (h : Reachable settings s) (hclaim : s.invoiceClaims[n]? = some claim)
    (hattempt : s.db.paymentAttempts[claim.prepared.attemptId]? = some a)
    (howns : a.ownsCreationClaim claim.token = true)
    (hfinal : s.exec settings (.finalizeInvoice n intent now) = some s') :
    ∃ a', s'.db.paymentAttempts[claim.prepared.attemptId]? = some a' ∧
      a'.status = intent.status ∧ a'.providerPaymentId = some intent.providerPaymentId ∧
      a'.provider = a.provider ∧ a'.paymentOrderId = a.paymentOrderId ∧
      OnlyInvoice a.provider intent.providerPaymentId claim.prepared.attemptId s'.db ∧
      s'.db.paymentOrders = s.db.paymentOrders ∧ s'.db.paymentEvents = s.db.paymentEvents := by
  obtain ⟨w, hrow, hexec⟩ := Option.bind_eq_some_iff.1 hfinal
  obtain rfl := Option.some.inj (hrow.symm.trans hclaim)
  split_ifs at hexec
  obtain ⟨db, hr, hexec⟩ := Option.bind_eq_some_iff.1 hexec
  cases hexec
  obtain ⟨⟨a₁, db₁⟩, hfinalize, hr⟩ := bind_eq_ok.1 (toOption_eq_some hr)
  cases hr
  unfold CreatePayment.finalizeOwnedClaim getAttempt at hfinalize
  rw [hattempt] at hfinalize
  dsimp only at hfinalize
  rw [if_pos howns] at hfinalize
  obtain ⟨a', hcreation, hfinalize⟩ := bind_eq_ok.1 hfinalize
  obtain ⟨db₂, hsave, hfinalize⟩ := bind_eq_ok.1 hfinalize
  cases hfinalize
  have hcreated := Invoices.created_of_owns howns
  have hnone : a.providerPaymentId = none :=
    h.invoices.created a (List.mem_of_getElem? hattempt) hcreated
  obtain ⟨-, -, hstatus, hid, horder, hprovider⟩ := Invoices.finalizeCreation_fields hcreation
  have hunused : Unused a.provider intent.providerPaymentId s.db := by
    rcases saveAttempt_eq_ok hattempt hnone hid with ⟨-, hunused⟩ | ⟨⟨e, hfail⟩, -⟩
    · exact hprovider ▸ hunused
    · cases hfail.symm.trans hsave
  have hledger := createProviderTransaction_ledger db₂ (CreatePayment.invoiceTransaction
    w.prepared.orderId w.prepared.order w.prepared.attemptId intent)
  rw [saveAttempt_ok hsave] at hledger ⊢
  have hattempts := congrArg Billing.attempts hledger
  have hset : ∀ m : ℕ, (s.db.paymentAttempts.set w.prepared.attemptId a₁)[m]? = _ :=
    congrFun (Table.getElem?_set hattempt)
  refine ⟨a₁, ?_, hstatus, hid, hprovider, horder, fun m b hb hbprovider hbid => ?_,
    congrArg Billing.orders hledger, congrArg Billing.events hledger⟩
  · refine (congrArg (·[w.prepared.attemptId]?) hattempts).trans ((hset _).trans ?_)
    exact Function.update_self ..
  · by_contra hm
    replace hb := (congrArg (·[m]?) hattempts).symm.trans hb
    have hold : s.db.paymentAttempts[m]? = some b := by
      rw [← hb]
      exact ((hset m).trans (Function.update_of_ne hm ..)).symm
    exact hunused b (List.mem_of_getElem? hold) hbprovider hbid

/-- An attempt in creation is linked by no event. -/
theorem Reachable.unlinked (h : Reachable settings s)
    (hattempt : s.db.paymentAttempts[j]? = some a) (hcreated : a.status = .created)
    (he : e ∈ s.db.paymentEvents) : e.paymentAttemptId ≠ some j := by
  intro hlink
  have hnone : a.providerPaymentId = none :=
    h.invoices.created a (List.mem_of_getElem? hattempt) hcreated
  obtain ⟨hno, -⟩ | ⟨n, b, hb, hn, -, hsome⟩ := h.invoices.linked e he
  · rw [hlink] at hno
    cases hno
  · obtain rfl := Option.some.inj (hlink.symm.trans hn)
    obtain rfl := Option.some.inj (hattempt.symm.trans hb)
    rw [hnone] at hsome
    cases hsome

/-- A webhook is delivered again after its payment has been stored, and the event that this
delivery returns is processed: the order is paid then, exactly when it was paid before, or the
webhook had not been delivered before the payment was stored, as one that can still be paid. -/
theorem redelivery_pays_iff {s₁ s₂ s₃ s₄ : System} {claim : InvoiceClaim} {intent : PaymentIntent}
    {n : ℕ} {headers rawPayload : Payload} {r : IngestResult} {now₁ now₂ now₃ : DateTime}
    (h : Reachable settings s₁) (hclaim : s₁.invoiceClaims[n]? = some claim)
    (hattempt : s₁.db.paymentAttempts[claim.prepared.attemptId]? = some a)
    (howns : a.ownsCreationClaim claim.token = true)
    (horder : s₁.db.paymentOrders[a.paymentOrderId]? = some o)
    (hw : w.ReportsPaid intent.providerPaymentId a.paymentOrderId o)
    (hkey : ∀ e ∈ s₁.db.paymentEvents, e.eventKey = w.eventKey → Delivers a.provider w e)
    (hfinal : s₁.exec settings (.finalizeInvoice n intent now₁) = some s₂)
    (hbefore : ReflTransGen (Race settings a.provider w) s₂ s₃)
    (hredelivered : IngestWebhook.execute s₃.db a.provider w headers rawPayload now₂ = .ok (r, db))
    (hafter : ReflTransGen (Race settings a.provider w) { s₃ with db := db } s₄) :
    Pays s₄.db now₃ r.paymentEventId a.paymentOrderId ↔
      o.status = .paid ∨ (∀ e ∈ s₁.db.paymentEvents, e.eventKey ≠ w.eventKey) ∧
        intent.providerPaymentId ≠ "" ∧ intent.status ∉ unsuccessfulStatuses := by
  obtain ⟨a', ha', hstatus, hid, hprovider, hsame, honly, horders, hevents⟩ :=
    exec_finalizeInvoice h hclaim hattempt howns hfinal
  have hr₂ : Reachable settings s₂ := Transition.Reachable.tail h ⟨_, hfinal⟩
  have hstep : Race settings a.provider w s₃ { s₃ with db := db } := by
    refine .ingest headers rawPayload now₂ _ ?_
    simp only [exec, commit, hredelivered, Except.toOption, Option.map_some]
  have hrun := (hbefore.tail hstep).trans hafter
  have hr₄ := hr₂.race hrun
  -- the event that the delivery returned keeps its key
  obtain ⟨-, -, ⟨e, he, hekey⟩, -⟩ := IngestWebhook.execute_cases hredelivered
  obtain ⟨e', he', hreport⟩ := race_events ((hr₂.race hbefore).race (.single hstep)) hafter _ e he
  have hekey' : e'.eventKey = w.eventKey := (congrArg (·.eventKey) hreport).trans hekey
  obtain ⟨o', ho', hoprovider⟩ := h.ordered a (List.mem_of_getElem? hattempt)
  obtain rfl := Option.some.inj (horder.symm.trans ho')
  by_cases hfresh : (∀ e ∈ s₁.db.paymentEvents, e.eventKey ≠ w.eventKey) ∧
      intent.providerPaymentId ≠ "" ∧ intent.status ∉ unsuccessfulStatuses
  · obtain ⟨hnone, hblank, hopen⟩ := hfresh
    have hfruitful : Fruitful a.provider w intent.providerPaymentId claim.prepared.attemptId
        a.paymentOrderId o s₂.db := by
      refine ⟨honly, ⟨a', ha', hprovider, hid, hsame, by rwa [hstatus]⟩,
        ⟨o, by rwa [horders], rfl⟩, fun f hf hfkey => ?_⟩
      rw [hevents] at hf
      exact absurd hfkey (hnone f hf)
    obtain ⟨r', db', hok, -, hpaid⟩ :=
      (fruitful_race hr₂ hw hblank hoprovider.symm hrun hfruitful).process now₃ hw hblank
        hoprovider.symm he' hekey' hr₄.payable hr₄.oneActiveSubscription hr₄.entitled
    exact iff_of_true ⟨r', db', hok, hpaid⟩ (.inr ⟨hnone, hblank, hopen⟩)
  · have hclosed : intent.status ∈ unsuccessfulStatuses →
        Unsuccessful claim.prepared.attemptId s₂.db := fun hs => ⟨a', ha', by rwa [hstatus]⟩
    have hbarren : Barren a.provider w intent.providerPaymentId claim.prepared.attemptId
        a.paymentOrderId o s₂.db := by
      refine ⟨honly, fun f hf hfkey => ?_, ?_, by rwa [horders]⟩
      · rw [hevents] at hf
        exact ⟨hkey f hf hfkey, fun hlink => absurd hlink
          (h.unlinked hattempt (Invoices.created_of_owns howns) hf)⟩
      · rw [hevents]
        rw [not_and_or, not_and_or, not_not, not_not] at hfresh
        push Not at hfresh
        exact hfresh.imp_right (.imp_right hclosed)
    obtain ⟨r', db', hok, hlate⟩ := (barren_race hw hrun hbarren).process now₃ hw he' hekey'
    constructor
    · rintro ⟨r'', db'', hok', o'', ho'', hpaid⟩
      cases hok.symm.trans hok'
      obtain rfl := Option.some.inj (hlate.order.symm.trans ho'')
      exact .inl hpaid
    · rintro (hpaid | hno)
      · exact ⟨r', db', hok, o, hlate.order, hpaid⟩
      · exact absurd hno hfresh

/-! ## Two orders of the same steps -/

theorem pays_iff : Pays db now i k ↔ ((ProcessPayment.execute now db i).toOption.any fun x =>
    x.2.paymentOrders[k]?.any (·.status = .paid)) = true := by
  simp only [Option.any_eq_true, decide_eq_true_eq, Pays, PaidOrder]
  constructor
  · rintro ⟨r, db', hok, o, ho, hpaid⟩
    exact ⟨(r, db'), by rw [hok]; rfl, o, ho, hpaid⟩
  · rintro ⟨⟨r, db'⟩, hok, o, ho, hpaid⟩
    exact ⟨r, db', toOption_eq_some hok, o, ho, hpaid⟩

instance : Decidable (Pays db now i k) := decidable_of_iff _ pays_iff.symm

theorem exec_after {cmd : Command} (h : (s.exec settings cmd).isSome = true) :
    s.exec settings cmd = some (s.after settings [cmd]) := by
  obtain ⟨s', hs'⟩ := Option.isSome_iff_exists.1 h
  simp [System.after, Transition.execAll, hs']

/-- YooKassa reports that the order for a month is paid. -/
def paidReport : NormalizedWebhookEvent where
  eventKey := "paid"
  eventType := "payment.succeeded"
  status := some .paid
  providerPaymentId := some "payment"
  amountMinor := some month.price.minor
  currency := some month.price.currency

theorem paidReport_reports (ho : o.amount = month.price) : paidReport.ReportsPaid "payment" k o where
  type := by decide
  status := rfl
  payment := rfl
  order := nofun
  amount := by rw [ho]; rfl
  currency := by rw [ho]; rfl

/-- The creation of the invoice has stored the payment. -/
def invoiced (s : System) : System :=
  s.after shopSettings [.finalizeInvoice 0 { providerPaymentId := "payment" } 1]

/-- The order and the attempt of the claim of a run, and how its webhook is delivered again. -/
def Redelivered (s : System) (claim : InvoiceClaim) (a : PaymentAttempt) (o : PaymentOrder)
    (r : IngestResult) (db : Database) : Prop :=
  s.invoiceClaims[0]? = some claim ∧
    s.db.paymentAttempts[claim.prepared.attemptId]? = some a ∧
    a.ownsCreationClaim claim.token = true ∧ a.provider = "yookassa" ∧
    s.db.paymentOrders[a.paymentOrderId]? = some o ∧
    paidReport.ReportsPaid "payment" a.paymentOrderId o ∧
    s.exec shopSettings (.finalizeInvoice 0 { providerPaymentId := "payment" } 1) =
      some (invoiced s) ∧
    IngestWebhook.execute (invoiced s).db "yookassa" paidReport [] [] 2 = .ok (r, db)

/-- Whether a run can be redelivered, and what then becomes of its order. -/
def redelivers (s : System) (pays : Bool) : Bool :=
  (s.exec shopSettings (.finalizeInvoice 0 { providerPaymentId := "payment" } 1)).isSome &&
    s.invoiceClaims[0]?.any fun claim =>
      s.db.paymentAttempts[claim.prepared.attemptId]?.any fun a =>
        a.ownsCreationClaim claim.token && a.provider = "yookassa" &&
          s.db.paymentOrders[a.paymentOrderId]?.any fun o => o.amount = month.price &&
            (IngestWebhook.execute (invoiced s).db "yookassa" paidReport [] [] 2).toOption.any
              fun x => decide (Pays x.2 2 x.1.paymentEventId a.paymentOrderId) = pays

theorem redelivered_of_check {pays : Bool} (h : redelivers s pays = true) : ∃ claim a o r db,
    Redelivered s claim a o r db ∧
      decide (Pays db 2 r.paymentEventId a.paymentOrderId) = pays := by
  simp only [redelivers, Bool.and_eq_true, Option.any_eq_true, decide_eq_true_eq] at h
  obtain ⟨hexec, claim, hclaim, a, ha, ⟨howns, hprovider⟩, o, ho, hamount, ⟨r, db⟩, hr, hpays⟩ := h
  exact ⟨claim, a, o, r, db, ⟨hclaim, ha, howns, hprovider, ho, paidReport_reports hamount,
    exec_after hexec, toOption_eq_some hr⟩, hpays⟩

/-- The webhook is first delivered when the payment has been stored. -/
theorem redelivery_pays_ordered : ∃ claim a o r db, Redelivered ordered claim a o r db ∧
    Pays db 2 r.paymentEventId a.paymentOrderId := by
  have hnone : ordered.db.paymentEvents = [] := by decide +kernel
  obtain ⟨claim, a, o, r, db, hred, -⟩ :=
    redelivered_of_check (show redelivers ordered true = true by decide +kernel)
  have ⟨hclaim, ha, howns, hprovider, ho, hw, hfinal, hr⟩ := hred
  rw [← hprovider] at hr
  refine ⟨claim, a, o, r, db, hred, (redelivery_pays_iff ordered_reachable hclaim ha howns ho hw
    (fun e he => ?_) hfinal .refl hr .refl).2 (.inr ⟨fun e he => ?_, by decide, by decide⟩)⟩
  · rw [hnone] at he
    cases he
  · rw [hnone] at he
    cases he

/-- The webhook has arrived while the gateway was being called. -/
def delivered : System := ordered.after shopSettings [.ingestWebhook "yookassa" paidReport [] [] 1]

/-- Its event has been processed as well. -/
def rejected : System := delivered.after shopSettings [.processPayment 1 0]

theorem rejected_race :
    ReflTransGen (Race shopSettings "yookassa" paidReport) ordered rejected := by
  obtain ⟨e, he, hkey⟩ := (Option.any_eq_true _ _).1 (show (delivered.db.paymentEvents[0]?.any
    (·.eventKey = paidReport.eventKey)) = true by decide +kernel)
  have hingest : Race shopSettings "yookassa" paidReport ordered delivered :=
    .ingest [] [] 1 _ (exec_after (by decide +kernel))
  have hprocess : Race shopSettings "yookassa" paidReport delivered rejected :=
    .process 1 0 e _ he (of_decide_eq_true hkey) (exec_after (by decide +kernel))
  exact .head hingest (.single hprocess)

/-- The event of a webhook that came too early is rejected again. -/
theorem redelivery_pays_nothing : ∃ claim a o r db,
    ReflTransGen (Race shopSettings "yookassa" paidReport) ordered rejected ∧
      Redelivered rejected claim a o r db ∧ ¬ Pays db 2 r.paymentEventId a.paymentOrderId := by
  obtain ⟨claim, a, o, r, db, hred, hpays⟩ :=
    redelivered_of_check (show redelivers rejected false = true by decide +kernel)
  exact ⟨claim, a, o, r, db, rejected_race, hred, of_decide_eq_false hpays⟩

end System

end ShopBot
