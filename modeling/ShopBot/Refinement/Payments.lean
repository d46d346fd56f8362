import ShopBot.Refinement.Sales

/-! # What pays an order

The provider's identifier of an invoice is stored once, and no two attempts share it. Apart from
the administrator only an event that reports the payment of an invoice pays its order.
-/

namespace ShopBot

open Database

/-! ## Invoices -/

/-- What the attempts are known by: the provider, the order and the invoice. -/
abbrev InvoiceColumn := List (String × ℕ × Option String)

namespace InvoiceColumn

variable {rows rows' : InvoiceColumn} {i j k k' : ℕ} {provider id : String}

/-- One change of the invoices. -/
inductive Change (rows : InvoiceColumn) : InvoiceColumn → Prop where
  | adds (added : InvoiceColumn) (uninvoiced : ∀ row ∈ added, row.2.2 = none) :
      Change rows (rows ++ added)

  | stores (j k : ℕ) (provider id : String) (row : rows[j]? = some (provider, k, none))
      (unused : ∀ (i k' : ℕ), rows[i]? ≠ some (provider, k', some id)) :
      Change rows (rows.set j (provider, k, some id))

/-- No two attempts share an invoice. -/
def Unique (rows : InvoiceColumn) : Prop :=
  ∀ (i j k k' : ℕ) (provider id : String), rows[i]? = some (provider, k, some id) →
    rows[j]? = some (provider, k', some id) → i = j

theorem Change.keeps (h : Change rows rows') (hrow : rows[i]? = some (provider, k, some id)) :
    rows'[i]? = some (provider, k, some id) := by
  cases h with
  | adds added uninvoiced =>
    rw [List.getElem?_append_left (List.getElem?_eq_some_iff.1 hrow).1]
    exact hrow
  | stores j k' provider' id' row unused =>
    have hne : j ≠ i := by
      rintro rfl
      cases hrow.symm.trans row
    rw [List.getElem?_set_ne hne]
    exact hrow

/-- An invoice is old, or it has just been stored and was unused. -/
theorem Change.invoice (h : Change rows rows') (hrow : rows'[i]? = some (provider, k, some id)) :
    rows[i]? = some (provider, k, some id) ∨
      (∀ (j k' : ℕ), rows[j]? ≠ some (provider, k', some id)) ∧
      ∀ (j k' : ℕ), rows'[j]? = some (provider, k', some id) → j = i := by
  cases h with
  | adds added uninvoiced =>
    rw [List.getElem?_append] at hrow
    split_ifs at hrow
    · exact .inl hrow
    · exact absurd (uninvoiced _ (List.mem_of_getElem? hrow)) (Option.some_ne_none id)
  | stores j k' provider' id' row unused =>
    by_cases hij : j = i
    · subst hij
      rw [List.getElem?_set_self (List.getElem?_eq_some_iff.1 row).1] at hrow
      simp only [Option.some.injEq, Prod.mk.injEq] at hrow
      obtain ⟨rfl, rfl, rfl⟩ := hrow
      refine .inr ⟨unused, fun n m hn => ?_⟩
      by_contra hne
      rw [List.getElem?_set_ne (Ne.symm hne)] at hn
      exact unused n m hn
    · rw [List.getElem?_set_ne hij] at hrow
      exact .inl hrow

theorem Unique.change (hu : Unique rows) (h : Change rows rows') : Unique rows' := by
  intro i j k k' provider id hi hj
  rcases h.invoice hi with hold | ⟨-, honly⟩
  · rcases h.invoice hj with hold' | ⟨hunused, -⟩
    · exact hu i j k k' provider id hold hold'
    · exact absurd hold (hunused i k)
  · exact (honly j k' hj).symm

end InvoiceColumn

/-- The invoices of the attempts. -/
def Database.invoiceColumn (db : Database) : InvoiceColumn :=
  db.paymentAttempts.map PaymentAttempt.invoice

/-! ## Events that pay -/

/-- The event reports that the invoice of an order is paid. -/
structure Database.PaidBy (db : Database) (k : ℕ) (o : PaymentOrder) (e : PaymentEvent) : Prop where
  type : e.eventType ≠ "refund.succeeded"
  status : e.normalizedPaymentStatus = .paid
  provider : e.provider = o.provider
  amount : e.amountMinor = some (o.amount.minor : ℤ)
  currency : e.currency = some o.amount.currency
  invoice : ∃ (j : ℕ) (id : String), e.providerPaymentId = some id ∧
    db.invoiceColumn[j]? = some (o.provider, k, some id)

theorem Database.PaidBy.of_agrees {db : Database} {k j : ℕ} {o : PaymentOrder} {e : PaymentEvent}
    {a : PaymentAttempt} (h : Billing.Agrees e a k o) (ha : db.paymentAttempts[j]? = some a)
    (htype : e.eventType ≠ "refund.succeeded") (hstatus : e.normalizedPaymentStatus = .paid) :
    db.PaidBy k o e := by
  refine ⟨htype, hstatus, h.provider.1, h.amount, h.currency, j, ?_⟩
  obtain ⟨id, hid⟩ := Option.ne_none_iff_exists'.1 h.paymentId.2
  have hinvoice : a.invoice = (o.provider, k, some id) := by
    rw [PaymentAttempt.invoice, ← h.provider.2, h.provider.1, h.attempt, ← h.paymentId.1, hid]
  refine ⟨id, hid, ?_⟩
  rw [invoiceColumn, List.getElem?_map, ha, Option.map_some, hinvoice]

theorem Database.PaidBy.keep {db db' : Database} {k : ℕ} {o : PaymentOrder} {e e' : PaymentEvent}
    (h : db.PaidBy k o e) (hr : e'.report = e.report)
    (hinvoices : InvoiceColumn.Change db.invoiceColumn db'.invoiceColumn) : db'.PaidBy k o e' := by
  have htype : e'.eventType = e.eventType := congrArg (·.eventType) hr
  have hstatus : e'.report.normalizedPaymentStatus = e.report.normalizedPaymentStatus := by rw [hr]
  have hprovider : e'.provider = e.provider := congrArg (·.provider) hr
  have hamount : e'.amountMinor = e.amountMinor := congrArg (·.amountMinor) hr
  have hcurrency : e'.currency = e.currency := congrArg (·.currency) hr
  have hid : e'.providerPaymentId = e.providerPaymentId := congrArg (·.providerPaymentId) hr
  obtain ⟨j, id, hpayment, hrow⟩ := h.invoice
  exact ⟨by rw [htype]; exact h.type, hstatus.trans h.status, hprovider.trans h.provider,
    hamount.trans h.amount, hcurrency.trans h.currency, j, id, hid.trans hpayment,
    hinvoices.keeps hrow⟩

/-- The orders that are paid were paid before. -/
def Database.PaysNothing (db db' : Database) : Prop :=
  ∀ (k : ℕ) (o : PaymentOrder), db'.paymentOrders[k]? = some o → o.status = .paid →
    db.paymentOrders[k]? = some o

/-- The orders that are paid were paid before, or the event pays them. -/
def Database.Pays (db db' : Database) (eventId : ℕ) : Prop :=
  ∀ (k : ℕ) (o : PaymentOrder), db'.paymentOrders[k]? = some o → o.status = .paid →
    db.paymentOrders[k]? = some o ∨
      ∃ e, db.paymentEvents[eventId]? = some e ∧ db.PaidBy k o e

theorem Database.PaysNothing.of_eq {db db' : Database}
    (h : db'.paymentOrders = db.paymentOrders) : db.PaysNothing db' := by
  intro k o ho _
  rw [← h]
  exact ho

theorem Database.PaysNothing.pays {db db' : Database} {eventId : ℕ} (h : db.PaysNothing db') :
    db.Pays db' eventId :=
  fun k o ho hs => .inl (h k o ho hs)

/-- An order that is written is not paid. -/
theorem Database.PaysNothing.set {db db' : Database} {k : ℕ} {o : PaymentOrder}
    (h : db'.paymentOrders = db.paymentOrders.set k o) (hs : o.status ≠ .paid) :
    db.PaysNothing db' := by
  intro n u hu hpaid
  rw [h] at hu
  by_cases hn : k = n
  · subst hn
    rw [List.getElem?_set_self'] at hu
    obtain ⟨_, -, rfl⟩ := Option.map_eq_some_iff.1 hu
    exact absurd hpaid hs
  · rw [List.getElem?_set_ne hn] at hu
    exact hu

namespace ProcessPayment

variable {db db' : Database} {now : DateTime} {e : PaymentEvent} {eventId orderId : ℕ}
  {o : PaymentOrder} {r : PaymentResult} {status : PaymentStatus}

theorem createProviderTransaction_orders (t : ProviderTransaction) :
    (db.createProviderTransaction t).paymentOrders = db.paymentOrders := by
  unfold createProviderTransaction
  split_ifs <;> rfl

theorem settleRefund_orders {attemptId : ℕ} {amount : ℤ} {currency : Currency} :
    (settleRefund now db e eventId orderId attemptId o amount currency).2.paymentOrders =
      db.paymentOrders := by
  unfold settleRefund
  generalize refundTransaction e orderId attemptId amount currency = t
  dsimp only
  split_ifs
  · have hledger := (withdrawFunding_withdrawal now (db.createProviderTransaction t) orderId).1
    exact (congrArg Billing.orders hledger).trans (createProviderTransaction_orders t)
  · exact createProviderTransaction_orders t

theorem processRefund_orders :
    (processRefund now db e eventId).2.paymentOrders = db.paymentOrders := by
  unfold processRefund
  split
  · rfl
  · split
    · rfl
    · split
      · rfl
      · split
        · split_ifs
          · rfl
          · rfl
          · exact settleRefund_orders
        · rfl

theorem settleOrder_orders {sid : Option ℕ}
    (h : settleOrder now db orderId o = .ok (sid, db')) :
    db'.paymentOrders = db.paymentOrders ∨ ∃ o', o'.purchase = o.purchase ∧
      db'.paymentOrders = db.paymentOrders.set orderId o' := by
  obtain ⟨⟨o', changed⟩, hmark, h⟩ := bind_eq_ok.1 h
  rcases PaymentOrder.markPaid_ok hmark with ⟨rfl, -, -⟩ | ⟨rfl, -, ho'⟩
  · cases h
    exact .inl rfl
  · obtain ⟨⟨sid, pid, db₁⟩, hact, h⟩ := bind_eq_ok.1 h
    cases h
    refine .inr ⟨o', by rw [ho']; rfl, ?_⟩
    rw [(ActivateSubscription.execute_activation hact).1]
    rfl

theorem processPaid_pays {a : PaymentAttempt} {attemptId : ℕ}
    (hrow : db.paymentEvents[eventId]? = some e) (htype : e.eventType ≠ "refund.succeeded")
    (hstatus : e.normalizedPaymentStatus = .paid) (ha : db.paymentAttempts[attemptId]? = some a)
    (ho : db.paymentOrders[orderId]? = some o)
    (h : processPaid now db e eventId a attemptId orderId o = .ok (r, db')) :
    db.Pays db' eventId := by
  unfold processPaid at h
  split at h
  · cases h
    exact PaysNothing.pays (.of_eq rfl)
  · cases h
  next hvalid =>
    have hagrees := validatePaidSettlement_ok hvalid
    dsimp only at h
    split_ifs at h
    · cases h
      exact PaysNothing.pays (.of_eq rfl)
    · obtain ⟨db₁, hsave, h⟩ := bind_eq_ok.1 h
      obtain ⟨⟨sid, db₂⟩, hsettle, h⟩ := bind_eq_ok.1 h
      cases h
      have horders₁ : db₁.paymentOrders = db.paymentOrders := by rw [saveAttempt_ok hsave]
      have horders : ∀ t id e', ((db₂.createProviderTransaction t).saveEvent id e').paymentOrders =
          db₂.paymentOrders := fun t _ _ => createProviderTransaction_orders t
      rcases settleOrder_orders hsettle with hsame | ⟨o', hp, hset⟩
      · exact PaysNothing.pays (.of_eq ((horders _ _ _).trans (hsame.trans horders₁)))
      · intro n u hu hpaid
        rw [horders, hset, horders₁] at hu
        by_cases hn : orderId = n
        · subst hn
          rw [List.getElem?_set_self (List.getElem?_eq_some_iff.1 ho).1] at hu
          obtain rfl := Option.some.inj hu
          -- the settled order is the one that the event agrees with
          obtain ⟨-, -, hprovider, hamount, -, -⟩ :
              o'.userId = o.userId ∧ o'.tariffId = o.tariffId ∧ o'.provider = o.provider ∧
              o'.amount = o.amount ∧ o'.requestedPeriodDays = o.requestedPeriodDays ∧
              o'.idempotencyKey = o.idempotencyKey := by
            simpa [PaymentOrder.purchase] using hp
          have hpays := PaidBy.of_agrees hagrees ha htype hstatus
          refine .inr ⟨e, hrow, hpays.type, hpays.status, ?_, ?_, ?_, ?_⟩
          · rw [hprovider]
            exact hpays.provider
          · rw [hamount]
            exact hpays.amount
          · rw [hamount]
            exact hpays.currency
          · rw [hprovider]
            exact hpays.invoice
        · rw [List.getElem?_set_ne hn] at hu
          exact .inl hu

theorem closeOrder_pays (hstatus : status ≠ .paid)
    (h : closeOrder now db e eventId orderId o status = .ok (r, db')) : db.PaysNothing db' := by
  obtain ⟨⟨o', changed⟩, hext, h⟩ := bind_eq_ok.1 h
  cases h
  rcases PaymentOrder.applyExternalStatus_ok hstatus hext with
    ⟨rfl, -⟩ | ⟨rfl, -, hunpaid, -, -, -⟩
  · exact .of_eq rfl
  · exact .set rfl hunpaid

theorem processUnsuccessful_pays {attempt : Option (PaymentAttempt × ℕ)} (hstatus : status ≠ .paid)
    (h : processUnsuccessful now db e eventId attempt orderId o status = .ok (r, db')) :
    db.PaysNothing db' := by
  unfold processUnsuccessful at h
  split at h
  · exact closeOrder_pays hstatus h
  · dsimp only at h
    split_ifs at h
    · cases h
      exact .of_eq rfl
    · obtain ⟨db₁, hsave, h⟩ := bind_eq_ok.1 h
      have horders : db₁.paymentOrders = db.paymentOrders := by rw [saveAttempt_ok hsave]
      intro n u hu hpaid
      rw [← horders]
      exact closeOrder_pays hstatus h n u hu hpaid

theorem resolveOther_pays (h : resolveOther now db e eventId = .ok (r, db')) :
    db.PaysNothing db' := by
  unfold resolveOther at h
  split at h
  · cases h
    exact .of_eq rfl
  · split at h
    next hs => exact processUnsuccessful_pays (by rw [hs]; decide) h
    next hs => exact processUnsuccessful_pays (by rw [hs]; decide) h
    next hs => exact processUnsuccessful_pays (by rw [hs]; decide) h
    · cases h
      exact .of_eq rfl

theorem resolvePaid_paidBy (hrow : db.paymentEvents[eventId]? = some e)
    (htype : e.eventType ≠ "refund.succeeded") (hstatus : e.normalizedPaymentStatus = .paid)
    (h : resolvePaid now db e eventId = .ok (r, db')) : db.Pays db' eventId := by
  unfold resolvePaid at h
  split at h
  · cases h
    exact PaysNothing.pays (.of_eq rfl)
  · split at h
    · cases h
      exact PaysNothing.pays (.of_eq rfl)
    next a ha =>
      split at h
      · cases h
        exact PaysNothing.pays (.of_eq rfl)
      next o ho => exact processPaid_pays hrow htype hstatus ha ho h

theorem execute_pays (h : execute now db eventId = .ok (r, db')) : db.Pays db' eventId := by
  unfold execute at h
  split at h
  · cases h
    exact PaysNothing.pays (.of_eq rfl)
  next e hrow =>
    split_ifs at h with _ _ htype hstatus
    · cases h
      exact PaysNothing.pays (.of_eq rfl)
    · cases h
      exact PaysNothing.pays (.of_eq rfl)
    · obtain rfl : (processRefund now db e eventId).2 = db' := congrArg Prod.snd (Except.ok.inj h)
      exact PaysNothing.pays (.of_eq processRefund_orders)
    · exact resolvePaid_paidBy hrow htype hstatus h
    · exact (resolveOther_pays h).pays

end ProcessPayment

/-- The administrator marks the order that is settled by hand. -/
theorem AdminOperations.markPaymentOrderPaid_pays {db db' : Database} {now : DateTime}
    {orderId k : ℕ} {o : PaymentOrder} {r : Option ℕ}
    (h : AdminOperations.markPaymentOrderPaid db orderId now = .ok (r, db'))
    (ho : db'.paymentOrders[k]? = some o) :
    db.paymentOrders[k]? = some o ∨ o.manuallySettled = true := by
  unfold AdminOperations.markPaymentOrderPaid at h
  split at h
  · cases h
  next o₁ hrow =>
    obtain ⟨⟨o', changed⟩, hmark, h₁⟩ := bind_eq_ok.1 h
    rcases PaymentOrder.markPaid_ok hmark with ⟨rfl, -, -⟩ | ⟨rfl, -, -⟩
    · cases h₁
      exact .inl ho
    · obtain ⟨⟨sid, pid, db₁⟩, hact, h₂⟩ := bind_eq_ok.1 h₁
      cases h₂
      change db₁.paymentOrders[k]? = some o at ho
      rw [(ActivateSubscription.execute_activation hact).1] at ho
      change (db.paymentOrders.set orderId _)[k]? = some o at ho
      by_cases hk : orderId = k
      · rw [hk, List.getElem?_set_self'] at ho
        obtain ⟨_, -, rfl⟩ := Option.map_eq_some_iff.1 ho
        right
        unfold PaymentOrder.manuallySettled
        dsimp only [Function.const]
        rw [Payload.get_insert]
        rfl
      · rw [List.getElem?_set_ne hk] at ho
        exact .inl ho

theorem CreatePayment.failOwnedClaim_orders {db db' : Database} {attemptId : ℕ} {token : Uuid}
    {now : DateTime} (h : failOwnedClaim db attemptId token now = .ok db') :
    db'.paymentOrders = db.paymentOrders := by
  unfold failOwnedClaim at h
  split at h
  · cases h
    rfl
  · split_ifs at h
    · rw [saveAttempt_ok h]
    · cases h
      rfl

theorem ReconcileSubscriptions.processAnomaly_orders {db : Database} {now : DateTime}
    (a : ReconciliationAnomaly) :
    (ReconcileSubscriptions.processAnomaly db a now).paymentOrders = db.paymentOrders := by
  unfold ReconcileSubscriptions.processAnomaly
  split
  · unfold ReconcileSubscriptions.expireSubscription
    split
    · rfl
    · split_ifs <;> rfl
  · rfl

/-! ## Runs -/

namespace System

variable {settings : Settings} {s s' : System} {cmd : Command} {k : ℕ} {o : PaymentOrder}

/-- An order that a command pays is settled by hand, or by an event about its invoice. -/
theorem exec_pays (hw : s.db.WellFormed) (h : s.exec settings cmd = some s')
    (ho : s'.db.paymentOrders[k]? = some o) (hpaid : o.status = .paid) :
    s.db.paymentOrders[k]? = some o ∨ o.manuallySettled = true ∨
      ∃ e ∈ s.db.paymentEvents, s.db.PaidBy k o e := by
  have hnothing : s.db.PaysNothing s'.db → s.db.paymentOrders[k]? = some o ∨
      o.manuallySettled = true ∨ ∃ e ∈ s.db.paymentEvents, s.db.PaidBy k o e :=
    fun hp => .inl (hp k o ho hpaid)
  have hvpn : cmd.onVpn = true → s.db.PaysNothing s'.db := fun hcmd =>
    .of_eq (congrArg Billing.orders (exec_refines hw h hcmd).billingLedger)
  cases cmd with
  | createPayment request now leaseSeconds token =>
    obtain ⟨p, hp⟩ := exec_createPayment_cases h
    obtain ⟨-, -, userId, tariff, -, -, -, -, -, hsame | ⟨hnew, -⟩⟩ :=
      CreatePayment.prepareOrder_ok hp
    · exact hnothing (.of_eq hsame)
    · -- the order that is added waits for its payment
      rw [hnew, List.getElem?_append] at ho
      split_ifs at ho with hlt
      · exact .inl ho
      · obtain rfl := List.mem_singleton.1 (List.mem_of_getElem? ho)
        cases hpaid
  | finalizeInvoice claim intent now =>
    obtain ⟨w, a, hf⟩ := exec_finalizeInvoice_cases h
    exact hnothing (.of_eq (CreatePayment.finalizeOwnedClaim_cases hf).2.1)
  | failInvoice claim now =>
    obtain ⟨w, hrow, h⟩ := Option.bind_eq_some_iff.1 h
    split_ifs at h
    obtain ⟨db, hr, h⟩ := Option.bind_eq_some_iff.1 h
    cases h
    exact hnothing (.of_eq (CreatePayment.failOwnedClaim_orders (toOption_eq_some hr)))
  | ingestWebhook provider webhook headers rawPayload now =>
    obtain ⟨r, h⟩ := commit_eq_some h
    exact hnothing (.of_eq (IngestWebhook.execute_orders h).2.1)
  | processPayment now eventId =>
    obtain ⟨r, h⟩ := commit_eq_some h
    rcases ProcessPayment.execute_pays h k o ho hpaid with hold | ⟨e, he, hpays⟩
    · exact .inl hold
    · exact .inr (.inr ⟨e, List.mem_of_getElem? he, hpays⟩)
  | markPaymentOrderPaid orderId now =>
    obtain ⟨r, h⟩ := commit_eq_some h
    exact (AdminOperations.markPaymentOrderPaid_pays h ho).imp_right .inl
  | listAnomalies now afterKindOrder afterEntityId limit =>
    cases h
    exact .inl ho
  | processAnomaly batch index =>
    obtain ⟨b, -, h⟩ := Option.bind_eq_some_iff.1 h
    obtain ⟨a, -, h⟩ := Option.bind_eq_some_iff.1 h
    cases h
    exact hnothing (.of_eq (ReconcileSubscriptions.processAnomaly_orders a))
  | administer nodes tariffs endpoints =>
    cases h
    exact .inl ho
  | _ => exact hnothing (hvpn rfl)

theorem exec_invoiceColumn (hr : Reachable settings s) (h : s.exec settings cmd = some s') :
    InvoiceColumn.Change s.db.invoiceColumn s'.db.invoiceColumn := by
  have hsame : s'.db.invoiceColumn = s.db.invoiceColumn →
      InvoiceColumn.Change s.db.invoiceColumn s'.db.invoiceColumn := by
    intro heq
    have hadds : InvoiceColumn.Change s.db.invoiceColumn (s.db.invoiceColumn ++ []) :=
      .adds [] (by simp)
    rw [List.append_nil] at hadds
    rw [heq]
    exact hadds
  by_cases hintake : cmd.isIntake = false
  · have hcolumns := exec_intake hr.inv.1 h hintake
    simp only [Database.intake, Prod.mk.injEq] at hcolumns
    exact hsame hcolumns.2.2.2
  · cases cmd with
    | createPayment request now leaseSeconds token =>
      obtain ⟨p, hp⟩ := exec_createPayment_cases h
      obtain ⟨-, ⟨added, hadded, hnone⟩, -⟩ := CreatePayment.prepareOrder_ok hp
      have hcolumn : s'.db.invoiceColumn = s.db.invoiceColumn ++ added := hadded
      rw [hcolumn]
      exact .adds added hnone
    | ingestWebhook provider webhook headers rawPayload now =>
      obtain ⟨r, h⟩ := commit_eq_some h
      exact hsame (congrArg (List.map PaymentAttempt.invoice) (IngestWebhook.execute_orders h).2.2)
    | finalizeInvoice claim intent now =>
      obtain ⟨w, a, hf⟩ := exec_finalizeInvoice_cases h
      obtain ⟨-, -, -, hkept | ⟨b, hb, hcreated, hinvoice, hset, hunused⟩⟩ :=
        CreatePayment.finalizeOwnedClaim_cases hf
      · exact hsame (congrArg (List.map PaymentAttempt.invoice) hkept)
      · have hnone : b.providerPaymentId = none :=
          hr.invoices.created b (List.mem_of_getElem? hb) hcreated
        have hcolumn : s'.db.invoiceColumn = s.db.invoiceColumn.set w.prepared.attemptId
            (b.provider, b.paymentOrderId, some intent.providerPaymentId) := by
          rw [invoiceColumn, invoiceColumn, hset, List.map_set, hinvoice]
        have hrow : s.db.invoiceColumn[w.prepared.attemptId]? =
            some (b.provider, b.paymentOrderId, none) := by
          rw [invoiceColumn, List.getElem?_map, hb, Option.map_some, PaymentAttempt.invoice, hnone]
        simp only [PaymentAttempt.invoice, Prod.mk.injEq] at hinvoice
        rw [hcolumn]
        refine .stores _ _ _ _ hrow fun i k' hi => ?_
        rw [invoiceColumn, List.getElem?_map] at hi
        obtain ⟨c, hc, hcinvoice⟩ := Option.map_eq_some_iff.1 hi
        simp only [PaymentAttempt.invoice, Prod.mk.injEq] at hcinvoice
        obtain rfl := hunused i c hc (hcinvoice.1.trans hinvoice.1.symm)
          (hcinvoice.2.2.trans hinvoice.2.2.symm)
        rw [hb] at hc
        cases hc
        rw [hnone] at hcinvoice
        exact absurd hcinvoice.2.2 (Option.some_ne_none _).symm
    | _ => exact absurd rfl hintake

theorem Reachable.uniqueInvoices (h : Reachable settings s) : s.db.invoiceColumn.Unique := by
  refine Transition.Reachable.invariant (fun s : System => s.db.invoiceColumn.Unique) ?_ ?_ h
  · intro s hs i j k k' provider id hi
    rw [hs] at hi
    cases hi
  · rintro s s' hr hu ⟨cmd, hcmd⟩
    exact hu.change (exec_invoiceColumn hr hcmd)

/-- A paid order is settled by hand, or an event reports that its invoice is paid. -/
theorem Reachable.paidBy (h : Reachable settings s) (ho : s.db.paymentOrders[k]? = some o)
    (hpaid : o.status = .paid) :
    o.manuallySettled = true ∨ ∃ e ∈ s.db.paymentEvents, s.db.PaidBy k o e := by
  refine Transition.Reachable.invariant (fun s : System => ∀ (k : ℕ) (o : PaymentOrder),
    s.db.paymentOrders[k]? = some o → o.status = .paid →
    o.manuallySettled = true ∨ ∃ e ∈ s.db.paymentEvents, s.db.PaidBy k o e) ?_ ?_ h k o ho hpaid
  · intro s hs k o ho
    rw [hs] at ho
    cases ho
  · rintro s s' hr hinv ⟨cmd, hcmd⟩ k o ho hpaid
    have hw := (Reachable.inv hr).1
    have hinvoices := exec_invoiceColumn hr hcmd
    have hkeep : ∀ e ∈ s.db.paymentEvents, s.db.PaidBy k o e →
        ∃ e' ∈ s'.db.paymentEvents, s'.db.PaidBy k o e' := by
      intro e he hpays
      obtain ⟨i, hi⟩ := List.getElem?_of_mem he
      obtain ⟨e', he', hreport⟩ := (exec_evolves hw hcmd).billing.events i e hi
      exact ⟨e', List.mem_of_getElem? he', hpays.keep hreport hinvoices⟩
    rcases exec_pays hw hcmd ho hpaid with hold | hmanual | ⟨e, he, hpays⟩
    · rcases hinv k o hold hpaid with hmanual | ⟨e, he, hpays⟩
      · exact .inl hmanual
      · exact .inr (hkeep e he hpays)
    · exact .inl hmanual
    · exact .inr (hkeep e he hpays)

end System

end ShopBot
