import ShopBot.Lifecycle.BillingHistory
import ShopBot.Refinement.Invoices
import ShopBot.Refinement.System
import ShopBot.System.BotSystem
import ShopBot.System.PaymentNetwork

/-! # Who orders what

Users are registered and orders are opened by the transaction that prepares an order, and by no
other one of the shop. It opens an order once for its key. Events are stored by the transaction
that ingests a webhook.
-/

namespace ShopBot

open Database

/-- The users, and what every order was created for. -/
def Database.sales (db : Database) := (db.users, db.paymentOrders.map PaymentOrder.purchase)

/-- What the provider knows an attempt by. -/
def PaymentAttempt.invoice (a : PaymentAttempt) :=
  (a.provider, a.paymentOrderId, a.providerPaymentId)

/-- The users, the number of orders, the number of events and the invoices. -/
def Database.intake (db : Database) := (db.users, db.paymentOrders.length,
  db.paymentEvents.length, db.paymentAttempts.map PaymentAttempt.invoice)

variable {db db' db₁ : Database} {now : DateTime}

/-! ## Transactions that open no order -/

theorem saveOrder_intake (id : ℕ) (o : PaymentOrder) : (db.saveOrder id o).intake = db.intake := by
  simp [Database.intake, saveOrder]

theorem saveEvent_intake (id : ℕ) (e : PaymentEvent) : (db.saveEvent id e).intake = db.intake := by
  simp [Database.intake, saveEvent]

theorem saveAttempt_intake {id : ℕ} {a a' : PaymentAttempt} (h : db.saveAttempt id a' = .ok db₁)
    (hrow : db.paymentAttempts[id]? = some a) (hinvoice : a'.invoice = a.invoice) :
    db₁.intake = db.intake := by
  unfold saveAttempt at h
  split_ifs at h
  cases h
  unfold Database.intake
  rw [Table.map_set hrow hinvoice]

theorem createProviderTransaction_intake (t : ProviderTransaction) :
    (db.createProviderTransaction t).intake = db.intake := by
  unfold createProviderTransaction
  split_ifs <;> rfl

theorem addSubscription_intake {s : Subscription} {id : ℕ}
    (h : db.addSubscription s = .ok (id, db₁)) : db₁.intake = db.intake := by
  unfold addSubscription at h
  split_ifs at h
  cases h
  rfl

theorem addPeriod_intake {p : SubscriptionPeriod} {id : ℕ} (h : db.addPeriod p = .ok (id, db₁)) :
    db₁.intake = db.intake := by
  unfold addPeriod at h
  split_ifs at h
  cases h
  rfl

theorem ActivateSubscription.execute_intake {userId tariffId periodDays sid pid : ℕ}
    {orderId : Option ℕ} (h : ActivateSubscription.execute db userId tariffId periodDays now
      orderId = .ok (sid, pid, db')) : db'.intake = db.intake := by
  obtain ⟨activation, -, h⟩ := bind_eq_ok.1 h
  obtain ⟨⟨sid, db₁⟩, hsub, h⟩ := bind_eq_ok.1 h
  obtain ⟨⟨pid, db₂⟩, hperiod, h⟩ := bind_eq_ok.1 h
  cases h
  have hreplaced : (saveReplaced db activation
      (db.getActiveSubscriptionForUser userId)).intake = db.intake := by
    unfold saveReplaced
    split <;> rfl
  have hstored : db₁.intake = (saveReplaced db activation
      (db.getActiveSubscriptionForUser userId)).intake := by
    unfold storeSubscription at hsub
    split at hsub
    · cases hsub
      rfl
    · exact addSubscription_intake hsub
  exact (addPeriod_intake hperiod).trans (hstored.trans hreplaced)

namespace ProcessPayment

variable {e : PaymentEvent} {eventId orderId : ℕ} {o : PaymentOrder} {r : PaymentResult}
  {status : PaymentStatus}

theorem withdrawFunding_intake : (withdrawFunding now db orderId).2.intake = db.intake := by
  unfold withdrawFunding
  split
  · rfl
  · dsimp only
    split
    · rfl
    · split
      · rfl
      · split_ifs <;> rfl

theorem settleRefund_intake {attemptId : ℕ} {amount : ℤ} {currency : Currency} :
    (settleRefund now db e eventId orderId attemptId o amount currency).2.intake = db.intake := by
  unfold settleRefund
  dsimp only
  rw [saveEvent_intake]
  split_ifs
  · exact withdrawFunding_intake.trans (createProviderTransaction_intake _)
  · exact (createProviderTransaction_intake _ : (db.createProviderTransaction _).intake = db.intake)

theorem processRefund_intake : (processRefund now db e eventId).2.intake = db.intake := by
  unfold processRefund
  split
  · exact saveEvent_intake _ _
  · split
    · exact saveEvent_intake _ _
    · split
      · exact saveEvent_intake _ _
      · split
        · split_ifs
          · exact saveEvent_intake _ _
          · exact saveEvent_intake _ _
          · exact settleRefund_intake
        · exact saveEvent_intake _ _

theorem settleOrder_intake {sid : Option ℕ} (h : settleOrder now db orderId o = .ok (sid, db')) :
    db'.intake = db.intake := by
  obtain ⟨⟨o', changed⟩, -, h⟩ := bind_eq_ok.1 h
  dsimp only at h
  split_ifs at h
  · obtain ⟨⟨sid, pid, db₁⟩, hact, h⟩ := bind_eq_ok.1 h
    cases h
    exact (ActivateSubscription.execute_intake hact).trans (saveOrder_intake orderId o')
  · cases h
    rfl

theorem applyProviderStatus_invoice (a : PaymentAttempt) (payload : Payload) :
    (a.applyProviderStatus status payload).1.invoice = a.invoice := by
  unfold PaymentAttempt.applyProviderStatus
  split_ifs <;> rfl

theorem processPaid_intake {a : PaymentAttempt} {attemptId : ℕ}
    (ha : db.paymentAttempts[attemptId]? = some a)
    (h : processPaid now db e eventId a attemptId orderId o = .ok (r, db')) :
    db'.intake = db.intake := by
  unfold processPaid at h
  split at h
  · cases h
    exact saveEvent_intake _ _
  · cases h
  · dsimp only at h
    split_ifs at h
    · cases h
      exact saveEvent_intake _ _
    · obtain ⟨db₁, h₁, h⟩ := bind_eq_ok.1 h
      obtain ⟨⟨sid, db₂⟩, h₂, h⟩ := bind_eq_ok.1 h
      cases h
      rw [saveEvent_intake]
      have htransaction : ∀ t, (db₂.createProviderTransaction t).intake = db₂.intake :=
        fun t => createProviderTransaction_intake t
      exact (htransaction _).trans
        ((settleOrder_intake h₂).trans
          (saveAttempt_intake h₁ ha (applyProviderStatus_invoice a e.payload)))

theorem resolvePaid_intake (h : resolvePaid now db e eventId = .ok (r, db')) :
    db'.intake = db.intake := by
  unfold resolvePaid at h
  split at h
  · cases h
    exact saveEvent_intake _ _
  · split at h
    · cases h
      exact saveEvent_intake _ _
    next a ha =>
      split at h
      · cases h
        exact saveEvent_intake _ _
      · exact processPaid_intake ha h

theorem closeOrder_intake (h : closeOrder now db e eventId orderId o status = .ok (r, db')) :
    db'.intake = db.intake := by
  obtain ⟨⟨o', changed⟩, -, h⟩ := bind_eq_ok.1 h
  cases h
  rw [saveEvent_intake]
  cases changed with
  | false => rfl
  | true => exact (saveOrder_intake orderId o' : (db.saveOrder orderId o').intake = db.intake)

theorem processUnsuccessful_intake {attempt : Option (PaymentAttempt × ℕ)}
    (hattempt : ∀ a j, attempt = some (a, j) → db.paymentAttempts[j]? = some a)
    (h : processUnsuccessful now db e eventId attempt orderId o status = .ok (r, db')) :
    db'.intake = db.intake := by
  unfold processUnsuccessful at h
  split at h
  · exact closeOrder_intake h
  next a j =>
    dsimp only at h
    split_ifs at h
    · cases h
      exact saveEvent_intake _ _
    · obtain ⟨db₁, h₁, h⟩ := bind_eq_ok.1 h
      exact (closeOrder_intake h).trans
        (saveAttempt_intake h₁ (hattempt a j rfl) (applyProviderStatus_invoice a e.payload))

theorem resolveOther_intake (h : resolveOther now db e eventId = .ok (r, db')) :
    db'.intake = db.intake := by
  unfold resolveOther at h
  split at h
  · cases h
    exact saveEvent_intake _ _
  · split at h
    · exact processUnsuccessful_intake (fun _ _ => attemptOf_row) h
    · exact processUnsuccessful_intake (fun _ _ => attemptOf_row) h
    · exact processUnsuccessful_intake (fun _ _ => attemptOf_row) h
    · cases h
      exact saveEvent_intake _ _

theorem execute_intake (h : execute now db eventId = .ok (r, db')) : db'.intake = db.intake := by
  unfold execute at h
  split at h
  · cases h
    rfl
  · split_ifs at h
    · cases h
      rfl
    · cases h
      rfl
    · obtain rfl : (processRefund now db _ eventId).2 = db' := congrArg Prod.snd (Except.ok.inj h)
      exact processRefund_intake
    · exact resolvePaid_intake h
    · exact resolveOther_intake h

end ProcessPayment

theorem AdminOperations.markPaymentOrderPaid_intake {orderId : ℕ} {r : Option ℕ}
    (h : AdminOperations.markPaymentOrderPaid db orderId now = .ok (r, db')) :
    db'.intake = db.intake := by
  unfold AdminOperations.markPaymentOrderPaid at h
  split at h
  · cases h
  · obtain ⟨⟨o', changed⟩, -, h⟩ := bind_eq_ok.1 h
    dsimp only at h
    split_ifs at h
    · obtain ⟨⟨sid, pid, db₁⟩, hact, h⟩ := bind_eq_ok.1 h
      cases h
      exact (ActivateSubscription.execute_intake hact).trans (saveOrder_intake orderId _)
    · cases h
      rfl

theorem IngestWebhook.execute_orders {provider : String} {w : NormalizedWebhookEvent}
    {headers rawPayload : Payload} {r : IngestResult}
    (h : IngestWebhook.execute db provider w headers rawPayload now = .ok (r, db')) :
    db'.users = db.users ∧ db'.paymentOrders = db.paymentOrders ∧
      db'.paymentAttempts = db.paymentAttempts := by
  obtain ⟨⟨eventId, db₁⟩, he, h⟩ := bind_eq_ok.1 h
  cases h
  have hinbox : ∀ row, (db.saveWebhookInbox row).2.2.users = db.users ∧
      (db.saveWebhookInbox row).2.2.paymentOrders = db.paymentOrders ∧
      (db.saveWebhookInbox row).2.2.paymentAttempts = db.paymentAttempts := by
    intro row
    unfold saveWebhookInbox
    split <;> exact ⟨rfl, rfl, rfl⟩
  unfold createPaymentEvent at he
  split at he
  · cases he
    exact hinbox _
  · split_ifs at he
    cases he
    exact hinbox _

theorem ReconcileSubscriptions.processAnomaly_intake (a : ReconciliationAnomaly) :
    (ReconcileSubscriptions.processAnomaly db a now).intake = db.intake := by
  unfold ReconcileSubscriptions.processAnomaly
  split
  · unfold ReconcileSubscriptions.expireSubscription
    split
    · rfl
    · split_ifs <;> rfl
  · rfl

namespace CreatePayment

variable {request : PaymentRequest} {leaseSeconds : ℤ} {token : Uuid} {p : PreparedPaymentOrder}
  {orderId attemptId : ℕ} {o : PaymentOrder} {name : String}

/-- No other attempt has the invoice that is stored. -/
theorem saveAttempt_unused {a : PaymentAttempt} {id : String}
    (h : db.saveAttempt attemptId a = .ok db') (hid : a.providerPaymentId = some id) (i : ℕ)
    (c : PaymentAttempt) (hc : db.paymentAttempts[i]? = some c) (hprovider : c.provider = a.provider)
    (hsame : c.providerPaymentId = a.providerPaymentId) : i = attemptId := by
  unfold saveAttempt at h
  split_ifs at h with hany
  by_contra hne
  refine hany (Bool.and_eq_true_iff.2 ⟨by rw [hid]; rfl, List.any_eq_true.2 ⟨(c, i), ?_, ?_⟩⟩)
  · rw [Table.mem_select]
    exact ⟨hc, by simp [hprovider, hsame]⟩
  · simpa using hne

/-- The invoice of an attempt is stored, unless another attempt has it. -/
theorem finalizeOwnedClaim_cases {intent : PaymentIntent} {a : PaymentAttempt}
    (h : finalizeOwnedClaim db orderId o attemptId token intent now = .ok (a, db')) :
    db'.users = db.users ∧ db'.paymentOrders = db.paymentOrders ∧
      db'.paymentEvents = db.paymentEvents ∧
      (db'.paymentAttempts = db.paymentAttempts ∨ ∃ b,
        db.paymentAttempts[attemptId]? = some b ∧ b.status = .created ∧
        a.invoice = (b.provider, b.paymentOrderId, some intent.providerPaymentId) ∧
        db'.paymentAttempts = db.paymentAttempts.set attemptId a ∧
        ∀ (i : ℕ) (c : PaymentAttempt), db.paymentAttempts[i]? = some c →
          c.provider = a.provider → c.providerPaymentId = a.providerPaymentId → i = attemptId) := by
  unfold finalizeOwnedClaim at h
  split at h
  · cases h
  next b hb =>
    split_ifs at h
    · obtain ⟨a', hfinal, h⟩ := bind_eq_ok.1 h
      obtain ⟨db₁, hsave, h⟩ := bind_eq_ok.1 h
      cases h
      obtain ⟨hcreated, -, -, hid, horder, hprovider⟩ := Invoices.finalizeCreation_fields hfinal
      have hinvoice : a.invoice = (b.provider, b.paymentOrderId, some intent.providerPaymentId) := by
        rw [PaymentAttempt.invoice, hid, horder, hprovider]
      obtain ⟨husers, horders, hevents, hattempts⟩ : db₁.users = db.users ∧
          db₁.paymentOrders = db.paymentOrders ∧ db₁.paymentEvents = db.paymentEvents ∧
          db₁.paymentAttempts = db.paymentAttempts.set attemptId a := by
        rw [saveAttempt_ok hsave]
        exact ⟨rfl, rfl, rfl, rfl⟩
      refine ⟨?_, ?_, ?_, .inr ⟨b, hb, hcreated, hinvoice, ?_, saveAttempt_unused hsave hid⟩⟩
      · rw [← husers]
        unfold createProviderTransaction
        split_ifs <;> rfl
      · rw [← horders]
        unfold createProviderTransaction
        split_ifs <;> rfl
      · rw [← hevents]
        unfold createProviderTransaction
        split_ifs <;> rfl
      · rw [← hattempts]
        unfold createProviderTransaction
        split_ifs <;> rfl
    · split at h
      · cases h
      · cases h
        exact ⟨rfl, rfl, rfl, .inl rfl⟩

theorem failCreation_invoice (a : PaymentAttempt) {diagnostic : String} :
    (a.failCreation now diagnostic).invoice = a.invoice := by
  unfold PaymentAttempt.failCreation
  split_ifs <;> rfl

theorem failOwnedClaim_intake (h : failOwnedClaim db attemptId token now = .ok db') :
    db'.intake = db.intake := by
  unfold failOwnedClaim at h
  split at h
  · cases h
    rfl
  next a ha =>
    split_ifs at h
    · exact saveAttempt_intake h ha (failCreation_invoice a)
    · cases h
      rfl

/-! ## The transaction that prepares an order -/

/-- The attempts that are added have no invoice, and the others keep theirs. -/
def Uninvoiced (db db' : Database) : Prop :=
  ∃ added, db'.paymentAttempts.map PaymentAttempt.invoice =
    db.paymentAttempts.map PaymentAttempt.invoice ++ added ∧ ∀ i ∈ added, i.2.2 = none

theorem Uninvoiced.of_eq (h : db'.paymentAttempts = db.paymentAttempts) : Uninvoiced db db' :=
  ⟨[], by rw [h, List.append_nil], by simp⟩

theorem claimCreation_uninvoiced
    (h : claimCreation db orderId o name now leaseSeconds token = .ok (p, db')) :
    Uninvoiced db db' := by
  obtain ⟨claim, hclaim, h⟩ := bind_eq_ok.1 h
  obtain ⟨⟨id, db₁⟩, hadd, h⟩ := bind_eq_ok.1 h
  cases h
  unfold Database.addAttempt at hadd
  split_ifs at hadd
  cases hadd
  have hnone : claim.providerPaymentId = none := by
    unfold PaymentAttempt.claimCreation at hclaim
    split_ifs at hclaim
    cases hclaim
    rfl
  refine ⟨[claim.invoice], List.map_append, fun i hi => ?_⟩
  rw [List.mem_singleton.1 hi]
  exact hnone

theorem resolveAttempt_uninvoiced
    (h : resolveAttempt db orderId o name now leaseSeconds token = .ok (p, db')) :
    Uninvoiced db db' := by
  unfold resolveAttempt at h
  split at h
  · exact claimCreation_uninvoiced h
  next a attemptId hlatest =>
    dsimp only at h
    split_ifs at h
    · cases h
      exact .of_eq rfl
    · obtain ⟨db₂, hsave, h⟩ := bind_eq_ok.1 h
      obtain ⟨added, hadded, hnone⟩ := claimCreation_uninvoiced h
      refine ⟨added, ?_, hnone⟩
      rw [hadded, saveAttempt_ok hsave]
      congr 1
      exact Table.map_set (Table.lastWhere_some hlatest).1 (failCreation_invoice a)
    · exact claimCreation_uninvoiced h
    · cases h
      exact .of_eq rfl

theorem claimCreation_orders
    (h : claimCreation db orderId o name now leaseSeconds token = .ok (p, db')) :
    db'.users = db.users ∧ db'.paymentOrders = db.paymentOrders ∧ p.orderId = orderId ∧
      p.order = o ∧ db'.paymentEvents = db.paymentEvents := by
  obtain ⟨claim, -, h⟩ := bind_eq_ok.1 h
  obtain ⟨⟨id, db₁⟩, hadd, h⟩ := bind_eq_ok.1 h
  cases h
  unfold Database.addAttempt at hadd
  split_ifs at hadd
  cases hadd
  exact ⟨rfl, rfl, rfl, rfl, rfl⟩

theorem resolveAttempt_orders
    (h : resolveAttempt db orderId o name now leaseSeconds token = .ok (p, db')) :
    db'.users = db.users ∧ db'.paymentOrders = db.paymentOrders ∧ p.orderId = orderId ∧
      p.order = o ∧ db'.paymentEvents = db.paymentEvents := by
  unfold resolveAttempt at h
  split at h
  · exact claimCreation_orders h
  · dsimp only at h
    split_ifs at h
    · cases h
      exact ⟨rfl, rfl, rfl, rfl, rfl⟩
    · obtain ⟨db₂, hsave, h⟩ := bind_eq_ok.1 h
      unfold saveAttempt at hsave
      split_ifs at hsave
      cases hsave
      obtain ⟨husers, horders, hid, horder, hevents⟩ := claimCreation_orders h
      exact ⟨husers, horders, hid, horder, hevents⟩
    · exact claimCreation_orders h
    · cases h
      exact ⟨rfl, rfl, rfl, rfl, rfl⟩

/-- The user of a request is found or registered, and the others stay. -/
theorem resolveUser_ok {userId : ℕ} (h : resolveUser db request = .ok (userId, db')) :
    db.users <+: db'.users ∧ db'.paymentOrders = db.paymentOrders ∧
      db'.paymentEvents = db.paymentEvents ∧ db'.paymentAttempts = db.paymentAttempts ∧
      ∃ u, db'.users[userId]? = some u ∧ u.telegramId = request.telegramId := by
  unfold resolveUser at h
  split at h
  · next u id huser =>
    cases h
    obtain ⟨hrow, htelegram⟩ := Table.firstWhere_some huser
    exact ⟨List.prefix_rfl, rfl, rfl, rfl, u, hrow, of_decide_eq_true htelegram⟩
  · obtain ⟨-, -, h⟩ := bind_eq_ok.1 h
    cases h
    exact ⟨List.prefix_append _ _, rfl, rfl, rfl, _, List.getElem?_concat_length, rfl⟩

/-- An order is opened for its key, unless one was. -/
theorem addOrder_cases {c : PaymentOrder} (h : db.addOrder c = (orderId, db')) :
    db'.users = db.users ∧ db'.paymentEvents = db.paymentEvents ∧
      db'.paymentAttempts = db.paymentAttempts ∧
      (db'.paymentOrders = db.paymentOrders ∧
        (∃ o, db.paymentOrders[orderId]? = some o ∧ o.idempotencyKey = c.idempotencyKey) ∨
      db'.paymentOrders = db.paymentOrders ++ [c] ∧ orderId = db.paymentOrders.length ∧
        ∀ o ∈ db.paymentOrders, o.idempotencyKey ≠ c.idempotencyKey) := by
  unfold addOrder at h
  split at h
  · next o id hfound =>
    cases h
    obtain ⟨hrow, hkey⟩ := Table.firstWhere_some hfound
    exact ⟨rfl, rfl, rfl, .inl ⟨rfl, o, hrow, of_decide_eq_true hkey⟩⟩
  · next hnone =>
    cases h
    refine ⟨rfl, rfl, rfl, .inr ⟨rfl, rfl, fun o ho hkey => ?_⟩⟩
    obtain ⟨k, hk⟩ := List.getElem?_of_mem ho
    exact absurd hkey (of_decide_eq_false (Table.firstWhere_eq_none.1 hnone k o hk))

/-- The prepared order is the one with the key of the request, it was created for the same
purchase, and no other row changes. -/
theorem prepareOrder_ok (h : prepareOrder db request now leaseSeconds token = .ok (p, db')) :
    db'.paymentEvents = db.paymentEvents ∧ Uninvoiced db db' ∧
      ∃ userId tariff, db.users <+: db'.users ∧
      (∃ u, db'.users[userId]? = some u ∧ u.telegramId = request.telegramId) ∧
      db'.paymentOrders[p.orderId]? = some p.order ∧
      p.order.idempotencyKey = stripText request.idempotencyKey ∧
      p.order.hasSameCreationIdentity (candidateOrder request userId tariff) = true ∧
      (db'.paymentOrders = db.paymentOrders ∨
        db'.paymentOrders = db.paymentOrders ++ [candidateOrder request userId tariff] ∧
        ∀ o ∈ db.paymentOrders, o.idempotencyKey ≠ stripText request.idempotencyKey) := by
  obtain ⟨⟨userId, db₁⟩, huser, h⟩ := bind_eq_ok.1 h
  obtain ⟨hkept, horders, hevents, hattempts, huser⟩ := resolveUser_ok huser
  dsimp only at h
  split at h
  · cases h
  · next tariff htariff =>
    obtain ⟨-, -, h⟩ := bind_eq_ok.1 h
    obtain ⟨-, -, h⟩ := bind_eq_ok.1 h
    obtain ⟨⟨orderId, db₂⟩, hadd⟩ : ∃ r, db₁.addOrder (candidateOrder request userId tariff) = r :=
      ⟨_, rfl⟩
    obtain ⟨husers, hevents', hattempts', hcases⟩ := addOrder_cases hadd
    simp only [hadd] at h
    split at h
    · cases h
    · next o ho =>
      obtain ⟨_, hidentity, h⟩ := bind_eq_ok.1 h
      obtain ⟨husers', horders', hid, horder, hevents''⟩ := resolveAttempt_orders h
      have hrow : db₂.paymentOrders[orderId]? = some o := ho
      have huninvoiced : Uninvoiced db db' := by
        unfold Uninvoiced
        rw [← hattempts, ← hattempts']
        exact resolveAttempt_uninvoiced h
      refine ⟨(hevents''.trans hevents').trans hevents, huninvoiced, userId, tariff, ?_, ?_, ?_, ?_,
        ?_, ?_⟩
      · rw [husers', husers]
        exact hkept
      · rw [husers', husers]
        exact huser
      · rw [horders', hid, horder]
        exact hrow
      · rw [horder]
        rcases hcases with ⟨hsame, o', ho', hkey⟩ | ⟨hnew, rfl, -⟩
        · rw [hsame, ho'] at hrow
          cases hrow
          exact hkey
        · rw [hnew, List.getElem?_concat_length] at hrow
          cases hrow
          rfl
      · rw [horder]
        exact require_eq_ok.1 hidentity
      · rw [horders', ← horders]
        exact hcases.imp And.left fun ⟨hnew, _, hfresh⟩ => ⟨hnew, hfresh⟩

end CreatePayment

/-! ## Commands -/

theorem Billing.Run.orders {admin : Billing.Actor} {b b' : Billing} (h : Billing.Run admin b b') :
    Table.Keeps PaymentOrder.purchase b.orders b'.orders := by
  induction h with
  | refl => exact .refl
  | tail _ hs ih => exact ih.trans hs.orders

/-- The command prepares an order, ingests a webhook or stores an invoice. -/
def Command.isIntake : Command → Bool
  | .createPayment .. | .ingestWebhook .. | .finalizeInvoice .. => true
  | _ => false

namespace System

variable {settings : Settings} {s s' : System} {cmd : Command}

theorem exec_intake (hw : s.db.WellFormed) (h : s.exec settings cmd = some s')
    (hcmd : cmd.isIntake = false) : s'.db.intake = s.db.intake := by
  have hvpn : cmd.onVpn = true → s'.db.intake = s.db.intake := by
    intro hcmd
    have hb := (exec_refines hw h hcmd).billing
    have hintake : s'.db.billing.intake = s.db.billing.intake := by rw [hb]
    exact hintake
  cases cmd with
  | createPayment | ingestWebhook | finalizeInvoice => cases hcmd
  | failInvoice claim now =>
    obtain ⟨w, hrow, h⟩ := Option.bind_eq_some_iff.1 h
    split_ifs at h
    obtain ⟨db, hr, h⟩ := Option.bind_eq_some_iff.1 h
    cases h
    exact CreatePayment.failOwnedClaim_intake (toOption_eq_some hr)
  | processPayment now eventId =>
    obtain ⟨r, h⟩ := commit_eq_some h
    exact ProcessPayment.execute_intake h
  | markPaymentOrderPaid orderId now =>
    obtain ⟨r, h⟩ := commit_eq_some h
    exact AdminOperations.markPaymentOrderPaid_intake h
  | listAnomalies now afterKindOrder afterEntityId limit =>
    cases h
    rfl
  | processAnomaly batch index =>
    obtain ⟨b, -, h⟩ := Option.bind_eq_some_iff.1 h
    obtain ⟨a, -, h⟩ := Option.bind_eq_some_iff.1 h
    cases h
    exact ReconcileSubscriptions.processAnomaly_intake a
  | administer nodes tariffs endpoints =>
    cases h
    rfl
  | _ => exact hvpn rfl

theorem exec_finalizeInvoice_cases {claim : ℕ} {intent : PaymentIntent} {now : DateTime}
    (h : s.exec settings (.finalizeInvoice claim intent now) = some s') :
    ∃ (w : InvoiceClaim) (a : PaymentAttempt), CreatePayment.finalizeOwnedClaim s.db
      w.prepared.orderId w.prepared.order w.prepared.attemptId w.token intent now =
        .ok (a, s'.db) := by
  obtain ⟨w, hrow, h⟩ := Option.bind_eq_some_iff.1 h
  split_ifs at h
  obtain ⟨db, hr, h⟩ := Option.bind_eq_some_iff.1 h
  cases h
  obtain ⟨⟨a, db₁⟩, hf, hr⟩ := bind_eq_ok.1 (toOption_eq_some hr)
  cases hr
  exact ⟨w, a, hf⟩

theorem exec_createPayment_cases {request : PaymentRequest} {now : DateTime} {leaseSeconds : ℤ}
    {token : Uuid} (h : s.exec settings (.createPayment request now leaseSeconds token) = some s') :
    ∃ p, CreatePayment.prepareOrder s.db request now leaseSeconds token = .ok (p, s'.db) := by
  obtain ⟨⟨p, db⟩, hr, h⟩ := Option.bind_eq_some_iff.1 h
  dsimp only at h
  split_ifs at h <;> cases h <;> exact ⟨p, toOption_eq_some hr⟩

/-- A command that prepares no order changes neither the users nor any purchase. -/
theorem exec_sales (hw : s.db.WellFormed) (h : s.exec settings cmd = some s')
    (hcmd : cmd.isOrder = false) : s'.db.sales = s.db.sales := by
  by_cases hintake : cmd.isIntake = false
  · have hkeeps := (exec_evolves hw h).billing.orders
    have hsame := exec_intake hw h hintake
    simp only [Database.intake, Prod.mk.injEq] at hsame
    rw [Database.sales, Database.sales, Prod.mk.injEq]
    exact ⟨hsame.1, hkeeps.map_eq hsame.2.1⟩
  · cases cmd with
    | createPayment => cases hcmd
    | ingestWebhook provider webhook headers rawPayload now =>
      obtain ⟨r, h⟩ := commit_eq_some h
      obtain ⟨husers, horders, -⟩ := IngestWebhook.execute_orders h
      rw [Database.sales, Database.sales, husers, horders]
    | finalizeInvoice claim intent now =>
      obtain ⟨w, a, hf⟩ := exec_finalizeInvoice_cases h
      obtain ⟨husers, horders, -⟩ := CreatePayment.finalizeOwnedClaim_cases hf
      rw [Database.sales, Database.sales, husers, horders]
    | _ => exact absurd rfl hintake

/-- A command that ingests no webhook leaves what is reported as it is. -/
theorem exec_reports (hw : s.db.WellFormed) (h : s.exec settings cmd = some s')
    (hcmd : cmd.isWebhook = false) :
    s'.db.paymentEvents.map PaymentEvent.report = s.db.paymentEvents.map PaymentEvent.report := by
  by_cases hintake : cmd.isIntake = false
  · have hkeeps := (exec_evolves hw h).billing.events
    have hsame := exec_intake hw h hintake
    simp only [Database.intake, Prod.mk.injEq] at hsame
    exact hkeeps.map_eq hsame.2.2.1
  · cases cmd with
    | ingestWebhook => cases hcmd
    | createPayment request now leaseSeconds token =>
      obtain ⟨p, hp⟩ := exec_createPayment_cases h
      rw [(CreatePayment.prepareOrder_ok hp).1]
    | finalizeInvoice claim intent now =>
      obtain ⟨w, a, hf⟩ := exec_finalizeInvoice_cases h
      rw [(CreatePayment.finalizeOwnedClaim_cases hf).2.2.1]
    | _ => exact absurd rfl hintake

end System

end ShopBot
