import ShopBot.Lifecycle.RefundLedger
import ShopBot.Refinement.Payments

/-! # What refunds an order

A refund is recorded for an event about the invoice of its order, in the currency of the order.
-/

namespace ShopBot

open Billing Database

/-- An event about an attempt names the invoice of the attempt. -/
def Database.NamesInvoices (db : Database) : Prop :=
  ∀ e ∈ db.paymentEvents, ∀ j, e.paymentAttemptId = some j →
    ∃ (k : ℕ) (id : String), e.providerPaymentId = some id ∧
      db.invoiceColumn[j]? = some (e.provider, k, some id)

/-- The event reports the refund that the transaction records. -/
structure Database.RefundedBy (db : Database) (t : ProviderTransaction) (e : PaymentEvent) :
    Prop where
  type : e.eventType = "refund.succeeded"
  key : e.eventKey = t.providerTransactionKey
  provider : e.provider = t.provider
  amount : e.amountMinor = some t.amountMinor
  positive : 0 < t.amountMinor
  currency : e.currency = some t.currency
  order : ∃ o, db.paymentOrders[t.paymentOrderId]? = some o ∧ o.amount.currency = t.currency
  invoice : ∃ (j : ℕ) (id : String), e.providerPaymentId = some id ∧
    db.invoiceColumn[j]? = some (t.provider, t.paymentOrderId, some id)

theorem Database.RefundedBy.keep {db db' : Database} {t : ProviderTransaction}
    {e e' : PaymentEvent} (h : db.RefundedBy t e) (hr : e'.report = e.report)
    (horders : Table.Keeps PaymentOrder.purchase db.paymentOrders db'.paymentOrders)
    (hinvoices : InvoiceColumn.Change db.invoiceColumn db'.invoiceColumn) :
    db'.RefundedBy t e' := by
  have htype : e'.eventType = e.eventType := congrArg (·.eventType) hr
  have hkey : e'.eventKey = e.eventKey := congrArg (·.eventKey) hr
  have hprovider : e'.provider = e.provider := congrArg (·.provider) hr
  have hamount : e'.amountMinor = e.amountMinor := congrArg (·.amountMinor) hr
  have hcurrency : e'.currency = e.currency := congrArg (·.currency) hr
  have hid : e'.providerPaymentId = e.providerPaymentId := congrArg (·.providerPaymentId) hr
  obtain ⟨o, ho, hcurrency'⟩ := h.order
  obtain ⟨o', ho', hp⟩ := horders _ o ho
  simp only [PaymentOrder.purchase, Prod.mk.injEq] at hp
  obtain ⟨j, id, hpayment, hrow⟩ := h.invoice
  exact ⟨htype.trans h.type, hkey.trans h.key, hprovider.trans h.provider, hamount.trans h.amount,
    h.positive, hcurrency.trans h.currency, ⟨o', ho', by rw [hp.2.2.2.1, hcurrency']⟩,
    j, id, hid.trans hpayment, hinvoices.keeps hrow⟩

namespace ProcessPayment

variable {db db' : Database} {now : DateTime} {e : PaymentEvent} {eventId : ℕ}
  {r : PaymentResult} {t : ProviderTransaction}

theorem settleRefund_transactions {orderId attemptId : ℕ} {o : PaymentOrder} {amount : ℤ}
    {currency : Currency}
    (ht : t ∈ (settleRefund now db e eventId orderId attemptId o amount
      currency).2.providerTransactions) :
    t ∈ db.providerTransactions ∨ t = refundTransaction e orderId attemptId amount currency := by
  apply mem_record
  unfold settleRefund at ht
  dsimp only at ht
  split_ifs at ht
  · have hrows : ∀ db : Database, (withdrawFunding now db orderId).2.providerTransactions =
        db.providerTransactions := fun db =>
      congrArg Billing.transactions (withdrawFunding_withdrawal now db orderId).1
    rw [← createProviderTransaction_rows, ← hrows]
    exact ht
  · rw [← createProviderTransaction_rows]
    exact ht

/-- A refund that is recorded is the one that the event reports. -/
theorem processRefund_refundedBy (hnames : db.NamesInvoices) (he : e ∈ db.paymentEvents)
    (htype : e.eventType = "refund.succeeded")
    (ht : t ∈ (processRefund now db e eventId).2.providerTransactions) :
    t ∈ db.providerTransactions ∨ db.RefundedBy t e := by
  unfold processRefund at ht
  split at ht
  · exact .inl ht
  next j hj =>
    split at ht
    · exact .inl ht
    next a ha =>
      split at ht
      · exact .inl ht
      next o ho =>
        split at ht
        next amount currency hamount hcurrency =>
          split_ifs at ht with hzero hmatch
          · exact .inl ht
          · exact .inl ht
          · rcases settleRefund_transactions ht with hold | rfl
            · exact .inl hold
            · obtain ⟨k, id, hid, hrow⟩ := hnames e he j hj
              have hinvoice := hrow
              rw [invoiceColumn, List.getElem?_map] at hinvoice
              obtain ⟨a', ha', hsame⟩ := Option.map_eq_some_iff.1 hinvoice
              cases ha.symm.trans ha'
              simp only [PaymentAttempt.invoice, Prod.mk.injEq] at hsame
              obtain ⟨-, rfl, -⟩ := hsame
              simp only [Bool.or_eq_true, decide_eq_true_eq, not_or, not_not] at hmatch
              exact .inr ⟨htype, rfl, rfl, hamount, not_le.1 hzero, hcurrency,
                ⟨o, ho, hmatch.1.symm⟩, j, id, hid, hrow⟩
        · exact .inl ht

theorem execute_refundedBy (hnames : db.NamesInvoices)
    (h : execute now db eventId = .ok (r, db')) (ht : t ∈ db'.providerTransactions) :
    (∃ e, db.paymentEvents[eventId]? = some e ∧ e.eventType ≠ "refund.succeeded") ∨
      t ∈ db.providerTransactions ∨ ∃ e ∈ db.paymentEvents, db.RefundedBy t e := by
  unfold execute at h
  split at h
  · cases h
    exact .inr (.inl ht)
  next e hrow =>
    split_ifs at h with _ _ htype
    · cases h
      exact .inr (.inl ht)
    · cases h
      exact .inr (.inl ht)
    · have he := List.mem_of_getElem? hrow
      obtain rfl : (processRefund now db e eventId).2 = db' := congrArg Prod.snd (Except.ok.inj h)
      exact .inr ((processRefund_refundedBy hnames he htype ht).imp_right fun hby => ⟨e, he, hby⟩)
    · exact .inl ⟨e, hrow, htype⟩
    · exact .inl ⟨e, hrow, htype⟩

end ProcessPayment

/-! ## Runs -/

namespace System

variable {settings : Settings} {s s' : System} {cmd : Command} {t : ProviderTransaction}

/-- A refund that a command records is reported by an event about the invoice of its order. -/
theorem exec_refundedBy (hw : s.db.WellFormed) (hnames : s.db.NamesInvoices)
    (h : s.exec settings cmd = some s') (ht : t ∈ s'.db.providerTransactions)
    (htype : t.transactionType = "refund_succeeded") :
    t ∈ s.db.providerTransactions ∨ ∃ e ∈ s.db.paymentEvents, s.db.RefundedBy t e := by
  have hquiet : Unrefunding cmd.billing s.db.billingLedger → t ∈ s.db.providerTransactions :=
    fun hquiet => Run.refund_old (exec_evolves hw h).billing hquiet ht htype
  cases cmd with
  | processPayment now eventId =>
    obtain ⟨r, h⟩ := commit_eq_some h
    rcases ProcessPayment.execute_refundedBy hnames h ht with ⟨e, he, hother⟩ | hrest
    · refine .inl (hquiet fun i hi => ?_)
      obtain rfl : i = eventId := hi
      exact ⟨e, he, hother⟩
    · exact hrest
  | _ => exact .inl (hquiet fun _ hno => hno.elim)

theorem Reachable.refundLedger (h : Reachable settings s) : s.db.billingLedger.RefundLedger := by
  refine Transition.Reachable.invariant (fun s : System => s.db.billingLedger.RefundLedger) ?_ ?_ h
  · intro s hs
    rw [hs]
    refine ⟨?_, ?_, .nil, ?_⟩
    · rintro _ ⟨⟩
    · rintro _ ⟨⟩
    · rintro _ ⟨⟩
  · rintro s s' hr hledger ⟨cmd, hcmd⟩
    exact Run.refundLedger (exec_evolves (Reachable.inv hr).1 hcmd).billing hledger

end System

end ShopBot
