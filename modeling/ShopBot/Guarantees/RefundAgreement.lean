import ShopBot.Guarantees.Entitlement
import ShopBot.Lifecycle.Refunds

/-! # Entitlement and refunds

The period of an order is paid exactly while its processed refunds sum up to less than the
order, as long as no order is paid that its refunds cover already. The processing of a paid
event does not look at the refunds that were processed before.
-/

namespace ShopBot

open Billing Relation

/-- An event that is processed is none, or no refund, or it is one step of the ledger. -/
theorem ProcessPayment.execute_refunds {db db' : Database} {now : DateTime} {eventId : ℕ}
    {r : PaymentResult} {admin : Actor} (hactor : admin.refunds eventId)
    (h : execute now db eventId = .ok (r, db')) :
    db' = db ∨ (∃ e, db.paymentEvents[eventId]? = some e ∧ e.eventType ≠ "refund.succeeded") ∨
      Billing.Step admin db.billingLedger db'.billingLedger := by
  unfold execute at h
  split at h
  · cases h
    exact .inl rfl
  next e hrow =>
    split_ifs at h with hprocessed hignored htype
    · cases h
      exact .inl rfl
    · cases h
      exact .inl rfl
    · have hopen : e.isClosed = false := by simp [PaymentEvent.isClosed, hprocessed, hignored]
      have hr : (processRefund now db e eventId).2 = db' := congrArg Prod.snd (Except.ok.inj h)
      rw [← hr]
      exact .inr (.inr (processRefund_step hactor hrow hopen htype))
    · exact .inr (.inl ⟨e, hrow, htype⟩)
    · exact .inr (.inl ⟨e, hrow, htype⟩)

namespace System

variable {settings : Settings} {s s' : System} {cmd : Command}

/-- Orders are paid before their refunds cover them, and refunds have keys of their own. -/
def Orderly (s s' : System) : Prop :=
  FundsUnrefunded s.db.billingLedger s'.db.billingLedger ∧
    NewRefundKeys s.db.billingLedger s'.db.billingLedger

theorem exec_refundInv (hw : s.db.WellFormed) (h : s.exec settings cmd = some s')
    (horderly : Orderly s s') (hinv : s.db.billingLedger.RefundInv) :
    s'.db.billingLedger.RefundInv := by
  have hrun := (exec_evolves hw h).billing
  have hquiet : Unrefunding cmd.billing s.db.billingLedger → s'.db.billingLedger.RefundInv :=
    fun hquiet => (Run.refundInv hrun hquiet hinv horderly.1).1
  cases cmd with
  | processPayment now eventId =>
    obtain ⟨r, h⟩ := commit_eq_some h
    have hcases : s'.db = s.db ∨ _ ∨ Billing.Step (Command.processPayment now eventId).billing
        s.db.billingLedger s'.db.billingLedger := ProcessPayment.execute_refunds rfl h
    rcases hcases with hsame | ⟨e, he, htype⟩ | hstep
    · rwa [hsame]
    · refine hquiet fun i hi => ?_
      obtain rfl : i = eventId := hi
      exact ⟨e, he, htype⟩
    · exact hstep.refundInv hinv horderly.1 (.inr horderly.2)
  | _ => exact hquiet fun _ hno => hno.elim

theorem initial_refundInv (h : Initial s) : s.db.billingLedger.RefundInv := by
  rw [h]
  refine ⟨?_, ?_, ⟨fun k o ho => (nomatch ho), fun f hf => (nomatch hf)⟩, fun k p _ => rfl, ?_⟩
  · rintro _ ⟨⟩
  · rintro _ ⟨⟩
  · rintro _ ⟨⟩

/-- In a run in which orders are paid before their refunds cover them, the period of an order is
paid exactly while its processed refunds sum up to less than the order. -/
theorem entitlement_agrees_with_refunds
    (h : Transition.Reachable Initial (Transition.Guarded (Step settings) Orderly) s)
    {p : SubscriptionPeriod} (hp : p ∈ s.db.subscriptionPeriods) {k : ℕ} {o : PaymentOrder}
    (hk : p.paymentOrderId = some k) (ho : s.db.paymentOrders[k]? = some o) :
    p.isPaid = true ↔ s.db.billingLedger.refundedAmount k < o.amount.minor := by
  have hinv : s.db.billingLedger.RefundInv := by
    refine Transition.Reachable.invariant (fun s : System => s.db.billingLedger.RefundInv)
      (fun s hs => initial_refundInv hs) ?_ h
    rintro s s' hr hinv ⟨⟨cmd, hcmd⟩, horderly⟩
    have hreach : Reachable settings s := hr.of_guarded
    exact exec_refundInv hreach.inv.1 hcmd horderly hinv
  exact hinv.periods p hp k o hk ho

/-- A step is checked by looking at every order and every event. -/
def isOrderly (s s' : System) : Bool :=
  (s'.db.paymentOrders.zipIdx.all fun (o', k) => o'.status ≠ .paid ||
    (s.db.paymentOrders[k]?).any (·.status = .paid) ||
      s.db.billingLedger.refundedAmount k < o'.amount.minor) &&
  s.db.paymentEvents.all fun e => e.eventType ≠ "refund.succeeded" || e.isClosed ||
    s.db.providerTransactions.all fun t =>
      t.provider ≠ e.provider || t.providerTransactionKey ≠ e.eventKey

theorem orderly_of_check (h : isOrderly s s' = true) : Orderly s s' := by
  obtain ⟨horders, hevents⟩ := Bool.and_eq_true_iff.1 h
  constructor
  · intro k o' hunpaid ho' hpaid
    have hcheck := List.all_eq_true.1 horders (o', k) (List.mk_mem_zipIdx_iff_getElem?.2 ho')
    simp only [hpaid, ne_eq, not_true_eq_false, decide_false, Bool.false_or, Bool.or_eq_true,
      decide_eq_true_eq] at hcheck
    refine hcheck.resolve_left fun hany => ?_
    obtain ⟨o, ho, hs⟩ := (Option.any_eq_true _ _).1 hany
    exact hunpaid o ho (of_decide_eq_true hs)
  · intro i e e' he htype hopen _ _ t ht hprovider hkey
    have hcheck := List.all_eq_true.1 hevents e (List.mem_of_getElem? he)
    simp only [htype, ne_eq, not_true_eq_false, decide_false, hopen, Bool.false_or] at hcheck
    have hkeys := List.all_eq_true.1 hcheck t ht
    simp [hprovider, hkey] at hkeys

theorem entitlement_agrees_with_refunds_shop : ∃ (s : System) (p : SubscriptionPeriod),
    p ∈ s.db.subscriptionPeriods ∧ s.db.billingLedger.refundedAmount 0 = 500 ∧
      p.isPaid = false := by
  obtain ⟨s, hs, hcond⟩ := (Option.any_eq_true _ _).1
    (show (Transition.execAll (Transition.restrict (exec shopSettings) isOrderly)
      (shop nodeEndpoint) (refunded ++ [.processPayment 2 1])).any (fun s =>
        s.db.billingLedger.refundedAmount 0 = 500 &&
          (s.db.paymentOrders[0]?).any (·.amount.minor = 500) &&
            s.db.subscriptionPeriods[0]?.any (·.paymentOrderId = some 0)) = true
      by decide +kernel)
  have hr : Transition.Reachable Initial (Transition.Guarded (Step shopSettings) Orderly) s :=
    .of_restrict (fun _ _ => orderly_of_check) (shop_initial _) hs
  simp only [Bool.and_eq_true, decide_eq_true_eq] at hcond
  obtain ⟨⟨hamount, horder⟩, hperiod⟩ := hcond
  obtain ⟨o, ho, hminor⟩ := (Option.any_eq_true _ _).1 horder
  obtain ⟨p, hp, hk⟩ := (Option.any_eq_true _ _).1 hperiod
  have hiff := entitlement_agrees_with_refunds hr (List.mem_of_getElem? hp)
    (of_decide_eq_true hk) ho
  rw [hamount, of_decide_eq_true hminor] at hiff
  refine ⟨s, p, List.mem_of_getElem? hp, hamount, ?_⟩
  simpa using hiff

/-- The whole order is refunded before its paid event is processed: its period is paid. -/
def refundedFirst : List Command :=
  (buy 0 month 0 "month" 0).take 2 ++ [refundReported "month" 500 1, .processPayment 2 0] ++
    ((buy 0 month 0 "month" 0).drop 2).take 1 ++ [.processPayment 3 1]

theorem entitlement_outlives_refunds :
    ¬ ∀ (settings : Settings) (s : System) (p : SubscriptionPeriod) (k : ℕ) (o : PaymentOrder),
      Reachable settings s → p ∈ s.db.subscriptionPeriods → p.paymentOrderId = some k →
      s.db.paymentOrders[k]? = some o →
      (p.isPaid = true ↔ s.db.billingLedger.refundedAmount k < o.amount.minor) := by
  intro hall
  let s := (shop nodeEndpoint).after shopSettings refundedFirst
  have hr : Reachable shopSettings s := .after (shop_initial _) (by decide +kernel)
  obtain ⟨p, hp, hcond⟩ := (Option.any_eq_true _ _).1
    (show s.db.subscriptionPeriods[0]?.any (fun p => p.isPaid && p.paymentOrderId = some 0) = true
      by decide +kernel)
  obtain ⟨o, ho, hcovered⟩ := (Option.any_eq_true _ _).1
    (show (s.db.paymentOrders[0]?).any
      (fun o => (o.amount.minor : ℤ) ≤ s.db.billingLedger.refundedAmount 0) = true
      by decide +kernel)
  simp only [Bool.and_eq_true, decide_eq_true_eq] at hcond hcovered
  have hiff := hall shopSettings s p 0 o hr (List.mem_of_getElem? hp) hcond.2 ho
  exact absurd (hiff.1 hcond.1) (not_lt.2 hcovered)

end System

end ShopBot
