import Mathlib.Algebra.Order.BigOperators.Group.List
import ShopBot.Lifecycle.Refunds

/-! # What an unpaid period has been refunded

Every refund is recorded once, under a key of its own, and a period is unpaid only if the refunds
of its order cover the amount. Payments and refunds may arrive in any order.
-/

namespace ShopBot

namespace Billing

variable {admin : Actor} {b b' : Billing} {rows : List ProviderTransaction}
  {t : ProviderTransaction} {k : ℕ} {provider : String}

/-! ## Transactions -/

/-- No two transactions of a provider share a key. -/
def DistinctKeys (rows : List ProviderTransaction) : Prop :=
  rows.Pairwise fun t u => t.provider = u.provider →
    t.providerTransactionKey ≠ u.providerTransactionKey

theorem DistinctKeys.record (h : DistinctKeys rows) (t : ProviderTransaction) :
    DistinctKeys (Billing.record t rows) := by
  unfold Billing.record
  split_ifs with hany
  · exact h
  · refine List.pairwise_append.2 ⟨h, List.pairwise_singleton _ _, ?_⟩
    intro u hu v hv hprovider hkey
    obtain rfl := List.mem_singleton.1 hv
    apply hany
    exact List.any_eq_true.2 ⟨u, hu, by simp [hprovider, hkey]⟩

theorem mem_record {u : ProviderTransaction} (h : u ∈ record t rows) : u ∈ rows ∨ u = t := by
  unfold record at h
  split_ifs at h
  · exact .inl h
  · rcases List.mem_append.1 h with hold | hnew
    · exact .inl hold
    · exact .inr (List.mem_singleton.1 hnew)

/-- What is recorded takes nothing back of a refund. -/
theorem refunded_le_record (h : t.transactionType = "refund_succeeded" → 0 ≤ t.amountMinor) :
    refunded rows k provider ≤ refunded (record t rows) k provider := by
  by_cases htype : t.transactionType = "refund_succeeded"
  · unfold record refunded
    split_ifs
    · exact le_rfl
    · rw [List.filter_append, List.map_append, List.sum_append]
      apply le_add_of_nonneg_right
      apply List.sum_nonneg
      intro amount hamount
      obtain ⟨u, hu, rfl⟩ := List.mem_map.1 hamount
      obtain rfl := List.mem_singleton.1 (List.mem_filter.1 hu).1
      exact h htype
  · rw [refunded_record htype]

/-! ## Events and attempts -/

/-- An event about an attempt comes from the provider of the attempt. -/
def EventsLinked (events : List PaymentEvent) (attempts : List PaymentAttempt) : Prop :=
  ∀ e ∈ events, ∀ j, e.paymentAttemptId = some j →
    ∃ a, attempts[j]? = some a ∧ e.provider = a.provider

theorem EventsLinked.set {events : List PaymentEvent} {attempts : List PaymentAttempt}
    {i : ℕ} {e e' : PaymentEvent} (h : EventsLinked events attempts) (hrow : events[i]? = some e)
    (hr : e'.report = e.report) : EventsLinked (events.set i e') attempts := by
  intro f hf j hj
  rcases List.mem_or_eq_of_mem_set hf with hold | rfl
  · exact h f hold j hj
  · have hattempt : f.paymentAttemptId = e.paymentAttemptId := congrArg (·.paymentAttemptId) hr
    have hprovider : f.provider = e.provider := congrArg (·.provider) hr
    rw [hprovider]
    exact h e (List.mem_of_getElem? hrow) j (hattempt.symm.trans hj)

theorem Step.eventsLinked (h : Step admin b b') (hinv : EventsLinked b.events b.attempts) :
    EventsLinked b'.events b'.attempts := by
  cases h with
  | claim a =>
    intro e he j hj
    obtain ⟨a₀, ha₀, hprovider⟩ := hinv e he j hj
    exact ⟨a₀, (List.getElem?_append_left (List.getElem?_eq_some_iff.1 ha₀).1).trans ha₀,
      hprovider⟩
  | attempt j a a' row status order provider =>
    intro e he n hn
    obtain ⟨a₀, ha₀, hprovider⟩ := hinv e he n hn
    have hkeeps : Table.Keeps PaymentAttempt.provider b.attempts (b.attempts.set j a') :=
      .set row provider
    obtain ⟨a₁, ha₁, hsame⟩ := hkeeps n a₀ ha₀
    exact ⟨a₁, ha₁, hprovider.trans hsame.symm⟩
  | receive e status fresh linked =>
    intro f hf j hj
    rcases List.mem_append.1 hf with hold | hnew
    · exact hinv f hold j hj
    · obtain rfl := List.mem_singleton.1 hnew
      exact linked j hj
  | dismiss i e e' row status report => exact hinv.set row report
  | process i e e' row status report => exact hinv.set row report
  | refund now i j k e e' a o t subs periods actor row status report => exact hinv.set row report
  | _ => exact hinv

/-! ## Unpaid periods -/

/-- The refunds of the order of a period cover its amount. -/
def Covered (b : Billing) (p : SubscriptionPeriod) : Prop :=
  ∃ (k : ℕ) (o : PaymentOrder), p.paymentOrderId = some k ∧ b.orders[k]? = some o ∧
    (o.amount.minor : ℤ) ≤ refunded b.transactions k o.provider

structure RefundLedger (b : Billing) : Prop where
  attempts : Ordered b.orders b.attempts
  events : EventsLinked b.events b.attempts
  keys : DistinctKeys b.transactions
  unpaid : ∀ p ∈ b.periods, p.isPaid = false → b.Covered p

theorem Covered.keep {p : SubscriptionPeriod} (h : b.Covered p)
    (horders : Table.Keeps PaymentOrder.purchase b.orders b'.orders)
    (hrefunds : ∀ k provider,
      refunded b.transactions k provider ≤ refunded b'.transactions k provider) :
    b'.Covered p := by
  obtain ⟨k, o, hk, ho, hcovers⟩ := h
  obtain ⟨o', ho', hp⟩ := horders k o ho
  simp only [PaymentOrder.purchase, Prod.mk.injEq] at hp
  refine ⟨k, o', hk, ho', ?_⟩
  rw [hp.2.2.2.1, hp.2.2.1]
  exact hcovers.trans (hrefunds k o.provider)

theorem Step.transactions (h : Step admin b b') :
    b'.transactions = b.transactions ∨ ∃ t, b'.transactions = record t b.transactions ∧
      (t.transactionType = "refund_succeeded" → 0 ≤ t.amountMinor) := by
  cases h with
  | transact t type => exact .inr ⟨t, rfl, fun htype => absurd htype type⟩
  | refund now i j k e e' a o t subs periods actor row status report status' type attempt
      attemptRow order orderRow amount positive =>
    exact .inr ⟨t, rfl, fun _ => positive.le⟩
  | _ => exact .inl rfl

theorem Step.distinctKeys (h : Step admin b b') (hinv : DistinctKeys b.transactions) :
    DistinctKeys b'.transactions := by
  obtain hsame | ⟨t, hrecord, -⟩ := h.transactions
  · rwa [hsame]
  · rw [hrecord]
    exact hinv.record t

theorem refunded_le_step (h : Step admin b b') :
    refunded b.transactions k provider ≤ refunded b'.transactions k provider := by
  obtain hsame | ⟨t, hrecord, hamount⟩ := h.transactions
  · rw [hsame]
  · rw [hrecord]
    exact refunded_le_record hamount

/-- What a withdrawal leaves is old, or it belongs to the order that is refunded. -/
theorem withdrawal_unpaid {now : DateTime} {subs subs' : List Subscription}
    {periods periods' : List SubscriptionPeriod} {p : SubscriptionPeriod}
    (h : Withdrawal now k subs periods subs' periods') (hp : p ∈ periods') :
    p ∈ periods ∨ p.paymentOrderId = some k := by
  cases h with
  | nothing free => exact .inl hp
  | unpaid n q row order =>
    rcases List.mem_or_eq_of_mem_set hp with hold | rfl
    · exact .inl hold
    · exact .inr order
  | ended n sid q s row order =>
    rcases List.mem_or_eq_of_mem_set hp with hold | rfl
    · exact .inl hold
    · exact .inr order

theorem Step.unpaid (h : Step admin b b') (hinv : b.RefundLedger) {p : SubscriptionPeriod}
    (hp : p ∈ b'.periods) (hunpaid : p.isPaid = false) : b'.Covered p := by
  have hkeep : p ∈ b.periods → b'.Covered p := fun hold =>
    (hinv.unpaid p hold hunpaid).keep h.orders fun _ _ => refunded_le_step h
  cases h with
  | pay now k sid o o' subs periods row status status' paidAt purchase justified activation =>
    obtain ⟨q, hperiods, -, -, hpaid, -⟩ := activation.period
    change p ∈ periods at hp
    rw [hperiods, List.mem_append, List.mem_singleton] at hp
    rcases hp with hold | rfl
    · exact hkeep hold
    · rw [hunpaid] at hpaid
      cases hpaid
  | refund now i j k e e' a o t subs periods actor row status report status' type attempt
      attemptRow order orderRow amount positive covers orderId provider key refunds withdrawal =>
    split_ifs at withdrawal with hfull
    · rcases withdrawal_unpaid withdrawal hp with hold | hk
      · exact hkeep hold
      · subst order
        -- the provider of the event is that of the attempt, and of the order
        obtain ⟨a₁, ha₁, hprovider⟩ := hinv.events e (List.mem_of_getElem? row) j attempt
        cases attemptRow.symm.trans ha₁
        obtain ⟨o₁, ho₁, hsame⟩ := hinv.attempts a (List.mem_of_getElem? attemptRow)
        cases orderRow.symm.trans ho₁
        rw [hprovider, hsame] at hfull
        exact ⟨a.paymentOrderId, o, hk, orderRow, hfull⟩
    · obtain ⟨-, rfl⟩ := withdrawal
      exact hkeep hp
  | _ => exact hkeep hp

theorem Step.refundLedger (h : Step admin b b') (hinv : b.RefundLedger) : b'.RefundLedger where
  attempts := h.ordered hinv.attempts
  events := h.eventsLinked hinv.events
  keys := h.distinctKeys hinv.keys
  unpaid _ hp hunpaid := h.unpaid hinv hp hunpaid

theorem Run.refundLedger (h : Run admin b b') (hinv : b.RefundLedger) : b'.RefundLedger :=
  Transition.preserves_run RefundLedger (fun _ _ hb hs => hs.refundLedger hb) h hinv

/-! ## Runs that refund nothing -/

theorem Step.refund_old (h : Step admin b b') (hquiet : Unrefunding admin b)
    (ht : t ∈ b'.transactions) (htype : t.transactionType = "refund_succeeded") :
    t ∈ b.transactions := by
  cases h with
  | transact u type =>
    rcases mem_record ht with hold | rfl
    · exact hold
    · exact absurd htype type
  | refund now i j k e e' a o t subs periods actor row status report status' type =>
    exact absurd type (hquiet.type actor row)
  | _ => exact ht

/-- A run that processes no refund records none. -/
theorem Run.refund_old (h : Run admin b b') (hquiet : Unrefunding admin b)
    (ht : t ∈ b'.transactions) (htype : t.transactionType = "refund_succeeded") :
    t ∈ b.transactions := by
  induction h with
  | refl => exact ht
  | tail hr hstep ih =>
    exact ih (hstep.refund_old (hquiet.step (Run.events hr)) ht htype)

end Billing

end ShopBot
