import ShopBot.Lifecycle.BillingHistory

/-! # Refunds of an order

What the processed refunds of an order sum up to, and how the period of the order follows the
sum: it is paid while the sum is less than the amount of the order. This rests on orders that
are paid before they are refunded, and on refunds whose keys are new.
-/

namespace ShopBot

open Relation

namespace Billing

variable {admin : Actor} {b b' : Billing} {attempts : List PaymentAttempt} {a a' : PaymentAttempt}
  {e e' : PaymentEvent} {i j k : ℕ}

/-- What an event has refunded of an order. -/
def refundOf (attempts : List PaymentAttempt) (k : ℕ) (e : PaymentEvent) : ℤ :=
  if e.eventType = "refund.succeeded" ∧ e.status = .processed ∧
    (e.paymentAttemptId.bind fun j => attempts[j]?).any (·.paymentOrderId = k) = true
  then e.amountMinor.getD 0 else 0

/-- What the processed refunds of an order sum up to. -/
def refundedAmount (b : Billing) (k : ℕ) : ℤ := (b.events.map (refundOf b.attempts k)).sum

/-- An order is paid while its refunds do not cover it. -/
def FundsUnrefunded (b b' : Billing) : Prop :=
  ∀ (k : ℕ) (o' : PaymentOrder), (∀ o, b.orders[k]? = some o → o.status ≠ .paid) →
    b'.orders[k]? = some o' → o'.status = .paid → b.refundedAmount k < o'.amount.minor

/-- A refund is processed under a key that no transaction of its provider has. -/
def NewRefundKeys (b b' : Billing) : Prop :=
  ∀ (i : ℕ) (e e' : PaymentEvent), b.events[i]? = some e → e.eventType = "refund.succeeded" →
    e.isClosed = false → b'.events[i]? = some e' → e'.status = .processed →
    ∀ t ∈ b.transactions, t.provider = e.provider → t.providerTransactionKey ≠ e.eventKey

/-- The events that may be processed are no refunds. -/
def Unrefunding (admin : Actor) (b : Billing) : Prop :=
  ∀ i, admin.refunds i → ∃ e, b.events[i]? = some e ∧ e.eventType ≠ "refund.succeeded"

structure RefundInv (b : Billing) : Prop where
  attempts : ∀ a ∈ b.attempts, ∃ o, b.orders[a.paymentOrderId]? = some o ∧ a.provider = o.provider
  events : ∀ e ∈ b.events, ∀ j, e.paymentAttemptId = some j →
    ∃ a, b.attempts[j]? = some a ∧ e.provider = a.provider
  entitled : Entitled b.orders b.fundings
  transactions : ∀ (k : ℕ) (provider : String),
    (∀ o, b.orders[k]? = some o → o.provider = provider) →
    refunded b.transactions k provider = b.refundedAmount k
  periods : ∀ p ∈ b.periods, ∀ (k : ℕ) (o : PaymentOrder), p.paymentOrderId = some k →
    b.orders[k]? = some o → (p.isPaid = true ↔ b.refundedAmount k < o.amount.minor)

/-! ## The sum of the refunds -/

theorem refundOf_open (h : e.status ≠ .processed) : refundOf attempts k e = 0 :=
  if_neg fun hand => h hand.2.1

theorem refundOf_other (h : e.eventType ≠ "refund.succeeded") : refundOf attempts k e = 0 :=
  if_neg fun hand => h hand.1

theorem refundOf_processed (htype : e.eventType = "refund.succeeded") (hs : e.status = .processed)
    (hj : e.paymentAttemptId = some j) (ha : attempts[j]? = some a) :
    refundOf attempts k e = if a.paymentOrderId = k then e.amountMinor.getD 0 else 0 := by
  unfold refundOf
  rw [hj, Option.bind_some, ha]
  simp [htype, hs]

/-- The sum does not change with attempts that keep their orders. -/
theorem refundOf_keeps {attempts' : List PaymentAttempt}
    (h : ∀ j, e.paymentAttemptId = some j → (attempts'[j]?).map (·.paymentOrderId) =
      (attempts[j]?).map (·.paymentOrderId)) : refundOf attempts' k e = refundOf attempts k e := by
  have hany : (e.paymentAttemptId.bind fun j => attempts'[j]?).any (·.paymentOrderId = k) =
      (e.paymentAttemptId.bind fun j => attempts[j]?).any (·.paymentOrderId = k) := by
    cases hj : e.paymentAttemptId with
    | none => rfl
    | some j =>
      have hmap := h j hj
      rw [Option.bind_some, Option.bind_some]
      cases h' : attempts'[j]? <;> cases h₀ : attempts[j]? <;> rw [h', h₀] at hmap
      · cases hmap
      · cases hmap
      · simp only [Option.map_some, Option.some.injEq] at hmap
        rw [Option.any_some, Option.any_some, hmap]
  unfold refundOf
  rw [hany]

theorem refundedAmount_congr (hevents : b'.events = b.events)
    (h : ∀ e ∈ b.events, refundOf b'.attempts k e = refundOf b.attempts k e) :
    b'.refundedAmount k = b.refundedAmount k := by
  unfold refundedAmount
  rw [hevents, List.map_congr_left h]

theorem refundedAmount_set (hrow : b.events[i]? = some e) :
    refundedAmount { b with events := b.events.set i e' } k =
      b.refundedAmount k + (refundOf b.attempts k e' - refundOf b.attempts k e) :=
  Table.sum_map_set hrow

theorem refunded_record {t : ProviderTransaction} {rows : List ProviderTransaction}
    {provider : String} (ht : t.transactionType ≠ "refund_succeeded") :
    refunded (record t rows) k provider = refunded rows k provider := by
  unfold record refunded
  split_ifs
  · rfl
  · rw [List.filter_append, List.filter_singleton]
    simp [ht]

/-- A refund with a new key adds its amount to that of its order. -/
theorem refunded_new {t : ProviderTransaction} {rows : List ProviderTransaction} {provider : String}
    (ht : t.transactionType = "refund_succeeded" ∧ t.transactionStatus = "succeeded")
    (hnew : ∀ u ∈ rows, u.provider = t.provider →
      u.providerTransactionKey ≠ t.providerTransactionKey) (hp : t.provider = provider) :
    refunded (record t rows) k provider =
      refunded rows k provider + if t.paymentOrderId = k then t.amountMinor else 0 := by
  have hrecord : record t rows = rows ++ [t] := by
    unfold record
    rw [if_neg]
    intro hany
    obtain ⟨u, hu, hsame⟩ := List.any_eq_true.1 hany
    simp only [Bool.and_eq_true, decide_eq_true_eq] at hsame
    exact hnew u hu hsame.1 hsame.2
  rw [hrecord]
  unfold refunded
  rw [List.filter_append, List.filter_singleton, List.map_append, List.sum_append]
  by_cases hk : t.paymentOrderId = k
  · simp [hk, hp, ht.1, ht.2]
  · simp [hk]

/-! ## Writes that refund nothing -/

/-- The orders keep their purchases, and the sums of their refunds stay. -/
theorem RefundInv.keep (h : b.RefundInv) (hsum : ∀ k, b'.refundedAmount k = b.refundedAmount k)
    (htransactions : ∀ k provider,
      refunded b'.transactions k provider = refunded b.transactions k provider)
    (hattempts : ∀ a ∈ b'.attempts,
      ∃ o, b'.orders[a.paymentOrderId]? = some o ∧ a.provider = o.provider)
    (hevents : ∀ e ∈ b'.events, ∀ j, e.paymentAttemptId = some j →
      ∃ a, b'.attempts[j]? = some a ∧ e.provider = a.provider)
    (hentitled : Entitled b'.orders b'.fundings)
    (horders : Table.Keeps PaymentOrder.purchase b.orders b'.orders)
    (hperiods : ∀ p ∈ b'.periods, p ∈ b.periods ∨ ∀ (k : ℕ) (o' : PaymentOrder),
      p.paymentOrderId = some k → b'.orders[k]? = some o' →
      (p.isPaid = true ↔ b.refundedAmount k < o'.amount.minor)) : b'.RefundInv where
  attempts := hattempts
  events := hevents
  entitled := hentitled
  transactions k provider hprovider := by
    rw [htransactions, hsum]
    refine h.transactions k provider fun o ho => ?_
    obtain ⟨o', ho', hp⟩ := horders k o ho
    simp only [PaymentOrder.purchase, Prod.mk.injEq] at hp
    rw [← hp.2.2.1]
    exact hprovider o' ho'
  periods p hp k o' hk ho' := by
    rw [hsum]
    rcases hperiods p hp with hold | hnew
    · obtain ⟨o, ho, -⟩ := h.entitled.length p.funding (List.mem_map_of_mem hold) k hk
      obtain ⟨o₁, ho₁, hpurchase⟩ := horders k o ho
      cases ho'.symm.trans ho₁
      simp only [PaymentOrder.purchase, Prod.mk.injEq] at hpurchase
      rw [hpurchase.2.2.2.1]
      exact h.periods p hold k o hk ho
    · exact hnew k o' hk ho'

/-- Orders are opened or closed. -/
theorem RefundInv.orders (h : b.RefundInv) {orders : List PaymentOrder}
    (horders : Table.Keeps PaymentOrder.purchase b.orders orders)
    (hentitled : Entitled orders b.fundings) : RefundInv { b with orders := orders } :=
  h.keep (fun _ => rfl) (fun _ _ => rfl) (Ordered.orders h.attempts horders) h.events hentitled
    horders fun _ hp => .inl hp

/-- An event that is no processed refund is replaced by another one. -/
theorem RefundInv.event (h : b.RefundInv) (hrow : b.events[i]? = some e)
    (hr : e'.report = e.report)
    (hno : ∀ k, refundOf b.attempts k e = 0 ∧ refundOf b.attempts k e' = 0) :
    RefundInv { b with events := b.events.set i e' } := by
  refine h.keep (fun k => ?_) (fun _ _ => rfl) h.attempts ?_ h.entitled .refl fun _ hp => .inl hp
  · rw [refundedAmount_set hrow, (hno k).1, (hno k).2, sub_zero, add_zero]
  · intro f hf j hj
    rcases List.mem_or_eq_of_mem_set hf with hold | rfl
    · exact h.events f hold j hj
    · have hattempt : f.paymentAttemptId = e.paymentAttemptId := congrArg (·.paymentAttemptId) hr
      have hprovider : f.provider = e.provider := congrArg (·.provider) hr
      rw [hprovider]
      exact h.events e (List.mem_of_getElem? hrow) j (hattempt.symm.trans hj)

theorem status_of_open (h : e.isClosed = false) : e.status ≠ .processed := by
  intro hs
  unfold PaymentEvent.isClosed at h
  rw [hs] at h
  cases h

/-- The attempts keep their orders and their providers. -/
theorem RefundInv.ledger (h : b.RefundInv) {attempts : List PaymentAttempt}
    (hkeep : Table.Keeps (fun a : PaymentAttempt => (a.paymentOrderId, a.provider))
      b.attempts attempts)
    (hattempts : ∀ a ∈ attempts,
      ∃ o, b.orders[a.paymentOrderId]? = some o ∧ a.provider = o.provider) :
    RefundInv { b with attempts := attempts } := by
  have hlinked : ∀ e ∈ b.events, ∀ j, e.paymentAttemptId = some j → ∃ a a',
      b.attempts[j]? = some a ∧ attempts[j]? = some a' ∧
      a'.paymentOrderId = a.paymentOrderId ∧ e.provider = a'.provider := by
    intro e he j hj
    obtain ⟨a, ha, hprovider⟩ := h.events e he j hj
    obtain ⟨a', ha', hsame⟩ := hkeep j a ha
    obtain ⟨horder, hsame⟩ := Prod.mk.inj hsame
    exact ⟨a, a', ha, ha', horder, hprovider.trans hsame.symm⟩
  refine h.keep (fun k => refundedAmount_congr rfl fun e he => refundOf_keeps fun j hj => ?_)
    (fun _ _ => rfl) hattempts (fun e he j hj => ?_) h.entitled .refl fun _ hp => .inl hp
  · obtain ⟨a, a', ha, ha', horder, -⟩ := hlinked e he j hj
    dsimp only
    rw [ha, ha', Option.map_some, Option.map_some, horder]
  · obtain ⟨-, a', -, ha', -, hprovider⟩ := hlinked e he j hj
    exact ⟨a', ha', hprovider⟩

/-! ## Refunds -/

theorem Unrefunding.type (h : Unrefunding admin b) (hi : admin.refunds i)
    (he : b.events[i]? = some e) : e.eventType ≠ "refund.succeeded" := by
  obtain ⟨e', he', htype⟩ := h i hi
  cases he.symm.trans he'
  exact htype

theorem refunded_other {t : ProviderTransaction} {rows : List ProviderTransaction}
    {provider : String} (hk : t.paymentOrderId ≠ k) :
    refunded (record t rows) k provider = refunded rows k provider := by
  unfold record refunded
  split_ifs
  · rfl
  · rw [List.filter_append, List.filter_singleton]
    simp [hk]

/-- An order has one period. -/
theorem Entitled.unique {orders : List PaymentOrder} {periods : List SubscriptionPeriod}
    {o : PaymentOrder} {p q : SubscriptionPeriod}
    (h : Entitled orders (periods.map (·.funding))) (ho : orders[k]? = some o) (hp : p ∈ periods)
    (hq : q ∈ periods) (hpk : p.paymentOrderId = some k) (hqk : q.paymentOrderId = some k) :
    p = q := by
  have hcount : periods.countP (·.paymentOrderId = some k) ≤ 1 := by
    have heq := h.count k o ho
    rw [List.countP_map] at heq
    refine le_of_eq_of_le heq ?_
    split_ifs <;> omega
  rw [List.countP_eq_length_filter] at hcount
  have hpf : p ∈ periods.filter (·.paymentOrderId = some k) :=
    List.mem_filter.2 ⟨hp, decide_eq_true hpk⟩
  have hqf : q ∈ periods.filter (·.paymentOrderId = some k) :=
    List.mem_filter.2 ⟨hq, decide_eq_true hqk⟩
  obtain ⟨x, hx⟩ := List.length_eq_one_iff.1
    (le_antisymm hcount (List.length_pos_iff.2 (List.ne_nil_of_mem hpf)))
  rw [hx, List.mem_singleton] at hpf hqf
  rw [hpf, hqf]

/-- What a withdrawal leaves of the periods of its order is unpaid, and it leaves the periods of
the other orders. -/
theorem withdrawal_periods {now : DateTime} {subs subs' : List Subscription}
    {orders : List PaymentOrder} {o : PaymentOrder} {periods periods' : List SubscriptionPeriod}
    (h : Withdrawal now k subs periods subs' periods')
    (hentitled : Entitled orders (periods'.map (·.funding))) (ho : orders[k]? = some o)
    {p : SubscriptionPeriod} (hp : p ∈ periods') :
    (p.paymentOrderId = some k → p.isPaid = false) ∧
      (p.paymentOrderId ≠ some k → p ∈ periods) := by
  have hset : ∀ {n : ℕ} {q : SubscriptionPeriod}, periods[n]? = some q →
      q.paymentOrderId = some k → periods' = periods.set n { q with isPaid := false } →
      (p.paymentOrderId = some k → p.isPaid = false) ∧
        (p.paymentOrderId ≠ some k → p ∈ periods) := by
    rintro n q hrow hqk rfl
    refine ⟨fun hpk => ?_, fun hpk => ?_⟩
    · have hmem : { q with isPaid := false } ∈ periods.set n { q with isPaid := false } :=
        List.mem_of_getElem? (List.getElem?_set_self (List.getElem?_eq_some_iff.1 hrow).1)
      rw [hentitled.unique ho hp hmem hpk hqk]
    · rcases List.mem_or_eq_of_mem_set hp with hold | rfl
      · exact hold
      · exact absurd hqk hpk
  cases h with
  | nothing free => exact ⟨fun hpk => absurd hpk (free p hp), fun _ => hp⟩
  | unpaid n q row order => exact hset row order rfl
  | ended n sid q s row order => exact hset row order rfl

theorem Step.refundInv (h : Step admin b b') (hinv : b.RefundInv) (hfunds : FundsUnrefunded b b')
    (hkeys : Unrefunding admin b ∨ NewRefundKeys b b') : b'.RefundInv := by
  have hentitled := h.entitled hinv.entitled
  have hordered := h.ordered hinv.attempts
  cases h with
  | openOrder o => exact hinv.orders (.append _) hentitled
  | claim a status order => exact hinv.ledger (.append _) hordered
  | attempt j a a' row status order provider =>
    exact hinv.ledger (.set row (by rw [order, provider])) hordered
  | transact t type =>
    exact hinv.keep (fun _ => rfl) (fun _ _ => refunded_record type) hinv.attempts hinv.events
      hentitled .refl fun _ hp => .inl hp
  | receive e status fresh linked =>
    refine hinv.keep (fun k => ?_) (fun _ _ => rfl) hinv.attempts ?_ hentitled .refl
      fun _ hp => .inl hp
    · unfold refundedAmount
      rw [List.map_append, List.sum_append, List.map_singleton, List.sum_singleton,
        refundOf_open (by rw [status]; decide), add_zero]
    · intro f hf j hj
      rcases List.mem_append.1 hf with hold | hnew
      · exact hinv.events f hold j hj
      · obtain rfl := List.mem_singleton.1 hnew
        exact linked j hj
  | dismiss i e e' row status report status' =>
    refine hinv.event row report fun k => ⟨refundOf_open (status_of_open status), refundOf_open ?_⟩
    rcases status' with hs | hs <;> rw [hs] <;> decide
  | process i e e' row status report status' type =>
    have htype : e'.eventType = e.eventType := congrArg (·.eventType) report
    exact hinv.event row report fun k => ⟨refundOf_other type, refundOf_other (by rwa [htype])⟩
  | close k o o' row status status' opened purchase =>
    exact hinv.orders (.set row purchase) hentitled
  | pay now k sid o o' subs periods row status status' paidAt purchase justified activation =>
    obtain ⟨p, hperiods, -, hpk, hpaid, -⟩ := activation.period
    have horders : Table.Keeps PaymentOrder.purchase b.orders (b.orders.set k o') :=
      .set row purchase
    refine hinv.keep (fun _ => rfl) (fun _ _ => rfl) hordered
      hinv.events hentitled horders fun q hq => ?_
    change q ∈ periods at hq
    rw [hperiods, List.mem_append, List.mem_singleton] at hq
    refine hq.imp_right ?_
    rintro rfl n o₁ hqk ho₁
    obtain rfl : k = n := Option.some.inj (hpk.symm.trans hqk)
    change (b.orders.set k o')[k]? = some o₁ at ho₁
    rw [List.getElem?_set_self (List.getElem?_eq_some_iff.1 row).1] at ho₁
    obtain rfl := Option.some.inj ho₁
    refine iff_of_true hpaid (hfunds k o' (fun o₂ ho₂ => ?_) ?_ status')
    · cases row.symm.trans ho₂
      exact status
    · exact List.getElem?_set_self (List.getElem?_eq_some_iff.1 row).1
  | expire now sid s row =>
    exact hinv.keep (fun _ => rfl) (fun _ _ => rfl) hinv.attempts hinv.events hentitled .refl
      fun _ hp => .inl hp
  | refund now i j k e e' a o t subs periods actor row status report status' type attempt attemptRow
      order orderRow amount positive covers orderId provider key refunds withdrawal =>
    subst order
    obtain ⟨a₁, ha₁, hprovider⟩ := hinv.events e (List.mem_of_getElem? row) j attempt
    cases attemptRow.symm.trans ha₁
    obtain ⟨o₁, ho₁, hsame⟩ := hinv.attempts a (List.mem_of_getElem? attemptRow)
    cases orderRow.symm.trans ho₁
    have hnew : ∀ u ∈ b.transactions, u.provider = t.provider →
        u.providerTransactionKey ≠ t.providerTransactionKey := by
      rw [provider, key]
      rcases hkeys with hquiet | hkeys
      · exact absurd type (hquiet.type actor row)
      · exact hkeys i e e' row type status
          (List.getElem?_set_self (List.getElem?_eq_some_iff.1 row).1) status'
    have hamount : ∀ k, refundedAmount { b with
        events := b.events.set i e'
        transactions := record t b.transactions
        subscriptions := subs
        periods := periods } k =
        b.refundedAmount k + if a.paymentOrderId = k then t.amountMinor else 0 := by
      intro k
      have htype : e'.eventType = e.eventType := congrArg (·.eventType) report
      have hattempt : e'.paymentAttemptId = e.paymentAttemptId :=
        congrArg (·.paymentAttemptId) report
      have hminor : e'.amountMinor = e.amountMinor := congrArg (·.amountMinor) report
      have hset : refundedAmount { b with events := b.events.set i e' } k = _ :=
        refundedAmount_set row
      rw [refundOf_open (status_of_open status), sub_zero,
        refundOf_processed (htype.trans type) status' (hattempt.trans attempt) attemptRow, hminor,
        amount, Option.getD_some] at hset
      exact hset
    have hsum : ∀ k provider, (∀ o, b.orders[k]? = some o → o.provider = provider) →
        refunded (record t b.transactions) k provider =
          b.refundedAmount k + if a.paymentOrderId = k then t.amountMinor else 0 := by
      intro k p hp
      by_cases hk : a.paymentOrderId = k
      · subst hk
        have htp : t.provider = p := by
          rw [provider, hprovider, hsame]
          exact hp o orderRow
        rw [refunded_new refunds hnew htp, hinv.transactions _ p hp, orderId]
      · rw [refunded_other (by rwa [orderId]), hinv.transactions k p hp, if_neg hk, add_zero]
    refine ⟨hinv.attempts, fun f hf n hn => ?_, hentitled, fun k p hp => ?_,
      fun p hp k o' hpk ho' => ?_⟩
    · rcases List.mem_or_eq_of_mem_set hf with hold | rfl
      · exact hinv.events f hold n hn
      · have hattempt : f.paymentAttemptId = e.paymentAttemptId :=
          congrArg (·.paymentAttemptId) report
        have hfp : f.provider = e.provider := congrArg (·.provider) report
        cases (hn.symm.trans hattempt).trans attempt
        exact ⟨a, attemptRow, hfp.trans hprovider⟩
    · rw [hamount]
      exact hsum k p hp
    · rw [hamount]
      by_cases hk : a.paymentOrderId = k
      · subst hk
        cases orderRow.symm.trans ho'
        rw [if_pos rfl]
        have hcover := hsum a.paymentOrderId e.provider fun o₁ ho₁ => by
          cases orderRow.symm.trans ho₁
          rw [hprovider, hsame]
        rw [if_pos rfl] at hcover
        rw [hcover] at withdrawal
        split_ifs at withdrawal with hfull
        · rw [(withdrawal_periods withdrawal hentitled orderRow hp).1 hpk]
          exact iff_of_false Bool.false_ne_true (not_lt.2 hfull)
        · obtain ⟨-, rfl⟩ := withdrawal
          have hold := hinv.periods p hp _ o hpk orderRow
          rw [hold]
          omega
      · rw [if_neg hk, add_zero]
        refine hinv.periods p ?_ k o' hpk ho'
        split_ifs at withdrawal
        · refine (withdrawal_periods withdrawal hentitled orderRow hp).2 fun hsome => hk ?_
          exact Option.some.inj (hsome.symm.trans hpk)
        · rwa [← withdrawal.2]

/-! ## Runs -/

theorem Unrefunding.step (h : Unrefunding admin b)
    (hevents : Table.Keeps PaymentEvent.report b.events b'.events) : Unrefunding admin b' := by
  intro i hi
  obtain ⟨e, he, htype⟩ := h i hi
  obtain ⟨e', he', hr⟩ := hevents i e he
  have hsame : e'.eventType = e.eventType := congrArg (·.eventType) hr
  exact ⟨e', he', by rwa [hsame]⟩

theorem Step.refunded {provider : String} (h : Step admin b b') (hquiet : Unrefunding admin b) :
    refunded b'.transactions k provider = refunded b.transactions k provider := by
  cases h with
  | transact t type => exact refunded_record type
  | refund now i j k e e' a o t subs periods actor row status report status' type =>
    exact absurd type (hquiet.type actor row)
  | _ => rfl

/-- Without refunds the sums stay, as the transactions show. -/
theorem Step.refundedAmount (h : Step admin b b') (hquiet : Unrefunding admin b)
    (hinv : b.RefundInv) (hinv' : b'.RefundInv) : b'.refundedAmount k = b.refundedAmount k := by
  obtain ⟨p, hp⟩ : ∃ p : String, ∀ o, b'.orders[k]? = some o → o.provider = p := by
    cases hk : b'.orders[k]? with
    | none => exact ⟨"", fun o ho => nomatch ho⟩
    | some o => exact ⟨o.provider, fun o' ho' => by rw [Option.some.inj ho']⟩
  rw [← hinv'.transactions k p hp, h.refunded hquiet]
  refine hinv.transactions k p fun o ho => ?_
  obtain ⟨o', ho', hsame⟩ := h.orders k o ho
  simp only [PaymentOrder.purchase, Prod.mk.injEq] at hsame
  rw [← hsame.2.2.1]
  exact hp o' ho'

theorem Run.refundInv (h : Run admin b b') (hquiet : Unrefunding admin b) (hinv : b.RefundInv)
    (hfunds : FundsUnrefunded b b') : b'.RefundInv ∧ Unrefunding admin b' ∧
      ∀ k, b'.refundedAmount k = b.refundedAmount k := by
  induction h with
  | refl => exact ⟨hinv, hquiet, fun _ => rfl⟩
  | tail hr hstep ih =>
    obtain ⟨hinv', hquiet', hsum⟩ := ih fun k o' hunpaid ho' hpaid =>
      hfunds k o' hunpaid (hstep.paid_order ho' hpaid) hpaid
    have hinv'' := hstep.refundInv hinv'
      (fun k o' hunpaid ho' hpaid => by
        rw [hsum]
        refine hfunds k o' (fun o ho hs => ?_) ho' hpaid
        exact hunpaid o (Run.paid_order hr ho hs) hs)
      (.inl hquiet')
    refine ⟨hinv'', hquiet'.step hstep.events, fun k => ?_⟩
    rw [hstep.refundedAmount hquiet' hinv' hinv'', hsum]

end Billing

end ShopBot
