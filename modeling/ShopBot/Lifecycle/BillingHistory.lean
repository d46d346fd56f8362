import ShopBot.Lifecycle.Billing

/-! # What a run of the billing ledger keeps

An ended subscription stays as it is and is funded no more, a user has one active
subscription, and a paid order keeps what justifies it.
-/

namespace ShopBot

open Relation

theorem Subscription.expire_eq (s : Subscription) (now : DateTime) : s.expire now = s ∨
    (s.status ≠ .ended ∧ (s.expire now).status = .ended ∧ (s.expire now).endedAt = some now) := by
  unfold expire
  split_ifs with h
  · exact .inl rfl
  · exact .inr ⟨h, rfl, rfl⟩

theorem Subscription.expire_userId (s : Subscription) (now : DateTime) :
    (s.expire now).userId = s.userId := by
  unfold expire
  split_ifs <;> rfl

namespace Billing

variable {admin : Actor} {b b' b'' : Billing}

/-- A subscription stays or ends, and only a subscription that has not ended is funded. -/
structure Later (b b' : Billing) : Prop where
  subscription : ∀ (sid : ℕ) (s : Subscription), b.subscriptions[sid]? = some s →
    ∃ s', b'.subscriptions[sid]? = some s' ∧ s'.userId = s.userId ∧
      (s' = s ∨ s.status ≠ .ended ∧ s'.status = .ended ∧ s'.endedAt.isSome = true)
  period : ∀ p ∈ b'.periods, p.isPaid = true → ∀ sid, p.subscriptionId = some sid →
    p ∈ b.periods ∨ ∀ s, b.subscriptions[sid]? = some s → s.status ≠ .ended

theorem Later.of_eq (hs : b'.subscriptions = b.subscriptions) (hp : b'.periods = b.periods) :
    b.Later b' where
  subscription sid s h := ⟨s, by rw [hs]; exact h, rfl, .inl rfl⟩
  period p h _ _ _ := .inl (by rw [← hp]; exact h)

theorem Later.trans (h : b.Later b') (h' : b'.Later b'') : b.Later b'' where
  subscription sid s hs := by
    obtain ⟨s', hs', hu, hcase⟩ := h.subscription sid s hs
    obtain ⟨s'', hs'', hu', hcase'⟩ := h'.subscription sid s' hs'
    refine ⟨s'', hs'', hu'.trans hu, ?_⟩
    rcases hcase' with rfl | ⟨hne, hended⟩
    · exact hcase
    · rcases hcase with rfl | ⟨-, hended', -⟩
      · exact .inr ⟨hne, hended⟩
      · exact absurd hended' hne
  period p hp hpaid sid hsid := by
    rcases h'.period p hp hpaid sid hsid with hp' | hlive
    · exact h.period p hp' hpaid sid hsid
    · refine .inr fun s hs hended => ?_
      obtain ⟨s', hs', -, rfl | ⟨hne, -⟩⟩ := h.subscription sid s hs
      · exact hlive s' hs' hended
      · exact hne hended

/-- Rows that are kept or ended. -/
theorem later_expire {now : DateTime} {s s' : Subscription} (h : s' = s ∨ s' = s.expire now) :
    s'.userId = s.userId ∧
      (s' = s ∨ s.status ≠ .ended ∧ s'.status = .ended ∧ s'.endedAt.isSome = true) := by
  rcases h with rfl | rfl
  · exact ⟨rfl, .inl rfl⟩
  · refine ⟨s.expire_userId now, (s.expire_eq now).imp_right ?_⟩
    rintro ⟨hne, hended, hat⟩
    exact ⟨hne, hended, by rw [hat]; rfl⟩

/-- Ending one subscription. -/
theorem later_set {subs : List Subscription} {sid : ℕ} {s : Subscription} {now : DateTime}
    (hrow : subs[sid]? = some s) (i : ℕ) (t : Subscription) (ht : subs[i]? = some t) :
    ∃ t', (subs.set sid (s.expire now))[i]? = some t' ∧ t'.userId = t.userId ∧
      (t' = t ∨ t.status ≠ .ended ∧ t'.status = .ended ∧ t'.endedAt.isSome = true) := by
  by_cases hi : i = sid
  · subst hi
    cases hrow.symm.trans ht
    exact ⟨s.expire now, by simp [(List.getElem?_eq_some_iff.1 hrow).1], later_expire (.inr rfl)⟩
  · exact ⟨t, (List.getElem?_set_ne (Ne.symm hi)).trans ht, rfl, .inl rfl⟩

/-- Paid periods after a refund were paid before. -/
theorem paid_of_unpaid {periods : List SubscriptionPeriod} {k : ℕ} {p q : SubscriptionPeriod}
    (hq : q ∈ periods.set k { p with isPaid := false }) (hpaid : q.isPaid = true) :
    q ∈ periods := by
  rcases List.mem_or_eq_of_mem_set hq with h | rfl
  · exact h
  · cases hpaid

theorem Step.later (h : Step admin b b') : b.Later b' := by
  cases h with
  | pay now k sid o o' subs periods row status status' paidAt purchase justified activation =>
    refine ⟨fun i s hs => ?_, fun p hp hpaid i hi => ?_⟩
    · obtain ⟨s', hs', hkeep⟩ := activation.kept i s hs
      exact ⟨s', hs', later_expire hkeep⟩
    · obtain ⟨q, hperiods, hq, -⟩ := activation.period
      change p ∈ periods at hp
      rw [hperiods, List.mem_append, List.mem_singleton] at hp
      rcases hp with hp | rfl
      · exact .inl hp
      · refine .inr fun s hs hended => ?_
        cases hq.symm.trans hi
        obtain ⟨t, ht, hactive, -⟩ := activation.subscription
        obtain ⟨s', hs', hkeep⟩ := activation.kept sid s hs
        cases hs'.symm.trans ht
        rcases (later_expire hkeep).2 with rfl | ⟨hne, -⟩
        · exact nomatch hactive.symm.trans hended
        · exact hne hended
  | refund now i j k e e' a o t subs periods actor row status report status' type attempt attemptRow order
      orderRow amount positive covers orderId provider key refunds withdrawal =>
    split_ifs at withdrawal
    · cases withdrawal with
      | nothing => exact .of_eq rfl rfl
      | unpaid k p => exact ⟨fun i s hs => ⟨s, hs, rfl, .inl rfl⟩,
          fun q hq hpaid _ _ => .inl (paid_of_unpaid hq hpaid)⟩
      | ended k sid p s row order subscription => exact ⟨later_set subscription,
          fun q hq hpaid _ _ => .inl (paid_of_unpaid hq hpaid)⟩
    · exact .of_eq withdrawal.1 withdrawal.2
  | expire now sid s row => exact ⟨later_set row, fun p hp _ _ _ => .inl hp⟩
  | _ => exact .of_eq rfl rfl

theorem Run.later (h : Run admin b b') : b.Later b' := by
  induction h with
  | refl => exact .of_eq rfl rfl
  | tail _ hs ih => exact ih.trans hs.later

/-! ## One active subscription of a user -/

def OneActive (subs : List Subscription) : Prop :=
  ∀ (i j : ℕ) (s t : Subscription), subs[i]? = some s → subs[j]? = some t →
    s.userId = t.userId → s.status = .active → t.status = .active → i = j

/-- Subscriptions that are active now were active before. -/
theorem OneActive.of_kept {subs subs' : List Subscription} (h : OneActive subs)
    (hold : ∀ (i : ℕ) (s' : Subscription), subs'[i]? = some s' → s'.status = .active →
      ∃ s, subs[i]? = some s ∧ s.userId = s'.userId ∧ s.status = .active) : OneActive subs' := by
  intro i j s t hs ht hu hsa hta
  obtain ⟨s₀, hs₀, hsu, hs₀a⟩ := hold i s hs hsa
  obtain ⟨t₀, ht₀, htu, ht₀a⟩ := hold j t ht hta
  exact h i j s₀ t₀ hs₀ ht₀ (hsu.trans (hu.trans htu.symm)) hs₀a ht₀a

theorem active_of_set {subs : List Subscription} {sid i : ℕ} {s s' : Subscription} {now : DateTime}
    (hrow : subs[sid]? = some s) (h : (subs.set sid (s.expire now))[i]? = some s')
    (ha : s'.status = .active) : ∃ t, subs[i]? = some t ∧ t.userId = s'.userId ∧
      t.status = .active := by
  by_cases hi : i = sid
  · subst hi
    rw [List.getElem?_set_self (List.getElem?_eq_some_iff.1 hrow).1] at h
    cases h
    rw [Subscription.expire_status] at ha
    cases ha
  · rw [List.getElem?_set_ne (Ne.symm hi)] at h
    exact ⟨s', h, rfl, ha⟩

theorem Subscribes.oneActive {now : DateTime} {userId sid : ℕ} {subs subs' : List Subscription}
    (h : Subscribes now userId sid subs subs') (hone : OneActive subs) : OneActive subs' := by
  obtain ⟨s₀, hs₀, ha₀, hu₀⟩ := h.subscription
  have hold : ∀ (i : ℕ) (s' : Subscription), subs[i]? ≠ none → subs'[i]? = some s' →
      s'.status = .active → ∃ s, subs[i]? = some s ∧ s.userId = s'.userId ∧ s.status = .active := by
    intro i s' hi hs' ha
    obtain ⟨s, hs⟩ := Option.ne_none_iff_exists'.1 hi
    obtain ⟨t, ht, hkeep⟩ := h.kept i s hs
    cases ht.symm.trans hs'
    rcases hkeep with rfl | rfl
    · exact ⟨s', hs, rfl, ha⟩
    · rw [Subscription.expire_status] at ha
      cases ha
  by_cases hnew : subs[sid]? = none
  · have hrow : ∀ (i : ℕ) (s' : Subscription), subs'[i]? = some s' → i ≠ sid → subs[i]? ≠ none := by
      intro i s' hs' hi
      obtain hsid | ⟨s, hs⟩ := h.rows i s' hs'
      · exact absurd hsid hi
      · rw [hs]
        exact Option.some_ne_none s
    intro i j s t hs ht hu hsa hta
    by_cases hi : i = sid
    · subst hi
      cases hs₀.symm.trans hs
      exact (h.alone hnew j t ht (hu.symm.trans hu₀) hta).symm
    · by_cases hj : j = sid
      · subst hj
        cases hs₀.symm.trans ht
        exact h.alone hnew i s hs (hu.trans hu₀) hsa
      · obtain ⟨s₁, hs₁, hsu, hs₁a⟩ := hold i s (hrow i s hs hi) hs hsa
        obtain ⟨t₁, ht₁, htu, ht₁a⟩ := hold j t (hrow j t ht hj) ht hta
        exact hone i j s₁ t₁ hs₁ ht₁ (hsu.trans (hu.trans htu.symm)) hs₁a ht₁a
  · refine hone.of_kept fun i s' hs' ha => hold i s' ?_ hs' ha
    obtain rfl | ⟨s, hs⟩ := h.rows i s' hs'
    · exact hnew
    · rw [hs]
      exact Option.some_ne_none s

theorem Step.oneActive (h : Step admin b b') (hone : OneActive b.subscriptions) :
    OneActive b'.subscriptions := by
  cases h with
  | pay now k sid o o' subs periods row status status' paidAt purchase justified activation =>
    exact Subscribes.oneActive activation.toSubscribes hone
  | refund now i j k e e' a o t subs periods actor row status report status' type attempt attemptRow order
      orderRow amount positive covers orderId provider key refunds withdrawal =>
    split_ifs at withdrawal
    · cases withdrawal with
      | nothing => exact hone
      | unpaid k p => exact hone
      | ended k sid p s row order subscription =>
        exact hone.of_kept fun i s' hs' ha => active_of_set subscription hs' ha
    · rw [← withdrawal.1] at hone
      exact hone
  | expire now sid s row => exact hone.of_kept fun i s' hs' ha => active_of_set row hs' ha
  | _ => exact hone

theorem Run.oneActive (h : Run admin b b') (hone : OneActive b.subscriptions) :
    OneActive b'.subscriptions :=
  Transition.preserves_run (fun b : Billing => OneActive b.subscriptions)
    (fun _ _ hone hs => hs.oneActive hone) h hone

/-! ## Paid orders -/

/-- Every paid order has been settled by hand or is justified by a processed event. -/
def Settled (b : Billing) : Prop :=
  ∀ (k : ℕ) (o : PaymentOrder), b.orders[k]? = some o → o.status = .paid →
    o.manuallySettled = true ∨ b.Justified k o

/-- The rows that a justification rests on are final. -/
theorem Justified.mono {k : ℕ} {o : PaymentOrder} (h : b.Justified k o)
    (hevent : ∀ (i : ℕ) (e : PaymentEvent), b.events[i]? = some e → e.status = .processed →
      b'.events[i]? = some e)
    (hattempt : ∀ (j : ℕ) (a : PaymentAttempt), b.attempts[j]? = some a → a.status = .paid →
      b'.attempts[j]? = some a) : b'.Justified k o := by
  obtain ⟨i, j, e, a, he, hs, hj, ha, hpaid, hagrees⟩ := h
  exact ⟨i, j, e, a, hevent i e he hs, hs, hj, hattempt j a ha hpaid, hpaid, hagrees⟩

theorem processed_of_set {events : List PaymentEvent} {i n : ℕ} {e e' f : PaymentEvent}
    (hrow : events[i]? = some e) (hopen : e.isClosed = false) (hf : events[n]? = some f)
    (hs : f.status = .processed) : (events.set i e')[n]? = some f := by
  have hn : n ≠ i := by
    rintro rfl
    cases hrow.symm.trans hf
    simp [PaymentEvent.isClosed, hs] at hopen
  exact (List.getElem?_set_ne (Ne.symm hn)).trans hf

theorem Step.justified (h : Step admin b b') {k : ℕ} {o : PaymentOrder} (hj : b.Justified k o) :
    b'.Justified k o := by
  cases h with
  | claim a =>
    refine hj.mono (fun _ _ he _ => he) fun j c hc _ => ?_
    exact (List.getElem?_append_left (List.getElem?_eq_some_iff.1 hc).1).trans hc
  | attempt j a a' row status =>
    refine hj.mono (fun _ _ he _ => he) fun n c hc hpaid => ?_
    have hn : n ≠ j := by
      rintro rfl
      cases row.symm.trans hc
      rw [hpaid] at status
      cases status
    exact (List.getElem?_set_ne (Ne.symm hn)).trans hc
  | receive e =>
    refine hj.mono (fun i f hf _ => ?_) fun _ _ ha _ => ha
    exact (List.getElem?_append_left (List.getElem?_eq_some_iff.1 hf).1).trans hf
  | dismiss i e e' row status =>
    exact hj.mono (fun n f hf hs => processed_of_set row status hf hs) fun _ _ ha _ => ha
  | process i e e' row status =>
    exact hj.mono (fun n f hf hs => processed_of_set row status hf hs) fun _ _ ha _ => ha
  | refund now i j k e e' a o t subs periods actor row status =>
    exact hj.mono (fun n f hf hs => processed_of_set row status hf hs) fun _ _ ha _ => ha
  | _ => exact hj.mono (fun _ _ he _ => he) fun _ _ ha _ => ha

/-- One order is written. -/
theorem order_set {orders : List PaymentOrder} {k n : ℕ} {o o' p : PaymentOrder}
    (hrow : orders[k]? = some o) (h : (orders.set k o')[n]? = some p) :
    (n = k ∧ p = o') ∨ (n ≠ k ∧ orders[n]? = some p) := by
  by_cases hn : n = k
  · subst hn
    rw [List.getElem?_set_self (List.getElem?_eq_some_iff.1 hrow).1] at h
    exact .inl ⟨rfl, (Option.some.inj h).symm⟩
  · rw [List.getElem?_set_ne (Ne.symm hn)] at h
    exact .inr ⟨hn, h⟩

/-- Two orders for the same purchase are justified by the same events. -/
theorem Justified.purchase {k : ℕ} {o o' : PaymentOrder} (h : b.Justified k o)
    (hp : o'.purchase = o.purchase) : b.Justified k o' := by
  simp only [PaymentOrder.purchase, Prod.mk.injEq] at hp
  obtain ⟨-, -, hprovider, hamount, -⟩ := hp
  obtain ⟨i, j, e, a, he, hs, hj, ha, hpaid, hagrees⟩ := h
  refine ⟨i, j, e, a, he, hs, hj, ha, hpaid, ⟨?_, hagrees.paymentId, hagrees.attempt, hagrees.order,
    hagrees.reported, ?_, ?_⟩⟩
  · rw [hprovider]
    exact hagrees.provider
  · rw [hamount]
    exact hagrees.amount
  · rw [hamount]
    exact hagrees.currency

theorem Step.settled (h : Step admin b b') (hinv : b.Settled) : b'.Settled := by
  have hkeep : ∀ {n : ℕ} {p : PaymentOrder}, b.orders[n]? = some p → p.status = .paid →
      p.manuallySettled = true ∨ b'.Justified n p :=
    fun hp hpaid => (hinv _ _ hp hpaid).imp_right h.justified
  intro n p hp hpaid
  cases h with
  | openOrder o status =>
    change (b.orders ++ [o])[n]? = some p at hp
    rcases Nat.lt_or_ge n b.orders.length with hn | hn
    · rw [List.getElem?_append_left hn] at hp
      exact hkeep hp hpaid
    · rw [List.getElem?_append_right hn] at hp
      obtain rfl : o = p := (List.mem_singleton.1 (List.mem_of_getElem? hp)).symm
      rw [status] at hpaid
      cases hpaid
  | close k o o' row status status' =>
    rcases order_set row hp with ⟨-, rfl⟩ | ⟨-, hp'⟩
    · exact absurd hpaid status'
    · exact hkeep hp' hpaid
  | pay now k sid o o' subs periods row status status' paidAt purchase justified activation =>
    rcases order_set row hp with ⟨rfl, rfl⟩ | ⟨-, hp'⟩
    · refine justified.imp And.right fun hj => ?_
      exact (hj.2.purchase purchase).mono (fun _ _ he _ => he) fun _ _ ha _ => ha
    · exact hkeep hp' hpaid
  | _ => exact hkeep hp hpaid

/-- An order is marked as settled by hand when an administrator settles it, and stays so. -/
theorem Step.manual (h : Step admin b b') {n : ℕ} {p : PaymentOrder} (hp : b'.orders[n]? = some p)
    (hm : p.manuallySettled = true) :
    admin.settles n ∨ ∃ o, b.orders[n]? = some o ∧ o.manuallySettled = true := by
  cases h with
  | openOrder o _ _ manual =>
    change (b.orders ++ [o])[n]? = some p at hp
    rcases Nat.lt_or_ge n b.orders.length with hn | hn
    · rw [List.getElem?_append_left hn] at hp
      exact .inr ⟨p, hp, hm⟩
    · rw [List.getElem?_append_right hn] at hp
      obtain rfl : o = p := (List.mem_singleton.1 (List.mem_of_getElem? hp)).symm
      rw [manual] at hm
      cases hm
  | close k o o' row _ _ _ _ manual =>
    rcases order_set row hp with ⟨rfl, rfl⟩ | ⟨-, hp'⟩
    · exact .inr ⟨o, row, by rw [← manual]; exact hm⟩
    · exact .inr ⟨p, hp', hm⟩
  | pay now k sid o o' subs periods row status status' paidAt purchase justified =>
    rcases order_set row hp with ⟨rfl, rfl⟩ | ⟨-, hp'⟩
    · rcases justified with ⟨hadmin, -⟩ | ⟨hsame, -⟩
      · exact .inl hadmin
      · exact .inr ⟨o, row, by rw [← hsame]; exact hm⟩
    · exact .inr ⟨p, hp', hm⟩
  | _ => exact .inr ⟨p, hp, hm⟩

theorem Run.manual (h : Run admin b b') {n : ℕ} {p : PaymentOrder} (hp : b'.orders[n]? = some p)
    (hm : p.manuallySettled = true) :
    admin.settles n ∨ ∃ o, b.orders[n]? = some o ∧ o.manuallySettled = true := by
  induction h generalizing p with
  | refl => exact .inr ⟨p, hp, hm⟩
  | tail _ hs ih =>
    rcases hs.manual hp hm with hadmin | ⟨o, ho, hmo⟩
    · exact .inl hadmin
    · exact ih ho hmo

theorem Run.settled (h : Run admin b b') (hinv : b.Settled) : b'.Settled :=
  Transition.preserves_run Settled (fun _ _ hb hs => hs.settled hb) h hinv

/-! ## One entitlement of an order -/

/-- A paid order is not written again. -/
theorem Step.paid_order (h : Step admin b b') {k : ℕ} {o : PaymentOrder}
    (ho : b.orders[k]? = some o) (hs : o.status = .paid) : b'.orders[k]? = some o := by
  have hne : ∀ {n : ℕ} {o₁ : PaymentOrder}, b.orders[n]? = some o₁ → o₁.status ≠ .paid → k ≠ n := by
    rintro n o₁ hrow hstatus rfl
    cases hrow.symm.trans ho
    exact hstatus hs
  cases h with
  | openOrder o₁ =>
    exact (List.getElem?_append_left (List.getElem?_eq_some_iff.1 ho).1).trans ho
  | close n o₁ o' row status => exact (List.getElem?_set_ne (hne row status).symm).trans ho
  | pay now n sid o₁ o' subs periods row status =>
    exact (List.getElem?_set_ne (hne row status).symm).trans ho
  | _ => exact ho

theorem Run.paid_order (h : Run admin b b') {k : ℕ} {o : PaymentOrder}
    (ho : b.orders[k]? = some o) (hs : o.status = .paid) : b'.orders[k]? = some o :=
  Transition.preserves_run (fun b : Billing => b.orders[k]? = some o)
    (fun _ _ ho hstep => hstep.paid_order ho hs) h ho

/-! ## What a run keeps of the rows -/

theorem Step.orders (h : Step admin b b') :
    Table.Keeps PaymentOrder.purchase b.orders b'.orders := by
  cases h with
  | openOrder o => exact .append _
  | close k o o' row status status' opened purchase => exact .set row purchase
  | pay now k sid o o' subs periods row status status' paidAt purchase => exact .set row purchase
  | _ => exact .refl

theorem Step.events (h : Step admin b b') : Table.Keeps PaymentEvent.report b.events b'.events := by
  cases h with
  | receive e => exact .append _
  | dismiss i e e' row status report => exact .set row report
  | process i e e' row status report => exact .set row report
  | refund now i j k e e' a o t subs periods actor row status report => exact .set row report
  | _ => exact .refl

theorem Run.events (h : Run admin b b') : Table.Keeps PaymentEvent.report b.events b'.events := by
  induction h with
  | refl => exact .refl
  | tail _ hs ih => exact ih.trans hs.events

/-- No order is in the one status in which it cannot be paid. -/
def Payable (orders : List PaymentOrder) : Prop := ∀ o ∈ orders, o.status ≠ .created

theorem Payable.set {orders : List PaymentOrder} {k : ℕ} {o : PaymentOrder} (h : Payable orders)
    (hs : o.status ≠ .created) : Payable (orders.set k o) := by
  intro p hp
  rcases List.mem_or_eq_of_mem_set hp with hold | rfl
  · exact h p hold
  · exact hs

theorem Step.payable (h : Step admin b b') (hinv : Payable b.orders) : Payable b'.orders := by
  cases h with
  | openOrder o status =>
    intro p hp
    rcases List.mem_append.1 hp with hold | hnew
    · exact hinv p hold
    · rw [List.mem_singleton.1 hnew, status]
      decide
  | close k o o' row status status' opened => exact hinv.set opened
  | pay now k sid o o' subs periods row status status' =>
    refine hinv.set ?_
    rw [status']
    decide
  | _ => exact hinv

theorem Run.payable (h : Run admin b b') (hinv : Payable b.orders) : Payable b'.orders :=
  Transition.preserves_run (fun b : Billing => Payable b.orders)
    (fun _ _ hb hs => hs.payable hb) h hinv

/-- Every attempt is made for an order, with the provider of the order. -/
def Ordered (orders : List PaymentOrder) (attempts : List PaymentAttempt) : Prop :=
  ∀ a ∈ attempts, ∃ o, orders[a.paymentOrderId]? = some o ∧ a.provider = o.provider

theorem Ordered.orders {orders orders' : List PaymentOrder} {attempts : List PaymentAttempt}
    (h : Ordered orders attempts) (hkeeps : Table.Keeps PaymentOrder.purchase orders orders') :
    Ordered orders' attempts := by
  intro a ha
  obtain ⟨o, ho, hprovider⟩ := h a ha
  obtain ⟨o', ho', hp⟩ := hkeeps _ o ho
  simp only [PaymentOrder.purchase, Prod.mk.injEq] at hp
  exact ⟨o', ho', hprovider.trans hp.2.2.1.symm⟩

theorem Step.ordered (h : Step admin b b') (hinv : Ordered b.orders b.attempts) :
    Ordered b'.orders b'.attempts := by
  have horders := h.orders
  cases h with
  | claim a status order =>
    intro a' ha'
    rcases List.mem_append.1 ha' with hold | hnew
    · exact hinv a' hold
    · obtain rfl := List.mem_singleton.1 hnew
      exact order
  | attempt j a a' row status order provider =>
    intro c hc
    rcases List.mem_or_eq_of_mem_set hc with hold | rfl
    · exact hinv c hold
    · rw [order, provider]
      exact hinv a (List.mem_of_getElem? row)
  | _ => exact hinv.orders horders

theorem Run.ordered (h : Run admin b b') (hinv : Ordered b.orders b.attempts) :
    Ordered b'.orders b'.attempts :=
  Transition.preserves_run (fun b : Billing => Ordered b.orders b.attempts)
    (fun _ _ hb hs => hs.ordered hb) h hinv

/-! ## Entitlements -/

/-- An order funds one period of the requested length once it is paid, and none before. -/
structure Entitled (orders : List PaymentOrder)
    (fundings : List (Option ℕ × DateTime × DateTime)) : Prop where
  count : ∀ (k : ℕ) (o : PaymentOrder), orders[k]? = some o →
    fundings.countP (·.1 = some k) = if o.status = .paid then 1 else 0
  length : ∀ f ∈ fundings, ∀ k, f.1 = some k →
    ∃ o, orders[k]? = some o ∧ f.2.2 = f.2.1 + days o.requestedPeriodDays

def fundings (b : Billing) : List (Option ℕ × DateTime × DateTime) := b.periods.map (·.funding)

theorem fundings_unpaid {periods : List SubscriptionPeriod} {k : ℕ} {p : SubscriptionPeriod}
    (hrow : periods[k]? = some p) :
    (periods.set k { p with isPaid := false }).map (·.funding) = periods.map (·.funding) := by
  obtain ⟨hlt, rfl⟩ := List.getElem?_eq_some_iff.1 hrow
  have hlt' : k < (periods.map (·.funding)).length := by simpa using hlt
  have hsame : SubscriptionPeriod.funding { periods[k] with isPaid := false } =
      (periods.map (·.funding))[k] := by
    rw [List.getElem_map]
    rfl
  rw [List.map_set, hsame, List.set_getElem_self]

variable {orders : List PaymentOrder} {rows : List (Option ℕ × DateTime × DateTime)}

/-- A write of an order that is not paid and does not become so. -/
theorem Entitled.set {k : ℕ} {o o' : PaymentOrder} (h : Entitled orders rows)
    (hrow : orders[k]? = some o) (hs : o.status ≠ .paid) (hs' : o'.status ≠ .paid)
    (hp : o'.purchase = o.purchase) : Entitled (orders.set k o') rows := by
  refine ⟨fun n p hn => ?_, fun f hf n hn => ?_⟩
  · rcases order_set hrow hn with ⟨rfl, rfl⟩ | ⟨-, hn'⟩
    · rw [if_neg hs', h.count n o hrow, if_neg hs]
    · exact h.count n p hn'
  · obtain ⟨p, hp', hlen⟩ := h.length f hf n hn
    by_cases hnk : n = k
    · subst hnk
      cases hrow.symm.trans hp'
      refine ⟨o', by simp [(List.getElem?_eq_some_iff.1 hrow).1], ?_⟩
      simp only [PaymentOrder.purchase, Prod.mk.injEq] at hp
      rw [hp.2.2.2.2.1]
      exact hlen
    · exact ⟨p, (List.getElem?_set_ne (Ne.symm hnk)).trans hp', hlen⟩

/-- A new order funds nothing. -/
theorem Entitled.append {o : PaymentOrder} (h : Entitled orders rows) (hs : o.status ≠ .paid) :
    Entitled (orders ++ [o]) rows := by
  refine ⟨fun n p hn => ?_, fun f hf n hn => ?_⟩
  · rcases Nat.lt_or_ge n orders.length with hlt | hge
    · rw [List.getElem?_append_left hlt] at hn
      exact h.count n p hn
    · rw [List.getElem?_append_right hge] at hn
      obtain rfl : o = p := (List.mem_singleton.1 (List.mem_of_getElem? hn)).symm
      rw [if_neg hs, List.countP_eq_zero]
      intro f hf hfn
      obtain ⟨p, hp, -⟩ := h.length f hf n (of_decide_eq_true hfn)
      have hlt := (List.getElem?_eq_some_iff.1 hp).1
      omega
  · obtain ⟨p, hp, hlen⟩ := h.length f hf n hn
    exact ⟨p, (List.getElem?_append_left (List.getElem?_eq_some_iff.1 hp).1).trans hp, hlen⟩

/-- An order is paid together with the period that it funds. -/
theorem Entitled.pay {k : ℕ} {o o' : PaymentOrder} {f : Option ℕ × DateTime × DateTime}
    (h : Entitled orders rows) (hrow : orders[k]? = some o) (hs : o.status ≠ .paid)
    (hs' : o'.status = .paid) (hp : o'.purchase = o.purchase) (hf : f.1 = some k)
    (hlen : f.2.2 = f.2.1 + days o.requestedPeriodDays) :
    Entitled (orders.set k o') (rows ++ [f]) := by
  have hdays : o'.requestedPeriodDays = o.requestedPeriodDays := by
    simp only [PaymentOrder.purchase, Prod.mk.injEq] at hp
    exact hp.2.2.2.2.1
  have hself : (orders.set k o')[k]? = some o' := by
    simp [(List.getElem?_eq_some_iff.1 hrow).1]
  refine ⟨fun n p hn => ?_, fun g hg n hn => ?_⟩
  · rw [List.countP_append, List.countP_singleton]
    rcases order_set hrow hn with ⟨rfl, rfl⟩ | ⟨hnk, hn'⟩
    · rw [if_pos hs', h.count n o hrow, if_neg hs, if_pos (decide_eq_true hf)]
    · have hother : decide (f.1 = some n) = false := by
        rw [hf, decide_eq_false_iff_not, Option.some.injEq]
        exact hnk.symm
      rw [h.count n p hn', hother]
      exact Nat.add_zero _
  · rcases List.mem_append.1 hg with hg | hg
    · obtain ⟨p, hp', hgl⟩ := h.length g hg n hn
      by_cases hnk : n = k
      · subst hnk
        cases hrow.symm.trans hp'
        exact ⟨o', hself, by rw [hdays]; exact hgl⟩
      · exact ⟨p, (List.getElem?_set_ne (Ne.symm hnk)).trans hp', hgl⟩
    · obtain rfl := List.mem_singleton.1 hg
      cases hf.symm.trans hn
      exact ⟨o', hself, by rw [hdays]; exact hlen⟩

theorem Step.entitled (h : Step admin b b') (hinv : Entitled b.orders b.fundings) :
    Entitled b'.orders b'.fundings := by
  cases h with
  | openOrder o status => exact hinv.append (by rw [status]; decide)
  | close k o o' row status status' opened purchase => exact hinv.set row status status' purchase
  | pay now k sid o o' subs periods row status status' paidAt purchase justified activation =>
    obtain ⟨p, hperiods, -, ho, -, -, hlen⟩ := activation.period
    have hf : (Billing.mk (b.orders.set k o') b.attempts b.events b.transactions subs
        periods).fundings = b.fundings ++ [p.funding] := by
      unfold fundings
      rw [hperiods, List.map_append, List.map_singleton]
    rw [show _ = b.fundings ++ [p.funding] from hf]
    exact hinv.pay row status status' purchase ho hlen
  | refund now i j k e e' a o t subs periods actor row status report status' type attempt attemptRow order
      orderRow amount positive covers orderId provider key refunds withdrawal =>
    have hf : periods.map (·.funding) = b.periods.map (·.funding) := by
      split_ifs at withdrawal
      · cases withdrawal with
        | nothing => rfl
        | unpaid k p row => exact fundings_unpaid row
        | ended k sid p s row => exact fundings_unpaid row
      · rw [withdrawal.2]
    unfold fundings at hinv ⊢
    rw [hf]
    exact hinv
  | _ => exact hinv

theorem Run.entitled (h : Run admin b b') (hinv : Entitled b.orders b.fundings) :
    Entitled b'.orders b'.fundings :=
  Transition.preserves_run (fun b : Billing => Entitled b.orders b.fundings)
    (fun _ _ hb hs => hs.entitled hb) h hinv

end Billing

end ShopBot
