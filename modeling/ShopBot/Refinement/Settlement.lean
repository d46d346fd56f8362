import ShopBot.Lifecycle.BillingHistory
import ShopBot.UseCases.AdminOperations
import ShopBot.UseCases.CreatePayment
import ShopBot.UseCases.IngestWebhook
import ShopBot.UseCases.ProcessPayment
import ShopBot.UseCases.ReconcileSubscriptions

/-! # Payments refine the billing ledger

Each transaction of the billing is a run of the ledger.
-/

namespace ShopBot

open Database Relation

namespace Database

variable {db db' : Database}

def billingLedger (db : Database) : Billing :=
  ⟨db.paymentOrders, db.paymentAttempts, db.paymentEvents, db.providerTransactions,
    db.subscriptions, db.subscriptionPeriods⟩

theorem createProviderTransaction_ledger (db : Database) (t : ProviderTransaction) :
    (db.createProviderTransaction t).billingLedger =
      { db.billingLedger with transactions := Billing.record t db.providerTransactions } := by
  unfold createProviderTransaction Billing.record
  split_ifs <;> rfl

theorem createProviderTransaction_rows (t : ProviderTransaction) :
    (db.createProviderTransaction t).providerTransactions =
      Billing.record t db.providerTransactions :=
  congrArg Billing.transactions (createProviderTransaction_ledger db t)

theorem createProviderTransaction_events (t : ProviderTransaction) :
    (db.createProviderTransaction t).paymentEvents = db.paymentEvents :=
  congrArg Billing.events (createProviderTransaction_ledger db t)

theorem saveAttempt_ok {a : PaymentAttempt} {j : ℕ} (h : db.saveAttempt j a = .ok db') :
    db' = { db with paymentAttempts := db.paymentAttempts.set j a } := by
  unfold saveAttempt at h
  split_ifs at h
  exact (Except.ok.inj h).symm

theorem addPeriod_ok {p : SubscriptionPeriod} {pid orderId : ℕ}
    (hp : p.paymentOrderId = some orderId) (h : db.addPeriod p = .ok (pid, db')) :
    db' = { db with subscriptionPeriods := db.subscriptionPeriods ++ [p] } ∧
      ∀ q ∈ db.subscriptionPeriods, q.paymentOrderId ≠ some orderId := by
  unfold addPeriod at h
  split_ifs at h with _ hany
  cases h
  refine ⟨rfl, fun q hq hqo => hany ?_⟩
  rw [hp, Option.isSome_some, Bool.true_and]
  exact List.any_eq_true.2 ⟨q, hq, by simpa using hqo⟩

theorem addSubscription_ok {s : Subscription} {sid : ℕ} (hs : s.status = .active)
    (h : db.addSubscription s = .ok (sid, db')) : sid = db.subscriptions.length ∧
      db' = { db with subscriptions := db.subscriptions ++ [s] } ∧
      ∀ r ∈ db.subscriptions, r.userId = s.userId → r.status ≠ .active := by
  unfold addSubscription at h
  split_ifs at h with hany
  cases h
  refine ⟨rfl, rfl, fun r hr hu hactive => hany ?_⟩
  rw [decide_eq_true hs, Bool.true_and]
  exact List.any_eq_true.2 ⟨r, hr, by simp [hu, hactive]⟩

end Database

/-! ## Activations -/

theorem applyPaidPeriod_none {last : Option SubscriptionPeriod} {userId tariffId days' : ℕ}
    {now : DateTime} {r : SubscriptionActivation}
    (h : applyPaidPeriod none last userId tariffId days' now = .ok r) :
    r.subscription = .start userId tariffId now ∧ r.createdNewSubscription = true ∧
      r.replacedSubscription = none ∧ r.period.isPaid = true ∧ now ≤ r.period.startsAt ∧
      r.period.expiresAt = r.period.startsAt + days days' := by
  obtain ⟨x, hx, h⟩ := bind_eq_ok.1 h
  obtain ⟨h₁, -, h₂, -, h₃, h₄⟩ := Subscription.extend_eq_ok rfl hx
  cases h
  exact ⟨h₁, rfl, rfl, h₂, h₃, h₄⟩

theorem applyPaidPeriod_some {active : Subscription} {id : ℕ} {last : Option SubscriptionPeriod}
    {userId tariffId days' : ℕ} {now : DateTime} {r : SubscriptionActivation}
    (hs : active.status = .active)
    (h : applyPaidPeriod (some (active, id)) last userId tariffId days' now = .ok r) :
    (r.period.isPaid = true ∧ now ≤ r.period.startsAt ∧
      r.period.expiresAt = r.period.startsAt + days days') ∧
    ((active.tariffId ≠ tariffId ∧ r.subscription = .start userId tariffId now ∧
      r.createdNewSubscription = true ∧ r.replacedSubscription = some (active.expire now)) ∨
    (active.tariffId = tariffId ∧ r.subscription = active ∧ r.createdNewSubscription = false ∧
      r.replacedSubscription = none)) := by
  unfold applyPaidPeriod at h
  dsimp only at h
  split_ifs at h with ht
  · obtain ⟨x, hx, h⟩ := bind_eq_ok.1 h
    obtain ⟨h₁, -, h₂, -, h₃, h₄⟩ := Subscription.extend_eq_ok rfl hx
    cases h
    exact ⟨⟨h₂, h₃, h₄⟩, .inl ⟨ht, h₁, rfl, rfl⟩⟩
  · obtain ⟨x, hx, h⟩ := bind_eq_ok.1 h
    obtain ⟨h₁, -, h₂, -, h₃, h₄⟩ := Subscription.extend_eq_ok hs hx
    cases h
    exact ⟨⟨h₂, h₃, h₄⟩, .inr ⟨not_not.1 ht, h₁, rfl, rfl⟩⟩

theorem Subscription.extend_active {s : Subscription} (hs : s.status = .active) {periodDays : ℕ}
    (hdays : 0 < periodDays) (id : Option ℕ) (now : DateTime) (last : Option SubscriptionPeriod) :
    ∃ p, s.extend id periodDays now last = .ok (s, p) := by
  unfold Subscription.extend
  rw [dif_pos hdays, if_pos hs]
  exact ⟨_, rfl⟩

theorem applyPaidPeriod_active {active : Option (Subscription × ℕ)} {periodDays : ℕ}
    (hactive : ∀ x, active = some x → x.1.status = .active) (hdays : 0 < periodDays)
    (last : Option SubscriptionPeriod) (userId tariffId : ℕ) (now : DateTime) :
    ∃ activation, applyPaidPeriod active last userId tariffId periodDays now = .ok activation := by
  rcases active with _ | ⟨s, id⟩
  · obtain ⟨p, hp⟩ := Subscription.extend_active (s := .start userId tariffId now) rfl hdays none now
      last
    exact ⟨_, bind_eq_ok.2 ⟨_, hp, rfl⟩⟩
  · unfold applyPaidPeriod
    dsimp only
    split_ifs
    · obtain ⟨p, hp⟩ := Subscription.extend_active (s := .start userId tariffId now) rfl hdays none
        now none
      exact ⟨_, bind_eq_ok.2 ⟨_, hp, rfl⟩⟩
    · obtain ⟨p, hp⟩ := Subscription.extend_active (hactive _ rfl) hdays (some id) now last
      exact ⟨_, bind_eq_ok.2 ⟨_, hp, rfl⟩⟩

namespace ActivateSubscription

variable {db db₁ db' : Database} {userId tariffId periodDays orderId sid pid : ℕ} {now : DateTime}

/-- A new subscription starts when its user has no active one left. -/
theorem addSubscription_subscribes {new : Subscription} (hactive : new.status = .active)
    (hdb : db₁ = { db with subscriptions := db₁.subscriptions })
    (hlength : db₁.subscriptions.length = db.subscriptions.length)
    (hkept : ∀ (i : ℕ) (s : Subscription), db.subscriptions[i]? = some s →
      ∃ s', db₁.subscriptions[i]? = some s' ∧ (s' = s ∨ s' = s.expire now))
    (h : db₁.addSubscription new = .ok (sid, db')) :
    db' = { db with subscriptions := db'.subscriptions } ∧
      Subscribes now new.userId sid db.subscriptions db'.subscriptions := by
  obtain ⟨rfl, rfl, hfree⟩ := addSubscription_ok hactive h
  refine ⟨by rw [hdb], ⟨new, by simp, hactive, rfl⟩, ?_, ?_, ?_⟩
  · intro i s' hs'
    by_cases hi : i < db₁.subscriptions.length
    · exact .inr ⟨_, List.getElem?_eq_getElem (hlength ▸ hi)⟩
    · have hlt := (List.getElem?_eq_some_iff.1 hs').1
      rw [List.length_append, List.length_singleton] at hlt
      exact .inl (by omega)
  · intro i s hs
    obtain ⟨s', hs', hkeep⟩ := hkept i s hs
    refine ⟨s', ?_, hkeep⟩
    rw [List.getElem?_append_left (List.getElem?_eq_some_iff.1 hs').1, hs']
  · rintro - i s' hs' huser hstatus
    by_contra hi
    have hlt := (List.getElem?_eq_some_iff.1 hs').1
    rw [List.length_append, List.length_singleton] at hlt
    have hold : i < db₁.subscriptions.length := by omega
    rw [List.getElem?_append_left hold] at hs'
    exact hfree s' (List.mem_of_getElem? hs') huser hstatus

/-- What storing the subscription of an activation does to the subscriptions. -/
theorem stored {active : Option (Subscription × ℕ)} {last : Option SubscriptionPeriod}
    {activation : SubscriptionActivation}
    (hactive : db.getActiveSubscriptionForUser userId = active)
    (hact : applyPaidPeriod active last userId tariffId periodDays now = .ok activation)
    (h : storeSubscription (saveReplaced db activation active) activation active = .ok (sid, db')) :
    (activation.period.isPaid = true ∧ now ≤ activation.period.startsAt ∧
      activation.period.expiresAt = activation.period.startsAt + days periodDays) ∧
    db' = { db with subscriptions := db'.subscriptions } ∧
    Subscribes now userId sid db.subscriptions db'.subscriptions := by
  rcases active with _ | ⟨s₀, id⟩
  · obtain ⟨hsub, hcreated, hreplaced, hp⟩ := applyPaidPeriod_none hact
    unfold storeSubscription saveReplaced at h
    rw [hcreated, hreplaced] at h
    have hkept : ∀ (i : ℕ) (s : Subscription), db.subscriptions[i]? = some s →
        ∃ s', db.subscriptions[i]? = some s' ∧ (s' = s ∨ s' = s.expire now) :=
      fun i s hs => ⟨s, hs, .inl rfl⟩
    have hs := addSubscription_subscribes (by rw [hsub]; rfl) rfl rfl hkept h
    rw [hsub] at hs
    exact ⟨hp, hs⟩
  · obtain ⟨hrow, hmatch⟩ := Table.firstWhere_some hactive
    simp only [Bool.and_eq_true, decide_eq_true_eq] at hmatch
    obtain ⟨hp, ⟨-, hsub, hcreated, hreplaced⟩ | ⟨-, hsub, hcreated, hreplaced⟩⟩ :=
      applyPaidPeriod_some hmatch.2 hact
    · unfold storeSubscription saveReplaced at h
      rw [hcreated, hreplaced] at h
      have hkept : ∀ (i : ℕ) (s : Subscription), db.subscriptions[i]? = some s →
          ∃ s', (db.subscriptions.set id (s₀.expire now))[i]? = some s' ∧
            (s' = s ∨ s' = s.expire now) := by
        intro i s hs
        by_cases hi : i = id
        · subst hi
          cases hrow.symm.trans hs
          exact ⟨s₀.expire now, by simp [(List.getElem?_eq_some_iff.1 hrow).1], .inr rfl⟩
        · exact ⟨s, (List.getElem?_set_ne (Ne.symm hi)).trans hs, .inl rfl⟩
      have hs := addSubscription_subscribes (by rw [hsub]; rfl) rfl (by simp [saveSubscription])
        hkept h
      rw [hsub] at hs
      exact ⟨hp, hs⟩
    · unfold storeSubscription saveReplaced at h
      rw [hcreated, hreplaced] at h
      obtain ⟨rfl, rfl⟩ : id = sid ∧ db.saveSubscription id activation.subscription = db' := by
        simpa using h
      have hset : db.subscriptions.set id activation.subscription = db.subscriptions := by
        obtain ⟨hlt, hget⟩ := List.getElem?_eq_some_iff.1 hrow
        rw [hsub, ← hget, List.set_getElem_self]
      simp only [saveSubscription, hset]
      refine ⟨hp, trivial, ⟨s₀, hrow, hmatch.2, hmatch.1⟩, fun i s hs => .inr ⟨s, hs⟩,
        fun i s hs => ⟨s, hs, .inl rfl⟩, ?_⟩
      intro hnone
      rw [hrow] at hnone
      cases hnone

/-- A paid order funds one period of its own. -/
theorem execute_activation {o : PaymentOrder}
    (h : execute db o.userId o.tariffId o.requestedPeriodDays now (some orderId) =
      .ok (sid, pid, db')) :
    db' = { db with
      subscriptions := db'.subscriptions
      subscriptionPeriods := db'.subscriptionPeriods } ∧
    Activation now o orderId sid db.subscriptions db'.subscriptions db.subscriptionPeriods
      db'.subscriptionPeriods := by
  obtain ⟨activation, hact, h⟩ := bind_eq_ok.1 h
  obtain ⟨⟨sid', db₁⟩, hstore, h⟩ := bind_eq_ok.1 h
  obtain ⟨⟨pid', db₂⟩, hadd, h⟩ := bind_eq_ok.1 h
  cases h
  obtain ⟨⟨hpaid, hstart, hlength⟩, hdb₁, hs⟩ := stored rfl hact hstore
  obtain ⟨rfl, hfree⟩ := addPeriod_ok rfl hadd
  have hperiods : db₁.subscriptionPeriods = db.subscriptionPeriods := by rw [hdb₁]
  rw [hperiods] at hfree ⊢
  refine ⟨?_, { hs with period := ?_, unfunded := hfree }⟩
  · rw [hdb₁]
  · exact ⟨_, rfl, rfl, rfl, hpaid, hstart, hlength⟩

theorem addSubscription_free {s : Subscription}
    (hfree : ∀ r ∈ db.subscriptions, r.userId = s.userId → r.status ≠ .active) :
    ∃ r, db.addSubscription s = .ok r := by
  unfold addSubscription
  split_ifs with hany
  · simp only [Bool.and_eq_true, List.any_eq_true, decide_eq_true_eq] at hany
    obtain ⟨-, r, hr, huser, hactive⟩ := hany
    exact absurd hactive (hfree r hr huser)
  · exact ⟨_, rfl⟩

/-- The subscription of an activation can be stored. -/
theorem storeSubscription_ok {active : Option (Subscription × ℕ)} {last : Option SubscriptionPeriod}
    {activation : SubscriptionActivation} (hone : Billing.OneActive db.subscriptions)
    (hactive : db.getActiveSubscriptionForUser userId = active)
    (hact : applyPaidPeriod active last userId tariffId periodDays now = .ok activation) :
    ∃ r, storeSubscription (saveReplaced db activation active) activation active = .ok r := by
  rcases active with _ | ⟨s₀, id⟩
  · obtain ⟨hsub, hcreated, hreplaced, -⟩ := applyPaidPeriod_none hact
    unfold storeSubscription saveReplaced
    rw [hcreated, hreplaced, hsub]
    refine addSubscription_free fun r hr huser hstatus => ?_
    obtain ⟨i, hi⟩ := List.getElem?_of_mem hr
    have hno := Table.firstWhere_eq_none.1 hactive i r hi
    simp only [Bool.and_eq_false_iff, decide_eq_false_iff_not] at hno
    exact hno.elim (fun h => h huser) fun h => h hstatus
  · obtain ⟨hrow, hmatch⟩ := Table.firstWhere_some hactive
    simp only [Bool.and_eq_true, decide_eq_true_eq] at hmatch
    obtain ⟨-, ⟨-, hsub, hcreated, hreplaced⟩ | ⟨-, -, hcreated, -⟩⟩ :=
      applyPaidPeriod_some hmatch.2 hact
    · unfold storeSubscription saveReplaced
      rw [hcreated, hreplaced, hsub]
      -- the user had one active subscription, which has just ended
      refine addSubscription_free fun r hr huser hstatus => ?_
      obtain ⟨i, hi⟩ := List.getElem?_of_mem hr
      change (db.subscriptions.set id (s₀.expire now))[i]? = some r at hi
      by_cases hid : i = id
      · subst hid
        rw [List.getElem?_set_self (List.getElem?_eq_some_iff.1 hrow).1] at hi
        rw [← Option.some.inj hi, Subscription.expire_status] at hstatus
        cases hstatus
      · rw [List.getElem?_set_ne (Ne.symm hid)] at hi
        exact hid (hone i id r s₀ hi hrow (huser.trans hmatch.1.symm) hstatus hmatch.2)
    · unfold storeSubscription
      rw [hcreated]
      exact ⟨_, rfl⟩

/-- An order without a period can be given one. -/
theorem execute_ok (hone : Billing.OneActive db.subscriptions) (hdays : 0 < periodDays)
    (hfree : ∀ p ∈ db.subscriptionPeriods, p.paymentOrderId ≠ some orderId) :
    ∃ r, execute db userId tariffId periodDays now (some orderId) = .ok r := by
  have hlive : ∀ x, db.getActiveSubscriptionForUser userId = some x → x.1.status = .active := by
    rintro ⟨s, id⟩ hx
    have hmatch := (Table.firstWhere_some hx).2
    simp only [Bool.and_eq_true, decide_eq_true_eq] at hmatch
    exact hmatch.2
  obtain ⟨activation, hact⟩ := applyPaidPeriod_active hlive hdays
    ((db.getActiveSubscriptionForUser userId).bind fun row =>
      if row.1.tariffId = tariffId then db.getLastPeriod row.2 else none) userId tariffId now
  obtain ⟨⟨sid, db₁⟩, hstore⟩ := storeSubscription_ok hone rfl hact
  obtain ⟨-, hdb₁, -⟩ := stored rfl hact hstore
  have hperiods : db₁.subscriptionPeriods = db.subscriptionPeriods := by rw [hdb₁]
  obtain ⟨r, hadd⟩ : ∃ r, db₁.addPeriod { activation.period with
      subscriptionId := some sid
      paymentOrderId := some orderId } = .ok r := by
    unfold addPeriod
    rw [if_neg (by simp), hperiods]
    split_ifs with hany
    · simp only [Option.isSome_some, Bool.true_and, List.any_eq_true, decide_eq_true_eq] at hany
      obtain ⟨p, hp, hpo⟩ := hany
      exact absurd hpo (hfree p hp)
    · exact ⟨_, rfl⟩
  exact ⟨_, bind_eq_ok.2 ⟨_, hact, bind_eq_ok.2 ⟨_, hstore, bind_eq_ok.2 ⟨_, hadd, rfl⟩⟩⟩⟩

end ActivateSubscription

/-! ## Orders and attempts -/

theorem PaymentOrder.markPaid_ok {o o' : PaymentOrder} {now : DateTime} {changed : Bool}
    (h : o.markPaid now = .ok (o', changed)) : (changed = false ∧ o' = o ∧ o.status = .paid) ∨
      (changed = true ∧ o.status ≠ .paid ∧
        o' = { o with status := .paid, paidAt := some now, updatedAt := some now }) := by
  unfold markPaid at h
  split_ifs at h with hp
  · cases h
    exact .inl ⟨rfl, rfl, hp⟩
  · cases h
    exact .inr ⟨rfl, hp, rfl⟩

/-- An external failure closes a pending order and touches no other. -/
theorem PaymentOrder.applyExternalStatus_ok {o o' : PaymentOrder} {now : DateTime}
    {status : PaymentStatus} {changed : Bool} (hs : status ≠ .paid)
    (h : o.applyExternalStatus status now = .ok (o', changed)) : (changed = false ∧ o' = o) ∨
      (changed = true ∧ o.status ≠ .paid ∧ o'.status ≠ .paid ∧ o'.status ≠ .created ∧
        o'.purchase = o.purchase ∧ o'.manuallySettled = o.manuallySettled) := by
  have hfinish : ∀ {target : PaymentStatus}, target ≠ .paid → target ≠ .created →
      o.status ≠ .paid → o.finish target now = .ok (o', changed) → (changed = false ∧ o' = o) ∨
        (changed = true ∧ o.status ≠ .paid ∧ o'.status ≠ .paid ∧ o'.status ≠ .created ∧
          o'.purchase = o.purchase ∧ o'.manuallySettled = o.manuallySettled) := by
    intro target ht hc hp h
    unfold finish at h
    split_ifs at h
    · cases h
      exact .inl ⟨rfl, rfl⟩
    · cases h
      exact .inl ⟨rfl, rfl⟩
    · cases h
      exact .inr ⟨rfl, hp, ht, hc, rfl, rfl⟩
  unfold applyExternalStatus at h
  split_ifs at h with hp
  · cases h
    exact .inl ⟨rfl, rfl⟩
  · have hp' : o.status ≠ .paid := fun hpaid => hp ⟨hpaid, hs⟩
    cases status with
    | paid => exact absurd rfl hs
    | cancelled => exact hfinish (by decide) (by decide) hp' h
    | failed => exact hfinish (by decide) (by decide) hp' h
    | expired => exact hfinish (by decide) (by decide) hp' h
    | created | pending | authorized =>
      cases h
      exact .inl ⟨rfl, rfl⟩

theorem PaymentAttempt.applyProviderStatus_cases (a : PaymentAttempt) (target : PaymentStatus)
    (payload : Payload) (h : (a.applyProviderStatus target payload).2 ≠ .stale) :
    ((a.applyProviderStatus target payload).1 = a ∧ a.status = target) ∨
      (a.status.isFinal = false ∧ (a.applyProviderStatus target payload).1 =
        { a with status := target, payload := payload }) := by
  unfold applyProviderStatus at h ⊢
  split_ifs at h ⊢ with hf ht
  · exact .inl ⟨rfl, ht⟩
  · exact absurd rfl h
  · exact absurd rfl h
  · exact .inr ⟨by simpa using hf, rfl⟩

theorem validatePaidSettlement_ok {e : PaymentEvent} {a : PaymentAttempt} {orderId : ℕ}
    {o : PaymentOrder} {u : Unit} (h : validatePaidSettlement e a orderId o = .ok u) :
    Billing.Agrees e a orderId o := by
  simp only [validatePaidSettlement, bind_eq_ok, require_eq_ok, Bool.and_eq_true,
    decide_eq_true_eq, exists_const] at h
  obtain ⟨hprovider, ⟨hid, -⟩, hsame, hattempt, horder, hreported, -, hamount, -, hcurrency⟩ := h
  refine ⟨hprovider, ⟨hsame, ?_⟩, hattempt, by rw [horder, hattempt], ?_, hamount, hcurrency⟩
  · intro hnone
    rw [hnone] at hid
    cases hid
  · intro id hid'
    rw [hid', Option.all_some] at hreported
    rw [← hattempt]
    exact of_decide_eq_true hreported

theorem validatePaidSettlement_eq_ok {e : PaymentEvent} {a : PaymentAttempt} {orderId : ℕ}
    {o : PaymentOrder} (h : Billing.Agrees e a orderId o)
    (hid : e.providerPaymentId ≠ some "") : validatePaidSettlement e a orderId o = .ok () := by
  obtain ⟨id, hsome⟩ := Option.ne_none_iff_exists'.1 h.paymentId.2
  have hne : id ≠ "" := by
    rintro rfl
    exact hid hsome
  have htext : orText e.providerPaymentId none = some id := by
    rw [hsome]
    exact if_neg hne
  simp only [validatePaidSettlement, bind_eq_ok, require_eq_ok, Bool.and_eq_true,
    decide_eq_true_eq, exists_const, ← h.paymentId.1, htext, h.amount, h.currency, h.attempt,
    Option.isSome_some]
  refine ⟨h.provider, ⟨trivial, trivial⟩, trivial, trivial, h.order, ?_, trivial, trivial, trivial,
    trivial⟩
  rw [Option.all_eq_true]
  intro n hn
  exact decide_eq_true (h.reported n hn)

/-- A settlement that does not agree is refused with the text of the violation. -/
theorem validatePaidSettlement_error {e : PaymentEvent} {a : PaymentAttempt} {orderId : ℕ}
    {o : PaymentOrder} {err : Error} (h : validatePaidSettlement e a orderId o = .error err) :
    ∃ reason, err = .paymentInvariantViolation reason := by
  simp only [validatePaidSettlement, bind_eq_error, require_eq_error] at h
  iterate 9
    obtain ⟨-, rfl⟩ | ⟨_, -, h⟩ := h
    · exact ⟨_, rfl⟩
  exact ⟨_, h.2.symm⟩

/-! ## Runs of the ledger -/

namespace Database

variable {admin : Billing.Actor} {db db' : Database} {now : DateTime} {a a' : PaymentAttempt} {j k : ℕ}

/-- Saving an attempt that is not final, or that does not change. -/
theorem saveAttempt_run (hrow : db.paymentAttempts[j]? = some a)
    (ha : a' = a ∨ (a.status.isFinal = false ∧ a'.paymentOrderId = a.paymentOrderId ∧
      a'.provider = a.provider)) (h : db.saveAttempt j a' = .ok db') :
    Billing.Run admin db.billingLedger db'.billingLedger := by
  rw [saveAttempt_ok h]
  rcases ha with rfl | ⟨hf, ho, hp⟩
  · obtain ⟨hlt, hget⟩ := List.getElem?_eq_some_iff.1 hrow
    have hset : db.paymentAttempts.set j a' = db.paymentAttempts := by
      rw [← hget, List.set_getElem_self]
    rw [hset]
  · exact .single (.attempt j a a' hrow hf ho hp)

theorem createProviderTransaction_run {t : ProviderTransaction}
    (ht : t.transactionType ≠ "refund_succeeded") :
    Billing.Run admin db.billingLedger (db.createProviderTransaction t).billingLedger := by
  rw [createProviderTransaction_ledger]
  exact .single (.transact t ht)

variable (admin) in
/-- An order is paid together with the period it funds. -/
theorem activate_run (es : List PaymentEvent) {o o' : PaymentOrder} {sid pid : ℕ}
    (hrow : db.paymentOrders[k]? = some o) (hstatus : o.status ≠ .paid) (hpaid : o'.status = .paid)
    (hat : o'.paidAt = some now) (hp : o'.purchase = o.purchase)
    (hj : admin.settles k ∧ o'.manuallySettled = true ∨ o'.manuallySettled = o.manuallySettled ∧
      ({ db.billingLedger with events := es }).Justified k o)
    (h : ActivateSubscription.execute (db.saveOrder k o') o'.userId o'.tariffId
      o'.requestedPeriodDays now (some k) = .ok (sid, pid, db')) :
    db'.paymentEvents = db.paymentEvents ∧
      db'.providerTransactions = db.providerTransactions ∧
      Billing.Run admin { db.billingLedger with events := es } { db'.billingLedger with events := es } := by
  obtain ⟨hdb', hact⟩ := ActivateSubscription.execute_activation h
  have hact' : Activation now o k sid db.subscriptions db'.subscriptions db.subscriptionPeriods
      db'.subscriptionPeriods := by
    simp only [PaymentOrder.purchase, Prod.mk.injEq] at hp
    have hs := hact.toSubscribes
    have hper := hact.period
    rw [hp.1] at hs
    rw [hp.2.2.2.2.1] at hper
    exact { hs with period := hper, unfunded := hact.unfunded }
  have hstep : Billing.Step admin { db.billingLedger with events := es } _ :=
    .pay now k sid o o' _ _ hrow hstatus hpaid hat hp hj hact'
  refine ⟨by rw [hdb']; rfl, by rw [hdb']; rfl, ?_⟩
  rw [hdb'] at hstep ⊢
  exact .single hstep

end Database

namespace ProcessPayment

variable {admin : Billing.Actor} {db db' : Database} {now : DateTime} {e : PaymentEvent}
  {eventId orderId : ℕ}  {r : PaymentResult}

theorem rejectEvent_step (hrow : db.paymentEvents[eventId]? = some e) (hopen : e.isClosed = false)
    (reason : String) :
    Billing.Step admin db.billingLedger (rejectEvent now db e eventId reason).2.billingLedger :=
  .dismiss eventId e (e.fail now reason) hrow hopen rfl (.inl rfl)

theorem ignore_run (hrow : db.paymentEvents[eventId]? = some e) (hopen : e.isClosed = false)
    (reason : Option String) :
    Billing.Run admin db.billingLedger (db.saveEvent eventId (e.ignore now reason)).billingLedger :=
  .single (.dismiss eventId e (e.ignore now reason) hrow hopen rfl (.inr rfl))

theorem process_run (hrow : db.paymentEvents[eventId]? = some e) (hopen : e.isClosed = false)
    (htype : e.eventType ≠ "refund.succeeded") :
    Billing.Run admin db.billingLedger (db.saveEvent eventId (e.markProcessed now)).billingLedger :=
  .single (.process eventId e (e.markProcessed now) hrow hopen rfl rfl htype)

/-- What a full refund does to the subscriptions and the periods. -/
theorem withdrawFunding_withdrawal (now : DateTime) (db : Database) (orderId : ℕ) :
    (withdrawFunding now db orderId).2.billingLedger = { db.billingLedger with
      subscriptions := (withdrawFunding now db orderId).2.subscriptions
      periods := (withdrawFunding now db orderId).2.subscriptionPeriods } ∧
    (withdrawFunding now db orderId).2.paymentEvents = db.paymentEvents ∧
    Withdrawal now orderId db.subscriptions db.subscriptionPeriods
      (withdrawFunding now db orderId).2.subscriptions
      (withdrawFunding now db orderId).2.subscriptionPeriods := by
  unfold withdrawFunding
  split
  next hnone =>
    refine ⟨rfl, rfl, .nothing fun p hp ho => ?_⟩
    obtain ⟨i, hi⟩ := List.mem_iff_getElem?.1 hp
    have hfalse := Table.firstWhere_eq_none.1 hnone i p hi
    rw [ho, decide_eq_true rfl] at hfalse
    cases hfalse
  next period periodId hsome =>
    obtain ⟨hrow, hmatch⟩ := Table.firstWhere_some hsome
    have ho : period.paymentOrderId = some orderId := of_decide_eq_true hmatch
    generalize hp' : ({ period with isPaid := false } : SubscriptionPeriod) = p'
    have hunpaid : Withdrawal now orderId db.subscriptions db.subscriptionPeriods db.subscriptions
        (db.subscriptionPeriods.set periodId p') := by
      rw [← hp']
      exact .unpaid periodId period hrow ho
    cases period.subscriptionId with
    | none => exact ⟨rfl, rfl, hunpaid⟩
    | some sid =>
      dsimp only
      cases hs : (db.savePeriod periodId p').getSubscription sid with
      | none => exact ⟨rfl, rfl, hunpaid⟩
      | some s =>
        dsimp only
        by_cases hfund : (db.savePeriod periodId p').hasFundedPeriodAfter sid now = true
        · rw [if_pos hfund]
          exact ⟨rfl, rfl, hunpaid⟩
        · rw [if_neg hfund]
          refine ⟨rfl, rfl, ?_⟩
          subst hp'
          refine .ended periodId sid period s hrow ho hs fun q hq hqs hpaid => ?_
          by_contra hlater
          refine hfund (List.any_eq_true.2 ⟨q, hq, ?_⟩)
          simp [hqs, hpaid, not_le.1 hlater]

theorem settleRefund_step {a : PaymentAttempt} {o : PaymentOrder} {attemptId : ℕ} {amount : ℤ}
    {currency : Currency} (hactor : admin.refunds eventId)
    (hrow : db.paymentEvents[eventId]? = some e) (hopen : e.isClosed = false)
    (htype : e.eventType = "refund.succeeded") (hattempt : e.paymentAttemptId = some attemptId)
    (ha : db.paymentAttempts[attemptId]? = some a) (ho : db.paymentOrders[a.paymentOrderId]? = some o)
    (hamount : e.amountMinor = some amount) (hpos : 0 < amount) (hcovers : amount ≤ o.amount.minor) :
    Billing.Step admin db.billingLedger (settleRefund now db e eventId a.paymentOrderId attemptId o
      amount currency).2.billingLedger := by
  have hsum : (db.createProviderTransaction (refundTransaction e a.paymentOrderId attemptId amount
      currency)).sumProviderTransactions a.paymentOrderId e.provider "refund_succeeded" "succeeded" =
      Billing.refunded (Billing.record (refundTransaction e a.paymentOrderId attemptId amount currency)
        db.providerTransactions) a.paymentOrderId e.provider := by
    unfold sumProviderTransactions Billing.refunded
    rw [createProviderTransaction_rows]
  have hledger := createProviderTransaction_ledger db
    (refundTransaction e a.paymentOrderId attemptId amount currency)
  unfold settleRefund
  dsimp only
  rw [hsum]
  generalize hdb₁ : db.createProviderTransaction
    (refundTransaction e a.paymentOrderId attemptId amount currency) = db₁ at hledger ⊢
  generalize ht : refundTransaction e a.paymentOrderId attemptId amount currency = t at hledger ⊢
  have hstep : ∀ (subs : List Subscription) (periods : List SubscriptionPeriod),
      (if (o.amount.minor : ℤ) ≤
          Billing.refunded (Billing.record t db.providerTransactions) a.paymentOrderId e.provider
        then Withdrawal now a.paymentOrderId db.subscriptions db.subscriptionPeriods subs periods
        else subs = db.subscriptions ∧ periods = db.subscriptionPeriods) →
      Billing.Step admin db.billingLedger { db.billingLedger with
        events := db.paymentEvents.set eventId (e.markProcessed now)
        transactions := Billing.record t db.providerTransactions
        subscriptions := subs
        periods := periods } := by
    subst ht
    intro subs periods hw
    exact .refund now eventId attemptId a.paymentOrderId e (e.markProcessed now) a o _ subs periods
      hactor hrow hopen rfl rfl htype hattempt ha rfl ho hamount hpos hcovers rfl rfl rfl
      ⟨rfl, rfl⟩ hw
  have hevents : db₁.paymentEvents = db.paymentEvents := congrArg Billing.events hledger
  have hsubs : db₁.subscriptions = db.subscriptions := congrArg Billing.subscriptions hledger
  have hperiods : db₁.subscriptionPeriods = db.subscriptionPeriods := congrArg Billing.periods hledger
  split_ifs with hfull
  · obtain ⟨hw, hwe, hwithdrawal⟩ := withdrawFunding_withdrawal now db₁ a.paymentOrderId
    rw [hsubs, hperiods] at hwithdrawal
    have hs := hstep _ _ (by rw [if_pos hfull]; exact hwithdrawal)
    have htarget : ((withdrawFunding now db₁ a.paymentOrderId).2.saveEvent eventId
        (e.markProcessed now)).billingLedger =
        { (withdrawFunding now db₁ a.paymentOrderId).2.billingLedger with
          events := db.paymentEvents.set eventId (e.markProcessed now) } := by
      rw [← hevents, ← hwe]
      rfl
    rw [htarget, hw, hledger]
    exact hs
  · have hs := hstep db.subscriptions db.subscriptionPeriods (by rw [if_neg hfull]; exact ⟨rfl, rfl⟩)
    have htarget : (db₁.saveEvent eventId (e.markProcessed now)).billingLedger =
        { db₁.billingLedger with events := db.paymentEvents.set eventId (e.markProcessed now) } := by
      rw [← hevents]
      rfl
    rw [htarget, hledger]
    exact hs

theorem processRefund_step (hactor : admin.refunds eventId)
    (hrow : db.paymentEvents[eventId]? = some e) (hopen : e.isClosed = false)
    (htype : e.eventType = "refund.succeeded") :
    Billing.Step admin db.billingLedger (processRefund now db e eventId).2.billingLedger := by
  unfold processRefund
  split
  · exact rejectEvent_step hrow hopen _
  next attemptId hattempt =>
    split
    · exact rejectEvent_step hrow hopen _
    next a ha =>
      split
      · exact rejectEvent_step hrow hopen _
      next o ho =>
        split
        next amount currency hamount hcurrency =>
          split_ifs with hpos hmatch
          · exact rejectEvent_step hrow hopen _
          · exact rejectEvent_step hrow hopen _
          · simp only [Bool.or_eq_true, decide_eq_true_eq, not_or, not_lt] at hmatch
            exact settleRefund_step hactor hrow hopen htype hattempt ha ho hamount
              (not_le.1 hpos) hmatch.2
        · exact rejectEvent_step hrow hopen _

theorem paidTransaction_type (e : PaymentEvent) (orderId attemptId : ℕ) (amount : ℤ)
    (currency : Currency) :
    (paidTransaction e orderId attemptId amount currency).transactionType ≠ "refund_succeeded" := by
  change "payment_paid" ≠ "refund_succeeded"
  decide

/-- A transaction is recorded for an event that counts as processed already. -/
theorem transact_run {e' : PaymentEvent} {t : ProviderTransaction}
    (ht : t.transactionType ≠ "refund_succeeded") :
    Billing.Run admin { db.billingLedger with events := db.paymentEvents.set eventId e' }
      ((db.createProviderTransaction t).saveEvent eventId e').billingLedger := by
  have htarget : ((db.createProviderTransaction t).saveEvent eventId e').billingLedger =
      { (db.createProviderTransaction t).billingLedger with
        events := db.paymentEvents.set eventId e' } := by
    rw [← createProviderTransaction_events t]
    rfl
  rw [htarget, createProviderTransaction_ledger]
  exact .single (.transact t ht)

/-- The agreement of an event carries over to its processed row and to the paid attempt. -/
theorem agrees_processed {a a' : PaymentAttempt} {o : PaymentOrder}
    (h : Billing.Agrees e a orderId o) (ho : a'.paymentOrderId = a.paymentOrderId)
    (hp : a'.provider = a.provider) (hi : a'.providerPaymentId = a.providerPaymentId) :
    Billing.Agrees (e.markProcessed now) a' orderId o where
  provider := by rw [hp]; exact h.provider
  paymentId := by rw [hi]; exact h.paymentId
  attempt := by rw [ho]; exact h.attempt
  order := h.order
  reported := h.reported
  amount := h.amount
  currency := h.currency

theorem settleOrder_run {o : PaymentOrder} {sid : Option ℕ} {es : List PaymentEvent}
    (hrow : db.paymentOrders[orderId]? = some o)
    (hj : ({ db.billingLedger with events := es }).Justified orderId o)
    (h : settleOrder now db orderId o = .ok (sid, db')) :
    db'.paymentEvents = db.paymentEvents ∧ db'.providerTransactions = db.providerTransactions ∧
      Billing.Run admin { db.billingLedger with events := es }
        { db'.billingLedger with events := es } := by
  obtain ⟨⟨o', changed⟩, hmark, h₁⟩ := bind_eq_ok.1 h
  rcases PaymentOrder.markPaid_ok hmark with ⟨rfl, ho, -⟩ | ⟨rfl, hstatus, ho⟩
  · cases h₁
    exact ⟨rfl, rfl, .refl⟩
  · obtain ⟨⟨sid, pid, db₁⟩, hact, h₂⟩ := bind_eq_ok.1 h₁
    cases h₂
    have hrun := activate_run admin es hrow hstatus (by rw [ho]) (by rw [ho]) (by rw [ho]; rfl)
      (.inr ⟨by rw [ho]; rfl, hj⟩) hact
    exact hrun

theorem processPaid_run {a : PaymentAttempt} {attemptId : ℕ} {o : PaymentOrder}
    (hrow : db.paymentEvents[eventId]? = some e) (hopen : e.isClosed = false)
    (htype : e.eventType ≠ "refund.succeeded") (hattempt : e.paymentAttemptId = some attemptId)
    (ha : db.paymentAttempts[attemptId]? = some a) (ho : db.paymentOrders[orderId]? = some o)
    (h : processPaid now db e eventId a attemptId orderId o = .ok (r, db')) :
    Billing.Run admin db.billingLedger db'.billingLedger := by
  unfold processPaid at h
  split at h
  · cases h
    exact .single (rejectEvent_step hrow hopen _)
  · cases h
  next hvalid =>
    have hagrees := validatePaidSettlement_ok hvalid
    dsimp only at h
    split_ifs at h with hstale
    · cases h
      exact ignore_run hrow hopen _
    · obtain ⟨db₁, hsave, h⟩ := bind_eq_ok.1 h
      obtain ⟨⟨sid, db₂⟩, hsettle, h⟩ := bind_eq_ok.1 h
      cases h
      generalize ha' : (a.applyProviderStatus .paid e.payload).1 = a' at hsave
      have hcases := a.applyProviderStatus_cases .paid e.payload hstale
      rw [ha'] at hcases
      have hpaid : a'.status = .paid ∧ a'.paymentOrderId = a.paymentOrderId ∧
          a'.provider = a.provider ∧ a'.providerPaymentId = a.providerPaymentId := by
        rcases hcases with ⟨rfl, hs⟩ | ⟨-, rfl⟩
        · exact ⟨hs, rfl, rfl, rfl⟩
        · exact ⟨rfl, rfl, rfl, rfl⟩
      have hrun₁ : Billing.Run admin db.billingLedger db₁.billingLedger := by
        refine saveAttempt_run ha (hcases.imp And.left fun hc => ⟨hc.1, ?_⟩) hsave
        exact ⟨hpaid.2.1, hpaid.2.2.1⟩
      have hdb₁ := saveAttempt_ok hsave
      have hj : ({ db₁.billingLedger with
          events := db.paymentEvents.set eventId (e.markProcessed now) }).Justified orderId o := by
        refine ⟨eventId, attemptId, e.markProcessed now, a', ?_, rfl, hattempt, ?_, hpaid.1,
          agrees_processed hagrees hpaid.2.1 hpaid.2.2.1 hpaid.2.2.2⟩
        · simp [(List.getElem?_eq_some_iff.1 hrow).1]
        · change db₁.paymentAttempts[attemptId]? = some a'
          rw [hdb₁]
          simp [(List.getElem?_eq_some_iff.1 ha).1]
      have hevents : db₁.paymentEvents = db.paymentEvents := by rw [hdb₁]
      have hprocess : Billing.Run admin db₁.billingLedger { db₁.billingLedger with
          events := db.paymentEvents.set eventId (e.markProcessed now) } := by
        rw [← hevents]
        exact process_run (by rw [hevents]; exact hrow) hopen htype
      obtain ⟨he₂, -, hpay⟩ := settleOrder_run (by rw [hdb₁]; exact ho) hj hsettle
      have htransact : Billing.Run admin
          { db₂.billingLedger with events := db.paymentEvents.set eventId (e.markProcessed now) }
          ((db₂.createProviderTransaction (paidTransaction e orderId attemptId (e.amountMinor.getD 0)
            (e.currency.getD o.amount.currency))).saveEvent eventId
              (e.markProcessed now)).billingLedger := by
        rw [← hevents, ← he₂]
        exact transact_run (paidTransaction_type _ _ _ _ _)
      exact ((hrun₁.trans hprocess).trans hpay).trans htransact

theorem resolvePaid_run (hrow : db.paymentEvents[eventId]? = some e) (hopen : e.isClosed = false)
    (htype : e.eventType ≠ "refund.succeeded")
    (h : resolvePaid now db e eventId = .ok (r, db')) :
    Billing.Run admin db.billingLedger db'.billingLedger := by
  unfold resolvePaid at h
  split at h
  · cases h
    exact .single (rejectEvent_step hrow hopen _)
  next attemptId hattempt =>
    split at h
    · cases h
      exact .single (rejectEvent_step hrow hopen _)
    next a ha =>
      split at h
      · cases h
        exact .single (rejectEvent_step hrow hopen _)
      next o ho => exact processPaid_run hrow hopen htype hattempt ha ho h

theorem closeOrder_run {o : PaymentOrder} {status : PaymentStatus} (hstatus : status ≠ .paid)
    (hrow : db.paymentEvents[eventId]? = some e) (hopen : e.isClosed = false)
    (htype : e.eventType ≠ "refund.succeeded") (ho : db.paymentOrders[orderId]? = some o)
    (h : closeOrder now db e eventId orderId o status = .ok (r, db')) :
    Billing.Run admin db.billingLedger db'.billingLedger := by
  obtain ⟨⟨o', changed⟩, hext, h₁⟩ := bind_eq_ok.1 h
  cases h₁
  rcases PaymentOrder.applyExternalStatus_ok hstatus hext with ⟨rfl, -⟩ | ⟨rfl, hs, hs', hc, hp, hm⟩
  · exact process_run hrow hopen htype
  · have hclose : Billing.Run admin db.billingLedger (db.saveOrder orderId o').billingLedger :=
      .single (.close orderId o o' ho hs hs' hc hp hm)
    have hdone : Billing.Run admin (db.saveOrder orderId o').billingLedger
        ((db.saveOrder orderId o').saveEvent eventId (e.markProcessed now)).billingLedger :=
      process_run hrow hopen htype
    exact hclose.trans hdone

theorem processUnsuccessful_run {attempt : Option (PaymentAttempt × ℕ)} {o : PaymentOrder}
    {status : PaymentStatus} (hstatus : status ≠ .paid)
    (hrow : db.paymentEvents[eventId]? = some e) (hopen : e.isClosed = false)
    (htype : e.eventType ≠ "refund.succeeded") (ho : db.paymentOrders[orderId]? = some o)
    (hattempt : ∀ (a : PaymentAttempt) (j : ℕ), attempt = some (a, j) →
      db.paymentAttempts[j]? = some a)
    (h : processUnsuccessful now db e eventId attempt orderId o status = .ok (r, db')) :
    Billing.Run admin db.billingLedger db'.billingLedger := by
  unfold processUnsuccessful at h
  split at h
  · exact closeOrder_run hstatus hrow hopen htype ho h
  next a j =>
    dsimp only at h
    split_ifs at h with hstale
    · cases h
      exact ignore_run hrow hopen _
    · obtain ⟨db₁, hsave, h₁⟩ := bind_eq_ok.1 h
      have hrun₁ : Billing.Run admin db.billingLedger db₁.billingLedger := by
        refine saveAttempt_run (hattempt a j rfl) ?_ hsave
        refine (a.applyProviderStatus_cases status e.payload hstale).imp And.left ?_
        rintro ⟨hf, ha'⟩
        rw [ha']
        exact ⟨hf, rfl, rfl⟩
      have hdb₁ := saveAttempt_ok hsave
      refine hrun₁.trans (closeOrder_run hstatus ?_ hopen htype ?_ h₁)
      · rw [hdb₁]
        exact hrow
      · rw [hdb₁]
        exact ho

theorem attemptOf_row {a : PaymentAttempt} {j : ℕ} (h : attemptOf db e orderId = some (a, j)) :
    db.paymentAttempts[j]? = some a := by
  unfold attemptOf at h
  split at h
  next attempt hown =>
    obtain ⟨id, -, hid⟩ := Option.bind_eq_some_iff.1 hown
    obtain ⟨a', ha', hpair⟩ := Option.map_eq_some_iff.1 hid
    rw [← hpair] at h
    cases h
    exact ha'
  · exact (Table.lastWhere_some h).1

theorem resolveOther_run (hrow : db.paymentEvents[eventId]? = some e) (hopen : e.isClosed = false)
    (htype : e.eventType ≠ "refund.succeeded")
    (h : resolveOther now db e eventId = .ok (r, db')) :
    Billing.Run admin db.billingLedger db'.billingLedger := by
  unfold resolveOther at h
  split at h
  · cases h
    exact ignore_run hrow hopen none
  next o orderId horder =>
    obtain ⟨id, -, hid⟩ := Option.bind_eq_some_iff.1 horder
    obtain ⟨o', ho', hpair⟩ := Option.map_eq_some_iff.1 hid
    cases hpair
    have hun : ∀ status, status ≠ .paid →
        processUnsuccessful now db e eventId (attemptOf db e orderId) orderId o status =
          .ok (r, db') → Billing.Run admin db.billingLedger db'.billingLedger :=
      fun status hs h₁ => processUnsuccessful_run hs hrow hopen htype ho'
        (fun a j ha => attemptOf_row ha) h₁
    split at h
    next hs => exact hun _ (by rw [hs]; decide) h
    next hs => exact hun _ (by rw [hs]; decide) h
    next hs => exact hun _ (by rw [hs]; decide) h
    · cases h
      exact ignore_run hrow hopen none

theorem execute_run (hactor : admin.refunds eventId) (h : execute now db eventId = .ok (r, db')) :
    Billing.Run admin db.billingLedger db'.billingLedger := by
  unfold execute at h
  split at h
  · cases h
    exact .refl
  next e hrow =>
    split_ifs at h with hprocessed hignored htype hpaid
    · cases h
      exact .refl
    · cases h
      exact .refl
    · have hopen : e.isClosed = false := by simp [PaymentEvent.isClosed, hprocessed, hignored]
      have hr : (processRefund now db e eventId).2 = db' := congrArg Prod.snd (Except.ok.inj h)
      rw [← hr]
      exact .single (processRefund_step hactor hrow hopen htype)
    · have hopen : e.isClosed = false := by simp [PaymentEvent.isClosed, hprocessed, hignored]
      exact resolvePaid_run hrow hopen htype h
    · have hopen : e.isClosed = false := by simp [PaymentEvent.isClosed, hprocessed, hignored]
      exact resolveOther_run hrow hopen htype h

end ProcessPayment

variable {admin : Billing.Actor} {db db' : Database} {now : DateTime}

theorem Payload.get_insert (payload : Payload) (key : String) (value : PayloadValue) :
    (payload.insert key value).get key = value := by
  unfold Payload.get Payload.insert
  rw [List.lookup_append, List.lookup_eq_none_iff.2]
  · simp
  · intro entry hentry
    have hne := (List.mem_filter.1 hentry).2
    simp only [ne_eq, decide_not, Bool.not_eq_true', decide_eq_false_iff_not] at hne
    simpa using Ne.symm hne

theorem AdminOperations.markPaymentOrderPaid_run {orderId : ℕ} {r : Option ℕ}
    (hactor : admin.settles orderId)
    (h : AdminOperations.markPaymentOrderPaid db orderId now = .ok (r, db')) :
    Billing.Run admin db.billingLedger db'.billingLedger := by
  unfold AdminOperations.markPaymentOrderPaid at h
  split at h
  · cases h
  next o hrow =>
    obtain ⟨⟨o', changed⟩, hmark, h₁⟩ := bind_eq_ok.1 h
    rcases PaymentOrder.markPaid_ok hmark with ⟨rfl, ho, -⟩ | ⟨rfl, hstatus, ho⟩
    · cases h₁
      exact .refl
    · obtain ⟨⟨sid, pid, db₁⟩, hact, h₂⟩ := bind_eq_ok.1 h₁
      cases h₂
      have hmanual : PaymentOrder.manuallySettled
          { o' with metadata := o'.metadata.insert "manual_settlement" (.nested true) } = true := by
        unfold PaymentOrder.manuallySettled
        rw [Payload.get_insert]
        rfl
      obtain ⟨hevents, -, hrun⟩ := activate_run admin db.paymentEvents hrow hstatus
        (by rw [ho]) (by rw [ho]) (by rw [ho]; rfl) (.inl ⟨hactor, hmanual⟩) hact
      have hsame : ({ db₁.billingLedger with events := db.paymentEvents } : Billing) =
          db₁.billingLedger := by
        rw [← hevents]
        rfl
      rw [hsame] at hrun
      exact hrun

theorem ReconcileSubscriptions.processAnomaly_run (a : ReconciliationAnomaly) :
    Billing.Run admin db.billingLedger
      (ReconcileSubscriptions.processAnomaly db a now).billingLedger := by
  unfold ReconcileSubscriptions.processAnomaly
  split
  · unfold ReconcileSubscriptions.expireSubscription
    split
    · exact .refl
    next s hrow =>
      split_ifs with hstatus hcurrent
      · exact .refl
      · exact .refl
      · refine .single (.expire now a.entityId s hrow (not_not.1 hstatus) fun p hp hsid => ?_)
        rw [Bool.not_eq_true, ← hasCurrentPeriod_eq] at hcurrent
        have hfalse := List.any_eq_false.1 hcurrent p hp
        rw [hsid, decide_eq_true rfl, Bool.true_and, Bool.not_eq_true] at hfalse
        exact hfalse
  · exact .refl

theorem Database.saveWebhookInbox_ledger (row : WebhookInboxRow) :
    (db.saveWebhookInbox row).2.2.billingLedger = db.billingLedger := by
  unfold saveWebhookInbox
  split <;> rfl

theorem Database.createPaymentEvent_run {e : PaymentEvent} {id : ℕ} (hs : e.status = .received)
    (hlinked : ∀ j, e.paymentAttemptId = some j →
      ∃ a, db.paymentAttempts[j]? = some a ∧ e.provider = a.provider)
    (h : db.createPaymentEvent e = .ok (id, db')) :
    Billing.Run admin db.billingLedger db'.billingLedger := by
  unfold createPaymentEvent at h
  split at h
  · cases h
    exact .refl
  · split_ifs at h with hany
    cases h
    refine .single (.receive e hs (fun f hf hkey => hany ?_) hlinked)
    exact List.any_eq_true.2 ⟨f, hf, by simpa using hkey⟩

/-- An event is linked to an attempt of its provider. -/
theorem IngestWebhook.eventOf_attempt {provider : String} {w : NormalizedWebhookEvent} {j : ℕ}
    (h : (eventOf db provider w).paymentAttemptId = some j) :
    ∃ a, db.paymentAttempts[j]? = some a ∧ (eventOf db provider w).provider = a.provider := by
  obtain ⟨⟨a, i⟩, hfound, rfl⟩ := Option.map_eq_some_iff.1 h
  obtain ⟨id, -, hattempt⟩ := Option.bind_eq_some_iff.1 hfound
  obtain ⟨hrow, hmatch⟩ := Table.firstWhere_some hattempt
  simp only [Bool.and_eq_true, decide_eq_true_eq] at hmatch
  exact ⟨a, hrow, hmatch.1.symm⟩

theorem IngestWebhook.execute_run {provider : String} {w : NormalizedWebhookEvent}
    {headers rawPayload : Payload} {r : IngestResult}
    (h : IngestWebhook.execute db provider w headers rawPayload now = .ok (r, db')) :
    Billing.Run admin db.billingLedger db'.billingLedger := by
  obtain ⟨⟨eventId, db₁⟩, he, h₁⟩ := bind_eq_ok.1 h
  cases h₁
  have hrun : Billing.Run admin (db.saveWebhookInbox
      ⟨provider, w.eventKey, headers, rawPayload, .received, none⟩).2.2.billingLedger
      db₁.billingLedger :=
    createPaymentEvent_run rfl (fun _ => IngestWebhook.eventOf_attempt) he
  rw [saveWebhookInbox_ledger] at hrun
  exact hrun

namespace CreatePayment

variable {request : PaymentRequest} {leaseSeconds : ℤ} {token : Uuid} {p : PreparedPaymentOrder}
  {orderId attemptId : ℕ} {o : PaymentOrder} {name : String}

theorem claimCreation_run (ho : db.paymentOrders[orderId]? = some o)
    (h : claimCreation db orderId o name now leaseSeconds token = .ok (p, db')) :
    Billing.Run admin db.billingLedger db'.billingLedger := by
  obtain ⟨claim, hclaim, h₁⟩ := bind_eq_ok.1 h
  obtain ⟨⟨id, db₁⟩, hadd, h₂⟩ := bind_eq_ok.1 h₁
  cases h₂
  obtain ⟨hstatus, horder⟩ : claim.status = .created ∧
      ∃ o, db.paymentOrders[claim.paymentOrderId]? = some o ∧ claim.provider = o.provider := by
    unfold PaymentAttempt.claimCreation at hclaim
    split_ifs at hclaim
    cases hclaim
    exact ⟨rfl, o, ho, rfl⟩
  unfold Database.addAttempt at hadd
  split_ifs at hadd
  cases hadd
  exact .single (.claim claim hstatus horder)

theorem failCreation_run {a : PaymentAttempt} {diagnostic : String}
    (hrow : db.paymentAttempts[attemptId]? = some a)
    (h : db.saveAttempt attemptId (a.failCreation now diagnostic) = .ok db') :
    Billing.Run admin db.billingLedger db'.billingLedger := by
  refine saveAttempt_run hrow ?_ h
  unfold PaymentAttempt.failCreation
  split_ifs with hs
  · exact .inl rfl
  · exact .inr ⟨by rw [not_not.1 hs]; rfl, rfl, rfl⟩

theorem resolveAttempt_run (ho : db.paymentOrders[orderId]? = some o)
    (h : resolveAttempt db orderId o name now leaseSeconds token = .ok (p, db')) :
    Billing.Run admin db.billingLedger db'.billingLedger := by
  unfold resolveAttempt at h
  split at h
  · exact claimCreation_run ho h
  next a attemptId hlatest =>
    dsimp only at h
    split_ifs at h
    · cases h
      exact .refl
    · obtain ⟨db₂, hsave, h₁⟩ := bind_eq_ok.1 h
      refine (failCreation_run (Table.lastWhere_some hlatest).1 hsave).trans
        (claimCreation_run ?_ h₁)
      rw [saveAttempt_ok hsave]
      exact ho
    · exact claimCreation_run ho h
    · cases h
      exact .refl

theorem prepareOrder_run
    (h : prepareOrder db request now leaseSeconds token = .ok (p, db')) :
    Billing.Run admin db.billingLedger db'.billingLedger := by
  obtain ⟨⟨userId, db₁⟩, huser, h₁⟩ := bind_eq_ok.1 h
  have hledger : db₁.billingLedger = db.billingLedger := by
    unfold resolveUser at huser
    split at huser
    · cases huser
      rfl
    · obtain ⟨-, -, huser'⟩ := bind_eq_ok.1 huser
      cases huser'
      rfl
  dsimp only at h₁
  split at h₁
  · cases h₁
  · obtain ⟨-, -, h₂⟩ := bind_eq_ok.1 h₁
    obtain ⟨-, -, h₃⟩ := bind_eq_ok.1 h₂
    split at h₃
    · cases h₃
    next o ho =>
      obtain ⟨-, -, h₄⟩ := bind_eq_ok.1 h₃
      refine ReflTransGen.trans ?_ (resolveAttempt_run ho h₄)
      unfold addOrder
      split
      · rw [hledger]
      · rw [← hledger]
        exact .single (.openOrder _ rfl rfl rfl)

theorem finalizeOwnedClaim_run {intent : PaymentIntent} {a : PaymentAttempt}
    (h : finalizeOwnedClaim db orderId o attemptId token intent now = .ok (a, db')) :
    Billing.Run admin db.billingLedger db'.billingLedger := by
  unfold finalizeOwnedClaim at h
  split at h
  · cases h
  next a₀ hrow =>
    split_ifs at h with howns
    · obtain ⟨a', hfinal, h₁⟩ := bind_eq_ok.1 h
      obtain ⟨db₁, hsave, h₂⟩ := bind_eq_ok.1 h₁
      cases h₂
      refine ReflTransGen.trans (saveAttempt_run hrow (.inr ?_) hsave)
        (createProviderTransaction_run ?_)
      · unfold PaymentAttempt.finalizeCreation at hfinal
        split_ifs at hfinal with hs
        cases hfinal
        exact ⟨by rw [not_not.1 hs]; rfl, rfl, rfl⟩
      · change "invoice_created" ≠ "refund_succeeded"
        decide
    · split at h
      · cases h
      · cases h
        exact .refl

theorem failOwnedClaim_run (h : failOwnedClaim db attemptId token now = .ok db') :
    Billing.Run admin db.billingLedger db'.billingLedger := by
  unfold failOwnedClaim at h
  split at h
  · cases h
    exact .refl
  next a hrow =>
    split_ifs at h
    · exact failCreation_run hrow h
    · cases h
      exact .refl

end CreatePayment

end ShopBot
