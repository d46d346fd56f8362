import Mathlib
import ShopBot.Guarantees.Entitlement
import ShopBot.System.SubscriptionHistory

/-! # The time line of a subscription

A new period follows every earlier one of its subscription, paid or not. So periods never
overlap, and a purchase waits behind refunded time exactly when that ends last.
-/

namespace ShopBot

open Database

/-! ## One activation -/

section Activation

variable {db db₁ db' : Database} {userId tariffId periodDays sid pid : ℕ} {now : DateTime}
  {paymentOrderId : Option ℕ} {p q : SubscriptionPeriod} {last : Option SubscriptionPeriod}

theorem Subscription.extend_startsAt {s : Subscription} {id : Option ℕ}
    {r : Subscription × SubscriptionPeriod} (h : s.extend id periodDays now last = .ok r) :
    r.2.startsAt = last.elim now fun l => max now l.expiresAt := by
  unfold Subscription.extend at h
  split_ifs at h
  · obtain ⟨s', -, h⟩ := bind_eq_ok.1 h
    cases h
    cases last <;> rfl
  · obtain ⟨s', -, h⟩ := bind_eq_ok.1 h
    cases h
    cases last <;> rfl

/-- Where the period of an activation starts: after the last one of the subscription it
extends, or now. -/
inductive StartsAt (db : Database) (userId tariffId sid : ℕ) (now : DateTime)
    (p : SubscriptionPeriod) : Prop where
  | extended (s : Subscription) (active : db.getActiveSubscriptionForUser userId = some (s, sid))
      (tariff : s.tariffId = tariffId)
      (starts : p.startsAt = (db.getLastPeriod sid).elim now fun l => max now l.expiresAt) :
      StartsAt db userId tariffId sid now p

  | created (new : sid = db.subscriptions.length) (starts : p.startsAt = now)
      (other : ∀ (s : Subscription) (id : ℕ),
        db.getActiveSubscriptionForUser userId = some (s, id) → s.tariffId ≠ tariffId) :
      StartsAt db userId tariffId sid now p

/-- What an activation does. -/
structure Appends (db : Database) (userId tariffId periodDays sid : ℕ) (now : DateTime)
    (paymentOrderId : Option ℕ) (db' : Database) (p : SubscriptionPeriod) : Prop
    extends Subscribes now userId sid db.subscriptions db'.subscriptions where
  periods : db'.subscriptionPeriods = db.subscriptionPeriods ++ [p]
  owner : p.subscriptionId = some sid
  order : p.paymentOrderId = paymentOrderId
  starts : StartsAt db userId tariffId sid now p
  length : p.expiresAt = p.startsAt + days periodDays

theorem addPeriod_rows (h : db.addPeriod p = .ok (pid, db')) :
    db' = { db with subscriptionPeriods := db.subscriptionPeriods ++ [p] } := by
  unfold addPeriod at h
  split_ifs at h
  cases h
  rfl

/-- The subscription that is stored, and where its new period starts. -/
theorem storeSubscription_starts {active : Option (Subscription × ℕ)}
    {activation : SubscriptionActivation}
    (hactive : db.getActiveSubscriptionForUser userId = active)
    (hact : applyPaidPeriod active (active.bind fun (s, id) =>
      if s.tariffId = tariffId then db.getLastPeriod id else none) userId tariffId periodDays now =
        .ok activation)
    (h : ActivateSubscription.storeSubscription
      (ActivateSubscription.saveReplaced db activation active) activation active = .ok (sid, db'))
    (hp : p.startsAt = activation.period.startsAt) : StartsAt db userId tariffId sid now p := by
  rcases active with _ | ⟨s₀, id⟩
  · obtain ⟨hsub, hcreated, hreplaced, -⟩ := applyPaidPeriod_none hact
    obtain ⟨x, hx, hact⟩ := bind_eq_ok.1 hact
    cases hact
    have hstart := Subscription.extend_startsAt hx
    unfold ActivateSubscription.storeSubscription ActivateSubscription.saveReplaced at h
    obtain ⟨rfl, -⟩ := addSubscription_ok (by rw [hsub]; rfl) h
    refine .created rfl (hp.trans hstart) fun s id hs => ?_
    rw [hactive] at hs
    cases hs
  · obtain ⟨hrow, hmatch⟩ := Table.firstWhere_some hactive
    simp only [Bool.and_eq_true, decide_eq_true_eq] at hmatch
    obtain ⟨-, ⟨hne, hsub, hcreated, hreplaced⟩ | ⟨heq, hsub, hcreated, hreplaced⟩⟩ :=
      applyPaidPeriod_some hmatch.2 hact
    · unfold applyPaidPeriod at hact
      dsimp only at hact
      rw [if_pos hne] at hact
      obtain ⟨x, hx, hact⟩ := bind_eq_ok.1 hact
      cases hact
      have hstart := Subscription.extend_startsAt hx
      unfold ActivateSubscription.storeSubscription ActivateSubscription.saveReplaced at h
      obtain ⟨rfl, -⟩ := addSubscription_ok (by rw [hsub]; rfl) h
      refine .created (by simp [saveSubscription]) (hp.trans hstart) fun s id hs => ?_
      cases hactive.symm.trans hs
      exact hne
    · unfold applyPaidPeriod at hact
      dsimp only [Option.bind_some] at hact
      rw [if_neg (not_not.2 heq), if_pos heq] at hact
      obtain ⟨x, hx, hact⟩ := bind_eq_ok.1 hact
      cases hact
      have hstart := Subscription.extend_startsAt hx
      unfold ActivateSubscription.storeSubscription at h
      cases h
      exact .extended s₀ hactive heq (hp.trans hstart)

/-- An activation adds one period. -/
theorem execute_appends (h : ActivateSubscription.execute db userId tariffId periodDays now
    paymentOrderId = .ok (sid, pid, db')) :
    ∃ p, Appends db userId tariffId periodDays sid now paymentOrderId db' p := by
  obtain ⟨activation, hact, h⟩ := bind_eq_ok.1 h
  obtain ⟨⟨sid', db₁⟩, hstore, h⟩ := bind_eq_ok.1 h
  obtain ⟨⟨pid', db₂⟩, hadd, h⟩ := bind_eq_ok.1 h
  cases h
  obtain ⟨⟨-, -, hlength⟩, hdb₁, hs⟩ := ActivateSubscription.stored rfl hact hstore
  have hrows := addPeriod_rows hadd
  have hperiods : db₁.subscriptionPeriods = db.subscriptionPeriods := by rw [hdb₁]
  rw [hrows]
  exact ⟨{ activation.period with
      subscriptionId := some sid
      paymentOrderId := paymentOrderId }, { hs with
    periods := by rw [hperiods]
    owner := rfl
    order := rfl
    starts := storeSubscription_starts rfl hact hstore rfl
    length := hlength }⟩

end Activation

/-! ## Histories -/

namespace SubscriptionHistory

variable {h h' : SubscriptionHistory} {event : SubscriptionEvent} {i j sid orderId : ℕ}
  {p q : SubscriptionPeriod} {now : DateTime}

/-- Periods of one subscription follow each other as they were bought, and each covers what
was bought from its activation on. -/
structure Inv (h : SubscriptionHistory) : Prop where
  owners : ∀ p ∈ h.db.subscriptionPeriods, ∃ sid, p.subscriptionId = some sid ∧
    sid < h.db.subscriptions.length
  ordered : ∀ (i j : ℕ) (p q : SubscriptionPeriod), i < j →
    h.db.subscriptionPeriods[i]? = some p → h.db.subscriptionPeriods[j]? = some q →
    p.subscriptionId = q.subscriptionId → p.expiresAt ≤ q.startsAt
  length : h.purchases.length = h.db.subscriptionPeriods.length
  bought : ∀ (i : ℕ) (p : SubscriptionPeriod) (d : ℕ) (bought : DateTime),
    h.db.subscriptionPeriods[i]? = some p → h.purchases[i]? = some (d, bought) →
    bought ≤ p.startsAt ∧ p.expiresAt = p.startsAt + days d
  oneActive : Billing.OneActive h.db.subscriptions

theorem Inv.of_initial (hi : h.Initial) : h.Inv := by
  obtain ⟨hs, hp, hb⟩ := hi
  refine ⟨?_, ?_, by rw [hp, hb]; rfl, ?_, ?_⟩
  · simp [hp]
  · simp [hp]
  · simp [hp]
  · intro i j s t hst
    rw [hs] at hst
    cases hst

/-- The new period starts after every period of its subscription. -/
theorem Inv.follows (hinv : h.Inv) {userId tariffId periodDays : ℕ} {paymentOrderId : Option ℕ}
    {db' : Database} (ha : Appends h.db userId tariffId periodDays sid now paymentOrderId db' p) :
    now ≤ p.startsAt ∧ ∀ q ∈ h.db.subscriptionPeriods, q.subscriptionId = some sid →
      q.expiresAt ≤ p.startsAt := by
  cases ha.starts with
  | created new starts other =>
    refine ⟨starts.ge, fun q hq hsub => ?_⟩
    obtain ⟨sid', hsub', hlt⟩ := hinv.owners q hq
    obtain rfl := Option.some.inj (hsub'.symm.trans hsub)
    omega
  | extended s active tariff starts =>
    cases hl : h.db.getLastPeriod sid with
    | none =>
      rw [hl] at starts
      refine ⟨starts.ge, fun q hq hsub => ?_⟩
      have hmem : q ∈ h.db.subscriptionPeriods.filter (·.subscriptionId = some sid) :=
        List.mem_filter.2 ⟨hq, decide_eq_true hsub⟩
      have hempty : (h.db.getLastPeriod sid).isSome = _ := latestBy_isSome
      rw [hl, List.isEmpty_eq_false_iff.2 (List.ne_nil_of_mem hmem)] at hempty
      cases hempty
    | some l =>
      rw [hl] at starts
      refine ⟨(le_max_left _ _).trans starts.ge, fun q hq hsub => ?_⟩
      have hle : q.expiresAt ≤ l.expiresAt :=
        latestBy_le hl (List.mem_filter.2 ⟨hq, decide_eq_true hsub⟩)
      exact (hle.trans (le_max_right _ _)).trans starts.ge

theorem Inv.activate (hinv : h.Inv) {userId tariffId periodDays : ℕ} {paymentOrderId : Option ℕ}
    (hexec : h.activate userId tariffId periodDays now paymentOrderId = some h') : h'.Inv := by
  obtain ⟨⟨sid, pid, db'⟩, hr, rfl⟩ := Option.map_eq_some_iff.1 hexec
  obtain ⟨p, ha⟩ := execute_appends (System.toOption_eq_some hr)
  obtain ⟨hnow, hfollows⟩ := hinv.follows ha
  have hsub : ∀ k, k < h.db.subscriptions.length → k < db'.subscriptions.length := by
    intro k hk
    obtain ⟨s', hs', -⟩ := ha.kept k _ (List.getElem?_eq_getElem hk)
    exact (List.getElem?_eq_some_iff.1 hs').1
  have hrow : ∀ {k : ℕ} {r : SubscriptionPeriod}, db'.subscriptionPeriods[k]? = some r →
      h.db.subscriptionPeriods[k]? = some r ∨
        (k = h.db.subscriptionPeriods.length ∧ r = p) := by
    intro k r hk
    rw [ha.periods] at hk
    rcases Nat.lt_or_ge k h.db.subscriptionPeriods.length with hlt | hge
    · rw [List.getElem?_append_left hlt] at hk
      exact .inl hk
    · have hlt := (List.getElem?_eq_some_iff.1 hk).1
      rw [List.length_append, List.length_singleton] at hlt
      rw [List.getElem?_append_right hge] at hk
      exact .inr ⟨by omega, List.mem_singleton.1 (List.mem_of_getElem? hk)⟩
  refine ⟨fun r hr => ?_, fun i j r q hij hr hq hown => ?_, ?_, fun i r d b hr hb => ?_,
    Billing.Subscribes.oneActive ha.toSubscribes hinv.oneActive⟩
  · rw [ha.periods] at hr
    rcases List.mem_append.1 hr with hr | hr
    · obtain ⟨sid', hown, hlt⟩ := hinv.owners r hr
      exact ⟨sid', hown, hsub sid' hlt⟩
    · obtain rfl := List.mem_singleton.1 hr
      obtain ⟨s, hs, -⟩ := ha.subscription
      exact ⟨sid, ha.owner, (List.getElem?_eq_some_iff.1 hs).1⟩
  · rcases hrow hr with hr | ⟨rfl, rfl⟩
    · rcases hrow hq with hq | ⟨-, rfl⟩
      · exact hinv.ordered i j r q hij hr hq hown
      · exact hfollows r (List.mem_of_getElem? hr) (hown.trans ha.owner)
    · rcases hrow hq with hq | ⟨rfl, -⟩
      · have hlt := (List.getElem?_eq_some_iff.1 hq).1
        omega
      · omega
  · dsimp only
    rw [ha.periods, List.length_append, List.length_append, hinv.length]
    rfl
  · dsimp only at hb
    rcases hrow hr with hr | ⟨rfl, rfl⟩
    · have hlt := (List.getElem?_eq_some_iff.1 hr).1
      rw [List.getElem?_append_left (hinv.length ▸ hlt)] at hb
      exact hinv.bought i r d b hr hb
    · rw [← hinv.length, List.getElem?_append_right le_rfl, Nat.sub_self] at hb
      obtain ⟨rfl, rfl⟩ := Prod.mk.inj (Option.some.inj hb)
      exact ⟨hnow, ha.length⟩

/-- Refunds and expirations leave the times of all periods as they are. -/
theorem Inv.of_kept (hinv : h.Inv) {db' : Database}
    (hlength : db'.subscriptionPeriods.length = h.db.subscriptionPeriods.length)
    (hperiods : ∀ (i : ℕ) (p' : SubscriptionPeriod), db'.subscriptionPeriods[i]? = some p' →
      ∃ p, h.db.subscriptionPeriods[i]? = some p ∧ p.subscriptionId = p'.subscriptionId ∧
        p.startsAt = p'.startsAt ∧ p.expiresAt = p'.expiresAt)
    (hsubs : db'.subscriptions.length = h.db.subscriptions.length)
    (hone : Billing.OneActive db'.subscriptions) : { h with db := db' }.Inv := by
  refine ⟨fun p' hp' => ?_, fun i j p' q' hij hp' hq' hown => ?_, hinv.length.trans hlength.symm,
    fun i p' d b hp' hb => ?_, hone⟩
  · obtain ⟨i, hi⟩ := List.mem_iff_getElem?.1 hp'
    obtain ⟨p, hp, hown, -⟩ := hperiods i p' hi
    obtain ⟨sid, hsid, hlt⟩ := hinv.owners p (List.mem_of_getElem? hp)
    exact ⟨sid, hown.symm.trans hsid, hsubs.symm ▸ hlt⟩
  · obtain ⟨p, hp, hpo, -, hpe⟩ := hperiods i p' hp'
    obtain ⟨q, hq, hqo, hqs, -⟩ := hperiods j q' hq'
    rw [← hpe, ← hqs]
    exact hinv.ordered i j p q hij hp hq (hpo.trans (hown.trans hqo.symm))
  · obtain ⟨p, hp, -, hps, hpe⟩ := hperiods i p' hp'
    rw [← hpe, ← hps]
    exact hinv.bought i p d b hp hb

theorem Inv.refund (hinv : h.Inv) :
    { h with db := (ProcessPayment.withdrawFunding now h.db orderId).2 }.Inv := by
  have hset : ∀ {periods : List SubscriptionPeriod} {k : ℕ} {r : SubscriptionPeriod},
      periods[k]? = some r → ∀ (i : ℕ) (p' : SubscriptionPeriod),
      (periods.set k { r with isPaid := false })[i]? = some p' →
      ∃ p, periods[i]? = some p ∧ p.subscriptionId = p'.subscriptionId ∧
        p.startsAt = p'.startsAt ∧ p.expiresAt = p'.expiresAt := by
    intro periods k r hr i p' hp'
    by_cases hi : i = k
    · subst hi
      rw [List.getElem?_set_self (List.getElem?_eq_some_iff.1 hr).1] at hp'
      cases hp'
      exact ⟨r, hr, rfl, rfl, rfl⟩
    · rw [List.getElem?_set_ne (Ne.symm hi)] at hp'
      exact ⟨p', hp', rfl, rfl, rfl⟩
  obtain ⟨-, -, hw⟩ := ProcessPayment.withdrawFunding_withdrawal now h.db orderId
  generalize (ProcessPayment.withdrawFunding now h.db orderId).2 = db' at hw
  generalize hsubs : db'.subscriptions = subs at hw
  generalize hperiods : db'.subscriptionPeriods = periods at hw
  cases hw with
  | nothing free =>
    refine hinv.of_kept (by rw [hperiods]) ?_ (by rw [hsubs]) (by rw [hsubs]; exact hinv.oneActive)
    intro i p' hp'
    rw [hperiods] at hp'
    exact ⟨p', hp', rfl, rfl, rfl⟩
  | unpaid k r row order =>
    refine hinv.of_kept (by rw [hperiods, List.length_set]) ?_ (by rw [hsubs])
      (by rw [hsubs]; exact hinv.oneActive)
    intro i p' hp'
    rw [hperiods] at hp'
    exact hset row i p' hp'
  | ended k sid r s row order subscription unfunded =>
    refine hinv.of_kept (by rw [hperiods, List.length_set]) ?_ (by rw [hsubs, List.length_set]) ?_
    · intro i p' hp'
      rw [hperiods] at hp'
      exact hset row i p' hp'
    · rw [hsubs]
      exact hinv.oneActive.of_kept fun i s' hs' ha => Billing.active_of_set subscription hs' ha

theorem Inv.expire (hinv : h.Inv) :
    { h with db := (ReconcileSubscriptions.expireSubscription h.db sid now).2 }.Inv := by
  unfold ReconcileSubscriptions.expireSubscription
  split
  · exact hinv
  next s hs =>
    split_ifs
    · exact hinv
    · exact hinv
    · have hrow : h.db.subscriptions[sid]? = some s := hs
      refine hinv.of_kept rfl (fun i p' hp' => ⟨p', hp', rfl, rfl, rfl⟩)
        (by simp [appendAudit, saveSubscription]) ?_
      exact hinv.oneActive.of_kept fun i s' hs' ha => Billing.active_of_set hrow hs' ha

theorem Inv.step (hinv : h.Inv) (hstep : Transition.Labelled exec h h') : h'.Inv := by
  obtain ⟨event, hexec⟩ := hstep
  cases event with
  | activate userId tariffId periodDays now paymentOrderId => exact hinv.activate hexec
  | refund orderId now =>
    cases hexec
    exact hinv.refund
  | expire subscriptionId now =>
    cases hexec
    exact hinv.expire

theorem Reachable.inv (hr : h.Reachable) : h.Inv :=
  Transition.Reachable.invariant Inv (fun _ => .of_initial) (fun _ _ _ hi hs => hi.step hs) hr

theorem Inv.disjoint (hinv : h.Inv) (hij : i ≠ j) (hp : h.db.subscriptionPeriods[i]? = some p)
    (hq : h.db.subscriptionPeriods[j]? = some q) (hown : p.subscriptionId = q.subscriptionId) :
    Disjoint (Set.Ico p.startsAt p.expiresAt) (Set.Ico q.startsAt q.expiresAt) := by
  rw [Set.Ico_disjoint_Ico]
  rcases lt_or_gt_of_ne hij with hlt | hgt
  · have hle := hinv.ordered i j p q hlt hp hq hown
    exact (min_le_left _ _).trans (hle.trans (le_max_right _ _))
  · have hle := hinv.ordered j i q p hgt hq hp hown.symm
    exact (min_le_right _ _).trans (hle.trans (le_max_left _ _))

/-- Periods of a subscription are disjoint, each has the length that was bought and starts no
earlier, and a user has one active subscription, which has no end. -/
theorem subscription_timeline (hr : h.Reachable) :
    (∀ (i j : ℕ) (p q : SubscriptionPeriod), i ≠ j → h.db.subscriptionPeriods[i]? = some p →
      h.db.subscriptionPeriods[j]? = some q → p.subscriptionId = q.subscriptionId →
      Disjoint (Set.Ico p.startsAt p.expiresAt) (Set.Ico q.startsAt q.expiresAt)) ∧
    (∀ (i : ℕ) (p : SubscriptionPeriod), h.db.subscriptionPeriods[i]? = some p →
      ∃ periodDays bought, h.purchases[i]? = some (periodDays, bought) ∧ bought ≤ p.startsAt ∧
        p.expiresAt = p.startsAt + days periodDays) ∧
    (∀ (i j : ℕ) (s t : Subscription), h.db.subscriptions[i]? = some s →
      h.db.subscriptions[j]? = some t → s.userId = t.userId → s.status = .active →
      t.status = .active → i = j) ∧
    ∀ s ∈ h.db.subscriptions, s.status = .active → s.endedAt = none := by
  refine ⟨fun i j p q => hr.inv.disjoint, fun i p hp => ?_, hr.inv.oneActive,
    fun s _ => s.endedAt_of_active⟩
  have hlt : i < h.purchases.length := by
    rw [hr.inv.length]
    exact (List.getElem?_eq_some_iff.1 hp).1
  have hb : h.purchases[i]? = some (h.purchases[i].1, h.purchases[i].2) :=
    List.getElem?_eq_getElem hlt
  exact ⟨_, _, hb, hr.inv.bought i p _ _ hp hb⟩

def newcomer : SubscriptionHistory where
  db := {}

/-- Two renewals, the second one with a clock behind, a refund and a change of the tariff. -/
def renewals : List SubscriptionEvent :=
  [.activate 7 1 30 (days 10) (some 0), .activate 7 1 30 (days 2) (some 1),
    .refund 1 (days 12), .activate 7 1 60 (days 12) (some 2), .activate 7 2 30 (days 13) none,
    .expire 1 (days 100)]

theorem newcomer_initial : newcomer.Initial := ⟨rfl, rfl, rfl⟩

theorem subscription_timeline_renewals : ∃ (h : SubscriptionHistory) (p q : SubscriptionPeriod),
    h.Reachable ∧ h.db.subscriptionPeriods[0]? = some p ∧ h.db.subscriptionPeriods[2]? = some q ∧
    Disjoint (Set.Ico p.startsAt p.expiresAt) (Set.Ico q.startsAt q.expiresAt) := by
  obtain ⟨h, hh, hcond⟩ := (Option.any_eq_true _ _).1
    (show (Transition.execAll exec newcomer renewals).any (fun h =>
      (h.db.subscriptionPeriods[0]?).any fun p => (h.db.subscriptionPeriods[2]?).any fun q =>
        p.subscriptionId = q.subscriptionId) = true by decide +kernel)
  obtain ⟨p, hp, hcond⟩ := (Option.any_eq_true _ _).1 hcond
  obtain ⟨q, hq, hcond⟩ := (Option.any_eq_true _ _).1 hcond
  have hr : h.Reachable := Transition.Reachable.of_execAll newcomer_initial hh
  exact ⟨h, p, q, hr, hp, hq, (subscription_timeline hr).1 0 2 p q (by decide) hp hq
    (of_decide_eq_true hcond)⟩

end SubscriptionHistory

/-! ## Refunded time -/

/-- The end of the paid time of a subscription, or `now` when that is over. -/
def Database.fundedUntil (db : Database) (sid : ℕ) (now : DateTime) : DateTime :=
  ((db.paidPeriods sid).map (·.expiresAt)).foldr max now

section FundedUntil

variable {db : Database} {sid : ℕ} {now : DateTime} {p : SubscriptionPeriod}

theorem Database.now_le_fundedUntil : now ≤ db.fundedUntil sid now := by
  unfold fundedUntil
  induction (db.paidPeriods sid).map (·.expiresAt) with
  | nil => exact le_rfl
  | cons a rest ih => exact ih.trans (le_max_right _ _)

theorem Database.expiresAt_le_fundedUntil (hp : p ∈ db.paidPeriods sid) :
    p.expiresAt ≤ db.fundedUntil sid now :=
  List.le_max_of_le' now (List.mem_map_of_mem hp) le_rfl

end FundedUntil

namespace SubscriptionHistory

variable {h h' : SubscriptionHistory} {sid userId tariffId periodDays : ℕ} {now : DateTime}
  {paymentOrderId : Option ℕ} {s : Subscription}

/-- The period that extends the active subscription. -/
theorem extension (hactive : h.db.getActiveSubscriptionForUser userId = some (s, sid))
    (htariff : s.tariffId = tariffId)
    (hexec : h.exec (.activate userId tariffId periodDays now paymentOrderId) = some h') :
    ∃ p, h'.db.subscriptionPeriods = h.db.subscriptionPeriods ++ [p] ∧
      p.subscriptionId = some sid ∧
      p.startsAt = (h.db.getLastPeriod sid).elim now fun l => max now l.expiresAt := by
  obtain ⟨⟨sid', pid, db'⟩, hr, rfl⟩ := Option.map_eq_some_iff.1 hexec
  obtain ⟨p, ha⟩ := execute_appends (System.toOption_eq_some hr)
  cases ha.starts with
  | created new starts other => exact absurd htariff (other s sid hactive)
  | extended s' active tariff starts =>
    cases hactive.symm.trans active
    exact ⟨p, ha.periods, ha.owner, starts⟩

/-- The new period of an active subscription starts within the time that is paid, or now,
exactly when no refunded period ends after both. -/
theorem extension_without_gap_iff
    (hactive : h.db.getActiveSubscriptionForUser userId = some (s, sid))
    (htariff : s.tariffId = tariffId)
    (hexec : h.exec (.activate userId tariffId periodDays now paymentOrderId) = some h') :
    (∃ p, h'.db.subscriptionPeriods = h.db.subscriptionPeriods ++ [p] ∧
      p.startsAt ≤ h.db.fundedUntil sid now) ↔
    ∀ q ∈ h.db.subscriptionPeriods, q.subscriptionId = some sid → q.isPaid = false →
      q.expiresAt ≤ h.db.fundedUntil sid now := by
  obtain ⟨p, hp, -, hstart⟩ := extension hactive htariff hexec
  constructor
  · rintro ⟨p', hp', hle⟩ q hq hown -
    obtain rfl : p = p' := List.singleton_inj.1 (List.append_cancel_left (hp.symm.trans hp'))
    have hmem : q ∈ h.db.subscriptionPeriods.filter (·.subscriptionId = some sid) :=
      List.mem_filter.2 ⟨hq, decide_eq_true hown⟩
    cases hl : h.db.getLastPeriod sid with
    | none =>
      have hempty : (h.db.getLastPeriod sid).isSome = _ := latestBy_isSome
      rw [hl, List.isEmpty_eq_false_iff.2 (List.ne_nil_of_mem hmem)] at hempty
      cases hempty
    | some l =>
      rw [hl] at hstart
      have hlast : q.expiresAt ≤ l.expiresAt := latestBy_le hl hmem
      exact hlast.trans ((le_max_right now _).trans (hstart.ge.trans hle))
  · intro hrefunded
    refine ⟨p, hp, ?_⟩
    cases hl : h.db.getLastPeriod sid with
    | none =>
      rw [hl] at hstart
      exact hstart.le.trans now_le_fundedUntil
    | some l =>
      rw [hl] at hstart
      obtain ⟨hmem, hown⟩ := List.mem_filter.1 (latestBy_mem hl)
      have hown := of_decide_eq_true hown
      have hend : l.expiresAt ≤ h.db.fundedUntil sid now := by
        cases hpaid : l.isPaid with
        | true => exact expiresAt_le_fundedUntil (mem_paidPeriods.2 ⟨hmem, hown, hpaid⟩)
        | false => exact hrefunded l hmem hown hpaid
      exact hstart.le.trans (max_le now_le_fundedUntil hend)

/-- Two months are bought, the second one is refunded, and the client pays for another. -/
def repurchase : List SubscriptionEvent :=
  [.activate 7 1 30 0 (some 0), .activate 7 1 30 1 (some 1), .refund 1 2]

theorem extension_without_gap_repurchase : ∃ (h h' : SubscriptionHistory) (s : Subscription)
    (p : SubscriptionPeriod), h.Reachable ∧ h.db.getActiveSubscriptionForUser 7 = some (s, 0) ∧
    h'.db.subscriptionPeriods = h.db.subscriptionPeriods ++ [p] ∧
    p.startsAt ≤ h.db.fundedUntil 0 1 := by
  obtain ⟨h, hh, hcond⟩ := (Option.any_eq_true _ _).1
    (show (Transition.execAll exec newcomer [.activate 7 1 30 0 (some 0)]).any (fun h =>
      (h.exec (.activate 7 1 30 1 (some 1))).any fun _ =>
        (h.db.getActiveSubscriptionForUser 7).any fun r => r.1.tariffId = 1 ∧ r.2 = 0 ∧
          h.db.subscriptionPeriods.all (·.isPaid)) = true by decide +kernel)
  obtain ⟨h', hh', hcond⟩ := (Option.any_eq_true _ _).1 hcond
  obtain ⟨⟨s, sid⟩, hs, hcond⟩ := (Option.any_eq_true _ _).1 hcond
  obtain ⟨htariff, rfl, hpaid⟩ := of_decide_eq_true hcond
  obtain ⟨p, hp, hle⟩ := (extension_without_gap_iff hs htariff hh').2 fun q hq _ hfree =>
    absurd (List.all_eq_true.1 hpaid q hq) (by rw [hfree]; decide)
  exact ⟨h, h', s, p, Transition.Reachable.of_execAll newcomer_initial hh, hs, hp, hle⟩

/-- The third month begins after the refunded one although only the first is paid for. -/
theorem extension_after_refunded_time : ∃ (h h' : SubscriptionHistory) (s : Subscription)
    (p : SubscriptionPeriod), h.Reachable ∧ h.db.getActiveSubscriptionForUser 7 = some (s, 0) ∧ s.tariffId = 1 ∧
    h.exec (.activate 7 1 30 2 (some 2)) = some h' ∧
    h'.db.subscriptionPeriods = h.db.subscriptionPeriods ++ [p] ∧
    p.startsAt = days 60 ∧ h.db.fundedUntil 0 2 = days 30 := by
  obtain ⟨h, hh, hcond⟩ := (Option.any_eq_true _ _).1
    (show (Transition.execAll exec newcomer repurchase).any (fun h =>
      (h.exec (.activate 7 1 30 2 (some 2))).any fun _ =>
        (h.db.getActiveSubscriptionForUser 7).any fun r => r.1.tariffId = 1 ∧ r.2 = 0 ∧
          (h.db.getLastPeriod 0).any (·.expiresAt = days 60) ∧
          h.db.fundedUntil 0 2 = days 30) = true by decide +kernel)
  obtain ⟨h', hh', hcond⟩ := (Option.any_eq_true _ _).1 hcond
  obtain ⟨⟨s, sid⟩, hs, hcond⟩ := (Option.any_eq_true _ _).1 hcond
  obtain ⟨htariff, rfl, hlast, hfunded⟩ := of_decide_eq_true hcond
  obtain ⟨p, hp, -, hstart⟩ := extension hs htariff hh'
  obtain ⟨l, hl, hend⟩ := (Option.any_eq_true _ _).1 hlast
  rw [hl] at hstart
  refine ⟨h, h', s, p, Transition.Reachable.of_execAll newcomer_initial hh, hs, htariff, hh', hp,
    ?_, hfunded⟩
  rw [hstart]
  exact (congrArg (max 2) (of_decide_eq_true hend)).trans (by decide)

end SubscriptionHistory

end ShopBot
