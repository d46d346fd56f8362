import ShopBot.Lifecycle.InvoiceClaims

/-! # One invoice per order

Every statement of a call keeps the claims on invoice creation sound, provided that a claim
which has expired is failed before an invoice is stored on it. Then an order has at most
one attempt in creation, and its finalised attempt stays as it is and remains the last.
-/

namespace ShopBot

namespace InvoiceTransactions

open ReadCommitted PaymentAttempt Relation

variable {s s' : Ledgers} {i j : ℕ} {c c' : Call} {next : Stage} {now : DateTime}

/-! ## Statements -/

/-- A statement before the commit, and what holds after it. -/
structure Advance (i : ℕ) (s s' : Ledgers) : Prop where
  sound : Sound s'
  keyed : Keyed s'.orders s'.calls
  step : PrivateStep i s s'

section Statements

variable (h : Sound s) (hk : Keyed s.orders s.calls) (hc : s.calls[i]? = some c)
include h hk hc

theorem goto_advance (hnext : next.Sound s.orders s.attempts i)
    (hm : Call.Keyed s.orders i { c with stage := next }) : Advance i s (s.goto i c next) where
  sound := h.goto hc hnext
  keyed := hk.set hm
  step := ⟨fun _ => .refl, fun _ => .refl, Nat.le_refl _⟩

/-- The statement has locked a row of the attempts, or written one. -/
theorem attempts_advance {attempts : List (Row PaymentAttempt)}
    (ha : ∀ j, Row.Private i (row s.attempts j) (row attempts j))
    (hl : s.attempts.length ≤ attempts.length)
    (hown : ∀ j w, (row attempts j).holder = some i → (row attempts j).pending = some w →
      w.WellFormed ∧ (∀ v, (row s.attempts j).committed = some v → Replaces v w) ∧
        ((row s.attempts j).committed = none → Clear s.orders attempts i w.paymentOrderId j))
    (hnext : next.Sound s.orders attempts i)
    (hm : Call.Keyed s.orders i { c with stage := next }) :
    Advance i s ({ s with attempts := attempts }.goto i c next) where
  sound := h.private ⟨fun _ => .refl, ha, hl⟩ hc rfl hown hnext
  keyed := hk.set hm
  step := ⟨fun _ => .refl, ha, hl⟩

theorem rollback_advance (hnext : next.ended = true) : Advance i s (s.rollback i c next) := by
  have hsound : next.Sound (rollbackAll i s.orders) (rollbackAll i s.attempts) i := by
    cases next <;> trivial
  have hkeyed : Call.Keyed (rollbackAll i s.orders) i { c with stage := next } := by
    cases next <;> trivial
  have hpriv : ∀ k, Row.Private i (row s.orders k) (row (rollbackAll i s.orders) k) := by
    intro k
    rw [row_rollbackAll]
    exact Row.private_rollback
  refine ⟨h.rollback hc hsound, hk.private hpriv (fun k o ho => ?_) hkeyed, hpriv, fun j => ?_, ?_⟩
  · simp only [Ledgers.rollback, row_rollbackAll] at ho
    unfold Row.rollback at ho
    split_ifs at ho
    exact ho
  · simp only [Ledgers.rollback, row_rollbackAll]
    exact Row.private_rollback
  · simp [Ledgers.rollback, rollbackAll]

theorem addOrder_advance (hst : c.stage = .addOrder) (hs : addOrder s i c = some s') :
    Advance i s s' := by
  have hu : Untouched s.attempts i := by
    have := h.calls i c hc
    rwa [hst] at this
  unfold addOrder at hs
  split_ifs at hs with hb hcl
  · cases hs
    obtain ⟨k, r, hr, hv⟩ := Table.any_iff.1 hcl
    obtain ⟨o, ho, hko⟩ := (Option.any_eq_true _ _).1 hv
    exact goto_advance h hk hc hu ⟨k, o, by rw [row_of_getElem? hr]; exact ho, hko⟩
  · cases hs
    have hrow : row (s.orders ++ [Row.write i c.candidate {}]) = _ := row_append
    have hpriv : ∀ k, Row.Private i (row s.orders k)
        (row (s.orders ++ [Row.write i c.candidate {}]) k) := by
      intro k
      rw [hrow]
      by_cases hl : k = s.orders.length
      · subst hl
        rw [Function.update_self]
        have hblank : row s.orders s.orders.length = {} := by simp [row]
        rw [hblank]
        exact Row.private_write (by simp [Row.Free])
      · rw [Function.update_of_ne hl]
        exact .refl
    refine ⟨h.goto_orders hc hpriv (fun k hh => ?_) hu, hk.insert (c := c) ?_ ?_ ?_ ?_,
      hpriv, fun _ => .refl, Nat.le_refl _⟩
    · have hl : k ≠ s.orders.length := by
        rintro rfl
        simp [row] at hh
      rw [hrow, Function.update_of_ne hl]
      exact hh
    · simp [hasKey]
    · simpa using hb
    · simpa using hcl
    · refine ⟨c.candidate, ?_, by simp [hasKey]⟩
      rw [hrow, Function.update_self]
      exact Row.visible_write

theorem readOrder_advance (hst : c.stage = .readOrder) : Advance i s (readOrder s i c) := by
  have hu : Untouched s.attempts i := by
    have := h.calls i c hc
    rwa [hst] at this
  unfold readOrder
  split
  · exact rollback_advance h hk hc rfl
  · rename_i o k hl
    obtain ⟨hv, hko, -⟩ := lastVisible_some hl
    exact goto_advance h hk hc hu ⟨o, hv, hko⟩

theorem lockOrder_advance {k : ℕ} (hst : c.stage = .lockOrder k)
    (hs : lockOrder s i c k = some s') : Advance i s s' := by
  have hu : Untouched s.attempts i := by
    have := h.calls i c hc
    rwa [hst] at this
  have hkey : ∃ o, (row s.orders k).visible i = some o ∧ hasKey c o = true := by
    have := hk.calls i c hc
    unfold Call.Keyed at this
    rwa [hst] at this
  unfold lockOrder at hs
  dsimp only at hs
  split_ifs at hs with hf
  split at hs
  · cases hs
    exact rollback_advance h hk hc rfl
  · rename_i o hv
    split_ifs at hs with hid
    · cases hs
      have hlen := (List.getElem?_eq_some_iff.1 (getElem?_of_row hv)).1
      have hrow : row (s.orders.set k ((row s.orders k).lock i)) = _ := row_set hlen
      have hpriv : ∀ k', Row.Private i (row s.orders k')
          (row (s.orders.set k ((row s.orders k).lock i)) k') := by
        intro k'
        rw [hrow]
        by_cases hkk : k' = k
        · subst hkk
          rw [Function.update_self]
          exact Row.private_lock hf
        · rw [Function.update_of_ne hkk]
          exact .refl
      have hheld : (row (s.orders.set k ((row s.orders k).lock i)) k).holder = some i := by
        rw [hrow, Function.update_self]
        rfl
      refine ⟨h.goto_orders hc hpriv (fun k' hh => ?_) ⟨hu, hheld⟩,
        hk.private hpriv (fun k' o' hp => ?_) ⟨k, o, ?_, ?_, hid⟩,
        hpriv, fun _ => .refl, Nat.le_refl _⟩
      · by_cases hkk : k' = k
        · rw [hkk]
          exact hheld
        · rw [hrow, Function.update_of_ne hkk]
          exact hh
      · simp only [Ledgers.goto, hrow] at hp
        by_cases hkk : k' = k
        · subst hkk
          rw [Function.update_self] at hp
          exact hp
        · rwa [Function.update_of_ne hkk] at hp
      · simp only [Ledgers.goto, hrow, Function.update_self]
        rw [Row.visible_lock hf]
        exact hv
      · obtain ⟨o', ho', hko⟩ := hkey
        rw [hv] at ho'
        cases ho'
        exact hko
    · cases hs
      exact rollback_advance h hk hc rfl

theorem readAttempt_advance {k : ℕ} {o : PaymentOrder} (hst : c.stage = .readAttempt k o) :
    Advance i s (readAttempt s i c k o now) := by
  have hstage := h.calls i c hc
  have hm := hk.calls i c hc
  unfold Call.Keyed at hm
  rw [hst] at hstage hm
  obtain ⟨hu, hholds⟩ := hstage
  have hvis : ∀ j, (row s.attempts j).visible i = (row s.attempts j).committed :=
    fun j => Row.visible_of_not_holder (hu j)
  unfold readAttempt
  split
  · rename_i hl
    refine goto_advance h hk hc ⟨fun j hj => ⟨hholds, fun j' v _ hv ho => ?_, fun j' v hv ho => ?_⟩,
      fun j hj => absurd hj (hu j)⟩ hm
    · exact absurd (lastVisible_none hl hv) (by simp [ho])
    · exact absurd (lastVisible_none hl hv) (by simp [ho])
  · rename_i a j hl
    obtain ⟨hv, ho, hlast⟩ := lastVisible_some hl
    simp only [decide_eq_true_eq] at ho hlast
    rw [hvis] at hv
    -- every older attempt of the order is abandoned
    have hold : ∀ j' v, (row s.attempts j').visible i = some v → v.paymentOrderId = k →
        j' ≤ j ∧ (j' ≠ j → v.Abandoned) := by
      intro j' v hv' ho'
      refine ⟨hlast j' v hv' ho', fun hne => ?_⟩
      have hlt := Nat.lt_of_le_of_ne (hlast j' v hv' ho') hne
      rw [hvis] at hv'
      exact h.newest j' j v a hlt hv' hv (ho'.trans ho.symm)
    dsimp only
    split_ifs with hcr hact hfail
    · exact goto_advance h hk hc trivial hm
    · refine goto_advance h hk hc ⟨hu, failCreation_abandoned hcr (h.wellFormed j a (.inl hv)),
        ⟨hholds, fun j' v hne hv' ho' => (hold j' v hv' ho').2 hne,
          fun j' v hv' ho' => (hold j' v hv' ho').1⟩, a, hv, ho⟩ hm
    · simp only [Bool.and_eq_true, decide_eq_true_eq, Option.isNone_iff_eq_none] at hfail
      have hlen : j < s.attempts.length :=
        (List.getElem?_eq_some_iff.1 (getElem?_of_row ((hvis j).trans hv))).1
      refine goto_advance h hk hc ⟨fun n hn => ⟨hholds, fun j' v _ hv' ho' => ?_,
        fun j' v hv' ho' => ?_⟩, fun j' hj => absurd hj (hu j')⟩ hm
      · by_cases hne : j' = j
        · subst hne
          rw [hvis, hv] at hv'
          cases hv'
          exact hfail
        · exact (hold j' v hv' ho').2 hne
      · have := (hold j' v hv' ho').1
        omega
    · exact goto_advance h hk hc trivial hm

/-- The `UPDATE` of an attempt that has no invoice. -/
theorem write_advance {v w : PaymentAttempt} (hf : (row s.attempts j).Free i)
    (hv : (row s.attempts j).committed = some v) (hvis : (row s.attempts j).visible i = some v)
    (hw : w.WellFormed) (hrep : Replaces v w)
    (hnext : next.Sound s.orders (s.attempts.set j ((row s.attempts j).write i w)) i)
    (hm : Call.Keyed s.orders i { c with stage := next }) :
    Advance i s ({ s with
      attempts := s.attempts.set j ((row s.attempts j).write i w) }.goto i c next) := by
  have hlen := (List.getElem?_eq_some_iff.1 (getElem?_of_row hvis)).1
  have hrow : row (s.attempts.set j ((row s.attempts j).write i w)) = _ := row_set hlen
  refine attempts_advance h hk hc (fun j' => ?_) (by simp) (fun j' w' hh hp => ?_) hnext hm
  · rw [hrow]
    by_cases hj : j' = j
    · subst hj
      rw [Function.update_self]
      exact Row.private_write hf
    · rw [Function.update_of_ne hj]
      exact .refl
  · by_cases hj : j' = j
    · subst hj
      rw [hrow, Function.update_self] at hp
      obtain rfl : w = w' := Option.some.inj hp
      refine ⟨hw, fun v' hv' => ?_, fun hn => ?_⟩
      · rw [hv] at hv'
        cases hv'
        exact hrep
      · rw [hv] at hn
        cases hn
    · rw [hrow, Function.update_of_ne hj] at hh hp
      obtain ⟨hwf, hr, hins⟩ := h.own hh hp
      refine ⟨hwf, hr, fun hn => ?_⟩
      obtain ⟨hholds, hab, hnew⟩ := hins hn
      refine ⟨hholds, fun n u hne hu ho => ?_, fun n u hu ho => ?_⟩
      · rw [hrow] at hu
        by_cases hjn : n = j
        · subst hjn
          rw [Function.update_self, Row.visible_write] at hu
          cases hu
          exact hrep.abandoned (hab n v hne hvis (hrep.order ▸ ho))
        · rw [Function.update_of_ne hjn] at hu
          exact hab n u hne hu ho
      · rw [hrow] at hu
        by_cases hjn : n = j
        · subst hjn
          rw [Function.update_self, Row.visible_write] at hu
          cases hu
          exact hnew n v hvis (hrep.order ▸ ho)
        · rw [Function.update_of_ne hjn] at hu
          exact hnew n u hu ho

theorem failAttempt_advance {k : ℕ} {o : PaymentOrder} {a : PaymentAttempt} {at' : DateTime}
    (hst : c.stage = .failAttempt k o j a at')
    (hg : ∀ v, (row s.attempts j).committed = some v → v.providerPaymentId = none)
    (hs : updateAttempt s i c j a (.addAttempt k o at') = some s') : Advance i s s' := by
  have hstage := h.calls i c hc
  have hm := hk.calls i c hc
  unfold Call.Keyed at hm
  rw [hst] at hstage hm
  obtain ⟨hu, ha, hclear, v, hv, ho⟩ := hstage
  have hvis : ∀ j, (row s.attempts j).visible i = (row s.attempts j).committed :=
    fun j => Row.visible_of_not_holder (hu j)
  have hid := hg v hv
  unfold updateAttempt at hs
  dsimp only at hs
  split_ifs at hs with hf
  rw [hvis, hv] at hs
  dsimp only at hs
  split at hs
  · cases hs
  · cases hs
    exact rollback_advance h hk hc rfl
  · cases hs
    have hab := ha.saveInto hid
    have hlen := (List.getElem?_eq_some_iff.1 (getElem?_of_row ((hvis j).trans hv))).1
    have hrow : row (s.attempts.set j ((row s.attempts j).write i (a.saveInto v))) = _ :=
      row_set hlen
    refine write_advance h hk hc hf hv ((hvis j).trans hv) hab.wellFormed
      ⟨rfl, (h.wellFormed j v (.inl hv)).unfinished hid, fun _ => hab⟩
      ⟨fun n hn => ⟨hclear.holds, fun j' u _ hu' ho' => ?_, fun j' u hu' ho' => ?_⟩,
        fun j' hh => ?_⟩ hm
    · rw [hrow] at hu'
      by_cases hj : j' = j
      · subst hj
        rw [Function.update_self, Row.visible_write] at hu'
        cases hu'
        exact hab
      · rw [Function.update_of_ne hj] at hu'
        exact hclear.abandoned j' u hj hu' ho'
    · have hlen' := (List.getElem?_eq_some_iff.1 (getElem?_of_row hu')).1
      omega
    · rw [hrow] at hh ⊢
      by_cases hj : j' = j
      · subst hj
        rw [Function.update_self]
        simp [Row.write, hv]
      · rw [Function.update_of_ne hj] at hh
        exact absurd hh (hu j')

theorem saveAttempt_advance {p : PreparedPaymentOrder} {intent : Option PaymentIntent}
    {a : PaymentAttempt} (hst : c.stage = .saveAttempt p intent a)
    (hnext : ∀ attempts, next.Sound s.orders attempts i)
    (hm : Call.Keyed s.orders i { c with stage := next })
    (hs : updateAttempt s i c p.attemptId a next = some s') : Advance i s s' := by
  have hstage := h.calls i c hc
  rw [hst] at hstage
  obtain ⟨ha, v, hv, hcr, hp, hh⟩ := hstage
  have hvis : (row s.attempts p.attemptId).visible i = some v :=
    (Row.visible_of_unwritten hp).trans hv
  have hid := (h.wellFormed _ v (.inl hv)).created hcr
  unfold updateAttempt at hs
  dsimp only at hs
  split_ifs at hs with hf
  rw [hvis] at hs
  dsimp only at hs
  split at hs
  · cases hs
  · cases hs
    exact rollback_advance h hk hc rfl
  · cases hs
    exact write_advance h hk hc hf hv hvis (ha.saveInto hid)
      ⟨rfl, .inl hcr, fun hab => absurd hcr hab.not_created⟩ (hnext _) hm

theorem addAttempt_advance {k : ℕ} {o : PaymentOrder} {at' : DateTime} {leaseSeconds : ℤ}
    {token : Uuid} (hst : c.stage = .addAttempt k o at')
    (hs : addAttempt s i c k o at' leaseSeconds token = some s') : Advance i s s' := by
  have hstage := h.calls i c hc
  have hm := hk.calls i c hc
  unfold Call.Keyed at hm
  rw [hst] at hstage hm
  obtain ⟨hclear, hins⟩ := hstage
  unfold addAttempt at hs
  dsimp only at hs
  split at hs
  · cases hs
    exact rollback_advance h hk hc rfl
  · rename_i claim hclaim
    obtain ⟨-, hcr, ho, hid⟩ := claimCreation_ok hclaim
    split at hs
    · cases hs
    · cases hs
      exact rollback_advance h hk hc rfl
    · cases hs
      have hrow : row (s.attempts ++ [Row.write i claim {}]) = _ := row_append
      have hblank : row s.attempts s.attempts.length = {} := by simp [row]
      refine attempts_advance h hk hc (fun j => ?_) (by simp) (fun j w hh hp => ?_) trivial hm
      · rw [hrow]
        by_cases hj : j = s.attempts.length
        · subst hj
          rw [Function.update_self, hblank]
          exact Row.private_write (by simp [Row.Free])
        · rw [Function.update_of_ne hj]
          exact .refl
      · by_cases hj : j = s.attempts.length
        · subst hj
          rw [hrow, Function.update_self] at hp
          obtain rfl : claim = w := Option.some.inj hp
          refine ⟨⟨fun _ => hid, fun _ => .inl hcr⟩, fun v hv => ?_, fun _ => ?_⟩
          · rw [hblank] at hv
            cases hv
          · obtain ⟨hholds, hab, hnew⟩ := hclear _ (Nat.le_refl _)
            rw [ho]
            refine ⟨hholds, fun j' v hj hv ho' => ?_, fun j' v hv ho' => ?_⟩
            · rw [hrow, Function.update_of_ne hj] at hv
              exact hab j' v hj hv ho'
            · have hlen := (List.getElem?_eq_some_iff.1 (getElem?_of_row hv)).1
              rw [List.length_append] at hlen
              exact Nat.le_of_lt_succ hlen
        · rw [hrow, Function.update_of_ne hj] at hh hp
          obtain ⟨hwf, hr, -⟩ := h.own hh hp
          exact ⟨hwf, hr, fun hn => absurd hn (hins j hh)⟩

/-- The row of the attempt has been locked for its owner, or for a call that has lost it. -/
theorem lock_advance {v : PaymentAttempt} (hf : (row s.attempts j).Free i)
    (hvis : (row s.attempts j).visible i = some v)
    (hnext : next.Sound s.orders (s.attempts.set j ((row s.attempts j).lock i)) i)
    (hm : Call.Keyed s.orders i { c with stage := next }) :
    Advance i s ({ s with
      attempts := s.attempts.set j ((row s.attempts j).lock i) }.goto i c next) := by
  have hlen := (List.getElem?_eq_some_iff.1 (getElem?_of_row hvis)).1
  have hrow : row (s.attempts.set j ((row s.attempts j).lock i)) = _ := row_set hlen
  have hsame : ∀ n, (row (s.attempts.set j ((row s.attempts j).lock i)) n).visible i =
      (row s.attempts n).visible i := by
    intro n
    rw [hrow]
    by_cases hn : n = j
    · subst hn
      rw [Function.update_self, Row.visible_lock hf]
    · rw [Function.update_of_ne hn]
  refine attempts_advance h hk hc (fun j' => ?_) (by simp) (fun j' w hh hp => ?_) hnext hm
  · rw [hrow]
    by_cases hj : j' = j
    · subst hj
      rw [Function.update_self]
      exact Row.private_lock hf
    · rw [Function.update_of_ne hj]
      exact .refl
  · have hold : (row s.attempts j').holder = some i ∧ (row s.attempts j').pending = some w := by
      by_cases hj : j' = j
      · subst hj
        rw [hrow, Function.update_self] at hp
        refine ⟨?_, hp⟩
        by_contra hne
        have hp' : (row s.attempts j').pending = some w := hp
        rw [hf.unwritten hne] at hp'
        cases hp'
      · rw [hrow, Function.update_of_ne hj] at hh hp
        exact ⟨hh, hp⟩
    obtain ⟨hwf, hr, hins⟩ := h.own hold.1 hold.2
    refine ⟨hwf, hr, fun hn => ⟨(hins hn).holds, fun n u hne hu => ?_, fun n u hu => ?_⟩⟩
    · rw [hsame] at hu
      exact (hins hn).abandoned n u hne hu
    · rw [hsame] at hu
      exact (hins hn).newest n u hu

theorem lockAttempt_advance {p : PreparedPaymentOrder} {intent : Option PaymentIntent}
    (hst : c.stage = .lockAttempt p intent) (hs : lockAttempt s i c p intent now = some s') :
    Advance i s s' := by
  have hu := h.calls i c hc
  have hm := hk.calls i c hc
  unfold Call.Keyed at hm
  rw [hst] at hu hm
  have hvis : (row s.attempts p.attemptId).visible i = (row s.attempts p.attemptId).committed :=
    Row.visible_of_not_holder (hu _)
  unfold lockAttempt at hs
  dsimp only at hs
  split_ifs at hs with hf
  split at hs
  · cases hs
    exact rollback_advance h hk hc rfl
  · cases hs
    exact goto_advance h hk hc trivial hm
  · rename_i a hv
    have hlen := (List.getElem?_eq_some_iff.1 (getElem?_of_row hv)).1
    have hrow : row (s.attempts.set p.attemptId ((row s.attempts p.attemptId).lock i)) = _ :=
      row_set hlen
    -- the owner has found its claim still in creation
    have hsave : p.creationLeaseToken.any (a.ownsCreationClaim ·) = true →
        ∀ b intent, b.WellFormed → Stage.Sound s.orders
          (s.attempts.set p.attemptId ((row s.attempts p.attemptId).lock i)) i
          (.saveAttempt p intent b) := by
      intro hown b intent hb
      refine ⟨hb, a, ?_⟩
      rw [hrow, Function.update_self]
      obtain ⟨token, -, htoken⟩ := (Option.any_eq_true _ _).1 hown
      unfold ownsCreationClaim at htoken
      simp only [Bool.and_eq_true, decide_eq_true_eq] at htoken
      exact ⟨hvis.symm.trans hv, htoken.1, hf.unwritten (hu _), rfl⟩
    split_ifs at hs with hown
    · have hcr : a.status = .created := by
        obtain ⟨v, -, htoken⟩ := (Option.any_eq_true _ _).1 hown
        unfold ownsCreationClaim at htoken
        simp only [Bool.and_eq_true, decide_eq_true_eq] at htoken
        exact htoken.1
      split at hs
      · cases hs
        exact lock_advance h hk hc hf hv (hsave hown _ _ (failCreation_abandoned hcr
          (h.wellFormed _ a (.inl (hvis.symm.trans hv)))).wellFormed) hm
      · split at hs
        · cases hs
          exact rollback_advance h hk hc rfl
        · rename_i b hb
          cases hs
          exact lock_advance h hk hc hf hv (hsave hown _ _ (finalizeCreation_wellFormed hb)) hm
    · split at hs
      · cases hs
        exact lock_advance h hk hc hf hv trivial hm
      · cases hs
        exact lock_advance h hk hc hf hv trivial hm

theorem readLatest_advance {p : PreparedPaymentOrder} (hst : c.stage = .readLatest p) :
    Advance i s (readLatest s i c p) := by
  have hm := hk.calls i c hc
  unfold Call.Keyed at hm
  rw [hst] at hm
  unfold readLatest
  split
  · exact rollback_advance h hk hc rfl
  · exact goto_advance h hk hc trivial hm

theorem addTransaction_advance {p : PreparedPaymentOrder} {intent : PaymentIntent}
    {a : PaymentAttempt} (hst : c.stage = .addTransaction p intent a)
    (hs : addTransaction s i c p intent a = some s') : Advance i s s' := by
  have hm := hk.calls i c hc
  unfold Call.Keyed at hm
  rw [hst] at hm
  unfold addTransaction at hs
  dsimp only at hs
  split_ifs at hs
  · cases hs
    exact goto_advance h hk hc trivial hm
  · cases hs
    have hadvance : Advance i s (s.goto i c (.commit (.current a))) :=
      goto_advance h hk hc trivial hm
    obtain ⟨hsound, hkeyed, hstep⟩ := hadvance
    exact ⟨⟨hsound.held, hsound.wellFormed, hsound.replaces, hsound.newest, hsound.inserted,
      hsound.calls⟩, hkeyed, hstep.orders, hstep.attempts, hstep.length⟩

theorem commit_sound {outcome : Outcome} (hst : c.stage = .commit outcome) :
    Sound (s.commit i c outcome.next) ∧
      Keyed (s.commit i c outcome.next).orders (s.commit i c outcome.next).calls := by
  have hm := hk.calls i c hc
  unfold Call.Keyed at hm
  rw [hst] at hm
  have hu : Untouched (commitAll i s.attempts) i := by
    intro j hj
    rw [row_commitAll] at hj
    exact (Row.commit_holder.1 hj).2 rfl
  have hmatched : Call.Matched (commitAll i s.orders) i c := by
    obtain ⟨k, o, ho, hko⟩ := hm
    exact ⟨k, o, hk.visible_commit ho, hko⟩
  constructor
  · apply h.commit
    unfold Outcome.next
    split
    · split_ifs
      · exact hu
      · trivial
    · trivial
    · trivial
  · apply hk.commit
    unfold Outcome.next
    split
    · split_ifs
      · exact hmatched
      · trivial
    · trivial
    · trivial

end Statements

/-! ## Steps and runs -/

/-- The call executes the `UPDATE` that fails the expired claim it has read. -/
def FailsClaim (s s' : Ledgers) (i attemptId : ℕ) : Prop :=
  ∃ c c' orderId o a now, s.calls[i]? = some c ∧
    c.stage = .failAttempt orderId o attemptId a now ∧ s'.calls[i]? = some c' ∧
    c'.stage = .addAttempt orderId o now

/-- An expired claim is failed before an invoice has been stored on it. -/
def ReclaimsInTime (s s' : Ledgers) : Prop :=
  ∀ i attemptId a, FailsClaim s s' i attemptId →
    (row s.attempts attemptId).committed = some a → a.providerPaymentId = none

variable {leaseSeconds : ℤ} {token : Uuid}

/-- What one step can do: a private step, or the commit of one call. -/
structure Stepped (s s' : Ledgers) : Prop where
  sound : Sound s'
  keyed : Keyed s'.orders s'.calls
  moved : (∃ i, PrivateStep i s s') ∨ ∃ i c next, s' = s.commit i c next

theorem Advance.stepped (h : Advance i s s') : Stepped s s' :=
  ⟨h.sound, h.keyed, .inl ⟨i, h.step⟩⟩

theorem statement_stepped (h : Sound s) (hk : Keyed s.orders s.calls)
    (hc : s.calls[i]? = some c) (hg : ReclaimsInTime s s')
    (hs : statement s i c leaseSeconds now token = some s') : Stepped s s' := by
  have hm := hk.calls i c hc
  unfold Call.Keyed at hm
  unfold statement at hs
  split at hs
  next hst => exact (addOrder_advance h hk hc hst hs).stepped
  next hst =>
    cases hs
    exact (readOrder_advance h hk hc hst).stepped
  next hst => exact (lockOrder_advance h hk hc hst hs).stepped
  next hst =>
    cases hs
    exact (readAttempt_advance h hk hc hst).stepped
  next k o j a at' hst =>
    -- the statement has failed the claim, or the call has not come to its next one
    by_cases hf : FailsClaim s s' i j
    · exact (failAttempt_advance h hk hc hst (fun v hv => hg i j v hf hv) hs).stepped
    · unfold updateAttempt at hs
      dsimp only at hs
      have hgoto : ∀ attempts, some ({ s with attempts := attempts }.goto i c
          (.addAttempt k o at')) = some s' → False := by
        intro attempts he
        cases he
        refine hf ⟨c, { c with stage := .addAttempt k o at' }, k, o, a, at', hc, hst, ?_, rfl⟩
        simp [Ledgers.goto, (List.getElem?_eq_some_iff.1 hc).1]
      split_ifs at hs with hfree
      split at hs
      · exact (hgoto s.attempts hs).elim
      · split at hs
        · cases hs
        · cases hs
          exact (rollback_advance h hk hc rfl).stepped
        · exact (hgoto _ hs).elim
  next hst => exact (addAttempt_advance h hk hc hst hs).stepped
  next outcome hst =>
    cases hs
    obtain ⟨hsound, hkeyed⟩ := commit_sound h hk hc hst
    exact ⟨hsound, hkeyed, .inr ⟨i, c, _, rfl⟩⟩
  next hst => exact (lockAttempt_advance h hk hc hst hs).stepped
  next hst =>
    cases hs
    exact (readLatest_advance h hk hc hst).stepped
  next p intent a hst =>
    rw [hst] at hm
    refine (saveAttempt_advance h hk hc hst (fun attempts => ?_) ?_ hs).stepped
    · split <;> trivial
    · split <;> exact hm
  next hst => exact (addTransaction_advance h hk hc hst hs).stepped
  next => cases hs

theorem call_stepped (h : Sound s) (hk : Keyed s.orders s.calls) (candidate : PaymentOrder)
    (tariffName : String) (t : Tariff) : Stepped s
      { s with calls := s.calls ++ [⟨candidate, tariffName, firstStage candidate t⟩] } := by
  have hnew : ∀ (P : ℕ → Call → Prop), (∀ i c, s.calls[i]? = some c → P i c) →
      P s.calls.length ⟨candidate, tariffName, firstStage candidate t⟩ →
      ∀ i c, (s.calls ++ [⟨candidate, tariffName, firstStage candidate t⟩])[i]? = some c →
        P i c := by
    intro P hold hlast i c hc
    rcases Nat.lt_trichotomy i s.calls.length with hi | rfl | hi
    · rw [List.getElem?_append_left hi] at hc
      exact hold i c hc
    · rw [List.getElem?_concat_length] at hc
      cases hc
      exact hlast
    · rw [List.getElem?_eq_none (by simp; omega)] at hc
      cases hc
  refine ⟨⟨fun i j hj => ?_, h.wellFormed, h.replaces, h.newest, h.inserted, hnew _ h.calls ?_⟩,
    ⟨hk.settled, hk.unique, hnew _ hk.calls ?_⟩,
    .inl ⟨0, fun _ => .refl, fun _ => .refl, Nat.le_refl _⟩⟩
  · have := h.held i j hj
    rw [List.length_append]
    omega
  · unfold firstStage
    split_ifs
    · trivial
    · intro j hj
      exact absurd (h.held _ j hj) (Nat.lt_irrefl _)
    · trivial
  · unfold Call.Keyed firstStage
    split_ifs <;> trivial

theorem exec_stepped {a : Action} (h : Sound s) (hk : Keyed s.orders s.calls)
    (hg : ReclaimsInTime s s') (hs : exec leaseSeconds s a = some s') : Stepped s s' := by
  cases a with
  | call r userId t =>
    cases hs
    exact call_stepped h hk _ _ _
  | statement i now token =>
    obtain ⟨c, hc, hs⟩ := Option.bind_eq_some_iff.1 hs
    exact statement_stepped h hk hc hg hs
  | answer i intent =>
    obtain ⟨c, hc, hs⟩ := Option.bind_eq_some_iff.1 hs
    have hu := h.calls i c hc
    have hm := hk.calls i c hc
    unfold Call.Keyed at hm
    split at hs
    next prepared hst =>
      cases hs
      rw [hst] at hu hm
      have hadvance : Advance i s (s.goto i c (.lockAttempt prepared intent)) :=
        goto_advance h hk hc hu hm
      exact hadvance.stepped
    next => cases hs
  | crash i =>
    obtain ⟨c, hc, hs⟩ := Option.bind_eq_some_iff.1 hs
    split_ifs at hs
    cases hs
    exact (rollback_advance h hk hc rfl).stepped

/-- Runs in which no expired claim is failed after its invoice has been stored. -/
abbrev TimelyStep (leaseSeconds : ℤ) : Ledgers → Ledgers → Prop :=
  Transition.Guarded (Transition.Labelled (exec leaseSeconds)) ReclaimsInTime

theorem TimelyStep.stepped (h : Sound s) (hk : Keyed s.orders s.calls)
    (hs : TimelyStep leaseSeconds s s') : Stepped s s' := by
  obtain ⟨⟨a, ha⟩, hg⟩ := hs
  exact exec_stepped h hk hg ha

theorem Reachable.sound (h : Transition.Reachable Init (TimelyStep leaseSeconds) s) :
    Sound s ∧ Keyed s.orders s.calls := by
  refine h.invariant (fun s => Sound s ∧ Keyed s.orders s.calls) ?_ ?_
  · rintro s rfl
    exact ⟨.init, .init⟩
  · rintro s s' - ⟨hs, hk⟩ hstep
    have hst := hstep.stepped hs hk
    exact ⟨hst.sound, hst.keyed⟩

/-! ## Finalised attempts -/

/-- A finalised attempt stays as it is, and the order gets no other attempt. -/
structure KeepsInvoices (s s' : Ledgers) : Prop where
  attempt : ∀ j a, (row s.attempts j).committed = some a → a.providerPaymentId ≠ none →
    (row s'.attempts j).committed = some a
  attempts : ∀ j a j' a', (row s.attempts j).committed = some a → a.providerPaymentId ≠ none →
    (row s'.attempts j').committed = some a' → a'.paymentOrderId = a.paymentOrderId →
    ∃ b, (row s.attempts j').committed = some b ∧ b.paymentOrderId = a.paymentOrderId

theorem KeepsInvoices.refl : KeepsInvoices s s where
  attempt _ _ ha _ := ha
  attempts _ _ _ a' _ _ ha' ho := ⟨a', ha', ho⟩

theorem KeepsInvoices.trans {s₁ : Ledgers} (h : KeepsInvoices s s') (h' : KeepsInvoices s' s₁) :
    KeepsInvoices s s₁ where
  attempt j a ha hp := h'.attempt j a (h.attempt j a ha hp) hp
  attempts j a j' a' ha hp ha' ho := by
    obtain ⟨b, hb, hbo⟩ := h'.attempts j a j' a' (h.attempt j a ha hp) hp ha' ho
    exact h.attempts j a j' b ha hp hb hbo

/-- No transaction has a version over a finalised attempt. -/
theorem Sound.visible_finalized (h : Sound s) {a : PaymentAttempt}
    (ha : (row s.attempts j).committed = some a) (hp : a.providerPaymentId ≠ none) :
    (row s.attempts j).visible i = some a := by
  obtain ⟨b, hv⟩ := Row.visible_of_committed (i := i) ha
  rcases h.visible_order ha hv with rfl | hr
  · exact hv
  · rcases hr.unfinished with hcr | hab
    · exact absurd ((h.wellFormed j a (.inl ha)).created hcr) hp
    · exact absurd hab.2 hp

theorem Stepped.keepsInvoices (h : Sound s) (hst : Stepped s s') : KeepsInvoices s s' := by
  rcases hst.moved with ⟨i, hstep⟩ | ⟨i, c, next, rfl⟩
  · have hsame : ∀ j, (row s'.attempts j).committed = (row s.attempts j).committed :=
      fun j => (hstep.attempts j).1
    refine ⟨fun j a ha _ => (hsame j).trans ha, fun j a j' a' _ _ ha' ho => ?_⟩
    rw [hsame] at ha'
    exact ⟨a', ha', ho⟩
  · refine ⟨fun j a ha hp => ?_, fun j a j' a' ha hp ha' ho => ?_⟩
    · rw [Ledgers.commit, row_commitAll, Row.commit_committed]
      exact h.visible_finalized ha hp
    · rw [Ledgers.commit, row_commitAll, Row.commit_committed] at ha'
      cases hb : (row s.attempts j').committed with
      | none =>
        -- the inserting transaction sees the finalised attempt, and takes it for abandoned
        obtain ⟨-, hins⟩ := h.visible_inserted hb ha'
        have hne : j ≠ j' := by
          rintro rfl
          rw [ha] at hb
          cases hb
        exact absurd (hins.abandoned j a hne (h.visible_finalized ha hp) ho.symm).2 hp
      | some b =>
        refine ⟨b, rfl, ?_⟩
        rcases h.visible_order hb ha' with rfl | hr
        · exact ho
        · exact hr.order ▸ ho

theorem Sound.keepsInvoices_run (h : Sound s) (hk : Keyed s.orders s.calls)
    (hr : ReflTransGen (TimelyStep leaseSeconds) s s') :
    Sound s' ∧ Keyed s'.orders s'.calls ∧ KeepsInvoices s s' := by
  induction hr with
  | refl => exact ⟨h, hk, .refl⟩
  | tail _ hs ih =>
    obtain ⟨hsound, hkeyed, hkeeps⟩ := ih
    have hst := hs.stepped hsound hkeyed
    exact ⟨hst.sound, hst.keyed, hkeeps.trans (hst.keepsInvoices hsound)⟩

theorem Sound.created_unique (h : Sound s) {a a' : PaymentAttempt} {j' : ℕ}
    (ha : (row s.attempts j).committed = some a) (ha' : (row s.attempts j').committed = some a')
    (ho : a.paymentOrderId = a'.paymentOrderId) (hn : ¬ a.Abandoned) (hn' : ¬ a'.Abandoned) :
    j = j' := by
  rcases Nat.lt_trichotomy j j' with hj | hj | hj
  · exact absurd (h.newest j j' a a' hj ha ha' ho) hn
  · exact hj
  · exact absurd (h.newest j' j a' a hj ha' ha ho.symm) hn'

/-! ## Reused idempotency keys -/

/-- The committed rows are the same. -/
structure SameCommitted (s s' : Ledgers) : Prop where
  orders : ∀ k, (row s'.orders k).committed = (row s.orders k).committed
  attempts : ∀ j, (row s'.attempts j).committed = (row s.attempts j).committed
  transactions : ∀ n, (row s'.transactions n).committed = (row s.transactions n).committed

theorem goto_sameCommitted : SameCommitted s (s.goto i c next) :=
  ⟨fun _ => rfl, fun _ => rfl, fun _ => rfl⟩

theorem rollback_sameCommitted : SameCommitted s (s.rollback i c next) := by
  constructor
  · intro k
    rw [Ledgers.rollback, row_rollbackAll, Row.rollback_committed]
  · intro k
    rw [Ledgers.rollback, row_rollbackAll, Row.rollback_committed]
  · intro k
    rw [Ledgers.rollback, row_rollbackAll, Row.rollback_committed]

def Action.caller : Action → Option ℕ
  | .call _ _ _ => none
  | .statement i _ _ | .answer i _ | .crash i => some i

def keyConflict : Error :=
  .conflict "Idempotency key is already used by another payment request"

/-- The next step of a call whose key belongs to the order at the position, which is another
order than it asks for: the committed rows stay, and the call goes on to the comparison with
the order, raises the conflict or ends in a crash. -/
structure Refuses (k i : ℕ) (s s' : Ledgers) : Prop where
  same : SameCommitted s s'
  stage : ∃ c', s'.calls[i]? = some c' ∧
    (c'.stage = .readOrder ∨ c'.stage = .lockOrder k ∨ c'.stage = .raised keyConflict ∨
      c'.stage = .crashed)

theorem refuses_goto {k : ℕ} (hc : s.calls[i]? = some c)
    (hn : next = .readOrder ∨ next = .lockOrder k) : Refuses k i s (s.goto i c next) := by
  refine ⟨goto_sameCommitted, { c with stage := next }, ?_, ?_⟩
  · simp [Ledgers.goto, (List.getElem?_eq_some_iff.1 hc).1]
  · rcases hn with hn | hn
    · exact .inl hn
    · exact .inr (.inl hn)

theorem refuses_rollback {k : ℕ} (hc : s.calls[i]? = some c)
    (hn : next = .raised keyConflict ∨ next = .crashed) :
    Refuses k i s (s.rollback i c next) := by
  refine ⟨rollback_sameCommitted, { c with stage := next }, ?_, .inr (.inr hn)⟩
  simp [Ledgers.rollback, (List.getElem?_eq_some_iff.1 hc).1]

/-- A live call whose key belongs to an order of another identity has not come past the
comparison. -/
theorem Keyed.stage_of_conflict (hk : Keyed s.orders s.calls) (hc : s.calls[i]? = some c)
    (hlive : c.stage.ended = false) {k : ℕ} {o : PaymentOrder}
    (ho : (row s.orders k).committed = some o) (hkey : hasKey c o = true)
    (hid : o.hasSameCreationIdentity c.candidate = false) :
    c.stage = .addOrder ∨ c.stage = .readOrder ∨ c.stage = .lockOrder k := by
  have hm := hk.calls i c hc
  have hpos : ∀ k' o', (row s.orders k').visible i = some o' → hasKey c o' = true → k' = k := by
    intro k' o' hv hk'
    simp only [hasKey, decide_eq_true_eq] at hk' hkey
    exact hk.unique k' k o' o (Row.version_of_visible hv) (.inl ho) (hk'.trans hkey.symm)
  have hnot : ¬ c.Matched s.orders i := by
    rintro ⟨k', o', hv, hko, hsame⟩
    obtain rfl := hpos k' o' hv hko
    rw [Row.visible_of_unwritten (hk.settled k' o ho), ho] at hv
    cases hv
    rw [hid] at hsame
    cases hsame
  unfold Call.Keyed at hm
  split at hm
  next hst => exact .inl hst
  next hst => rw [hst] at hlive; cases hlive
  next hst => rw [hst] at hlive; cases hlive
  next hst => rw [hst] at hlive; cases hlive
  next hst => rw [hst] at hlive; cases hlive
  next hst => exact .inr (.inl hst)
  next hst =>
    obtain ⟨o', hv, hko⟩ := hm
    obtain rfl := hpos _ o' hv hko
    exact .inr (.inr hst)
  next => exact absurd hm hnot

theorem Keyed.refuses (hk : Keyed s.orders s.calls) (hc : s.calls[i]? = some c)
    (hlive : c.stage.ended = false) {k : ℕ} {o : PaymentOrder}
    (ho : (row s.orders k).committed = some o) (hkey : hasKey c o = true)
    (hid : o.hasSameCreationIdentity c.candidate = false) {a : Action}
    (ha : a.caller = some i) (hs : exec leaseSeconds s a = some s') : Refuses k i s s' := by
  have hvis : (row s.orders k).visible i = some o :=
    (Row.visible_of_unwritten (hk.settled k o ho)).trans ho
  cases a with
  | call r userId t => cases ha
  | crash n =>
    cases ha
    simp only [exec, hc, Option.bind_some] at hs
    split_ifs at hs
    cases hs
    exact refuses_rollback hc (.inr rfl)
  | answer n intent =>
    cases ha
    simp only [exec, hc, Option.bind_some] at hs
    rcases hk.stage_of_conflict hc hlive ho hkey hid with hst | hst | hst <;>
      simp [hst] at hs
  | statement n now token =>
    cases ha
    simp only [exec, hc, Option.bind_some, statement] at hs
    rcases hk.stage_of_conflict hc hlive ho hkey hid with hst | hst | hst
    · simp only [hst, addOrder] at hs
      split_ifs at hs with hb hcl
      · cases hs
        exact refuses_goto hc (.inl rfl)
      · -- the statement has seen the order
        have hfalse := Table.any_eq_false_iff.1 (by simpa using hcl) k _ (getElem?_of_row hvis)
        simp [Row.clashes, hvis, hkey] at hfalse
    · simp only [hst, readOrder] at hs
      split at hs
      next hl => exact absurd (lastVisible_none hl hvis) (by simp [hkey])
      next o' k' hl =>
        cases hs
        obtain ⟨hv, hko, -⟩ := lastVisible_some hl
        refine refuses_goto hc (.inr ?_)
        simp only [hasKey, decide_eq_true_eq] at hko hkey
        rw [hk.unique k' k o' o (Row.version_of_visible hv) (.inl ho) (hko.trans hkey.symm)]
    · simp only [hst, lockOrder] at hs
      split_ifs at hs
      rw [hvis] at hs
      simp only [hid] at hs
      cases hs
      exact refuses_rollback hc (.inl rfl)

def monthly : Tariff where
  name := "Month"
  price := ⟨29900, ⟨"RUB"⟩⟩
  price_pos := by decide
  periodDays := 30
  periodDays_pos := Nat.succ_pos _

def buyMonth : PaymentRequest where
  telegramId := 1001
  tariffId := 0
  provider := "yookassa"
  idempotencyKey := "order-1"

def invoice (id : String) : PaymentIntent where
  providerPaymentId := id

/-- So many statements of the call, at one time. -/
def run (i n : ℕ) (now : DateTime) : List Action :=
  List.replicate n (.statement i now (i + 1))

/-- The owner of the claim stores its invoice, after a retry has read the expired claim. -/
def slowOwner : List Action :=
  [.call buyMonth 0 monthly] ++ run 0 5 0 ++ [.call buyMonth 0 monthly] ++
    run 1 4 (seconds 40) ++ [.answer 0 (some (invoice "inv-1"))] ++ run 0 4 (seconds 41)

/-- The retry fails the attempt it has read, and makes another invoice. -/
def lateRetry : List Action :=
  run 1 3 (seconds 42) ++ [.answer 1 (some (invoice "inv-2"))] ++ run 1 4 (seconds 43)

/-- The retry fails the attempt first; the owner then finds that it has lost the claim. -/
def promptRetry : List Action :=
  [.call buyMonth 0 monthly] ++ run 0 5 0 ++ [.call buyMonth 0 monthly] ++
    run 1 7 (seconds 40) ++ [.answer 0 (some (invoice "inv-1"))] ++ run 0 3 (seconds 41) ++
    [.answer 1 (some (invoice "inv-2"))] ++ run 1 4 (seconds 43)

def inTime (s s' : Ledgers) : Bool :=
  (List.range s.calls.length).all fun i =>
    match s.calls[i]?, s'.calls[i]? with
    | some ⟨_, _, .failAttempt _ _ attemptId _ _⟩, some ⟨_, _, .addAttempt _ _ _⟩ =>
      (row s.attempts attemptId).committed.all (·.providerPaymentId.isNone)
    | _, _ => true

theorem inTime_reclaims (s s' : Ledgers) (h : inTime s s' = true) : ReclaimsInTime s s' := by
  rintro i j a ⟨⟨candidate, name, stage⟩, ⟨candidate', name', stage'⟩, k, o, b, now, hc, hst,
    hc', hst'⟩ ha
  cases hst
  cases hst'
  have hi := List.mem_range.2 (List.getElem?_eq_some_iff.1 hc).1
  have := List.all_eq_true.1 h i hi
  simpa [hc, hc', ha] using this

end InvoiceTransactions

end ShopBot
