import ShopBot.System.InvoiceTransactions

/-! # Claims on invoice creation

An attempt is abandoned when it has failed without an invoice. The holder of an order's
row sees at most one attempt of the order that is not abandoned, and it is the newest;
every version that is still private replaces an attempt in creation or an abandoned one.
-/

namespace ShopBot

namespace PaymentAttempt

/-- Failed, and no invoice has been stored on it. -/
def Abandoned (a : PaymentAttempt) : Prop :=
  a.status = .failed ∧ a.providerPaymentId = none

/-- An attempt lacks an invoice exactly while it is in creation or after it was abandoned. -/
structure WellFormed (a : PaymentAttempt) : Prop where
  created : a.status = .created → a.providerPaymentId = none
  finalized : a.providerPaymentId = none → a.status = .created ∨ a.status = .failed

/-- What an uncommitted version may do to the committed one. -/
structure Replaces (v w : PaymentAttempt) : Prop where
  order : w.paymentOrderId = v.paymentOrderId
  unfinished : v.status = .created ∨ v.Abandoned
  abandoned : v.Abandoned → w.Abandoned

variable {a v w : PaymentAttempt} {now : DateTime} {diagnostic : String}

theorem WellFormed.unfinished (h : v.WellFormed) (hv : v.providerPaymentId = none) :
    v.status = .created ∨ v.Abandoned := by
  rcases h.finalized hv with hc | hf
  · exact .inl hc
  · exact .inr ⟨hf, hv⟩

theorem Abandoned.wellFormed (h : a.Abandoned) : a.WellFormed where
  created hc := absurd (hc.symm.trans h.1) (by simp)
  finalized _ := .inr h.1

theorem Abandoned.not_created (h : a.Abandoned) : a.status ≠ .created := by
  rw [h.1]
  simp

theorem failCreation_abandoned (hs : a.status = .created) (h : a.WellFormed) :
    (a.failCreation now diagnostic).Abandoned := by
  unfold failCreation
  rw [if_neg (not_not.2 hs)]
  exact ⟨rfl, h.created hs⟩

theorem finalizeCreation_wellFormed {status : PaymentStatus} {id : String}
    {url : Option String} {payload : Payload}
    (h : a.finalizeCreation status id url payload now = .ok w) : w.WellFormed := by
  unfold finalizeCreation at h
  split_ifs at h with _ hs
  cases h
  exact ⟨fun hc => absurd hc hs, fun hn => by simp [clearCreationClaim] at hn⟩

theorem Abandoned.saveInto (h : a.Abandoned) (hv : v.providerPaymentId = none) :
    (a.saveInto v).Abandoned :=
  ⟨h.1, by simp [PaymentAttempt.saveInto, h.2, hv]⟩

theorem WellFormed.saveInto (h : a.WellFormed) (hv : v.providerPaymentId = none) :
    (a.saveInto v).WellFormed := by
  have hid : (a.saveInto v).providerPaymentId = a.providerPaymentId := by
    simp [PaymentAttempt.saveInto, hv]
  exact ⟨fun hc => hid.trans (h.created hc), fun hn => h.finalized (hid.symm.trans hn)⟩

theorem claimCreation_ok {expires : DateTime} {token : Uuid}
    (h : a.claimCreation now expires token = .ok w) : a.status = .created ∧
      w.status = .created ∧ w.paymentOrderId = a.paymentOrderId ∧
      w.providerPaymentId = a.providerPaymentId := by
  unfold claimCreation at h
  split_ifs at h with hs
  cases h
  exact ⟨not_not.1 hs, not_not.1 hs, rfl, rfl⟩

end PaymentAttempt

namespace InvoiceTransactions

open ReadCommitted PaymentAttempt

/-- The transaction has the order to itself, and beside the given position it sees only
abandoned attempts of the order, all of them older. -/
structure Clear (orders : List (Row PaymentOrder)) (attempts : List (Row PaymentAttempt))
    (i orderId j : ℕ) : Prop where
  holds : (row orders orderId).holder = some i
  abandoned : ∀ j' v, j' ≠ j → (row attempts j').visible i = some v →
    v.paymentOrderId = orderId → v.Abandoned
  newest : ∀ j' v, (row attempts j').visible i = some v → v.paymentOrderId = orderId → j' ≤ j

def Untouched (attempts : List (Row PaymentAttempt)) (i : ℕ) : Prop :=
  ∀ j, (row attempts j).holder ≠ some i

/-- What a call has made sure of when it comes to a statement. -/
def Stage.Sound (orders : List (Row PaymentOrder)) (attempts : List (Row PaymentAttempt))
    (i : ℕ) : Stage → Prop
  | .addOrder | .readOrder | .lockOrder _ | .gateway _ | .lockAttempt _ _ =>
    Untouched attempts i
  | .readAttempt orderId _ => Untouched attempts i ∧ (row orders orderId).holder = some i
  | .failAttempt orderId _ attemptId a _ => Untouched attempts i ∧ a.Abandoned ∧
      Clear orders attempts i orderId attemptId ∧
      ∃ v, (row attempts attemptId).committed = some v ∧ v.paymentOrderId = orderId
  | .addAttempt orderId _ _ =>
    (∀ j, attempts.length ≤ j → Clear orders attempts i orderId j) ∧
      ∀ j, (row attempts j).holder = some i → (row attempts j).committed ≠ none
  | .saveAttempt p _ a => a.WellFormed ∧
      ∃ v, (row attempts p.attemptId).committed = some v ∧ v.status = .created ∧
        (row attempts p.attemptId).pending = none ∧ (row attempts p.attemptId).holder = some i
  | _ => True

structure Sound (s : Ledgers) : Prop where
  held : ∀ i j, (row s.attempts j).holder = some i → i < s.calls.length
  wellFormed : ∀ j v, (row s.attempts j).committed = some v ∨
    (row s.attempts j).pending = some v → v.WellFormed
  replaces : ∀ j v w, (row s.attempts j).committed = some v →
    (row s.attempts j).pending = some w → Replaces v w
  newest : ∀ j j' v v', j < j' → (row s.attempts j).committed = some v →
    (row s.attempts j').committed = some v' → v.paymentOrderId = v'.paymentOrderId →
    v.Abandoned
  inserted : ∀ i j w, (row s.attempts j).holder = some i → (row s.attempts j).committed = none →
    (row s.attempts j).pending = some w → Clear s.orders s.attempts i w.paymentOrderId j
  calls : ∀ i (c : Call), s.calls[i]? = some c → c.stage.Sound s.orders s.attempts i

theorem Sound.init : Sound {} where
  held i j h := by simp [row] at h
  wellFormed j v h := by simp [row] at h
  replaces j v w h := by simp [row] at h
  newest j j' v v' _ h := by simp [row] at h
  inserted i j w h := by simp [row] at h
  calls i c h := by simp at h

/-! ## What other calls are left with -/

/-- A step of another transaction, as the transaction notices it. -/
structure Elsewhere (i : ℕ) (s s' : Ledgers) : Prop where
  orders : ∀ k, (row s.orders k).holder = some i → (row s'.orders k).holder = some i
  attempts : ∀ j, (row s.attempts j).holder = some i ∨ (row s'.attempts j).holder = some i →
    row s'.attempts j = row s.attempts j
  clear : ∀ k j, Clear s.orders s.attempts i k j → Clear s'.orders s'.attempts i k j
  stays : ∀ j v, (row s.attempts j).committed = some v →
    ∃ v', (row s'.attempts j).committed = some v' ∧ v'.paymentOrderId = v.paymentOrderId
  length : s.attempts.length ≤ s'.attempts.length

variable {s s' : Ledgers} {i i' j : ℕ} {c c' : Call} {next : Stage}

theorem Elsewhere.untouched (h : Elsewhere i s s') (hu : Untouched s.attempts i) :
    Untouched s'.attempts i := by
  intro j hj
  apply hu j
  rw [← h.attempts j (.inr hj)]
  exact hj

theorem Elsewhere.stage (h : Elsewhere i s s') (hs : next.Sound s.orders s.attempts i) :
    next.Sound s'.orders s'.attempts i := by
  cases next with
  | addOrder => exact h.untouched hs
  | readOrder => exact h.untouched hs
  | lockOrder orderId => exact h.untouched hs
  | gateway p => exact h.untouched hs
  | lockAttempt p intent => exact h.untouched hs
  | readAttempt orderId o => exact ⟨h.untouched hs.1, h.orders _ hs.2⟩
  | failAttempt orderId o attemptId a now =>
    obtain ⟨hu, ha, hc, v, hv, ho⟩ := hs
    obtain ⟨v', hv', ho'⟩ := h.stays _ v hv
    exact ⟨h.untouched hu, ha, h.clear _ _ hc, v', hv', ho'.trans ho⟩
  | addAttempt orderId o now =>
    refine ⟨fun j hj => h.clear _ _ (hs.1 j (h.length.trans hj)), fun j hj => ?_⟩
    have hrow := h.attempts j (.inr hj)
    rw [hrow] at hj ⊢
    exact hs.2 j hj
  | saveAttempt p intent a =>
    obtain ⟨ha, v, hv, hst, hp, hh⟩ := hs
    have hrow := h.attempts p.attemptId (.inl hh)
    exact ⟨ha, v, by rw [hrow]; exact hv, hst, by rw [hrow]; exact hp, by rw [hrow]; exact hh⟩
  | _ => trivial

/-- The rule for one step of one call: what concerns the call itself is left to show. -/
theorem Sound.step (h : Sound s) (hcalls : s'.calls = s.calls.set i c')
    (hother : ∀ i', i' ≠ i → Elsewhere i' s s')
    (hheld : ∀ j, (row s'.attempts j).holder = some i → i < s.calls.length)
    (hwf : ∀ j v, (row s'.attempts j).committed = some v ∨
      (row s'.attempts j).pending = some v → v.WellFormed)
    (hrep : ∀ j v w, (row s'.attempts j).committed = some v →
      (row s'.attempts j).pending = some w → Replaces v w)
    (hnew : ∀ j j' v v', j < j' → (row s'.attempts j).committed = some v →
      (row s'.attempts j').committed = some v' → v.paymentOrderId = v'.paymentOrderId →
      v.Abandoned)
    (hins : ∀ j w, (row s'.attempts j).holder = some i → (row s'.attempts j).committed = none →
      (row s'.attempts j).pending = some w →
      Clear s'.orders s'.attempts i w.paymentOrderId j)
    (hstage : c'.stage.Sound s'.orders s'.attempts i) : Sound s' where
  held i' j hj := by
    rw [hcalls, List.length_set]
    by_cases hi : i' = i
    · subst hi
      exact hheld j hj
    · rw [(hother i' hi).attempts j (.inr hj)] at hj
      exact h.held i' j hj
  wellFormed := hwf
  replaces := hrep
  newest := hnew
  inserted i' j w hj hn hw := by
    by_cases hi : i' = i
    · subst hi
      exact hins j w hj hn hw
    · have hrow := (hother i' hi).attempts j (.inr hj)
      rw [hrow] at hj hn hw
      exact (hother i' hi).clear _ _ (h.inserted i' j w hj hn hw)
  calls := by
    rw [hcalls]
    exact Table.forall_set hstage fun i' d hi hd => (hother i' hi).stage (h.calls i' d hd)

/-! ## Private steps -/

/-- The tables after statements that have changed private versions and locks only. -/
structure PrivateStep (i : ℕ) (s s' : Ledgers) : Prop where
  orders : ∀ k, Row.Private i (row s.orders k) (row s'.orders k)
  attempts : ∀ j, Row.Private i (row s.attempts j) (row s'.attempts j)
  length : s.attempts.length ≤ s'.attempts.length

theorem PrivateStep.elsewhere (h : PrivateStep i s s') (hi : i' ≠ i) : Elsewhere i' s s' where
  orders k hk := ((h.orders k).holder hi).2 hk
  attempts j hj := (h.attempts j).2 i' hi hj
  clear k j hc := by
    refine ⟨((h.orders k).holder hi).2 hc.holds, fun j' v hj hv => ?_, fun j' v hv => ?_⟩
    · rw [(h.attempts j').visible hi] at hv
      exact hc.abandoned j' v hj hv
    · rw [(h.attempts j').visible hi] at hv
      exact hc.newest j' v hv
  stays j v hv := ⟨v, (h.attempts j).1.trans hv, rfl⟩
  length := h.length

/-- Private steps are sound when the versions the call has written itself are. -/
theorem Sound.private (h : Sound s) (hp : PrivateStep i s s') (hc : s.calls[i]? = some c)
    (hcalls : s'.calls = s.calls.set i c')
    (hown : ∀ j w, (row s'.attempts j).holder = some i → (row s'.attempts j).pending = some w →
      w.WellFormed ∧ (∀ v, (row s.attempts j).committed = some v → Replaces v w) ∧
        ((row s.attempts j).committed = none →
          Clear s'.orders s'.attempts i w.paymentOrderId j))
    (hstage : c'.stage.Sound s'.orders s'.attempts i) : Sound s' := by
  have hi : i < s.calls.length := (List.getElem?_eq_some_iff.1 hc).1
  refine h.step hcalls (fun i' hi' => hp.elsewhere hi') (fun _ _ => hi) ?_ ?_ ?_ ?_ hstage
  · intro j v hv
    rcases hv with hv | hv
    · rw [(hp.attempts j).1] at hv
      exact h.wellFormed j v (.inl hv)
    · by_cases hh : (row s'.attempts j).holder = some i
      · exact (hown j v hh hv).1
      · rw [(hp.attempts j).pending hh hv] at hv
        exact h.wellFormed j v (.inr hv)
  · intro j v w hv hw
    by_cases hh : (row s'.attempts j).holder = some i
    · rw [(hp.attempts j).1] at hv
      exact (hown j w hh hw).2.1 v hv
    · rw [(hp.attempts j).pending hh hw] at hv hw
      exact h.replaces j v w hv hw
  · intro j j' v v' hj hv hv'
    rw [(hp.attempts _).1] at hv hv'
    exact h.newest j j' v v' hj hv hv'
  · intro j w hh hn hw
    rw [(hp.attempts j).1] at hn
    exact (hown j w hh hw).2.2 hn

/-- The versions that the call had written before are sound after a step that keeps its
locks. -/
theorem Sound.own (h : Sound s) {w : PaymentAttempt} (hh : (row s.attempts j).holder = some i)
    (hw : (row s.attempts j).pending = some w) :
    w.WellFormed ∧ (∀ v, (row s.attempts j).committed = some v → Replaces v w) ∧
      ((row s.attempts j).committed = none →
        Clear s.orders s.attempts i w.paymentOrderId j) :=
  ⟨h.wellFormed j w (.inr hw), fun v hv => h.replaces j v w hv hw,
    fun hn => h.inserted i j w hh hn hw⟩

theorem Sound.goto (h : Sound s) (hc : s.calls[i]? = some c)
    (hstage : next.Sound s.orders s.attempts i) : Sound (s.goto i c next) :=
  h.private ⟨fun _ => .refl, fun _ => .refl, Nat.le_refl _⟩ hc rfl (fun _ _ => h.own) hstage

/-- Locking or inserting an order. -/
theorem Sound.goto_orders (h : Sound s) (hc : s.calls[i]? = some c)
    {orders : List (Row PaymentOrder)} (ho : ∀ k, Row.Private i (row s.orders k) (row orders k))
    (hk : ∀ k, (row s.orders k).holder = some i → (row orders k).holder = some i)
    (hstage : next.Sound orders s.attempts i) :
    Sound ({ s with orders := orders }.goto i c next) := by
  refine h.private ⟨ho, fun _ => .refl, Nat.le_refl _⟩ hc rfl (fun j w hh hw => ?_) hstage
  obtain ⟨hwf, hrep, hins⟩ := h.own hh hw
  exact ⟨hwf, hrep, fun hn => ⟨hk _ (hins hn).holds, (hins hn).abandoned, (hins hn).newest⟩⟩

theorem rollback_untouched : Untouched (rollbackAll i s.attempts) i := by
  intro j hj
  rw [row_rollbackAll] at hj
  exact (Row.rollback_holder.1 hj).2 rfl

theorem Sound.rollback (h : Sound s) (hc : s.calls[i]? = some c)
    (hstage : next.Sound (rollbackAll i s.orders) (rollbackAll i s.attempts) i) :
    Sound (s.rollback i c next) := by
  refine h.private ⟨fun k => ?_, fun j => ?_, ?_⟩ hc rfl (fun j w hh => ?_) hstage
  · simp only [Ledgers.rollback, row_rollbackAll]
    exact Row.private_rollback
  · simp only [Ledgers.rollback, row_rollbackAll]
    exact Row.private_rollback
  · simp [Ledgers.rollback, rollbackAll]
  · exact absurd hh (rollback_untouched j)

/-! ## Commits -/

/-- The version of a row after a commit that has changed it. -/
theorem Sound.visible_order (h : Sound s) {v w : PaymentAttempt}
    (hv : (row s.attempts j).committed = some v) (hw : (row s.attempts j).visible i = some w) :
    w = v ∨ Replaces v w := by
  by_cases hh : (row s.attempts j).holder = some i
  · rw [Row.visible_of_holder hh, hv] at hw
    cases hp : (row s.attempts j).pending with
    | none =>
      rw [hp] at hw
      exact .inl (Option.some.inj hw).symm
    | some u =>
      rw [hp] at hw
      obtain rfl : u = w := Option.some.inj hw
      exact .inr (h.replaces j v u hv hp)
  · rw [Row.visible_of_not_holder hh, hv] at hw
    exact .inl (Option.some.inj hw).symm

/-- A row that the transaction sees without a committed version has been inserted by it. -/
theorem Sound.visible_inserted (h : Sound s) {w : PaymentAttempt}
    (hn : (row s.attempts j).committed = none) (hw : (row s.attempts j).visible i = some w) :
    (row s.attempts j).holder = some i ∧
      Clear s.orders s.attempts i w.paymentOrderId j := by
  by_cases hh : (row s.attempts j).holder = some i
  · rw [Row.visible_of_holder hh, hn, Option.or_none] at hw
    exact ⟨hh, h.inserted i j w hh hn hw⟩
  · rw [Row.visible_of_not_holder hh, hn] at hw
    cases hw

theorem Sound.commit_elsewhere (h : Sound s) (hi : i' ≠ i) :
    Elsewhere i' s (s.commit i c next) where
  orders k hk := by
    simp only [Ledgers.commit, row_commitAll]
    exact Row.commit_holder.2 ⟨hk, hi⟩
  attempts j hj := by
    simp only [Ledgers.commit, row_commitAll] at hj ⊢
    rcases hj with hj | hj
    · exact Row.commit_eq (Row.commit_holder.2 ⟨hj, hi⟩)
    · exact Row.commit_eq hj
  clear k j hc := by
    -- a version that appears replaces an abandoned one, as the order is not held by `i`
    have hrow : ∀ j' w, (row (commitAll i s.attempts) j').visible i' = some w →
        w.paymentOrderId = k → ∃ v, (row s.attempts j').visible i' = some v ∧
          v.paymentOrderId = k ∧ (v.Abandoned → w.Abandoned) := by
      intro j' w hw hk
      rw [row_commitAll] at hw
      by_cases hh : (row s.attempts j').holder = some i'
      · rw [Row.commit_eq (Row.commit_holder.2 ⟨hh, hi⟩)] at hw
        exact ⟨w, hw, hk, id⟩
      · rw [Row.visible_of_not_holder fun he => hh (Row.commit_holder.1 he).1,
          Row.commit_committed] at hw
        rw [Row.visible_of_not_holder hh]
        cases hv : (row s.attempts j').committed with
        | none =>
          obtain ⟨-, hins⟩ := h.visible_inserted hv hw
          have hholds := hins.holds
          rw [hk, hc.holds] at hholds
          exact absurd (Option.some.inj hholds) hi
        | some v =>
          rcases h.visible_order hv hw with rfl | hr
          · exact ⟨w, rfl, hk, id⟩
          · exact ⟨v, rfl, hr.order ▸ hk, hr.abandoned⟩
    refine ⟨?_, fun j' w hj hw hk => ?_, fun j' w hw hk => ?_⟩
    · simp only [Ledgers.commit, row_commitAll]
      exact Row.commit_holder.2 ⟨hc.holds, hi⟩
    · obtain ⟨v, hv, ho, hab⟩ := hrow j' w hw hk
      exact hab (hc.abandoned j' v hj hv ho)
    · obtain ⟨v, hv, ho, -⟩ := hrow j' w hw hk
      exact hc.newest j' v hv ho
  stays j v hv := by
    simp only [Ledgers.commit, row_commitAll, Row.commit_committed]
    obtain ⟨w, hw⟩ := Row.visible_of_committed (i := i) hv
    rcases h.visible_order hv hw with rfl | hr
    · exact ⟨w, hw, rfl⟩
    · exact ⟨w, hw, hr.order⟩
  length := by simp [Ledgers.commit, commitAll]

theorem Sound.commit (h : Sound s)
    (hstage : next.Sound (commitAll i s.orders) (commitAll i s.attempts) i) :
    Sound (s.commit i c next) := by
  have huntouched : Untouched (commitAll i s.attempts) i := by
    intro j hj
    rw [row_commitAll] at hj
    exact (Row.commit_holder.1 hj).2 rfl
  refine h.step rfl (fun i' hi => h.commit_elsewhere hi)
    (fun j hj => absurd hj (huntouched j)) ?_ ?_ ?_
    (fun j _ hj => absurd hj (huntouched j)) hstage
  · intro j v hv
    simp only [Ledgers.commit, row_commitAll] at hv
    rcases hv with hv | hv
    · rw [Row.commit_committed] at hv
      exact h.wellFormed j v (Row.version_of_visible hv)
    · rw [Row.commit_pending hv] at hv
      exact h.wellFormed j v (.inr hv)
  · intro j v w hv hw
    simp only [Ledgers.commit, row_commitAll] at hv hw
    rw [Row.commit_pending hw] at hv hw
    exact h.replaces j v w hv hw
  · intro j j' w w' hj hw hw' ho
    simp only [Ledgers.commit, row_commitAll, Row.commit_committed] at hw hw'
    cases hv' : (row s.attempts j').committed with
    | none =>
      obtain ⟨-, hins⟩ := h.visible_inserted hv' hw'
      exact hins.abandoned j w (Nat.ne_of_lt hj) hw ho
    | some v' =>
      cases hv : (row s.attempts j).committed with
      | none =>
        obtain ⟨-, hins⟩ := h.visible_inserted hv hw
        exact absurd (hins.newest j' w' hw' ho.symm) (Nat.not_le.2 hj)
      | some v =>
        have hov' : w'.paymentOrderId = v'.paymentOrderId := by
          rcases h.visible_order hv' hw' with rfl | hr
          · rfl
          · exact hr.order
        rcases h.visible_order hv hw with rfl | hr
        · exact h.newest j j' w v' hj hv hv' (ho.trans hov')
        · exact hr.abandoned (h.newest j j' v v' hj hv hv' (by rw [← hr.order, ho, hov']))

/-! ## Idempotency keys -/

/-- The call has found the order of its key, and it is the order it asks for. -/
def Call.Matched (orders : List (Row PaymentOrder)) (i : ℕ) (c : Call) : Prop :=
  ∃ k o, (row orders k).visible i = some o ∧ hasKey c o = true ∧
    o.hasSameCreationIdentity c.candidate = true

/-- What a call knows about the order of its key. -/
def Call.Keyed (orders : List (Row PaymentOrder)) (i : ℕ) (c : Call) : Prop :=
  match c.stage with
  | .addOrder | .returned _ | .raised _ | .gatewayRaised | .crashed => True
  | .readOrder => ∃ k o, (row orders k).visible i = some o ∧ hasKey c o = true
  | .lockOrder k => ∃ o, (row orders k).visible i = some o ∧ hasKey c o = true
  | _ => c.Matched orders i

/-- A committed order is never written, and no two versions share their key. -/
structure Keyed (orders : List (Row PaymentOrder)) (calls : List Call) : Prop where
  settled : ∀ k o, (row orders k).committed = some o → (row orders k).pending = none
  unique : ∀ k k' o o', (row orders k).committed = some o ∨ (row orders k).pending = some o →
    (row orders k').committed = some o' ∨ (row orders k').pending = some o' →
    o.idempotencyKey = o'.idempotencyKey → k = k'
  calls : ∀ i (c : Call), calls[i]? = some c → c.Keyed orders i

theorem Keyed.init : Keyed [] [] where
  settled k o h := by simp [row] at h
  unique k k' o o' h := by simp [row] at h
  calls i c h := by simp at h

variable {orders orders' : List (Row PaymentOrder)} {calls : List Call} {o : PaymentOrder}
  {k : ℕ}

theorem Call.Keyed.of_visible (h : c.Keyed orders i) (hv : ∀ k o,
    (row orders k).visible i = some o → (row orders' k).visible i = some o) :
    c.Keyed orders' i := by
  have hm : c.Matched orders i → c.Matched orders' i := by
    rintro ⟨k, o, ho, hko⟩
    exact ⟨k, o, hv k o ho, hko⟩
  unfold Call.Keyed at h ⊢
  split at h
  · trivial
  · trivial
  · trivial
  · trivial
  · trivial
  · obtain ⟨k, o, ho, hko⟩ := h
    exact ⟨k, o, hv k o ho, hko⟩
  · obtain ⟨o, ho, hko⟩ := h
    exact ⟨o, hv _ o ho, hko⟩
  · exact hm h

theorem Keyed.set (h : Keyed orders calls) (hc : c'.Keyed orders i) :
    Keyed orders (calls.set i c') where
  settled := h.settled
  unique := h.unique
  calls := Table.forall_set hc fun i' d _ => h.calls i' d

/-- Locks and rollbacks bring no version. -/
theorem Keyed.private (h : Keyed orders calls)
    (hp : ∀ k, Row.Private i (row orders k) (row orders' k))
    (hv : ∀ k o, (row orders' k).pending = some o → (row orders k).pending = some o)
    (hc : c'.Keyed orders' i) : Keyed orders' (calls.set i c') := by
  have hversion : ∀ k o, (row orders' k).committed = some o ∨ (row orders' k).pending = some o →
      (row orders k).committed = some o ∨ (row orders k).pending = some o := by
    intro k o ho
    rcases ho with ho | ho
    · rw [(hp k).1] at ho
      exact .inl ho
    · exact .inr (hv k o ho)
  refine ⟨fun k o ho => ?_, fun k k' o o' ho ho' => h.unique k k' o o' (hversion k o ho)
    (hversion k' o' ho'), Table.forall_set hc fun i' d hi hd => ?_⟩
  · rw [(hp k).1] at ho
    have hn := h.settled k o ho
    cases hpd : (row orders' k).pending with
    | none => rfl
    | some o' =>
      rw [hv k o' hpd] at hn
      cases hn
  · refine (h.calls i' d hd).of_visible fun k o ho => ?_
    rw [(hp k).visible hi]
    exact ho

theorem Keyed.insert (h : Keyed orders calls) (ho : hasKey c o = true)
    (hb : orders.any (Row.blocks i (hasKey c)) = false)
    (hcl : orders.any (Row.clashes i (hasKey c)) = false)
    (hc : c'.Keyed (orders ++ [Row.write i o {}]) i) :
    Keyed (orders ++ [Row.write i o {}]) (calls.set i c') := by
  -- a version with the key would have been waited for, or it would have been found
  have hnew : ∀ k o', (row orders k).committed = some o' ∨ (row orders k).pending = some o' →
      hasKey c o' = false := by
    intro k o' hv
    have hk : orders[k]? = some (row orders k) := by
      unfold row at hv ⊢
      cases hr : orders[k]? with
      | none => simp [hr] at hv
      | some r => simp [hr]
    have hb' := Table.any_eq_false_iff.1 hb k _ hk
    have hc' := Table.any_eq_false_iff.1 hcl k _ hk
    by_contra hkey
    rw [Bool.not_eq_false] at hkey
    rcases hv with hv | hv
    · rw [Row.clashes, Row.visible_of_unwritten (h.settled k o' hv), hv] at hc'
      simp [hkey] at hc'
    · by_cases hh : (row orders k).holder = some i
      · rw [Row.clashes, Row.visible_of_holder hh, hv] at hc'
        simp [hkey] at hc'
      · simp [Row.blocks, hh, hv, hkey] at hb'
  have hrow : row (orders ++ [Row.write i o {}]) =
      Function.update (row orders) orders.length (Row.write i o {}) := row_append
  have hkey : ∀ o' : PaymentOrder, hasKey c o' = false → o.idempotencyKey ≠ o'.idempotencyKey := by
    intro o' ho' he
    simp only [hasKey, decide_eq_true_eq, decide_eq_false_iff_not] at ho ho'
    exact ho' (he.symm.trans ho)
  refine ⟨fun k o' hk => ?_, fun k k' o₁ o₂ h₁ h₂ he => ?_,
    Table.forall_set hc fun i' d hi hd => ?_⟩
  · rw [hrow] at hk ⊢
    by_cases hl : k = orders.length
    · subst hl
      simp [Row.write] at hk
    · rw [Function.update_of_ne hl] at hk ⊢
      exact h.settled k o' hk
  · rw [hrow] at h₁ h₂
    by_cases hl : k = orders.length <;> by_cases hl' : k' = orders.length
    · rw [hl, hl']
    · subst hl
      rw [Function.update_self] at h₁
      rw [Function.update_of_ne hl'] at h₂
      obtain rfl : o = o₁ := by simpa [Row.write] using h₁
      exact absurd he (hkey o₂ (hnew k' o₂ h₂))
    · subst hl'
      rw [Function.update_self] at h₂
      rw [Function.update_of_ne hl] at h₁
      obtain rfl : o = o₂ := by simpa [Row.write] using h₂
      exact absurd he.symm (hkey o₁ (hnew k o₁ h₁))
    · rw [Function.update_of_ne hl] at h₁
      rw [Function.update_of_ne hl'] at h₂
      exact h.unique k k' o₁ o₂ h₁ h₂ he
  · refine (h.calls i' d hd).of_visible fun k o' hv => ?_
    rw [hrow]
    by_cases hl : k = orders.length
    · subst hl
      simp [row, Row.visible] at hv
    · rwa [Function.update_of_ne hl]

/-- A commit turns private versions into committed ones. -/
theorem Keyed.visible_commit (h : Keyed orders calls)
    (hv : (row orders k).visible i' = some o) :
    (row (commitAll i orders) k).visible i' = some o := by
  rw [row_commitAll]
  by_cases hi : i' = i
  · subst hi
    rw [Row.visible_of_not_holder fun hh => (Row.commit_holder.1 hh).2 rfl, Row.commit_committed]
    exact hv
  · by_cases hh : (row orders k).holder = some i'
    · rw [Row.commit_eq (Row.commit_holder.2 ⟨hh, hi⟩)]
      exact hv
    · rw [Row.visible_of_not_holder hh] at hv
      rw [Row.visible_of_not_holder fun he => hh (Row.commit_holder.1 he).1,
        Row.commit_committed, Row.visible_of_unwritten (h.settled k o hv)]
      exact hv

theorem Keyed.commit (h : Keyed orders calls) (hc : c'.Keyed (commitAll i orders) i) :
    Keyed (commitAll i orders) (calls.set i c') := by
  have hversion : ∀ k o, (row (commitAll i orders) k).committed = some o ∨
      (row (commitAll i orders) k).pending = some o →
      (row orders k).committed = some o ∨ (row orders k).pending = some o := by
    intro k o ho
    rw [row_commitAll] at ho
    rcases ho with ho | ho
    · rw [Row.commit_committed] at ho
      exact Row.version_of_visible ho
    · rw [Row.commit_pending ho] at ho
      exact .inr ho
  refine ⟨fun k o ho => ?_, fun k k' o o' ho ho' => h.unique k k' o o' (hversion k o ho)
    (hversion k' o' ho'), Table.forall_set hc fun i' d hi hd => ?_⟩
  · rw [row_commitAll] at ho ⊢
    cases hp : ((row orders k).commit i).pending with
    | none => rfl
    | some o' =>
      rw [Row.commit_pending hp] at ho hp
      rw [h.settled k o ho] at hp
      cases hp
  · exact (h.calls i' d hd).of_visible fun k o ho => h.visible_commit ho

end InvoiceTransactions

end ShopBot
