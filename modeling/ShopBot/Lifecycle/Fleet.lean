import ShopBot.Lifecycle.Invariant
import ShopBot.Library.Transition

/-! # All configurations together

Configurations are created in order, a new one only when the latest of its
subscription has ended. So only the latest can be live, and what a run of transactions
may do to one configuration is read off its single steps.
-/

namespace ShopBot.Lifecycle

open Relation

variable {S T : Type*} [DecidableEq T]

namespace Aggregate

variable {a a' : Aggregate S T} {r : T} {t : Task} {op : Operation} {funded : S → Prop}
  {actor : Actor T}

/-! ## What one transaction can change -/

theorem Step.frame (h : Step funded a actor a') :
    a'.subscription = a.subscription ∧ a'.route = a.route := by
  cases h with
  | lapseNode _ _ _ _ _ _ _ _ _ adds => exact ⟨adds.frame.1, adds.frame.2.1⟩
  | followUp _ _ _ _ _ _ _ _ adds => exact ⟨adds.frame.1, adds.frame.2.1⟩
  | request _ _ adds => exact ⟨adds.frame.1, adds.frame.2.1⟩
  | restoreRevoke _ _ adds => exact ⟨adds.frame.1, adds.frame.2.1⟩
  | restoreProvision _ _ _ adds => exact ⟨adds.frame.1, adds.frame.2.1⟩
  | _ => exact ⟨rfl, rfl⟩

/-- The generation rises exactly when a revoke is requested. -/
theorem Step.generation (h : Step funded a actor a') :
    (a'.generation = a.generation ∧ a'.desired = a.desired) ∨
      (a'.generation = a.generation + 1 ∧ a'.desired = .revoked ∧ a'.status = .revoking ∧
        a.status ≠ .revoking) := by
  have hcur : ∀ t, t.operation = .provision → a.Current t → a.status ≠ .revoking := by
    intro t hop hc hs
    have := hc.2
    rw [hop] at this
    cases this.2.symm.trans hs
  cases h with
  | lapseNode r t _ _ _ hop _ current _ adds =>
    obtain ⟨-, -, hs, hd, hg⟩ := adds.frame
    exact .inr ⟨hg, hd, hs, hcur t hop current⟩
  | lapsePanel r t _ _ hop _ current =>
    exact .inr ⟨rfl, rfl, rfl, hcur t hop current⟩
  | request _ hs adds =>
    obtain ⟨-, -, hs', hd, hg⟩ := adds.frame
    refine .inr ⟨hg, hd, hs', ?_⟩
    rcases hs with h | h | h | h <;> simp [h]
  | followUp _ _ _ _ _ _ _ _ adds => exact .inl ⟨adds.frame.2.2.2.2, adds.frame.2.2.2.1⟩
  | restoreRevoke _ _ adds => exact .inl ⟨adds.frame.2.2.2.2, adds.frame.2.2.2.1⟩
  | restoreProvision _ _ _ adds => exact .inl ⟨adds.frame.2.2.2.2, adds.frame.2.2.2.1⟩
  | _ => exact .inl ⟨rfl, rfl⟩

/-- A task keeps its operation and its generation. -/
theorem Step.keeps_task (h : Step funded a actor a') (ht : a.task r = some t) :
    ∃ s, a'.task r = some { t with status := s } := by
  have hset : ∀ r₀ t₀ s, a.task r₀ = some t₀ →
      ∃ s', (a.setTask r₀ { t₀ with status := s }).task r = some { t with status := s' } := by
    intro r₀ t₀ s h₀
    by_cases hr : r = r₀
    · subst hr
      rw [h₀] at ht
      cases ht
      exact ⟨s, setTask_task_self⟩
    · exact ⟨t.status, (setTask_task_of_ne hr).trans ht⟩
  cases h with
  | requeue r₀ t₀ s h₀ => exact hset r₀ t₀ s h₀
  | settle r₀ t₀ s h₀ => exact hset r₀ t₀ s h₀
  | finish r₀ t₀ h₀ => exact hset r₀ t₀ _ h₀
  | activate r₀ t₀ h₀ => exact hset r₀ t₀ _ h₀
  | failProvision r₀ t₀ h₀ => exact hset r₀ t₀ _ h₀
  | revoked r₀ t₀ h₀ => exact hset r₀ t₀ _ h₀
  | failRevoke r₀ t₀ h₀ => exact hset r₀ t₀ _ h₀
  | compensated r₀ t₀ _ h₀ => exact hset r₀ t₀ _ h₀
  | lapseNode r₀ t₀ _ _ h₀ _ _ _ _ adds =>
    obtain ⟨s, hs⟩ := hset r₀ t₀ .succeeded h₀
    exact ⟨s, adds.keeps hs⟩
  | followUp r₀ t₀ _ _ h₀ _ _ _ adds =>
    obtain ⟨s, hs⟩ := hset r₀ t₀ .succeeded h₀
    exact ⟨s, adds.keeps hs⟩
  | request _ _ adds => exact ⟨t.status, adds.keeps ht⟩
  | restoreRevoke _ _ adds => exact ⟨t.status, adds.keeps ht⟩
  | restoreProvision _ _ _ adds => exact ⟨t.status, adds.keeps ht⟩
  | _ => exact ⟨t.status, ht⟩

/-- Who may change the status: the result of a task of the current generation, the
compensation of the provision that a revoke has overtaken, or a request. -/
theorem Step.status_change (h : Step funded a actor a') (hinv : a.Inv)
    (hne : a'.status ≠ a.status) :
    (∃ r t, (actor = .attempt r ∨ actor = .success r) ∧ a.task r = some t ∧
      t.generation = a.generation) ∨
      (∃ r t, actor = .compensation r ∧ a.task r = some t ∧ t.operation = .provision ∧
        a.generation = t.generation + 1 ∧ a.status = .revoking ∧ a'.status = .revoked) ∨
      (actor = .request ∧ a'.status = .revoking ∧ a.generation < a'.generation) := by
  cases h with
  | requeue r t s ht => exact absurd rfl hne
  | settle r t s ht => exact absurd rfl hne
  | finish r t ht => exact absurd rfl hne
  | activate r t ht _ _ current => exact .inl ⟨r, t, .inr rfl, ht, current.1⟩
  | failProvision r t ht _ _ current => exact .inl ⟨r, t, .inl rfl, ht, current.1⟩
  | revoked r t ht _ _ current => exact .inl ⟨r, t, .inr rfl, ht, current.1⟩
  | failRevoke r t ht _ _ current => exact .inl ⟨r, t, .inl rfl, ht, current.1⟩
  | lapseNode r t _ _ ht _ _ current => exact .inl ⟨r, t, .inr rfl, ht, current.1⟩
  | lapsePanel r t _ ht _ _ current => exact .inl ⟨r, t, .inr rfl, ht, current.1⟩
  | compensated r t _ ht hop _ hs _ overtaken =>
    exact .inr (.inl ⟨r, t, rfl, ht, hop, overtaken, hs, rfl⟩)
  | followUp _ _ _ _ _ _ _ _ adds => exact absurd adds.frame.2.2.1 hne
  | recoverProvision r t ht hop _ _ hd =>
    exact .inl ⟨r, t, .inr rfl, ht,
      (hinv.ledger.provision r t ht hop).trans (hinv.first hd).symm⟩
  | recoverRevoke r t ht _ hg => exact .inl ⟨r, t, .inr rfl, ht, hg⟩
  | request _ _ adds =>
    obtain ⟨-, -, hs, -, hg⟩ := adds.frame
    exact .inr (.inr ⟨rfl, hs, hg ▸ Nat.lt_succ_self _⟩)
  | restoreRevoke _ _ adds => exact absurd adds.frame.2.2.1 hne
  | restoreProvision _ _ _ adds => exact absurd adds.frame.2.2.1 hne

/-- Activation starts from a provisioning configuration that is still wanted and funded,
by the result of its current provision. -/
theorem Step.activation (h : Step funded a actor a') (hinv : a.Inv) (hs : a.status ≠ .active)
    (hs' : a'.status = .active) :
    a.status = .provisioning ∧ a.desired = .active ∧ funded a.subscription ∧
      ∃ r t, actor = .success r ∧ a.task r = some t ∧ t.operation = .provision ∧
        t.generation = a.generation := by
  have hadds : ∀ {op : Operation} {b : Aggregate S T}, Adds b op a' → b.status = .active :=
    fun ha => ha.frame.2.2.1.symm.trans hs'
  cases h with
  | activate r t ht hop _ current hf =>
    have := current.2
    rw [hop] at this
    exact ⟨this.2, this.1, hf, r, t, rfl, ht, hop, current.1⟩
  | recoverProvision r t ht hop _ hs hd hf =>
    exact ⟨hs, hd, hf, r, t, rfl, ht, hop,
      (hinv.ledger.provision r t ht hop).trans (hinv.first hd).symm⟩
  | requeue => exact absurd hs' hs
  | settle => exact absurd hs' hs
  | finish => exact absurd hs' hs
  | lapseNode _ _ _ _ _ _ _ _ _ adds => exact absurd (hadds adds) (by rintro ⟨⟩)
  | request _ _ adds => exact absurd (hadds adds) (by rintro ⟨⟩)
  | followUp _ _ _ _ _ _ _ _ adds => exact absurd (hadds adds) hs
  | restoreRevoke _ _ adds => exact absurd (hadds adds) hs
  | restoreProvision _ _ _ adds => exact absurd (hadds adds) hs
  | _ => cases hs'

theorem Adds.succeeded (ha : Adds a op a') (ht : a'.task r = some t) (hs : t.status = .succeeded) :
    a.task r = some t := by
  cases ha with
  | existing => exact ht
  | inserted r₀ =>
    rcases setTask_task_eq ht with ⟨rfl, rfl⟩ | ⟨-, h⟩
    · cases hs
    · exact h

/-- A task that has succeeded had done so before, or is the one that succeeds now. -/
theorem Step.succeeded (h : Step funded a actor a') (ht : a'.task r = some t)
    (hs : t.status = .succeeded) : a.task r = some t ∨ actor = .success r := by
  have hset : ∀ {r₀ t₀}, (a.setTask r₀ t₀).task r = some t → a.task r = some t ∨ r = r₀ := by
    intro r₀ t₀ h
    rcases setTask_task_eq h with ⟨rfl, -⟩ | ⟨-, h⟩
    · exact .inr rfl
    · exact .inl h
  have hlive : ∀ {r₀ t₀}, t₀.status ≠ .succeeded → (a.setTask r₀ t₀).task r = some t →
      a.task r = some t := by
    intro r₀ t₀ hne h
    rcases setTask_task_eq h with ⟨rfl, rfl⟩ | ⟨-, h⟩
    · exact absurd hs hne
    · exact h
  cases h with
  | requeue r₀ t₀ s _ _ stays => exact .inl (hlive (by rintro rfl; cases stays) ht)
  | settle r₀ t₀ s _ _ givesUp => exact .inl (hlive (by rcases givesUp with rfl | rfl <;> simp) ht)
  | finish | activate | revoked => exact (hset ht).imp_right (congrArg _ ·.symm)
  | failProvision | failRevoke | compensated => exact .inl (hlive (by simp) ht)
  | lapseNode _ _ _ _ _ _ _ _ _ adds =>
    exact (hset (adds.succeeded ht hs)).imp_right (congrArg _ ·.symm)
  | followUp _ _ _ _ _ _ _ _ adds =>
    exact (hset (adds.succeeded ht hs)).imp_right (congrArg _ ·.symm)
  | request _ _ adds => exact .inl (adds.succeeded ht hs)
  | restoreRevoke _ _ adds => exact .inl (adds.succeeded ht hs)
  | restoreProvision _ _ _ adds => exact .inl (adds.succeeded ht hs)
  | lapsePanel | recoverProvision | recoverRevoke => exact .inl ht

theorem Fresh.not_succeeded (h : a.Fresh) (ht : a.task r = some t) : t.status ≠ .succeeded := by
  obtain ⟨-, -, -, r₀, htask⟩ := h
  rw [htask] at ht
  by_cases hr : r = r₀
  · subst hr
    rw [Function.update_self] at ht
    cases ht
    simp
  · rw [Function.update_of_ne hr] at ht
    cases ht

/-- No transaction returns a configuration to provisioning. -/
theorem Step.provisioning (h : Step funded a actor a') (hs : a'.status = .provisioning) :
    a.status = .provisioning := by
  have hadds : ∀ {op : Operation} {b : Aggregate S T}, Adds b op a' → b.status = .provisioning :=
    fun ha => ha.frame.2.2.1.symm.trans hs
  cases h with
  | requeue | settle | finish => exact hs
  | lapseNode _ _ _ _ _ _ _ _ _ adds => cases hadds adds
  | request _ _ adds => cases hadds adds
  | followUp _ _ _ _ _ _ _ _ adds =>
    have := hadds adds
    exact this
  | restoreRevoke _ _ adds => exact hadds adds
  | restoreProvision _ _ _ adds => exact hadds adds
  | _ => cases hs

/-- The client is being removed, or has been. -/
def Removed (a : Aggregate S T) : Prop := a.status = .revoking ∨ a.status = .revoked

/-- Only a new request starts to remove a client. -/
theorem Step.removed (h : Step funded a actor a') (hr : a'.Removed)
    (hg : a'.generation = a.generation) : a.Removed := by
  have hnew : ∀ {b : Aggregate S T}, Adds a.requestRevoke .revoke b → b.generation ≠ a.generation :=
    fun ha => by
      rw [ha.frame.2.2.2.2]
      exact Nat.succ_ne_self _
  have hadds : ∀ {op : Operation} {b : Aggregate S T}, Adds b op a' → b.status = a.status →
      a.Removed := fun ha hb => by
    unfold Removed at hr ⊢
    rwa [ha.frame.2.2.1, hb] at hr
  cases h with
  | requeue | settle | finish => exact hr
  | activate | failProvision | failRevoke | recoverProvision => rcases hr with h | h <;> cases h
  | revoked r t ht hop _ current =>
    have := current.2
    rw [hop] at this
    exact .inl this.2
  | compensated _ _ _ _ _ _ hs => exact .inl hs
  | recoverRevoke _ _ _ _ _ _ hs => exact .inl hs
  | lapseNode _ _ _ _ _ _ _ _ _ adds =>
    have hgen := adds.frame.2.2.2.2
    exact absurd (hgen.symm.trans hg) (Nat.succ_ne_self _)
  | lapsePanel => exact absurd hg (Nat.succ_ne_self _)
  | request _ _ adds => exact absurd hg (hnew adds)
  | followUp _ _ _ _ _ _ _ _ adds => exact hadds adds rfl
  | restoreRevoke _ _ adds => exact hadds adds rfl
  | restoreProvision _ _ _ adds => exact hadds adds rfl

/-- A configuration that has ended stays as it is. -/
theorem Step.status_of_terminal (h : Step funded a actor a') (hs : a.status.isTerminal = true) :
    a'.status = a.status := by
  have hcur : ∀ t, ¬ a.Current t := by
    intro t hc
    have h2 := hc.2
    cases hop : t.operation <;> rw [hop] at h2 <;>
      simp [h2.2, VpnConfigurationStatus.isTerminal] at hs
  cases h with
  | requeue | settle | finish => rfl
  | activate _ t _ _ _ current => exact absurd current (hcur t)
  | failProvision _ t _ _ _ current => exact absurd current (hcur t)
  | revoked _ t _ _ _ current => exact absurd current (hcur t)
  | failRevoke _ t _ _ _ current => exact absurd current (hcur t)
  | lapseNode _ t _ _ _ _ _ current => exact absurd current (hcur t)
  | lapsePanel _ t _ _ _ _ current => exact absurd current (hcur t)
  | followUp _ _ _ _ _ _ _ _ adds => exact adds.frame.2.2.1
  | restoreRevoke _ _ adds => exact adds.frame.2.2.1
  | restoreProvision _ _ _ adds => exact adds.frame.2.2.1
  | request _ h => rcases h with h | h | h | h <;> simp [h, VpnConfigurationStatus.isTerminal] at hs
  | compensated _ _ _ _ _ _ h => simp [h, VpnConfigurationStatus.isTerminal] at hs
  | recoverProvision _ _ _ _ _ h => simp [h, VpnConfigurationStatus.isTerminal] at hs
  | recoverRevoke _ _ _ _ _ _ h => simp [h, VpnConfigurationStatus.isTerminal] at hs

end Aggregate

/-- The configurations by identifier. -/
abbrev Fleet (S T : Type*) := ℕ → Option (Aggregate S T)

namespace Fleet

/-- One committed transaction. -/
inductive Step (funded : S → Prop) (f : Fleet S T) : Actor T → Fleet S T → Prop where
  | transition (id : ℕ) (a a' : Aggregate S T) (actor : Actor T) (ha : f id = some a)
      (h : Aggregate.Step funded a actor a') :
      Step funded f actor (Function.update f id (some a'))

  | create (id : ℕ) (a : Aggregate S T) (next : ∀ j b, f j = some b → j < id) (fresh : a.Fresh)
      (latest : ∀ j b, f j = some b → b.subscription = a.subscription →
        b.status.isTerminal = true ∨
          ∃ k c, j < k ∧ f k = some c ∧ c.subscription = a.subscription) :
      Step funded f .request (Function.update f id (some a))

/-- Transactions of some actors, one after the other. -/
def Run (funded : S → Prop) (actors : Actor T → Prop) : Fleet S T → Fleet S T → Prop :=
  ReflTransGen fun f f' => ∃ actor, actors actor ∧ Step funded f actor f'

structure Inv (f : Fleet S T) : Prop where
  each : ∀ id a, f id = some a → a.Inv
  oneLive : ∀ j k a b, j < k → f j = some a → f k = some b → a.subscription = b.subscription →
    a.status.isTerminal = true

variable {f f' : Fleet S T} {funded : S → Prop} {actor : Actor T} {actors : Actor T → Prop}
  {id : ℕ} {a a' : Aggregate S T}

/-- What a step makes of a configuration that is there. -/
theorem Step.at (h : Step funded f actor f') (ha : f id = some a) :
    ∃ a', f' id = some a' ∧ (a' = a ∨ Aggregate.Step funded a actor a') := by
  cases h with
  | transition j b b' _ hb h =>
    by_cases hj : id = j
    · subst hj
      rw [ha] at hb
      cases hb
      exact ⟨b', Function.update_self .., .inr h⟩
    · exact ⟨a, (Function.update_of_ne hj ..).trans ha, .inl rfl⟩
  | create j b next =>
    exact ⟨a, (Function.update_of_ne (Nat.ne_of_lt (next _ _ ha)) ..).trans ha, .inl rfl⟩

theorem Step.inv (h : Step funded f actor f') (hinv : f.Inv) : f'.Inv := by
  cases h with
  | transition id a a' _ ha h =>
    have hframe := h.frame.1
    refine ⟨fun j b hb => ?_, fun j k b c hjk hb hc hbc => ?_⟩
    · by_cases hj : j = id
      · subst hj
        rw [Function.update_self] at hb
        cases hb
        exact h.inv (hinv.each _ _ ha)
      · rw [Function.update_of_ne hj] at hb
        exact hinv.each _ _ hb
    · by_cases hk : k = id
      · subst hk
        rw [Function.update_self] at hc
        rw [Function.update_of_ne (Nat.ne_of_lt hjk)] at hb
        cases hc
        exact hinv.oneLive _ _ _ _ hjk hb ha (hbc.trans hframe)
      · rw [Function.update_of_ne hk] at hc
        by_cases hj : j = id
        · subst hj
          rw [Function.update_self] at hb
          cases hb
          have ht := hinv.oneLive _ _ _ _ hjk ha hc (hframe.symm.trans hbc)
          rwa [h.status_of_terminal ht]
        · rw [Function.update_of_ne hj] at hb
          exact hinv.oneLive _ _ _ _ hjk hb hc hbc
  | create id a next fresh latest =>
    refine ⟨fun j b hb => ?_, fun j k b c hjk hb hc hbc => ?_⟩
    · by_cases hj : j = id
      · subst hj
        rw [Function.update_self] at hb
        cases hb
        exact .of_fresh fresh
      · rw [Function.update_of_ne hj] at hb
        exact hinv.each _ _ hb
    · by_cases hk : k = id
      · subst hk
        rw [Function.update_self] at hc
        rw [Function.update_of_ne (Nat.ne_of_lt hjk)] at hb
        cases hc
        rcases latest j b hb hbc with ht | ⟨l, d, hjl, hd, hds⟩
        · exact ht
        · exact hinv.oneLive _ _ _ _ hjl hb hd (hbc.trans hds.symm)
      · rw [Function.update_of_ne hk] at hc
        have hj : j ≠ id := by
          rintro rfl
          exact Nat.lt_asymm hjk (next _ _ hc)
        rw [Function.update_of_ne hj] at hb
        exact hinv.oneLive _ _ _ _ hjk hb hc hbc

theorem Run.inv (h : Run funded actors f f') (hinv : f.Inv) : f'.Inv :=
  Transition.preserves_run Fleet.Inv (fun _ _ hf ⟨_, _, hs⟩ => hs.inv hf) h hinv

/-! ## What a run can change -/

theorem Run.at (h : Run funded actors f f') (ha : f id = some a) : ∃ a', f' id = some a' := by
  induction h with
  | refl => exact ⟨a, ha⟩
  | tail _ hs ih =>
    obtain ⟨_, _, hs⟩ := hs
    obtain ⟨b, hb⟩ := ih
    obtain ⟨a', ha', -⟩ := hs.at hb
    exact ⟨a', ha'⟩

/-- Configurations are created by requests. -/
theorem Run.created (h : Run funded actors f f') (ha : f id = none) (ha' : f' id = some a') :
    actors .request := by
  induction h generalizing a' with
  | refl => cases ha.symm.trans ha'
  | tail _ hs ih =>
    obtain ⟨actor, hact, hs⟩ := hs
    cases hs with
    | transition j b b' _ hb =>
      by_cases hj : id = j
      · exact ih (hj ▸ hb)
      · exact ih ((Function.update_of_ne hj ..).symm.trans ha')
    | create => exact hact

/-- A property of one configuration that every step preserves. -/
theorem Run.invariant (p : Aggregate S T → Prop)
    (hp : ∀ a a' actor, a.Inv → Aggregate.Step funded a actor a' → p a → p a')
    (h : Run funded actors f f') (hinv : f.Inv) (ha : f id = some a) (h₀ : p a)
    (ha' : f' id = some a') : p a' := by
  induction h generalizing a' with
  | refl => exact Option.some.inj (ha.symm.trans ha') ▸ h₀
  | @tail g g' hr hs ih =>
    obtain ⟨actor, -, hs⟩ := hs
    obtain ⟨b, hb⟩ := Run.at hr ha
    obtain ⟨b', hb', hstep⟩ := hs.at hb
    obtain rfl := Option.some.inj (hb'.symm.trans ha')
    rcases hstep with rfl | hstep
    · exact ih hb
    · exact hp b b' actor ((Run.inv hr hinv).each _ _ hb) hstep (ih hb)

theorem Run.frame (h : Run funded actors f f') (hinv : f.Inv) (ha : f id = some a)
    (ha' : f' id = some a') : a'.subscription = a.subscription ∧ a'.route = a.route :=
  invariant (fun b => b.subscription = a.subscription ∧ b.route = a.route)
    (fun _ _ _ _ hs hb => ⟨hs.frame.1.trans hb.1, hs.frame.2.trans hb.2⟩) h hinv ha ⟨rfl, rfl⟩ ha'

theorem Run.generation_le (h : Run funded actors f f') (hinv : f.Inv) (ha : f id = some a)
    (ha' : f' id = some a') : a.generation ≤ a'.generation := by
  refine invariant (fun b => a.generation ≤ b.generation) ?_ h hinv ha (Nat.le_refl _) ha'
  intro b b' _ _ hs hb
  rcases hs.generation with h | h
  · exact h.1 ▸ hb
  · exact h.1 ▸ Nat.le_succ_of_le hb

/-- A run in which the generation stays does not start to remove a client. -/
theorem Run.removed (h : Run funded actors f f') (hinv : f.Inv) (ha : f id = some a)
    (ha' : f' id = some a') (hr : a'.Removed) (hg : a'.generation = a.generation) :
    a.Removed := by
  induction h generalizing a' with
  | refl => exact Option.some.inj (ha.symm.trans ha') ▸ hr
  | @tail g g' hrun hs ih =>
    obtain ⟨actor, -, hs⟩ := hs
    obtain ⟨b, hb⟩ := Run.at hrun ha
    obtain ⟨b', hb', hstep⟩ := hs.at hb
    obtain rfl := Option.some.inj (hb'.symm.trans ha')
    have hle := Run.generation_le hrun hinv ha hb
    rcases hstep with rfl | hstep
    · exact ih hb hr hg
    · have hsame : b'.generation = b.generation := by
        rcases hstep.generation with h | h
        · exact h.1
        · omega
      exact ih hb (hstep.removed hr hsame) (hsame.symm.trans hg)

/-- Once the client is no longer wanted it is never wanted again. -/
theorem Run.desired_revoked (h : Run funded actors f f') (hinv : f.Inv) (ha : f id = some a)
    (hd : a.desired = .revoked) (ha' : f' id = some a') : a'.desired = .revoked := by
  refine invariant (fun b => b.desired = .revoked) ?_ h hinv ha hd ha'
  intro b b' _ _ hs hb
  rcases hs.generation with h | h
  · exact h.2.trans hb
  · exact h.2.1

theorem Run.keeps_task {r : T} {t : Task} (h : Run funded actors f f') (hinv : f.Inv)
    (ha : f id = some a) (ht : a.task r = some t) (ha' : f' id = some a') :
    ∃ s, a'.task r = some { t with status := s } := by
  refine invariant (fun b => ∃ s, b.task r = some { t with status := s }) ?_ h hinv ha
    ⟨t.status, ht⟩ ha'
  rintro b b' _ _ hs ⟨s, hb⟩
  obtain ⟨s', hb'⟩ := hs.keeps_task hb
  exact ⟨s', hb'⟩

/-- A run changes a status through a task of the generation at which it found the
configuration, through the compensation of an overtaken provision, or by a new request. -/
theorem Run.status_change (h : Run funded actors f f') (hinv : f.Inv)
    (ha : f id = some a) (ha' : f' id = some a') (hne : a'.status ≠ a.status) :
    (∃ r t, (actors (.attempt r) ∨ actors (.success r)) ∧ a'.task r = some t ∧
      t.generation = a.generation) ∨
      (∃ r t, actors (.compensation r) ∧ a.status = .revoking ∧ a'.status = .revoked ∧
        a'.task r = some t ∧ t.operation = .provision ∧ a.generation = t.generation + 1) ∨
      (actors .request ∧ a'.desired = .revoked ∧ a.generation < a'.generation) := by
  induction h using ReflTransGen.head_induction_on generalizing a with
  | refl =>
    rw [Option.some.inj (ha.symm.trans ha')] at hne
    exact absurd rfl hne
  | @head g g' hs hr ih =>
    obtain ⟨actor, hact, hs⟩ := hs
    have hinv' := hs.inv hinv
    obtain ⟨b, hb, hstep⟩ := hs.at ha
    rcases hstep with rfl | hstep
    · exact ih hinv' hb hne
    · by_cases hsame : b.status = a.status
      · have hg : b.generation = a.generation := by
          rcases hstep.generation with h | h
          · exact h.1
          · exact absurd (hsame.symm.trans h.2.2.1) h.2.2.2
        rw [← hg, ← hsame]
        exact ih hinv' hb (hsame ▸ hne)
      · have hkeep : ∀ {r t}, a.task r = some t → ∃ s, a'.task r = some { t with status := s } := by
          intro r t ht
          obtain ⟨s, hs⟩ := hstep.keeps_task ht
          obtain ⟨s', hs'⟩ := Run.keeps_task hr hinv' hb hs ha'
          exact ⟨s', hs'⟩
        rcases hstep.status_change (hinv.each _ _ ha) hsame with
          ⟨r, t, hactor, ht, hg⟩ | ⟨r, t, rfl, ht, hop, hg, hs₁, hs₂⟩ | ⟨rfl, -, hg⟩
        · obtain ⟨s, hs⟩ := hkeep ht
          refine .inl ⟨r, _, ?_, hs, hg⟩
          rcases hactor with rfl | rfl
          · exact .inl hact
          · exact .inr hact
        · obtain ⟨s, hs⟩ := hkeep ht
          refine .inr (.inl ⟨r, _, hact, hs₁, ?_, hs, hop, hg⟩)
          refine invariant (fun c => c.status = .revoked) ?_ hr hinv' hb hs₂ ha'
          intro c c' _ _ hc h
          exact (hc.status_of_terminal (by rw [h]; rfl)).trans h
        · refine .inr (.inr ⟨hact, ?_, Nat.lt_of_lt_of_le hg (Run.generation_le hr hinv' hb ha')⟩)
          rcases hstep.generation with h | h
          · exact absurd h.1.symm (Nat.ne_of_lt hg)
          · exact Run.desired_revoked hr hinv' hb h.2.1 ha'

/-- Every activation in a run starts from a provisioning configuration that is wanted and
funded, by the success of a task of its generation. -/
theorem Run.activation (h : Run funded actors f f') (hinv : f.Inv) (ha : f id = some a)
    (ha' : f' id = some a') (hs : a.status ≠ .active) (hs' : a'.status = .active) :
    a.status = .provisioning ∧ a.desired = .active ∧ funded a.subscription ∧
      ∃ r t, actors (.success r) ∧ a'.task r = some t ∧ t.operation = .provision ∧
        t.generation = a.generation := by
  induction h using ReflTransGen.head_induction_on generalizing a with
  | refl =>
    rw [Option.some.inj (ha.symm.trans ha')] at hs
    exact absurd hs' hs
  | @head g g' hstep hr ih =>
    obtain ⟨actor, hact, hstep⟩ := hstep
    have hinv' := hstep.inv hinv
    obtain ⟨b, hb, hstep⟩ := hstep.at ha
    rcases hstep with rfl | hstep
    · exact ih hinv' hb hs
    · by_cases hbs : b.status = .active
      · obtain ⟨h₁, h₂, h₃, r, t, rfl, ht, hop, hg⟩ :=
          hstep.activation (hinv.each _ _ ha) hs hbs
        obtain ⟨s, hs⟩ := hstep.keeps_task ht
        obtain ⟨s', hs'⟩ := Run.keeps_task hr hinv' hb hs ha'
        exact ⟨h₁, h₂, h₃, r, _, hact, hs', hop, hg⟩
      · obtain ⟨h₁, h₂, h₃, hr⟩ := ih hinv' hb hbs
        have hgen : b.generation = a.generation ∧ b.desired = a.desired := by
          rcases hstep.generation with h | h
          · exact h
          · cases h.2.1.symm.trans h₂
        rw [← hgen.1, ← hgen.2, ← hstep.frame.1]
        exact ⟨hstep.provisioning h₁, h₂, h₃, hr⟩

/-- A task that comes to succeed in a run does so by its own success. -/
theorem Run.succeeded {r : T} {t : Task} (h : Run funded actors f f') (ha' : f' id = some a')
    (ht : a'.task r = some t) (hs : t.status = .succeeded) :
    (∃ a, f id = some a ∧ a.task r = some t) ∨ actors (.success r) := by
  induction h generalizing a' with
  | refl => exact .inl ⟨a', ha', ht⟩
  | tail _ hstep ih =>
    obtain ⟨actor, hact, hstep⟩ := hstep
    cases hstep with
    | transition j b b' _ hb hstep =>
      by_cases hj : id = j
      · subst hj
        rw [Function.update_self] at ha'
        cases ha'
        rcases hstep.succeeded ht hs with h | rfl
        · exact ih hb h
        · exact .inr hact
      · rw [Function.update_of_ne hj] at ha'
        exact ih ha' ht
    | create j b next fresh =>
      by_cases hj : id = j
      · subst hj
        rw [Function.update_self] at ha'
        cases ha'
        exact absurd hs (fresh.not_succeeded ht)
      · rw [Function.update_of_ne hj] at ha'
        exact ih ha' ht

end Fleet

end ShopBot.Lifecycle
