import Mathlib.Logic.Relation

/-! # Transition systems

States reachable from an initial predicate, the invariant rule, runs whose steps
are restricted by a guard, and simulation of one system by another. A system whose
steps carry labels is executed by folding the labels.
-/

namespace Transition

open Relation

variable {σ τ α : Type*}

/-- States reached from an initial state by finitely many steps. -/
def Reachable (init : σ → Prop) (step : σ → σ → Prop) (s : σ) : Prop :=
  ∃ s₀, init s₀ ∧ ReflTransGen step s₀ s

/-- Steps that satisfy a condition on the state they start from and the state they reach. -/
def Guarded (step guard : σ → σ → Prop) (s s' : σ) : Prop :=
  step s s' ∧ guard s s'

section Reachable

variable {init : σ → Prop} {step guard : σ → σ → Prop} {s s' : σ}

theorem Reachable.of_init (h : init s) : Reachable init step s :=
  ⟨s, h, .refl⟩

theorem Reachable.tail (h : Reachable init step s) (hs : step s s') :
    Reachable init step s' := by
  obtain ⟨s₀, h₀, hr⟩ := h
  exact ⟨s₀, h₀, hr.tail hs⟩

theorem Reachable.trans (h : Reachable init step s) (hs : ReflTransGen step s s') :
    Reachable init step s' := by
  obtain ⟨s₀, h₀, hr⟩ := h
  exact ⟨s₀, h₀, hr.trans hs⟩

/-- The invariant rule; the step may use that its source is reachable. -/
theorem Reachable.invariant (inv : σ → Prop) (h₀ : ∀ s, init s → inv s)
    (hs : ∀ s s', Reachable init step s → inv s → step s s' → inv s')
    (h : Reachable init step s) : inv s := by
  obtain ⟨s₀, hi, hr⟩ := h
  induction hr with
  | refl => exact h₀ _ hi
  | tail hr hstep ih => exact hs _ _ ⟨s₀, hi, hr⟩ ih hstep

theorem preserves_run (inv : σ → Prop) (hs : ∀ s s', inv s → step s s' → inv s')
    (hr : ReflTransGen step s s') (h : inv s) : inv s' := by
  induction hr with
  | refl => exact h
  | tail _ hstep ih => exact hs _ _ ih hstep

theorem Reachable.of_guarded (h : Reachable init (Guarded step guard) s) :
    Reachable init step s := by
  obtain ⟨s₀, h₀, hr⟩ := h
  exact ⟨s₀, h₀, ReflTransGen.mono (fun _ _ hs => hs.1) _ _ hr⟩

/-- A forward simulation by a function carries reachable states to reachable states. -/
theorem Reachable.simulate {init' : τ → Prop} {step' : τ → τ → Prop} (f : σ → τ)
    (h₀ : ∀ s, init s → init' (f s))
    (hs : ∀ s s', Reachable init step s → step s s' → ReflTransGen step' (f s) (f s'))
    (h : Reachable init step s) : Reachable init' step' (f s) := by
  obtain ⟨s₀, hi, hr⟩ := h
  induction hr with
  | refl => exact .of_init (h₀ _ hi)
  | tail hr hstep ih => exact ih.trans (hs _ _ ⟨s₀, hi, hr⟩ hstep)

end Reachable

/-- The steps of a system that executes labels. -/
def Labelled (exec : σ → α → Option σ) (s s' : σ) : Prop :=
  ∃ a, exec s a = some s'

/-- Execute a list of labels in order. -/
def execAll (exec : σ → α → Option σ) : σ → List α → Option σ
  | s, [] => some s
  | s, a :: as => (exec s a).bind fun s' => execAll exec s' as

variable {exec : σ → α → Option σ}

theorem execAll_run {s s' : σ} {as : List α} (h : execAll exec s as = some s') :
    ReflTransGen (Labelled exec) s s' := by
  induction as generalizing s with
  | nil =>
    obtain rfl : s = s' := by simpa [execAll] using h
    exact .refl
  | cons a as ih =>
    obtain ⟨t, ht, hr⟩ := Option.bind_eq_some_iff.mp h
    exact .head ⟨a, ht⟩ (ih hr)

theorem Reachable.of_execAll {init : σ → Prop} {s s' : σ} {as : List α} (h₀ : init s)
    (h : execAll exec s as = some s') : Reachable init (Labelled exec) s' :=
  ⟨s, h₀, execAll_run h⟩

/-- Execute only the labels whose step passes a check. -/
def restrict (exec : σ → α → Option σ) (check : σ → σ → Bool) (s : σ) (a : α) : Option σ :=
  (exec s a).filter (check s)

theorem restrict_step {check : σ → σ → Bool} {guard : σ → σ → Prop} {s s' : σ}
    (hg : ∀ s s', check s s' = true → guard s s') (h : Labelled (restrict exec check) s s') :
    Guarded (Labelled exec) guard s s' := by
  obtain ⟨a, ha⟩ := h
  obtain ⟨hs, hc⟩ := Option.filter_eq_some_iff.1 ha
  exact ⟨⟨a, hs⟩, hg s s' hc⟩

/-- A run of checked labels is a guarded run. -/
theorem Reachable.of_restrict {init : σ → Prop} {check : σ → σ → Bool} {guard : σ → σ → Prop}
    {s s' : σ} {as : List α} (hg : ∀ s s', check s s' = true → guard s s') (h₀ : init s)
    (h : execAll (restrict exec check) s as = some s') :
    Reachable init (Guarded (Labelled exec) guard) s' :=
  ⟨s, h₀, ReflTransGen.mono (fun _ _ => restrict_step hg) _ _ (execAll_run h)⟩

end Transition
