import Mathlib.Logic.Relation
import ShopBot.Library.Table

/-! # Leased work

Workers claim the items of a list. The claims of an item are numbered, and an item that has
been claimed is held, under the terms of its claim, until its holder releases it or the
claim expires. A worker remembers its item and the number of its claim.
-/

namespace Leases

open Relation

/-- How often an item has been claimed, and the terms while it is held. -/
structure Item (D : Type*) where
  claims : ℕ := 0
  terms : Option D := none

structure Worker where
  item : ℕ
  number : ℕ

structure Board (D : Type*) where
  items : List (Item D)
  workers : List Worker

inductive Cause (D : Type*) where
  | add

  | claim (terms : D)

  /-- By the worker that holds the item. -/
  | release (worker : ℕ)

  | expire (terms : D)

variable {D : Type*}

namespace Board

inductive Step (b : Board D) : Cause D → Board D → Prop where
  | add : Step b .add { b with items := b.items ++ [{}] }

  | claim (k : ℕ) (x : Item D) (terms : D) (row : b.items[k]? = some x) (free : x.terms = none) :
      Step b (.claim terms) {
        items := b.items.set k { claims := x.claims + 1, terms := some terms }
        workers := b.workers ++ [{ item := k, number := x.claims + 1 }] }

  | release (i : ℕ) (w : Worker) (x : Item D) (worker : b.workers[i]? = some w)
      (row : b.items[w.item]? = some x) (number : x.claims = w.number) :
      Step b (.release i) { b with items := b.items.set w.item { x with terms := none } }

  | expire (k : ℕ) (x : Item D) (terms : D) (row : b.items[k]? = some x)
      (held : x.terms = some terms) :
      Step b (.expire terms) { b with items := b.items.set k { x with terms := none } }

/-- Steps of some causes, one after the other. -/
def Run (causes : Cause D → Prop) : Board D → Board D → Prop :=
  ReflTransGen fun b b' => ∃ cause, causes cause ∧ Step b cause b'

/-- The item of the worker is held by its claim. -/
def Holds (b : Board D) (i : ℕ) (terms : D) : Prop :=
  ∃ w, b.workers[i]? = some w ∧ b.items[w.item]? = some { claims := w.number, terms := some terms }

/-- Workers hold different claims, and no claim has a number yet to come. -/
structure Inv (b : Board D) : Prop where
  numbered : ∀ w ∈ b.workers, ∃ x, b.items[w.item]? = some x ∧ w.number ≤ x.claims
  distinct : b.workers.Nodup

variable {b b₁ b' : Board D} {cause : Cause D} {causes : Cause D → Prop} {i j k : ℕ}
  {w w' : Worker} {x x' y : Item D} {terms terms' : D}

theorem items_set (hx : b.items[k]? = some x) (hy : (b.items.set k y)[j]? = some x') :
    (j = k ∧ x' = y) ∨ (j ≠ k ∧ b.items[j]? = some x') := by
  have hrow : (b.items.set k y)[j]? = _ := congrFun (Table.getElem?_set hx) j
  rw [hrow] at hy
  by_cases hj : j = k
  · subst hj
    rw [Function.update_self] at hy
    exact .inl ⟨rfl, (Option.some.inj hy).symm⟩
  · rw [Function.update_of_ne hj] at hy
    exact .inr ⟨hj, hy⟩

/-- Two workers that hold the same item are the same. -/
theorem Inv.holds_unique (h : b.Inv) (hw : b.workers[i]? = some w) (hw' : b.workers[j]? = some w')
    (hitem : w.item = w'.item) (hi : b.Holds i terms) (hj : b.Holds j terms') : i = j := by
  obtain ⟨u, hu, hrow⟩ := hi
  obtain ⟨v, hv, hrow'⟩ := hj
  obtain rfl := Option.some.inj (hu.symm.trans hw)
  obtain rfl := Option.some.inj (hv.symm.trans hw')
  rw [hitem, hrow'] at hrow
  have hnumber : v.number = u.number := congrArg Item.claims (Option.some.inj hrow)
  have hsame : u = v := by
    cases u
    cases v
    simp_all
  have hlt := (List.getElem?_eq_some_iff.1 hw).1
  refine (List.getElem?_inj hlt h.distinct).1 ?_
  rw [hw, hw', hsame]

/-! ## One step -/

theorem Step.workers (h : Step b cause b') (hw : b.workers[i]? = some w) :
    b'.workers[i]? = some w := by
  cases h with
  | claim k x terms row free =>
    exact (List.getElem?_append_left (List.getElem?_eq_some_iff.1 hw).1).trans hw
  | _ => exact hw

/-- Items stay, and the numbers of their claims only rise. -/
theorem Step.claims_le (h : Step b cause b') (hx : b.items[k]? = some x) :
    ∃ y, b'.items[k]? = some y ∧ x.claims ≤ y.claims := by
  have hset : ∀ {j : ℕ} {u v : Item D}, b.items[j]? = some u → u.claims ≤ v.claims →
      ∃ y, (b.items.set j v)[k]? = some y ∧ x.claims ≤ y.claims := by
    intro j u v hu hle
    have hrow : (b.items.set j v)[k]? = _ := congrFun (Table.getElem?_set hu) k
    rw [hrow]
    by_cases hk : k = j
    · subst hk
      rw [Function.update_self]
      obtain rfl := Option.some.inj (hx.symm.trans hu)
      exact ⟨v, rfl, hle⟩
    · rw [Function.update_of_ne hk]
      exact ⟨x, hx, Nat.le_refl _⟩
  cases h with
  | add =>
    exact ⟨x, (List.getElem?_append_left (List.getElem?_eq_some_iff.1 hx).1).trans hx, Nat.le_refl _⟩
  | claim j u terms row free => exact hset row (Nat.le_succ _)
  | release j v u worker row number => exact hset row (Nat.le_refl _)
  | expire j u terms row held => exact hset row (Nat.le_refl _)

theorem Step.inv (h : Step b cause b') (hinv : b.Inv) : b'.Inv := by
  have hold : ∀ w ∈ b.workers, ∃ y, b'.items[w.item]? = some y ∧ w.number ≤ y.claims := by
    intro w hw
    obtain ⟨x, hx, hle⟩ := hinv.numbered w hw
    obtain ⟨y, hy, hle'⟩ := h.claims_le hx
    exact ⟨y, hy, Nat.le_trans hle hle'⟩
  cases h with
  | claim k x terms row free =>
    have hk : k < b.items.length := (List.getElem?_eq_some_iff.1 row).1
    refine ⟨fun w hw => ?_, ?_⟩
    · rcases List.mem_append.1 hw with hw | hw
      · exact hold w hw
      · obtain rfl := List.mem_singleton.1 hw
        exact ⟨{ claims := x.claims + 1, terms := some terms }, by simp [hk], Nat.le_refl _⟩
    · rw [List.nodup_append]
      refine ⟨hinv.distinct, by simp, ?_⟩
      rintro w hw w' hw' rfl
      obtain rfl := List.mem_singleton.1 hw'
      obtain ⟨y, hy, hle⟩ := hinv.numbered _ hw
      obtain rfl := Option.some.inj (hy.symm.trans row)
      exact absurd hle (Nat.not_succ_le_self _)
  | _ => exact ⟨hold, hinv.distinct⟩

/-- A worker that holds its item after a step held it before, if it was there. -/
theorem Step.holds_before (h : Step b cause b') (hinv : b.Inv) (hw : b.workers[i]? = some w)
    (hh : b'.Holds i terms) : b.Holds i terms := by
  obtain ⟨w', hw', hrow⟩ := hh
  obtain rfl := Option.some.inj ((h.workers hw).symm.trans hw')
  obtain ⟨x, hx, hle⟩ := hinv.numbered w (List.mem_of_getElem? hw)
  refine ⟨w, hw, ?_⟩
  cases h with
  | add =>
    rwa [List.getElem?_append_left (List.getElem?_eq_some_iff.1 hx).1] at hrow
  | claim k y terms' row free =>
    rcases items_set row hrow with ⟨hk, heq⟩ | ⟨-, hrow⟩
    · obtain rfl := Option.some.inj (hx.symm.trans (hk ▸ row))
      have hclaims : w.number = x.claims + 1 := congrArg Item.claims heq
      omega
    · exact hrow
  | release j v y worker row number =>
    rcases items_set row hrow with ⟨-, heq⟩ | ⟨-, hrow⟩
    · cases congrArg Item.terms heq
    · exact hrow
  | expire k y terms' row held =>
    rcases items_set row hrow with ⟨-, heq⟩ | ⟨-, hrow⟩
    · cases congrArg Item.terms heq
    · exact hrow

/-- A worker holds its item until it releases it or its claim expires. -/
theorem Step.holds_after (h : Step b cause b') (hinv : b.Inv) (hh : b.Holds i terms) :
    b'.Holds i terms ∨ cause = .release i ∨ cause = .expire terms := by
  obtain ⟨w, hw, hrow⟩ := hh
  have hset : ∀ {k : ℕ} {y : Item D}, k ≠ w.item → (b.items.set k y)[w.item]? =
      some { claims := w.number, terms := some terms } := by
    intro k y hk
    rw [List.getElem?_set_ne hk, hrow]
  cases h with
  | add =>
    refine .inl ⟨w, hw, ?_⟩
    exact (List.getElem?_append_left (List.getElem?_eq_some_iff.1 hrow).1).trans hrow
  | claim k y terms' row free =>
    refine .inl ⟨w, (List.getElem?_append_left (List.getElem?_eq_some_iff.1 hw).1).trans hw, ?_⟩
    refine hset fun hk => ?_
    rw [hk, hrow] at row
    obtain rfl := Option.some.inj row
    cases free
  | release j v y worker row number =>
    by_cases hk : v.item = w.item
    · refine .inr (.inl ?_)
      rw [hk, hrow] at row
      obtain rfl := Option.some.inj row
      have hsame : v = w := by
        cases v
        cases w
        simp_all
      have hlt := (List.getElem?_eq_some_iff.1 worker).1
      have hj : j = i := (List.getElem?_inj hlt hinv.distinct).1 (by rw [worker, hw, hsame])
      rw [hj]
    · exact .inl ⟨w, hw, hset hk⟩
  | expire k y terms' row held =>
    by_cases hk : k = w.item
    · refine .inr (.inr ?_)
      rw [hk, hrow] at row
      obtain rfl := Option.some.inj row
      rw [Option.some.inj held]
    · exact .inl ⟨w, hw, hset hk⟩

/-! ## Runs -/

theorem Run.inv (h : Run causes b b') (hinv : b.Inv) : b'.Inv := by
  induction h with
  | refl => exact hinv
  | tail _ hstep ih =>
    obtain ⟨cause, -, hstep⟩ := hstep
    exact hstep.inv ih

theorem Run.workers (h : Run causes b b') (hw : b.workers[i]? = some w) :
    b'.workers[i]? = some w := by
  induction h with
  | refl => exact hw
  | tail _ hstep ih =>
    obtain ⟨cause, -, hstep⟩ := hstep
    exact hstep.workers ih

theorem Run.holds_before (h : Run causes b b') (hinv : b.Inv) (hw : b.workers[i]? = some w)
    (hh : b'.Holds i terms) : b.Holds i terms := by
  induction h with
  | refl => exact hh
  | tail hr hstep ih =>
    obtain ⟨cause, -, hstep⟩ := hstep
    exact ih (hstep.holds_before (Run.inv hr hinv) (Run.workers hr hw) hh)

/-- In a run that neither releases nor expires its claim, a worker goes on holding its item. -/
theorem Run.holds_after (h : Run causes b b') (hinv : b.Inv) (hh : b.Holds i terms)
    (hrelease : ¬ causes (.release i)) (hexpire : ¬ causes (.expire terms)) :
    b'.Holds i terms := by
  induction h with
  | refl => exact hh
  | tail hr hstep ih =>
    obtain ⟨cause, hcause, hstep⟩ := hstep
    rcases hstep.holds_after (Run.inv hr hinv) ih with hh | rfl | rfl
    · exact hh
    · exact absurd hcause hrelease
    · exact absurd hcause hexpire

/-- A worker that a run brings has claimed an item, and holds it unless the run ends its claim. -/
theorem Run.claimed (h : Run causes b b') (hinv : b.Inv) (hold : b.workers[i]? = none)
    (hw : b'.workers[i]? = some w) (hrelease : ¬ causes (.release i)) :
    ∃ terms, causes (.claim terms) ∧ (causes (.expire terms) ∨ b'.Holds i terms) := by
  induction h with
  | refl => cases hold.symm.trans hw
  | @tail c c' hr hstep ih =>
    obtain ⟨cause, hcause, hstep⟩ := hstep
    cases hc : c.workers[i]? with
    | some v =>
      obtain rfl := Option.some.inj ((hstep.workers hc).symm.trans hw)
      obtain ⟨terms, hclaim, hexp | hh⟩ := ih hc
      · exact ⟨terms, hclaim, .inl hexp⟩
      · rcases hstep.holds_after (Run.inv hr hinv) hh with hh | rfl | rfl
        · exact ⟨terms, hclaim, .inr hh⟩
        · exact absurd hcause hrelease
        · exact ⟨terms, hclaim, .inl hcause⟩
    | none =>
      have hge : c.workers.length ≤ i := List.getElem?_eq_none_iff.1 hc
      cases hstep with
      | claim k x terms row free =>
        refine ⟨terms, hcause, .inr ⟨w, hw, ?_⟩⟩
        dsimp only at hw ⊢
        rw [List.getElem?_append_right hge] at hw
        obtain rfl := List.mem_singleton.1 (List.mem_of_getElem? hw)
        simp [(List.getElem?_eq_some_iff.1 row).1]
      | _ => cases hc.symm.trans hw

end Board

end Leases
