import Mathlib.Algebra.GroupWithZero.Nat
import Mathlib.Data.List.Basic

/-! # Drawing by weight

A ticket below the total weight of a list draws one of its items: the first one at which
the weights summed so far exceed the ticket.
-/

namespace Tickets

variable {α : Type*} (weight : α → ℕ)

def total (xs : List α) : ℕ := (xs.map weight).sum

/-- Walk the list, adding up weights, until the sum exceeds the ticket. -/
def draw (ticket : ℕ) : ℕ → List α → Option α
  | _, [] => none
  | cumulative, x :: rest =>
    if ticket < cumulative + weight x then some x else draw ticket (cumulative + weight x) rest

variable {weight} {xs : List α} {x : α} {ticket cumulative : ℕ} {p : α → Bool}

@[simp]
theorem total_nil : total weight [] = 0 := rfl

@[simp]
theorem total_cons : total weight (x :: xs) = weight x + total weight xs := by
  simp [total]

theorem draw_mem (h : draw weight ticket cumulative xs = some x) : x ∈ xs := by
  induction xs generalizing cumulative with
  | nil => cases h
  | cons y rest ih =>
    unfold draw at h
    split_ifs at h
    · exact List.mem_cons.2 (.inl (Option.some.inj h).symm)
    · exact List.mem_cons_of_mem _ (ih h)

/-- Every ticket below the total draws an item. -/
theorem draw_isSome (hc : cumulative ≤ ticket) (h : ticket < cumulative + total weight xs) :
    (draw weight ticket cumulative xs).isSome = true := by
  induction xs generalizing cumulative with
  | nil =>
    rw [total_nil] at h
    omega
  | cons y rest ih =>
    rw [total_cons] at h
    unfold draw
    split_ifs with hlt
    · rfl
    · apply ih
      · omega
      · omega

/-- As many tickets draw an item of some kind as the items of that kind weigh. -/
theorem countP_draw (cumulative : ℕ) : ((List.range' cumulative (total weight xs)).countP fun ticket =>
    (draw weight ticket cumulative xs).any p) = total weight (xs.filter p) := by
  induction xs generalizing cumulative with
  | nil => rfl
  | cons y rest ih =>
    rw [total_cons, ← List.range'_append_1, List.countP_append]
    have hhead : ((List.range' cumulative (weight y)).countP fun ticket =>
        (draw weight ticket cumulative (y :: rest)).any p) = if p y then weight y else 0 := by
      have hall : ∀ ticket ∈ List.range' cumulative (weight y),
          (draw weight ticket cumulative (y :: rest)).any p = p y := by
        intro ticket ht
        rw [List.mem_range'_1] at ht
        simp [draw, ht.2]
      by_cases hy : p y = true
      · rw [if_pos hy, List.countP_eq_length.2 fun ticket ht => (hall ticket ht).trans hy,
          List.length_range']
      · rw [if_neg hy, List.countP_eq_zero]
        intro ticket ht
        rwa [hall ticket ht]
    have htail : ((List.range' (cumulative + weight y) (total weight rest)).countP fun ticket =>
        (draw weight ticket cumulative (y :: rest)).any p) = total weight (rest.filter p) := by
      rw [← ih (cumulative + weight y)]
      refine List.countP_congr fun ticket ht => ?_
      rw [List.mem_range'_1] at ht
      have hlate : ¬ ticket < cumulative + weight y := by omega
      simp [draw, hlate]
    rw [hhead, htail]
    by_cases hy : p y = true
    · simp [hy]
    · simp [hy]

end Tickets
