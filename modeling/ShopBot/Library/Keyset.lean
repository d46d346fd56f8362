import Mathlib.Data.List.Sort
import Mathlib.Order.Defs.LinearOrder

/-! # Paging by keys

A list in the order of its keys is read in pages. A page starts after the last key of the page
before it, so that pages neither overlap nor leave anything out.
-/

namespace Keyset

variable {α κ : Type*} [LinearOrder κ] (key : α → κ)

/-- What comes after a key. -/
def after (items : List α) (cursor : κ) : List α := items.filter (cursor < key ·)

def page (items : List α) (cursor : κ) (size : ℕ) : List α := (after key items cursor).take size

variable {key} {items : List α} {cursor : κ}

theorem after_sorted (h : items.Pairwise (key · < key ·)) (cursor : κ) :
    (after key items cursor).Pairwise (key · < key ·) :=
  h.filter _

/-- After a key that is later than the cursor comes what is later among what came after it. -/
theorem after_after {next : κ} (h : cursor ≤ next) :
    after key (after key items cursor) next = after key items next := by
  rw [after, after, List.filter_filter, after]
  refine List.filter_congr fun a _ => ?_
  by_cases ha : next < key a <;> simp [ha]
  exact lt_of_le_of_lt h ha

/-- Behind an element of a sorted list comes the rest of the list. -/
theorem after_append {front back : List α} {last : α}
    (h : (front ++ last :: back).Pairwise (key · < key ·)) :
    after key (front ++ last :: back) (key last) = back := by
  rw [List.pairwise_append, List.pairwise_cons] at h
  obtain ⟨-, ⟨hback, -⟩, hfront⟩ := h
  rw [after, List.filter_append, List.filter_cons_of_neg (by simp)]
  have hnone : front.filter (key last < key ·) = [] := by
    rw [List.filter_eq_nil_iff]
    intro a ha
    simpa using (hfront a ha last List.mem_cons_self).le
  rw [hnone, List.nil_append, List.filter_eq_self]
  exact fun a ha => by simpa using hback a ha

/-- The page that follows a page begins where that one ended. -/
theorem after_last {size : ℕ} {front : List α} {last : α}
    (h : items.Pairwise (key · < key ·)) (hpage : page key items cursor size = front ++ [last]) :
    after key items (key last) = (after key items cursor).drop size := by
  have hsplit : after key items cursor =
      front ++ last :: (after key items cursor).drop size := by
    rw [← List.singleton_append, ← List.append_assoc, ← hpage, page, List.take_append_drop]
  have hlast : cursor ≤ key last := by
    have hmem : last ∈ after key items cursor := by
      rw [hsplit]
      simp
    simpa using (List.mem_filter.1 hmem).2 |> of_decide_eq_true |>.le
  rw [← after_after hlast]
  conv_lhs => rw [hsplit]
  refine after_append ?_
  rw [← hsplit]
  exact after_sorted h cursor

end Keyset
