import Mathlib.Data.List.Basic
import Mathlib.Logic.Function.Iterate

/-! # Backlogs

A backlog is worked off in rounds. A round takes the items at the front; those that succeed
leave, and those that fail stay where they are. So the failing items in front narrow the view
of every later round.
-/

namespace Backlog

variable {α : Type*} (ok : α → Bool) (size : ℕ)

/-- What a round leaves of the backlog. -/
def round (backlog : List α) : List α :=
  (backlog.take size).filter (!ok ·) ++ backlog.drop size

/-- How many items have left after some rounds: those that succeed in the part of the backlog
that the rounds have seen. -/
def served (backlog : List α) : ℕ → ℕ
  | 0 => 0
  | rounds + 1 => (backlog.take (size + served backlog rounds)).countP ok

/-- How far the rounds have seen. -/
def seen (backlog : List α) : ℕ → ℕ
  | 0 => 0
  | rounds + 1 => size + served ok size backlog rounds

variable {ok size} {backlog : List α}

theorem countP_take_seen (rounds : ℕ) :
    (backlog.take (seen ok size backlog rounds)).countP ok = served ok size backlog rounds := by
  cases rounds <;> simp [seen, served]

/-- Failing items and succeeding ones. -/
theorem length_filter_not (l : List α) :
    (l.filter (!ok ·)).length + l.countP ok = l.length := by
  induction l with
  | nil => rfl
  | cons a l ih => cases h : ok a <;> simp [h] <;> omega

/-- The next round sees the failing items again, and as many new ones as there is room for. -/
theorem round_append {front back : List α} (hroom : front.length ≤ size) :
    round ok size (front ++ back) =
      (front ++ back.take (size - front.length)).filter (!ok ·) ++
        back.drop (size - front.length) := by
  rw [round, List.take_append, List.drop_append, List.take_of_length_le hroom,
    List.drop_of_length_le hroom, List.nil_append]

/-- After some rounds the backlog has lost what succeeded among the items seen, and the
failing ones among these fit in a round. -/
theorem rounds_eq (rounds : ℕ) :
    (round ok size)^[rounds] backlog =
        (backlog.take (seen ok size backlog rounds)).filter (!ok ·) ++
          backlog.drop (seen ok size backlog rounds) ∧
      ((backlog.take (seen ok size backlog rounds)).filter (!ok ·)).length ≤ size := by
  induction rounds with
  | zero => simp [seen]
  | succ rounds ih =>
    obtain ⟨hrounds, hroom⟩ := ih
    have hcount := @length_filter_not _ ok (backlog.take (seen ok size backlog rounds))
    rw [countP_take_seen] at hcount
    rw [Function.iterate_succ_apply', hrounds, round_append hroom]
    set n := seen ok size backlog rounds with hn
    set failing := (backlog.take n).filter (!ok ·) with hfailing
    have hseen : seen ok size backlog (rounds + 1) = size + served ok size backlog rounds := rfl
    have hkept : failing.filter (!ok ·) = failing := by
      rw [hfailing, List.filter_filter]
      simp
    by_cases hend : n ≤ backlog.length
    · have hnext : seen ok size backlog (rounds + 1) = n + (size - failing.length) := by
        rw [List.length_take_of_le hend] at hcount
        omega
      have hsplit : (backlog.take (n + (size - failing.length))).filter (!ok ·) =
          (failing ++ (backlog.drop n).take (size - failing.length)).filter (!ok ·) := by
        rw [List.take_add, List.filter_append, List.filter_append, hkept]
      refine ⟨by rw [hnext, hsplit, List.drop_drop], ?_⟩
      rw [hnext, hsplit]
      have hle := List.length_filter_le (!ok ·)
        (failing ++ (backlog.drop n).take (size - failing.length))
      rw [List.length_append, List.length_take] at hle
      omega
    · -- everything has been seen, and only failing items are left
      have hall : backlog.take n = backlog := List.take_of_length_le (by omega)
      have hnext : backlog.length ≤ seen ok size backlog (rounds + 1) := by
        rw [hall] at hcount
        omega
      rw [List.take_of_length_le hnext, List.drop_of_length_le hnext,
        List.drop_of_length_le (by omega : backlog.length ≤ n), List.take_nil, List.drop_nil,
        List.append_nil, List.append_nil, hkept]
      have hfailing' : failing = backlog.filter (!ok ·) := by rw [hfailing, hall]
      exact ⟨hfailing'.trans (List.append_nil _).symm, hfailing' ▸ hroom⟩

/-- All that can succeed have left exactly when as many were served as there were. -/
theorem forall_mem_rounds_iff (rounds : ℕ) :
    (∀ a ∈ (round ok size)^[rounds] backlog, ok a = false) ↔
      served ok size backlog rounds = backlog.countP ok := by
  have hsplit : backlog.countP ok = served ok size backlog rounds +
      (backlog.drop (seen ok size backlog rounds)).countP ok := by
    rw [← countP_take_seen, ← List.countP_append, List.take_append_drop]
  rw [(rounds_eq rounds).1]
  constructor
  · intro h
    have hrest : (backlog.drop (seen ok size backlog rounds)).countP ok = 0 := by
      rw [List.countP_eq_zero]
      exact fun a ha => by simp [h a (List.mem_append_right _ ha)]
    omega
  · intro h a ha
    obtain ha | ha := List.mem_append.1 ha
    · simpa using (List.mem_filter.1 ha).2
    · have hrest : (backlog.drop (seen ok size backlog rounds)).countP ok = 0 := by omega
      simpa using List.countP_eq_zero.1 hrest a ha

end Backlog
