import Mathlib.Data.List.Basic

/-! # Separated lists

Lists joined by a separator. Where none of the parts holds the separator, as many other parts
can not give the same whole.
-/

namespace Separated

variable {α : Type*} [DecidableEq α] {x : α}

omit [DecidableEq α] in
theorem mem_intercalate {y : α} :
    ∀ {parts : List (List α)}, y ∈ [x].intercalate parts → y = x ∨ ∃ part ∈ parts, y ∈ part
  | [], h => by simp at h
  | [part], h => .inr ⟨part, List.mem_singleton_self _, by simpa using h⟩
  | part :: next :: rest, h => by
      rw [List.intercalate_cons_cons, List.append_assoc, List.singleton_append,
        List.mem_append, List.mem_cons] at h
      obtain h | h | h := h
      · exact .inr ⟨part, List.mem_cons_self, h⟩
      · exact .inl h
      · exact (mem_intercalate h).imp_right fun ⟨other, hmem, hy⟩ =>
          ⟨other, List.mem_cons_of_mem _ hmem, hy⟩

theorem mem_splitOn (x : α) {y : α} {whole : List α} (h : y ∈ whole) :
    y = x ∨ ∃ part ∈ whole.splitOn x, y ∈ part := by
  have hjoin : [x].intercalate (whole.splitOn x) = whole := List.intercalate_splitOn x
  rw [← hjoin] at h
  exact mem_intercalate h

/-- The parts of a whole are the parts of each of the lists it was joined from. -/
theorem splitOn_intercalate_eq_flatMap :
    ∀ {parts : List (List α)}, parts ≠ [] →
      ([x].intercalate parts).splitOn x = parts.flatMap (List.splitOn x)
  | [part], _ => by simp
  | part :: next :: rest, _ => by
      rw [List.intercalate_cons_cons, List.append_assoc, List.singleton_append,
        List.splitOn_append_cons_self, splitOn_intercalate_eq_flatMap (List.cons_ne_nil _ _)]
      rfl

theorem length_le_length_flatMap_splitOn :
    ∀ parts : List (List α), parts.length ≤ (parts.flatMap (List.splitOn x)).length
  | [] => by simp
  | part :: rest => by
      have hpart := List.length_pos_of_ne_nil (List.splitOn_ne_nil x part)
      have hrest := length_le_length_flatMap_splitOn rest
      rw [List.flatMap_cons, List.length_append, List.length_cons]
      omega

/-- As many parts as there are lists: every list is one part. -/
theorem flatMap_splitOn_eq_self :
    ∀ {parts : List (List α)}, (parts.flatMap (List.splitOn x)).length = parts.length →
      parts.flatMap (List.splitOn x) = parts
  | [], _ => rfl
  | part :: rest, h => by
      have hpart := List.length_pos_of_ne_nil (List.splitOn_ne_nil x part)
      have hrest := length_le_length_flatMap_splitOn (x := x) rest
      rw [List.flatMap_cons, List.length_append, List.length_cons] at h
      obtain ⟨only, honly⟩ := List.length_eq_one_iff.1 (show (part.splitOn x).length = 1 by omega)
      have hself : [x].intercalate (part.splitOn x) = part := List.intercalate_splitOn x
      rw [honly, List.intercalate_singleton] at hself
      rw [List.flatMap_cons, honly, hself, List.singleton_append,
        flatMap_splitOn_eq_self (by omega)]

/-- Parts without the separator are told from any other parts, when these are as many. -/
theorem eq_of_intercalate_eq {parts parts' : List (List α)} (hfree : ∀ part ∈ parts, x ∉ part)
    (hlength : parts.length = parts'.length)
    (h : [x].intercalate parts = [x].intercalate parts') : parts = parts' := by
  cases parts with
  | nil => exact (List.eq_nil_of_length_eq_zero hlength.symm).symm
  | cons part rest =>
    have hne : parts' ≠ [] := by
      rintro rfl
      simp at hlength
    have hparts : part :: rest = parts'.flatMap (List.splitOn x) := by
      rw [← splitOn_intercalate_eq_flatMap hne, ← h]
      exact (List.splitOn_intercalate x hfree (List.cons_ne_nil _ _)).symm
    have hcount : (parts'.flatMap (List.splitOn x)).length = parts'.length := by
      rw [← hparts, hlength]
    rw [hparts, flatMap_splitOn_eq_self hcount]

omit [DecidableEq α] in
/-- A first part without the separator is told from the rest, whatever the rest is. -/
theorem first_inj {part part' rest rest' : List α} (hpart : x ∉ part) (hpart' : x ∉ part')
    (h : [x].intercalate [part, rest] = [x].intercalate [part', rest']) :
    part = part' ∧ rest = rest' := by
  simp only [List.intercalate_cons_cons, List.intercalate_singleton, List.append_assoc,
    List.singleton_append] at h
  induction part generalizing part' with
  | nil =>
    cases part' with
    | nil => exact ⟨rfl, (List.cons.inj h).2⟩
    | cons y part' => exact absurd ((List.cons.inj h).1 ▸ List.mem_cons_self) hpart'
  | cons y part ih =>
    cases part' with
    | nil => exact absurd ((List.cons.inj h).1 ▸ List.mem_cons_self) hpart
    | cons z part' =>
      obtain ⟨rfl, htail⟩ := List.cons.inj h
      obtain ⟨rfl, hrest⟩ := ih (List.not_mem_of_not_mem_cons hpart)
        (List.not_mem_of_not_mem_cons hpart') htail
      exact ⟨rfl, hrest⟩

end Separated
