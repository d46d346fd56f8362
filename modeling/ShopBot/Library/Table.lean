import Mathlib.Algebra.BigOperators.Group.List.Basic
import Mathlib.Data.List.Basic
import Mathlib.Data.List.Sort
import Mathlib.Logic.Function.Basic
import Mathlib.Order.Basic

/-! # Tables

A table is the list of its rows in insertion order, and a row is addressed by its
position. Selections keep the position of each row, so the newest and the oldest
matching rows are the last and the first elements of a selection.
-/

namespace Table

variable {α : Type*} {p : α → Bool} {rows : List α} {a b : α} {i j : ℕ}

/-- Matching rows with their positions, oldest first. -/
def select (p : α → Bool) (rows : List α) : List (α × ℕ) :=
  rows.zipIdx.filter fun r => p r.1

/-- The newest matching row. -/
def lastWhere (p : α → Bool) (rows : List α) : Option (α × ℕ) :=
  (select p rows).getLast?

/-- The oldest matching row. -/
def firstWhere (p : α → Bool) (rows : List α) : Option (α × ℕ) :=
  (select p rows).head?

theorem mem_select : (a, i) ∈ select p rows ↔ rows[i]? = some a ∧ p a = true := by
  simp [select, List.mem_filter, List.mk_mem_zipIdx_iff_getElem?]

theorem select_sorted : (select p rows).Pairwise fun r s => r.2 < s.2 := by
  have h : rows.zipIdx.Pairwise fun r s => r.2 < s.2 := by
    have hr : (List.range' 0 rows.length 1).Pairwise (· < ·) := List.pairwise_lt_range'
    rw [← List.zipIdx_map_snd 0 rows, List.pairwise_map] at hr
    exact hr
  exact h.filter _

theorem lastWhere_eq_none :
    lastWhere p rows = none ↔ ∀ (i : ℕ) (a : α), rows[i]? = some a → p a = false := by
  rw [lastWhere, List.getLast?_eq_none_iff, List.eq_nil_iff_forall_not_mem]
  constructor
  · intro h i a ha
    by_contra hp
    exact h (a, i) (mem_select.2 ⟨ha, by simpa using hp⟩)
  · rintro h ⟨a, i⟩ hm
    obtain ⟨ha, hp⟩ := mem_select.1 hm
    simp [h i a ha] at hp

theorem lastWhere_some (h : lastWhere p rows = some (a, i)) :
    rows[i]? = some a ∧ p a = true ∧ ∀ j b, rows[j]? = some b → p b = true → j ≤ i := by
  obtain ⟨ys, hs⟩ := List.getLast?_eq_some_iff.1 h
  have hm := mem_select.1 (hs ▸ List.mem_append_right ys (List.mem_singleton_self (a, i)))
  refine ⟨hm.1, hm.2, fun j b hb hp => ?_⟩
  have hj : (b, j) ∈ ys ++ [(a, i)] := hs ▸ mem_select.2 ⟨hb, hp⟩
  rcases List.mem_append.1 hj with hy | hy
  · have hsorted : (select p rows).Pairwise fun r s => r.2 < s.2 := select_sorted
    rw [hs] at hsorted
    exact (List.pairwise_append.1 hsorted).2.2 _ hy _ (List.mem_singleton_self _) |> Nat.le_of_lt
  · obtain ⟨-, rfl⟩ := by simpa using hy
    exact Nat.le_refl _

theorem lastWhere_of_unique (ha : rows[i]? = some a) (hp : p a = true)
    (hu : ∀ j b, rows[j]? = some b → p b = true → j = i) :
    lastWhere p rows = some (a, i) := by
  rcases h : lastWhere p rows with _ | ⟨b, j⟩
  · simp [lastWhere_eq_none.1 h i a ha] at hp
  · obtain ⟨hb, hpb, -⟩ := lastWhere_some h
    obtain rfl := hu j b hb hpb
    rw [ha] at hb
    cases hb
    rfl

theorem lastWhere_append : lastWhere p (rows ++ [a]) =
    if p a = true then some (a, rows.length) else lastWhere p rows := by
  unfold lastWhere select
  rw [List.zipIdx_append, List.filter_append]
  by_cases h : p a = true <;> simp [h]

theorem firstWhere_eq_none :
    firstWhere p rows = none ↔ ∀ (i : ℕ) (a : α), rows[i]? = some a → p a = false := by
  rw [firstWhere, List.head?_eq_none_iff, ← List.getLast?_eq_none_iff]
  exact lastWhere_eq_none

theorem firstWhere_some (h : firstWhere p rows = some (a, i)) :
    rows[i]? = some a ∧ p a = true :=
  mem_select.1 (List.mem_of_mem_head? h)

theorem any_iff : rows.any p = true ↔ ∃ (i : ℕ) (a : α), rows[i]? = some a ∧ p a = true := by
  constructor
  · intro h
    obtain ⟨a, hm, hp⟩ := List.any_eq_true.1 h
    obtain ⟨i, hi⟩ := List.mem_iff_getElem?.1 hm
    exact ⟨i, a, hi, hp⟩
  · rintro ⟨i, a, hi, hp⟩
    exact List.any_eq_true.2 ⟨a, List.mem_of_getElem? hi, hp⟩

theorem any_eq_false_iff :
    rows.any p = false ↔ ∀ (i : ℕ) (a : α), rows[i]? = some a → p a = false := by
  rw [← Bool.not_eq_true, any_iff]
  constructor
  · intro h i a ha
    by_contra hp
    exact h ⟨i, a, ha, by simpa using hp⟩
  · rintro h ⟨i, a, ha, hp⟩
    simp [h i a ha] at hp

/-- Writing a row changes the position map at that position only. -/
theorem getElem?_set (h : rows[i]? = some b) :
    (fun k => (rows.set i a)[k]?) = Function.update (fun k => rows[k]?) i (some a) := by
  have hi : i < rows.length := (List.getElem?_eq_some_iff.1 h).1
  funext k
  by_cases hk : k = i
  · subst hk
    simp [hi]
  · rw [List.getElem?_set_ne (Ne.symm hk), Function.update_of_ne hk]

/-- What holds of the written row and of every other row holds of the table. -/
theorem forall_set {P : ℕ → α → Prop} (hrow : P i a)
    (hother : ∀ k b, k ≠ i → rows[k]? = some b → P k b) :
    ∀ k b, (rows.set i a)[k]? = some b → P k b := by
  intro k b hb
  by_cases hk : k = i
  · subst hk
    rw [List.getElem?_set_self'] at hb
    obtain ⟨_, -, rfl⟩ := Option.map_eq_some_iff.1 hb
    exact hrow
  · rw [List.getElem?_set_ne (Ne.symm hk)] at hb
    exact hother k b hk hb

/-- Writing a row does not show in a column that it keeps. -/
theorem map_set {β : Type*} {f : α → β} (h : rows[i]? = some b) (hf : f a = f b) :
    (rows.set i a).map f = rows.map f := by
  refine List.ext_getElem? fun k => ?_
  have hrow : (rows.set i a)[k]? = _ := congrFun (getElem?_set h) k
  rw [List.getElem?_map, List.getElem?_map, hrow]
  by_cases hk : k = i
  · subst hk
    rw [Function.update_self, h, Option.map_some, Option.map_some, hf]
  · rw [Function.update_of_ne hk]

/-- Writing a row replaces its summand. -/
theorem sum_map_set {G : Type*} [AddCommGroup G] {f : α → G} (h : rows[i]? = some b) :
    ((rows.set i a).map f).sum = (rows.map f).sum + (f a - f b) := by
  obtain ⟨hi, rfl⟩ := List.getElem?_eq_some_iff.1 h
  rw [List.map_set, List.sum_set', dif_pos (by simpa using hi), List.getElem_map, neg_add_eq_sub]

/-- Inserting a row fills the first free position. -/
theorem getElem?_append : (fun k => (rows ++ [a])[k]?) =
    Function.update (fun k => rows[k]?) rows.length (some a) := by
  funext k
  rcases Nat.lt_trichotomy k rows.length with hk | rfl | hk
  · rw [Function.update_of_ne (Nat.ne_of_lt hk), List.getElem?_append_left hk]
  · simp
  · rw [Function.update_of_ne (Nat.ne_of_gt hk), List.getElem?_eq_none (by simp; omega),
      List.getElem?_eq_none (Nat.le_of_lt hk)]

/-- Rows are counted no more often when every counted row was counted before. -/
theorem countP_le_countP {q : α → Bool} {rows rows' : List α} (h : ∀ (k : ℕ) (a' : α),
    rows'[k]? = some a' → q a' = true → ∃ a, rows[k]? = some a ∧ p a = true) :
    rows'.countP q ≤ rows.countP p := by
  induction rows' generalizing rows with
  | nil => simp
  | cons a' rest' ih =>
    cases rows with
    | nil =>
      rw [List.countP_eq_zero.2]
      · simp
      · intro b hb hq
        obtain ⟨k, hk⟩ := List.mem_iff_getElem?.1 hb
        obtain ⟨a, ha, -⟩ := h k b hk hq
        simp at ha
    | cons a rest =>
      have hrest : rest'.countP q ≤ rest.countP p := ih fun k b hb hq => by
        simpa using h (k + 1) b (by simpa using hb) hq
      have hfirst : q a' = true → p a = true := fun hq => by simpa using h 0 a' (by simp) hq
      rw [List.countP_cons, List.countP_cons]
      split_ifs with hq hp
      · omega
      · exact absurd (hfirst hq) hp
      · omega
      · omega

/-! ## Rows that stay -/

/-- Every row stays at its position and keeps its identity. -/
def Keeps {β : Type*} (identity : α → β) (rows rows' : List α) : Prop :=
  ∀ (k : ℕ) (a : α), rows[k]? = some a → ∃ a', rows'[k]? = some a' ∧ identity a' = identity a

section Keeps

variable {β : Type*} {identity : α → β} {rows₁ rows₂ : List α} {a' : α} {k : ℕ}

theorem Keeps.refl : Keeps identity rows rows := fun _ a ha => ⟨a, ha, rfl⟩

theorem Keeps.trans (h : Keeps identity rows rows₁) (h' : Keeps identity rows₁ rows₂) :
    Keeps identity rows rows₂ := by
  intro k a ha
  obtain ⟨b, hb, hba⟩ := h k a ha
  obtain ⟨c, hc, hcb⟩ := h' k b hb
  exact ⟨c, hc, hcb.trans hba⟩

theorem Keeps.set (h : rows[k]? = some a) (hid : identity a' = identity a) :
    Keeps identity rows (rows.set k a') := by
  intro j b hb
  by_cases hj : j = k
  · subst hj
    cases h.symm.trans hb
    exact ⟨a', by simp [(List.getElem?_eq_some_iff.1 h).1], hid⟩
  · exact ⟨b, (List.getElem?_set_ne (Ne.symm hj)).trans hb, rfl⟩

theorem Keeps.append (new : List α) : Keeps identity rows (rows ++ new) := by
  intro k a ha
  refine ⟨a, ?_, rfl⟩
  rw [List.getElem?_append_left (List.getElem?_eq_some_iff.1 ha).1]
  exact ha

/-- Rows that keep what they identify, and are no more. -/
theorem Keeps.map_eq (h : Keeps identity rows rows') (hlength : rows'.length = rows.length) :
    rows'.map identity = rows.map identity := by
  apply List.ext_getElem?
  intro k
  rw [List.getElem?_map, List.getElem?_map]
  cases hrow : rows[k]? with
  | none =>
    rw [List.getElem?_eq_none_iff] at hrow
    rw [List.getElem?_eq_none (by omega)]
  | some a =>
    obtain ⟨a', ha', hid⟩ := h k a hrow
    rw [ha', Option.map_some, Option.map_some, hid]

theorem Keeps.of_map_eq (h : rows'.map identity = rows.map identity) :
    Keeps identity rows rows' := by
  intro k a ha
  have hk := congrArg (·[k]?) h
  simp only [List.getElem?_map, ha, Option.map_some] at hk
  exact Option.map_eq_some_iff.1 hk

end Keeps

/-! ## The first rows in an order -/

/-- A row is among the first ones, or as many rows as were asked for come before it. -/
theorem mem_take_insertionSort {r : α → α → Prop} [DecidableRel r] [Std.Total r] [IsTrans α r]
    (n : ℕ) (h : a ∈ rows) : a ∈ (rows.insertionSort r).take n ∨
      ((rows.insertionSort r).take n).length = n ∧ ∀ b ∈ (rows.insertionSort r).take n, r b a := by
  have hsorted : (rows.insertionSort r).Pairwise r := List.pairwise_insertionSort r rows
  have hmem : a ∈ (rows.insertionSort r).take n ++ (rows.insertionSort r).drop n := by
    rw [List.take_append_drop]
    exact (List.mem_insertionSort r).2 h
  rcases List.mem_append.1 hmem with hmem | hmem
  · exact .inl hmem
  · right
    constructor
    · have hlt := List.length_pos_of_mem hmem
      rw [List.length_drop] at hlt
      rw [List.length_take]
      omega
    · intro b hb
      rw [← List.take_append_drop n (rows.insertionSort r), List.pairwise_append] at hsorted
      exact hsorted.2.2 b hb a hmem

/-! ## Rows that are changed one after the other -/

/-- The rows at some positions are changed one after the other. -/
inductive Rewritten (change : α → α → Prop) : List ℕ → List α → List α → Prop where
  | nil (rows : List α) : Rewritten change [] rows rows

  | cons {ids : List ℕ} {rows rows' : List α} {k : ℕ} {a a' : α} (row : rows[k]? = some a)
      (changed : change a a') (rest : Rewritten change ids (rows.set k a') rows') :
      Rewritten change (k :: ids) rows rows'

section Rewritten

variable {change : α → α → Prop} {ids : List ℕ} {rows' : List α} {k : ℕ}

theorem Rewritten.length_eq (h : Rewritten change ids rows rows') : rows'.length = rows.length := by
  induction h with
  | nil => rfl
  | cons row changed rest ih => rw [ih, List.length_set]

theorem Rewritten.other (h : Rewritten change ids rows rows') (hk : k ∉ ids) :
    rows'[k]? = rows[k]? := by
  induction h with
  | nil => rfl
  | cons row changed rest ih =>
    rw [List.mem_cons, not_or] at hk
    rw [ih hk.2, List.getElem?_set_ne (Ne.symm hk.1)]

theorem Rewritten.changed (h : Rewritten change ids rows rows') (hdistinct : ids.Nodup)
    (hk : k ∈ ids) : ∃ a a', rows[k]? = some a ∧ rows'[k]? = some a' ∧ change a a' := by
  induction h with
  | nil => simp at hk
  | @cons ids rows rows' j a a' row changed rest ih =>
    rw [List.nodup_cons] at hdistinct
    rcases List.mem_cons.1 hk with rfl | hk
    · refine ⟨a, a', row, ?_, changed⟩
      rw [rest.other hdistinct.1]
      simp [(List.getElem?_eq_some_iff.1 row).1]
    · have hne : j ≠ k := by
        rintro rfl
        exact hdistinct.1 hk
      obtain ⟨b, b', hb, hb', hchange⟩ := ih hdistinct.2 hk
      exact ⟨b, b', (List.getElem?_set_ne hne).symm.trans hb, hb', hchange⟩

end Rewritten

end Table
