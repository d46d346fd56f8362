import ShopBot.Library.ReadCommitted

/-! # Unique indexes under READ COMMITTED

A unique index admits the insertion of a key when no version that the transaction sees has
it, and makes the transaction wait for a row whose other version may have it. Updates keep
the key of their row. Then no two rows ever share a key, whichever versions are compared,
and the row that has a key is found by whoever sees it.
-/

namespace ReadCommitted

variable {α β : Type*} {rows : List (Row α)} {r : Row α} {i i' k k' : ℕ} {a b v w : α}

namespace Row

/-- A version of the row, committed or not. -/
def Version (r : Row α) (a : α) : Prop :=
  r.committed = some a ∨ r.pending = some a

theorem Version.of_visible (h : r.visible i = some a) : r.Version a := version_of_visible h

theorem Version.of_commit (h : (r.commit i).Version a) : r.Version a := by
  rcases h with h | h
  · rw [commit_committed] at h
    exact .of_visible h
  · rw [commit_pending h] at h
    exact .inr h

theorem Version.of_rollback (h : (r.rollback i).Version a) : r.Version a := by
  unfold rollback at h
  split_ifs at h
  · exact .inl (h.resolve_right (by simp))
  · exact h

/-- A row that nobody rewrites shows the same version before and after a commit. -/
theorem visible_commit (h : r.committed = some a → r.pending = none)
    (hv : r.visible i' = some a) : (r.commit i).visible i' = some a := by
  by_cases hi : i' = i
  · subst hi
    rw [visible_of_not_holder fun hh => (commit_holder.1 hh).2 rfl, commit_committed]
    exact hv
  · by_cases hh : r.holder = some i'
    · rw [commit_eq (commit_holder.2 ⟨hh, hi⟩)]
      exact hv
    · rw [visible_of_not_holder hh] at hv
      rw [visible_of_not_holder fun he => hh (commit_holder.1 he).1, commit_committed,
        visible_of_unwritten (h hv)]
      exact hv

end Row

theorem getElem?_of_version (h : (row rows k).Version a) : rows[k]? = some (row rows k) := by
  unfold row at h ⊢
  cases hr : rows[k]? with
  | none => simp [hr, Row.Version] at h
  | some r => simp [hr]

/-- An update keeps the key of its row, and no two rows share a key. -/
structure UniqueKeys (key : α → β) (rows : List (Row α)) : Prop where
  kept : ∀ k a b, (row rows k).committed = some a → (row rows k).pending = some b →
    key b = key a
  unique : ∀ k k' a b, (row rows k).Version a → (row rows k').Version b → key a = key b → k = k'

namespace UniqueKeys

variable {key : α → β} (h : UniqueKeys key rows)
include h

theorem version_key (ha : (row rows k).Version a) (hb : (row rows k).Version b) :
    key a = key b := by
  rcases ha with ha | ha <;> rcases hb with hb | hb
  · rw [Option.some.inj (ha.symm.trans hb)]
  · exact (h.kept k a b ha hb).symm
  · exact h.kept k b a hb ha
  · rw [Option.some.inj (ha.symm.trans hb)]

/-- A key that the transaction neither waits for nor sees belongs to no version at all. -/
theorem unseen [DecidableEq β] {x : β} (hb : rows.any (Row.blocks i (key · = x)) = false)
    (hc : rows.any (Row.clashes i (key · = x)) = false) (ha : (row rows k).Version a) :
    key a ≠ x := by
  rintro rfl
  have hrow := getElem?_of_version ha
  have hblocks := Table.any_eq_false_iff.1 hb k _ hrow
  have hclashes := Table.any_eq_false_iff.1 hc k _ hrow
  cases hp : (row rows k).pending with
  | none =>
    have hcommitted : (row rows k).committed = some a := by
      rcases ha with ha | ha
      · exact ha
      · rw [hp] at ha
        cases ha
    simp [Row.clashes, Row.visible_of_unwritten hp, hcommitted] at hclashes
  | some b =>
    have hkey : key b = key a := h.version_key (.inr hp) ha
    by_cases hh : (row rows k).holder = some i
    · simp [Row.clashes, Row.visible_of_holder hh, hp, hkey] at hclashes
    · simp [Row.blocks, hh, hp, hkey] at hblocks

theorem rollback : UniqueKeys key (rollbackAll i rows) where
  kept k a b ha hb := by
    rw [row_rollbackAll] at ha hb
    unfold Row.rollback at ha hb
    split_ifs at ha hb
    exact h.kept k a b ha hb
  unique k k' a b ha hb := by
    rw [row_rollbackAll] at ha hb
    exact h.unique k k' a b ha.of_rollback hb.of_rollback

theorem commit : UniqueKeys key (commitAll i rows) where
  kept k a b ha hb := by
    rw [row_commitAll] at ha hb
    rw [Row.commit_pending hb] at ha hb
    exact h.kept k a b ha hb
  unique k k' a b ha hb := by
    rw [row_commitAll] at ha hb
    exact h.unique k k' a b ha.of_commit hb.of_commit

/-- The row at one position is replaced by one whose versions have a key of no other row. -/
theorem update {rows' : List (Row α)} (hrow : row rows' = Function.update (row rows) k r)
    (hkept : ∀ a b, r.committed = some a → r.pending = some b → key b = key a)
    (hnew : ∀ a k' b, r.Version a → k' ≠ k → (row rows k').Version b → key b ≠ key a) :
    UniqueKeys key rows' where
  kept k' a b := by
    rw [hrow]
    by_cases hk : k' = k
    · subst hk
      rw [Function.update_self]
      exact hkept a b
    · rw [Function.update_of_ne hk]
      exact h.kept k' a b
  unique k₁ k₂ a b ha hb hab := by
    rw [hrow] at ha hb
    by_cases h₁ : k₁ = k <;> by_cases h₂ : k₂ = k
    · rw [h₁, h₂]
    · subst h₁
      rw [Function.update_self] at ha
      rw [Function.update_of_ne h₂] at hb
      exact absurd hab.symm (hnew a k₂ b ha h₂ hb)
    · subst h₂
      rw [Function.update_of_ne h₁] at ha
      rw [Function.update_self] at hb
      exact absurd hab (hnew b k₁ a hb h₁ ha)
    · rw [Function.update_of_ne h₁] at ha
      rw [Function.update_of_ne h₂] at hb
      exact h.unique k₁ k₂ a b ha hb hab

/-- `INSERT` of a key that is free. -/
theorem append [DecidableEq β] (hb : rows.any (Row.blocks i (key · = key a)) = false)
    (hc : rows.any (Row.clashes i (key · = key a)) = false) :
    UniqueKeys key (rows ++ [Row.write i a {}]) := by
  refine h.update row_append (fun b c hb => ?_) fun b k' c hv _ hver => ?_
  · simp [Row.write] at hb
  · obtain rfl : a = b := by
      rcases hv with hv | hv
      · simp [Row.write] at hv
      · exact Option.some.inj hv
    exact h.unseen hb hc hver

/-- `UPDATE` of a row that keeps its key. -/
theorem set (hv : (row rows k).visible i = some v) (hw : key w = key v) :
    UniqueKeys key (rows.set k ((row rows k).write i w)) := by
  have hlt := (List.getElem?_eq_some_iff.1 (getElem?_of_row hv)).1
  have hver : (row rows k).Version v := .of_visible hv
  refine h.update (row_set hlt) (fun a b ha hb => ?_) fun a k' b ha hk hb he => ?_
  · obtain rfl : w = b := Option.some.inj hb
    exact hw.trans (h.version_key hver (.inl ha))
  · have hkey : key a = key v := by
      rcases ha with ha | ha
      · exact h.version_key (.inl ha) hver
      · rw [← Option.some.inj ha, hw]
    exact hk (h.unique k' k b v hb hver (he.trans hkey))

end UniqueKeys

end ReadCommitted
