import ShopBot.Library.Table

/-! # Rows under READ COMMITTED

A row has one committed version. A transaction that locks or writes the row holds it to
its end, and the version it has written stays private until it commits. A reader sees the
committed version of a row it has not written itself. Positions that hold no row yet are
read as the blank row, so that an insertion is the writing of a blank row.
-/

namespace ReadCommitted

/-- A row with its last committed version, and the version of the transaction that holds it. -/
structure Row (α : Type*) where
  committed : Option α := none
  holder : Option ℕ := none
  pending : Option α := none
  owned : holder = none → pending = none := by simp
deriving DecidableEq

namespace Row

variable {α : Type*} {i i' : ℕ} {r r' : Row α} {a : α}

/-- What a statement of the transaction sees. -/
def visible (i : ℕ) (r : Row α) : Option α :=
  if r.holder = some i then r.pending.or r.committed else r.committed

/-- The transaction need not wait for the row. -/
def Free (i : ℕ) (r : Row α) : Prop :=
  ∀ i', r.holder = some i' → i' = i

instance : Decidable (r.Free i) :=
  decidable_of_iff (r.holder.all (· = i) = true) (by simp [Free, Option.all_eq_true])

def lock (i : ℕ) (r : Row α) : Row α where
  committed := r.committed
  holder := some i
  pending := r.pending

def write (i : ℕ) (a : α) (r : Row α) : Row α where
  committed := r.committed
  holder := some i
  pending := some a

def commit (i : ℕ) (r : Row α) : Row α :=
  if r.holder = some i then { committed := r.pending.or r.committed } else r

def rollback (i : ℕ) (r : Row α) : Row α :=
  if r.holder = some i then { committed := r.committed } else r

/-- Another transaction has changed the row from or to a matching version. -/
def blocks (i : ℕ) (q : α → Bool) (r : Row α) : Bool :=
  r.holder ≠ some i && r.pending.isSome && (r.pending.any q || r.committed.any q)

/-- The transaction sees a matching version. -/
def clashes (i : ℕ) (q : α → Bool) (r : Row α) : Bool :=
  (r.visible i).any q

theorem visible_of_not_holder (h : r.holder ≠ some i) : r.visible i = r.committed :=
  if_neg h

theorem visible_of_holder (h : r.holder = some i) : r.visible i = r.pending.or r.committed :=
  if_pos h

theorem visible_of_unwritten (h : r.pending = none) : r.visible i = r.committed := by
  by_cases hi : r.holder = some i
  · rw [visible_of_holder hi, h, Option.none_or]
  · exact visible_of_not_holder hi

@[simp] theorem visible_write : (r.write i a).visible i = some a := by
  simp [visible, write]

theorem version_of_visible (h : r.visible i = some a) :
    r.committed = some a ∨ r.pending = some a := by
  unfold visible at h
  split_ifs at h
  · rcases Option.or_eq_some_iff.1 h with h | ⟨-, h⟩
    · exact .inr h
    · exact .inl h
  · exact .inl h

/-- A committed row is seen by every transaction, in one version or another. -/
theorem visible_of_committed (h : r.committed = some a) : ∃ b, r.visible i = some b := by
  unfold visible
  split_ifs
  · cases r.pending with
    | none => exact ⟨a, h⟩
    | some b => exact ⟨b, rfl⟩
  · exact ⟨a, h⟩

/-- A free row that the transaction does not hold is held by nobody. -/
theorem Free.unwritten (h : r.Free i) (hi : r.holder ≠ some i) : r.pending = none := by
  apply r.owned
  cases hh : r.holder with
  | none => rfl
  | some i' => exact absurd (h i' hh ▸ hh) hi

theorem visible_lock (h : r.Free i) : (r.lock i).visible i = r.visible i := by
  by_cases hi : r.holder = some i
  · rw [visible_of_holder hi]
    exact visible_of_holder rfl
  · have hp : (r.lock i).pending = none := h.unwritten hi
    rw [visible_of_unwritten hp, visible_of_not_holder hi]
    rfl

@[simp] theorem commit_committed : (r.commit i).committed = r.visible i := by
  unfold commit visible
  split <;> rfl

@[simp] theorem rollback_committed : (r.rollback i).committed = r.committed := by
  unfold rollback
  split <;> rfl

theorem commit_holder : (r.commit i).holder = some i' ↔ r.holder = some i' ∧ i' ≠ i := by
  unfold commit
  split_ifs with h
  · simp only [h, Option.some.injEq, false_iff, not_and, not_not]
    exact Eq.symm
  · exact ⟨fun h' => ⟨h', fun he => h (he ▸ h')⟩, And.left⟩

theorem rollback_holder : (r.rollback i).holder = some i' ↔ r.holder = some i' ∧ i' ≠ i := by
  unfold rollback
  split_ifs with h
  · simp only [h, Option.some.injEq, false_iff, not_and, not_not]
    exact Eq.symm
  · exact ⟨fun h' => ⟨h', fun he => h (he ▸ h')⟩, And.left⟩

/-- A row that is held after the commit has not been touched by it. -/
theorem commit_eq (h : (r.commit i).holder = some i') : r.commit i = r :=
  if_neg fun hi => (commit_holder.1 h).2 (Option.some.inj ((commit_holder.1 h).1.symm.trans hi))

theorem commit_pending (h : (r.commit i).pending = some a) : r.commit i = r := by
  unfold commit at h ⊢
  split_ifs at h ⊢ with hi
  rfl

/-! ## Private steps -/

/-- The transaction may have locked, written or given up the row; nothing else has happened. -/
def Private (i : ℕ) (r r' : Row α) : Prop :=
  r'.committed = r.committed ∧
    ∀ i', i' ≠ i → r.holder = some i' ∨ r'.holder = some i' → r' = r

theorem Private.refl : Private i r r := ⟨rfl, fun _ _ _ => rfl⟩

theorem private_lock (h : r.Free i) : Private i r (r.lock i) := by
  refine ⟨rfl, fun i' hi hh => ?_⟩
  rcases hh with hh | hh
  · exact absurd (h i' hh) hi
  · exact absurd (Option.some.inj hh).symm hi

theorem private_write (h : r.Free i) : Private i r (r.write i a) := by
  refine ⟨rfl, fun i' hi hh => ?_⟩
  rcases hh with hh | hh
  · exact absurd (h i' hh) hi
  · exact absurd (Option.some.inj hh).symm hi

theorem private_rollback : Private i r (r.rollback i) := by
  refine ⟨rollback_committed, fun i' hi hh => if_neg fun h => hi ?_⟩
  rcases hh with hh | hh
  · exact Option.some.inj (hh.symm.trans h)
  · exact Option.some.inj ((rollback_holder.1 hh).1.symm.trans h)

theorem Private.visible (h : Private i r r') (hi : i' ≠ i) : r'.visible i' = r.visible i' := by
  by_cases hh : r.holder = some i' ∨ r'.holder = some i'
  · rw [h.2 i' hi hh]
  · obtain ⟨hr, hr'⟩ := not_or.1 hh
    rw [visible_of_not_holder hr, visible_of_not_holder hr', h.1]

theorem Private.holder (h : Private i r r') (hi : i' ≠ i) :
    r'.holder = some i' ↔ r.holder = some i' := by
  constructor
  · intro hh
    rwa [← h.2 i' hi (.inr hh)]
  · intro hh
    rwa [h.2 i' hi (.inl hh)]

/-- A pending version the transaction does not hold was there before. -/
theorem Private.pending (h : Private i r r') (hi : r'.holder ≠ some i)
    (hp : r'.pending = some a) : r' = r := by
  cases hh : r'.holder with
  | none => rw [r'.owned hh] at hp; cases hp
  | some i' =>
    refine h.2 i' (fun he => hi ?_) (.inr hh)
    rw [hh, he]

end Row

/-! ## Tables of rows -/

variable {α : Type*} {rows rows' : List (Row α)} {r : Row α} {i i' j j' k : ℕ} {a b : α}
  {p : α → Bool}

/-- The row at a position; a position that is not taken yet holds the blank row. -/
def row (rows : List (Row α)) (j : ℕ) : Row α := rows.getD j {}

theorem row_of_getElem? (h : rows[j]? = some r) : row rows j = r := by
  simp [row, h]

theorem getElem?_of_row (h : (row rows j).visible i = some a) :
    rows[j]? = some (row rows j) := by
  unfold row at h ⊢
  cases hr : rows[j]? with
  | none => simp [hr, Row.visible] at h
  | some r => simp [hr]

theorem row_set (hj : j < rows.length) :
    row (rows.set j r) = Function.update (row rows) j r := by
  funext k
  by_cases hk : k = j
  · subst hk
    simp [row, hj]
  · rw [Function.update_of_ne hk]
    simp [row, List.getElem?_set_ne (Ne.symm hk)]

theorem row_append : row (rows ++ [r]) = Function.update (row rows) rows.length r := by
  funext k
  rcases Nat.lt_trichotomy k rows.length with hk | rfl | hk
  · rw [Function.update_of_ne (Nat.ne_of_lt hk)]
    simp [row, List.getElem?_append_left hk]
  · simp [row]
  · rw [Function.update_of_ne (Nat.ne_of_gt hk)]
    simp [row, List.getElem?_eq_none (Nat.le_of_lt hk),
      List.getElem?_eq_none (l := rows ++ [r]) (i := k) (by simp; omega)]

theorem visible_append (h : (row rows k).visible i' = some a) :
    (row (rows ++ [r]) k).visible i' = some a := by
  have hk : k < rows.length := (List.getElem?_eq_some_iff.1 (getElem?_of_row h)).1
  rw [row_append, Function.update_of_ne (Nat.ne_of_lt hk)]
  exact h

/-- An insertion is the private writing of a blank row. -/
theorem private_append (k : ℕ) :
    Row.Private i (row rows k) (row (rows ++ [Row.write i a {}]) k) := by
  rw [row_append]
  by_cases hk : k = rows.length
  · subst hk
    have hblank : row rows rows.length = {} := by simp [row]
    rw [Function.update_self, hblank]
    exact Row.private_write (by simp [Row.Free])
  · rw [Function.update_of_ne hk]
    exact .refl

theorem private_set (hj : j < rows.length) (hf : (row rows j).Free i) (k : ℕ) :
    Row.Private i (row rows k) (row (rows.set j ((row rows j).write i a)) k) := by
  rw [row_set hj]
  by_cases hk : k = j
  · subst hk
    rw [Function.update_self]
    exact Row.private_write hf
  · rw [Function.update_of_ne hk]
    exact .refl

def commitAll (i : ℕ) (rows : List (Row α)) : List (Row α) := rows.map (Row.commit i)

def rollbackAll (i : ℕ) (rows : List (Row α)) : List (Row α) := rows.map (Row.rollback i)

@[simp] theorem row_commitAll : row (commitAll i rows) j = (row rows j).commit i := by
  unfold row commitAll
  cases hr : rows[j]? with
  | none => simp [hr, Row.commit]
  | some r => simp [hr]

@[simp] theorem row_rollbackAll : row (rollbackAll i rows) j = (row rows j).rollback i := by
  unfold row rollbackAll
  cases hr : rows[j]? with
  | none => simp [hr, Row.rollback]
  | some r => simp [hr]

/-- The newest visible row that matches. -/
def lastVisible (i : ℕ) (p : α → Bool) (rows : List (Row α)) : Option (α × ℕ) :=
  (Table.lastWhere (Row.clashes i p) rows).bind fun r => (r.1.visible i).map fun a => (a, r.2)

theorem lastVisible_some (h : lastVisible i p rows = some (a, j)) :
    (row rows j).visible i = some a ∧ p a = true ∧
      ∀ j' b, (row rows j').visible i = some b → p b = true → j' ≤ j := by
  obtain ⟨⟨r, n⟩, hr, hm⟩ := Option.bind_eq_some_iff.1 h
  obtain ⟨b, hb, hab⟩ := Option.map_eq_some_iff.1 hm
  cases hab
  obtain ⟨hrow, hc, hlast⟩ := Table.lastWhere_some hr
  refine ⟨by rwa [row_of_getElem? hrow], by simpa [Row.clashes, hb] using hc, ?_⟩
  intro j' b' hb' hp'
  exact hlast j' _ (getElem?_of_row hb') (by simp [Row.clashes, hb', hp'])

theorem lastVisible_none (h : lastVisible i p rows = none)
    (hb : (row rows j).visible i = some b) : p b = false := by
  cases hr : Table.lastWhere (Row.clashes i p) rows with
  | none => simpa [Row.clashes, hb] using Table.lastWhere_eq_none.1 hr j _ (getElem?_of_row hb)
  | some r =>
    obtain ⟨-, hc, -⟩ := Table.lastWhere_some hr
    obtain ⟨a, ha, -⟩ := (Option.any_eq_true _ _).1 hc
    rw [lastVisible, hr, Option.bind_some, ha] at h
    cases h

theorem any_clashes_of_none (h : lastVisible i p rows = none) :
    rows.any (Row.clashes i p) = false := by
  refine Table.any_eq_false_iff.2 fun k r hr => ?_
  cases hv : r.visible i with
  | none => simp [Row.clashes, hv]
  | some b =>
    have hb := lastVisible_none h (b := b) (j := k) (by rwa [row_of_getElem? hr])
    simp [Row.clashes, hv, hb]

end ReadCommitted
