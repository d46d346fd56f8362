import Mathlib.Data.List.Induction
import Mathlib.Data.List.Nodup
import Mathlib.Logic.Function.Basic

/-! # Histories of writes

Operations, told apart by their keys, write cells of a store, and an operation may write
more than once. A cell holds what the operations that wrote it leave when each of them
writes once, at the moment of its last write.
-/

namespace Linearization

variable {κ γ β : Type*}

structure Write (κ γ β : Type*) where
  key : κ
  cell : γ
  value : β
deriving DecidableEq, Repr

variable {ws : List (Write κ γ β)} {w : Write κ γ β} {k : κ} {c : γ}

section Keys

variable [DecidableEq κ]

/-- The last write of a key. -/
def lastOf (k : κ) (ws : List (Write κ γ β)) : Option (Write κ γ β) :=
  (ws.filter (·.key = k)).getLast?

/-- The last write of each key. -/
def finals : List (Write κ γ β) → List (Write κ γ β)
  | [] => []
  | w :: ws => if ws.any (·.key = w.key) then finals ws else w :: finals ws

theorem lastOf_concat :
    lastOf k (ws ++ [w]) = if w.key = k then some w else lastOf k ws := by
  unfold lastOf
  rw [List.filter_append]
  split_ifs with h <;> simp [h]

theorem any_key_iff : ws.any (·.key = k) = true ↔ k ∈ ws.map Write.key := by
  rw [List.any_eq_true, List.mem_map]
  simp only [decide_eq_true_eq]

theorem finals_sublist (ws : List (Write κ γ β)) : (finals ws).Sublist ws := by
  induction ws with
  | nil => exact .slnil
  | cons w ws ih =>
    unfold finals
    split_ifs
    · exact ih.cons w
    · exact ih.cons_cons w

theorem mem_keys_finals : k ∈ (finals ws).map Write.key ↔ k ∈ ws.map Write.key := by
  constructor
  · intro h
    exact ((finals_sublist ws).map Write.key).subset h
  · induction ws with
    | nil => exact id
    | cons w ws ih =>
      intro h
      unfold finals
      rw [List.map_cons, List.mem_cons] at h
      split_ifs with hany
      · rcases h with rfl | h
        · exact ih (any_key_iff.1 hany)
        · exact ih h
      · rw [List.map_cons, List.mem_cons]
        exact h.imp_right ih

theorem finals_nodup (ws : List (Write κ γ β)) : ((finals ws).map Write.key).Nodup := by
  induction ws with
  | nil => exact List.nodup_nil
  | cons w ws ih =>
    unfold finals
    split_ifs with hany
    · exact ih
    · rw [List.map_cons, List.nodup_cons, mem_keys_finals]
      constructor
      · intro hmem
        exact hany (any_key_iff.2 hmem)
      · exact ih

/-- A final write is the last one of its key. -/
theorem lastOf_of_mem_finals (h : w ∈ finals ws) : lastOf w.key ws = some w := by
  induction ws with
  | nil => cases h
  | cons v ws ih =>
    unfold finals at h
    split_ifs at h with hany
    · have hlast := ih h
      unfold lastOf at hlast ⊢
      rw [List.filter_cons]
      split_ifs
      · rw [List.getLast?_cons, hlast]
        rfl
      · exact hlast
    · rcases List.mem_cons.1 h with rfl | h
      · have hnone : ws.filter (·.key = w.key) = [] := by
          simpa [List.filter_eq_nil_iff] using hany
        simp [lastOf, hnone]
      · have hlast := ih h
        unfold lastOf at hlast ⊢
        rw [List.filter_cons]
        split_ifs
        · rw [List.getLast?_cons, hlast]
          rfl
        · exact hlast

theorem getLast?_finals (ws : List (Write κ γ β)) : (finals ws).getLast? = ws.getLast? := by
  induction ws with
  | nil => rfl
  | cons w ws ih =>
    unfold finals
    split_ifs with hany
    · cases ws with
      | nil => simp at hany
      | cons v vs => rw [ih, List.getLast?_cons_cons]
    · rw [List.getLast?_cons, List.getLast?_cons, ih]

end Keys

/-! ## What a cell holds -/

section Cells

variable [DecidableEq γ] {store : γ → β}

def apply (store : γ → β) (w : Write κ γ β) : γ → β := Function.update store w.cell w.value

def applyAll (store : γ → β) (ws : List (Write κ γ β)) : γ → β := ws.foldl apply store

theorem applyAll_concat : applyAll store (ws ++ [w]) = apply (applyAll store ws) w := by
  simp [applyAll]

theorem applyAll_filter (ws : List (Write κ γ β)) (store : γ → β) :
    applyAll store (ws.filter (·.cell = c)) c = applyAll store ws c := by
  induction ws using List.reverseRecOn with
  | nil => rfl
  | append_singleton ws w ih =>
    rw [List.filter_append, applyAll_concat, apply]
    by_cases h : w.cell = c
    · have hkeep : [w].filter (·.cell = c) = [w] := by simp [h]
      rw [hkeep, applyAll_concat, apply, h, Function.update_self, Function.update_self]
    · have hdrop : [w].filter (·.cell = c) = [] := by simp [h]
      rw [hdrop, List.append_nil, ih, Function.update_of_ne (Ne.symm h)]

theorem applyAll_eq_getLast (h : ∀ w ∈ ws, w.cell = c) :
    applyAll store ws c = (ws.getLast?.map Write.value).getD (store c) := by
  induction ws using List.reverseRecOn with
  | nil => rfl
  | append_singleton ws w _ =>
    have hw : w.cell = c := h w (by simp)
    rw [applyAll_concat, apply, hw, Function.update_self, List.getLast?_concat]
    rfl

/-- The last write of each key to a cell leaves what all the writes leave. -/
theorem applyAll_finals [DecidableEq κ] (ws : List (Write κ γ β)) (store : γ → β) (c : γ) :
    applyAll store (finals (ws.filter (·.cell = c))) c = applyAll store ws c := by
  have hcell : ∀ w ∈ ws.filter (·.cell = c), w.cell = c := by
    intro w hw
    simpa using (List.mem_filter.1 hw).2
  have hcell' : ∀ w ∈ finals (ws.filter (·.cell = c)), w.cell = c :=
    fun w hw => hcell w ((finals_sublist _).subset hw)
  calc applyAll store (finals (ws.filter (·.cell = c))) c
      = ((finals (ws.filter (·.cell = c))).getLast?.map Write.value).getD (store c) :=
        applyAll_eq_getLast hcell'
    _ = ((ws.filter (·.cell = c)).getLast?.map Write.value).getD (store c) := by
        rw [getLast?_finals]
    _ = applyAll store (ws.filter (·.cell = c)) c := (applyAll_eq_getLast hcell).symm
    _ = applyAll store ws c := applyAll_filter ws store

/-- A key that writes one cell only has the same last write there. -/
theorem lastOf_filter [DecidableEq κ] (h : ∀ w ∈ ws, w.key = k → w.cell = c) :
    lastOf k (ws.filter (·.cell = c)) = lastOf k ws := by
  unfold lastOf
  rw [List.filter_filter]
  congr 1
  apply List.filter_congr
  intro w hw
  by_cases hk : w.key = k
  · simp [hk, h w hw hk]
  · simp [hk]

end Cells

end Linearization
