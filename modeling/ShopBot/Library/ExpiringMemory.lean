import Mathlib.Algebra.Order.Group.Defs
import Mathlib.Logic.Function.Basic

/-! # Expiring memory

A memory of keys, each with the instant at which it is forgotten. A key is refused while
it is remembered; every query first forgets what has expired.
-/

namespace ExpiringMemory

variable {κ τ : Type*} [DecidableEq κ] [LinearOrder τ]

/-- The instant at which each remembered key is forgotten. -/
abbrev Entries (κ τ : Type*) := κ → Option τ

def purge (m : Entries κ τ) (now : τ) : Entries κ τ := fun key => (m key).filter (now < ·)

/-- Whether the key is new, and the memory afterwards. -/
def remember [Add τ] (ttl : τ) (m : Entries κ τ) (key : κ) (now : τ) : Bool × Entries κ τ :=
  let m := purge m now
  if (m key).any (now < ·) then (false, m)
  else (true, Function.update m key (some (now + ttl)))

/-- The key is refused at every instant before `expiry`. -/
def HeldUntil (m : Entries κ τ) (key : κ) (expiry : τ) : Prop :=
  ∃ e, m key = some e ∧ expiry ≤ e

variable {ttl now expiry : τ} {m : Entries κ τ} {key key' : κ}

omit [DecidableEq κ] in
theorem purge_eq_some {e : τ} : purge m now key = some e ↔ m key = some e ∧ now < e := by
  simp [purge, Option.filter_eq_some_iff]

omit [DecidableEq κ] in
theorem HeldUntil.purge (h : HeldUntil m key expiry) (hnow : now < expiry) :
    HeldUntil (purge m now) key expiry := by
  obtain ⟨e, he, hle⟩ := h
  exact ⟨e, purge_eq_some.2 ⟨he, lt_of_lt_of_le hnow hle⟩, hle⟩

section Add

variable [Add τ]

/-- A remembered key is refused. -/
theorem remember_of_held (h : HeldUntil m key expiry) (hnow : now < expiry) :
    (remember ttl m key now).1 = false := by
  obtain ⟨e, he, hle⟩ := h.purge hnow
  simp [remember, he, lt_of_lt_of_le hnow hle]

/-- A query for any key keeps what is remembered. -/
theorem HeldUntil.remember (h : HeldUntil m key expiry) (hnow : now < expiry) :
    HeldUntil (ExpiringMemory.remember ttl m key' now).2 key expiry := by
  have hp := h.purge hnow
  unfold ExpiringMemory.remember
  dsimp only
  split_ifs with hheld
  · exact hp
  · obtain ⟨e, he, hle⟩ := hp
    have hne : key ≠ key' := by
      rintro rfl
      simp [he, lt_of_lt_of_le hnow hle] at hheld
    exact ⟨e, (Function.update_of_ne hne ..).trans he, hle⟩

theorem remember_new (h : (remember ttl m key now).1 = true) :
    (remember ttl m key now).2 key = some (now + ttl) := by
  unfold remember at h ⊢
  dsimp only at h ⊢
  split_ifs at h ⊢
  exact Function.update_self ..

theorem remember_of_forall_le (h : ∀ e, m key = some e → e ≤ now) :
    (remember ttl m key now).1 = true := by
  have hp : purge m now key = none := by
    cases hkey : m key with
    | none => simp [purge, hkey]
    | some e => simp [purge, hkey, h e hkey]
  simp [remember, hp]

/-- A key is accepted again once it has expired. -/
theorem remember_of_expired {e : τ} (h : m key = some e) (hle : e ≤ now) :
    (remember ttl m key now).1 = true := by
  refine remember_of_forall_le fun e' he' => ?_
  rw [h] at he'
  exact Option.some.inj he' ▸ hle

/-- A key that is refused is not written again. -/
theorem eq_purge_of_remember_false {m' : Entries κ τ} (h : remember ttl m key now = (false, m')) :
    m' = purge m now := by
  unfold remember at h
  dsimp only at h
  split_ifs at h
  · exact (Prod.mk.inj h).2.symm
  · simp at h

/-! ## A sequence of queries -/

/-- What a memory recalls of the queries that it has let through, up to an instant. -/
structure Recalls (ttl clock : τ) (m : Entries κ τ) (queries : List (κ × τ)) : Prop where
  past : ∀ q ∈ queries, q.2 ≤ clock
  held : ∀ q ∈ queries, clock < q.2 + ttl → HeldUntil m q.1 (q.2 + ttl)
  entry : ∀ (key : κ) (e : τ), m key = some e → ∃ q ∈ queries, q.1 = key ∧ e = q.2 + ttl
  /-- A key is let through again only when it has expired. -/
  spaced : queries.Pairwise fun p q => p.1 = q.1 → p.2 + ttl ≤ q.2

omit [DecidableEq κ] in
theorem Recalls.empty (clock : τ) : Recalls ttl clock (fun _ : κ => none) [] where
  past q hq := absurd hq List.not_mem_nil
  held q hq := absurd hq List.not_mem_nil
  entry key e he := by cases he
  spaced := .nil

omit [DecidableEq κ] in
theorem Recalls.purge {clock : τ} {queries : List (κ × τ)} (h : Recalls ttl clock m queries)
    (hclock : clock ≤ now) : Recalls ttl now (purge m now) queries where
  past q hq := (h.past q hq).trans hclock
  held q hq hnow := (h.held q hq (lt_of_le_of_lt hclock hnow)).purge hnow
  entry key e he := h.entry key e (purge_eq_some.1 he).1
  spaced := h.spaced

/-- A query is let through unless its key was let through and has not expired. -/
theorem Recalls.remember {clock : τ} {queries : List (κ × τ)} (h : Recalls ttl clock m queries)
    (key : κ) (hclock : clock ≤ now) :
    (ExpiringMemory.remember ttl m key now).1 = true ∧
        (∀ q ∈ queries, q.1 = key → q.2 + ttl ≤ now) ∧
        Recalls ttl now (ExpiringMemory.remember ttl m key now).2 (queries ++ [(key, now)]) ∨
      (ExpiringMemory.remember ttl m key now).1 = false ∧
        (∃ q ∈ queries, q.1 = key ∧ now < q.2 + ttl) ∧
        Recalls ttl now (ExpiringMemory.remember ttl m key now).2 queries := by
  have hp := h.purge hclock
  cases hnew : (ExpiringMemory.remember ttl m key now).1 with
  | false =>
    have hm : (ExpiringMemory.remember ttl m key now).2 = ExpiringMemory.purge m now :=
      eq_purge_of_remember_false (Prod.ext hnew rfl)
    refine .inr ⟨rfl, ?_, hm ▸ hp⟩
    by_contra hnone
    push Not at hnone
    rw [remember_of_forall_le] at hnew
    · cases hnew
    · intro e he
      obtain ⟨q, hq, hkey, rfl⟩ := h.entry key e he
      exact hnone q hq hkey
  | true =>
    have hfree : ∀ q ∈ queries, q.1 = key → q.2 + ttl ≤ now := by
      intro q hq hkey
      by_contra hlt
      have hheld := h.held q hq (lt_of_le_of_lt hclock (not_le.1 hlt))
      rw [hkey] at hheld
      rw [remember_of_held hheld (not_le.1 hlt)] at hnew
      cases hnew
    have hself := remember_new hnew
    refine .inl ⟨rfl, hfree, ?_, ?_, ?_, ?_⟩
    · intro q hq
      rcases List.mem_append.1 hq with hq | hq
      · exact hp.past q hq
      · obtain rfl := List.mem_singleton.1 hq
        exact le_rfl
    · intro q hq hnow
      rcases List.mem_append.1 hq with hq | hq
      · exact (h.held q hq (lt_of_le_of_lt hclock hnow)).remember hnow
      · obtain rfl := List.mem_singleton.1 hq
        exact ⟨_, hself, le_rfl⟩
    · intro key' e he
      by_cases hkey : key' = key
      · subst hkey
        rw [hself] at he
        exact ⟨(key', now), by simp, rfl, (Option.some.inj he).symm⟩
      · have hold : ExpiringMemory.purge m now key' = some e := by
          unfold ExpiringMemory.remember at he
          dsimp only at he
          split_ifs at he
          · exact he
          · exact (Function.update_of_ne hkey ..).symm.trans he
        obtain ⟨q, hq, hq'⟩ := hp.entry key' e hold
        exact ⟨q, List.mem_append_left _ hq, hq'⟩
    · rw [List.pairwise_append]
      refine ⟨h.spaced, List.pairwise_singleton .., fun p hp q hq => ?_⟩
      obtain rfl := List.mem_singleton.1 hq
      exact hfree p hp

end Add

end ExpiringMemory
