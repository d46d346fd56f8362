import ShopBot.Library.Table
import ShopBot.Library.Transition

/-! # Row locks and their order

A transaction is the script of its reads and of the rows it locks; what it reads decides
how it goes on, and the rows stay locked to its end. When every transaction that waits
holds only rows of a lower rank than the one it waits for, no cycle of transactions waits
for one another.
-/

namespace LockOrder

open Relation

inductive Script (δ ρ : Type) where
  | ends

  | read (next : δ → Script δ ρ)

  /-- Wait for the row, if another transaction holds it. -/
  | lock (r : ρ) (next : Script δ ρ)

  /-- Lock so many of the rows as nobody else holds. -/
  | claim (rows : List ρ) (limit : ℕ) (next : List ρ → Script δ ρ)

namespace Script

variable {δ ρ : Type} {allowed allowed' : List ρ → ρ → Prop} {held : List ρ}

/-- Every row is asked for in a situation that is allowed, unless it is held already. -/
def Locks (allowed : List ρ → ρ → Prop) : List ρ → Script δ ρ → Prop
  | _, ends => True
  | held, read next => ∀ d, Locks allowed held (next d)
  | held, lock r next => (r ∈ held ∨ allowed held r) ∧ Locks allowed (r :: held) next
  | held, claim rows _ next =>
    ∀ granted, granted ⊆ rows → Locks allowed (granted ++ held) (next granted)

theorem Locks.mono (hm : ∀ held r, allowed held r → allowed' held r) {t : Script δ ρ}
    (h : t.Locks allowed held) : t.Locks allowed' held := by
  induction t generalizing held with
  | ends => trivial
  | read next ih => exact fun d => ih d (h d)
  | lock r next ih => exact ⟨h.1.imp id (hm held r), ih h.2⟩
  | claim rows limit next ih => exact fun granted hg => ih granted (h granted hg)

/-- The rows that are locked in turn when every read returns the same, up to a claim. -/
def trace (d : δ) : Script δ ρ → List ρ
  | ends => []
  | read next => trace d (next d)
  | lock r next => r :: trace d next
  | claim _ _ _ => []

/-- A row is locked after others only where the script may. -/
theorem Locks.trace {d : δ} {t : Script δ ρ} {pre post : List ρ} {r : ρ}
    (h : t.Locks allowed held) (ht : t.trace d = pre ++ r :: post) :
    r ∈ held ∨ r ∈ pre ∨ ∃ held', held ⊆ held' ∧ pre ⊆ held' ∧ allowed held' r := by
  induction t generalizing held pre with
  | ends => simp [Script.trace] at ht
  | read next ih => exact ih d (h d) ht
  | claim rows limit next => simp [Script.trace] at ht
  | lock r₀ next ih =>
    cases pre with
    | nil =>
      obtain ⟨rfl, -⟩ := List.cons.inj ht
      exact h.1.imp id fun ha => .inr ⟨held, fun _ => id, List.nil_subset _, ha⟩
    | cons x pre =>
      obtain ⟨rfl, htail⟩ := List.cons.inj ht
      rcases ih h.2 htail with hm | hm | ⟨held', hh, hp, ha⟩
      · rcases List.mem_cons.1 hm with rfl | hm
        · exact .inr (.inl List.mem_cons_self)
        · exact .inl hm
      · exact .inr (.inl (List.mem_cons_of_mem _ hm))
      · exact .inr (.inr ⟨held', fun y hy => hh (List.mem_cons_of_mem _ hy),
          List.cons_subset.2 ⟨hh List.mem_cons_self, hp⟩, ha⟩)

/-- The row that the script asks for next. -/
def wants : Script δ ρ → Option ρ
  | lock r _ => some r
  | _ => none

end Script

structure Session (δ ρ : Type) where
  script : Script δ ρ
  held : List ρ := []

inductive Action (δ ρ : Type) where
  | start (t : Script δ ρ)

  | read (i : ℕ) (d : δ)

  | lock (i : ℕ)

  | claim (i : ℕ)

  /-- The transaction commits, or it is aborted. -/
  | finish (i : ℕ)

variable {δ ρ : Type} {s s' : List (Session δ ρ)} {i j k : ℕ} {x y : Session δ ρ}
  {may : List ρ → ρ → Prop} {rank : ρ → ℕ}

section Steps

variable [DecidableEq ρ]

/-- Another session holds the row. -/
def taken (s : List (Session δ ρ)) (i : ℕ) (r : ρ) : Bool :=
  s.zipIdx.any fun x => x.2 ≠ i && r ∈ x.1.held

def exec (s : List (Session δ ρ)) : Action δ ρ → Option (List (Session δ ρ))
  | .start t => some (s ++ [⟨t, []⟩])
  | .read i d => s[i]?.bind fun x =>
    match x.script with
    | .read next => some (s.set i ⟨next d, x.held⟩)
    | _ => none
  | .lock i => s[i]?.bind fun x =>
    match x.script with
    | .lock r next => if taken s i r then none else some (s.set i ⟨next, r :: x.held⟩)
    | _ => none
  | .claim i => s[i]?.bind fun x =>
    match x.script with
    | .claim rows limit next =>
      let granted := (rows.filter fun r => !taken s i r).take limit
      some (s.set i ⟨next granted, granted ++ x.held⟩)
    | _ => none
  | .finish i => s[i]?.bind fun _ => some (s.set i ⟨.ends, []⟩)

/-- Steps in which only the given transactions are started. -/
def Step (starts : Script δ ρ → Prop) (s s' : List (Session δ ρ)) : Prop :=
  ∃ a, (∀ t, a = .start t → starts t) ∧ exec s a = some s'

end Steps

/-! ## Waiting -/

/-- The session asks for a row that another session holds. -/
structure WaitsFor (s : List (Session δ ρ)) (i j : ℕ) (r : ρ) : Prop where
  distinct : i ≠ j
  wants : ∃ x, s[i]? = some x ∧ x.script.wants = some r ∧ r ∉ x.held
  holds : ∃ y, s[j]? = some y ∧ r ∈ y.held

instance [DecidableEq ρ] (r : ρ) : Decidable (WaitsFor s i j r) :=
  decidable_of_iff (i ≠ j ∧ (s[i]?.any fun x => x.script.wants = some r && r ∉ x.held) = true ∧
      (s[j]?.any fun y => r ∈ y.held) = true) <| by
    simp only [Option.any_eq_true, Bool.and_eq_true, decide_eq_true_eq]
    exact ⟨fun h => ⟨h.1, h.2.1, h.2.2⟩, fun h => ⟨h.distinct, h.wants, h.holds⟩⟩

def Deadlocked (s : List (Session δ ρ)) : Prop :=
  ∃ i, TransGen (fun i j => ∃ r, WaitsFor s i j r) i i

theorem deadlocked_of_pair {r r' : ρ} (h : WaitsFor s i j r) (h' : WaitsFor s j i r') :
    Deadlocked s :=
  ⟨i, .tail (.single ⟨r, h⟩) ⟨r', h'⟩⟩

/-- Whoever waits holds only rows of a lower rank. -/
def WaitsInOrder (rank : ρ → ℕ) (s : List (Session δ ρ)) : Prop :=
  ∀ i j r x, WaitsFor s i j r → s[i]? = some x → ∀ h ∈ x.held, rank h < rank r

/-- The row that is waited for ranks above every row its holder has. -/
theorem WaitsInOrder.rank_lt (h : WaitsInOrder rank s) {r r' : ρ} (hij : WaitsFor s i j r)
    (hjk : WaitsFor s j k r') : rank r < rank r' := by
  obtain ⟨y, hy, hr⟩ := hij.holds
  exact h j k r' y hjk hy r hr

theorem WaitsInOrder.not_deadlocked (h : WaitsInOrder rank s) : ¬ Deadlocked s := by
  -- along a chain of waits the wanted rows rise in rank
  have hchain : ∀ i j, TransGen (fun i j => ∃ r, WaitsFor s i j r) i j →
      ∀ k r', WaitsFor s j k r' → ∃ r j', WaitsFor s i j' r ∧ rank r < rank r' := by
    intro i j hij
    induction hij with
    | single hij =>
      intro k r' hjk
      obtain ⟨r, hr⟩ := hij
      exact ⟨r, _, hr, h.rank_lt hr hjk⟩
    | tail _ hbc ih =>
      intro k r' hck
      obtain ⟨r₁, hr₁⟩ := hbc
      obtain ⟨r, j', hr, hlt⟩ := ih _ _ hr₁
      exact ⟨r, j', hr, Nat.lt_trans hlt (h.rank_lt hr₁ hck)⟩
  rintro ⟨i, hii⟩
  obtain ⟨j, ⟨r, hr⟩, -⟩ := TransGen.head'_iff.1 hii
  obtain ⟨r', j', hr', hlt⟩ := hchain i i hii j r hr
  obtain ⟨x, hx, hw, -⟩ := hr.wants
  obtain ⟨x', hx', hw', -⟩ := hr'.wants
  rw [hx] at hx'
  cases hx'
  rw [hw] at hw'
  cases hw'
  exact Nat.lt_irrefl _ hlt

/-! ## What every session keeps to -/

def Disciplined (may : List ρ → ρ → Prop) (s : List (Session δ ρ)) : Prop :=
  ∀ (i : ℕ) (x : Session δ ρ), s[i]? = some x → x.script.Locks may x.held

theorem Disciplined.set (h : Disciplined may s) (hx : x.script.Locks may x.held) :
    Disciplined may (s.set i x) :=
  Table.forall_set hx fun k y _ => h k y

theorem Disciplined.step [DecidableEq ρ] {starts : Script δ ρ → Prop}
    (hstarts : ∀ t, starts t → t.Locks may []) (h : Disciplined may s)
    (hs : Step starts s s') : Disciplined may s' := by
  obtain ⟨a, ha, hs⟩ := hs
  cases a with
  | start t =>
    cases hs
    intro k y hy
    rcases Nat.lt_or_ge k s.length with hk | hk
    · rw [List.getElem?_append_left hk] at hy
      exact h k y hy
    · rw [List.getElem?_append_right hk] at hy
      obtain ⟨-, rfl⟩ := by simpa [List.getElem?_singleton] using hy
      exact hstarts t (ha t rfl)
  | read i d =>
    obtain ⟨x, hx, hs⟩ := Option.bind_eq_some_iff.1 hs
    have hl := h i x hx
    split at hs
    next next he =>
      cases hs
      rw [he] at hl
      exact h.set (hl d)
    next => cases hs
  | lock i =>
    obtain ⟨x, hx, hs⟩ := Option.bind_eq_some_iff.1 hs
    have hl := h i x hx
    split at hs
    next r next he =>
      split_ifs at hs
      cases hs
      rw [he] at hl
      exact h.set hl.2
    next => cases hs
  | claim i =>
    obtain ⟨x, hx, hs⟩ := Option.bind_eq_some_iff.1 hs
    have hl := h i x hx
    split at hs
    next rows limit next he =>
      cases hs
      rw [he] at hl
      exact h.set (hl _ (List.Subset.trans (List.take_subset _ _) (List.filter_subset_self _)))
    next => cases hs
  | finish i =>
    obtain ⟨x, -, hs⟩ := Option.bind_eq_some_iff.1 hs
    cases hs
    exact h.set trivial

theorem disciplined_of_reachable [DecidableEq ρ] {starts : Script δ ρ → Prop} {guard : List (Session δ ρ) →
    List (Session δ ρ) → Prop} (hstarts : ∀ t, starts t → t.Locks may [])
    (h : Transition.Reachable (· = []) (Transition.Guarded (Step starts) guard) s) :
    Disciplined may s := by
  refine h.invariant (Disciplined may) ?_ fun _ _ _ hd hs => hd.step hstarts hs.1
  rintro s rfl i x hx
  simp at hx

/-- A session asks only for rows that are allowed. -/
theorem Disciplined.allowed (h : Disciplined may s) {r : ρ} (hw : WaitsFor s i j r)
    (hx : s[i]? = some x) : may x.held r := by
  obtain ⟨x', hx', hwants, hr⟩ := hw.wants
  rw [hx] at hx'
  cases hx'
  have hl := h i x hx
  cases he : x.script with
  | lock r' next =>
    rw [he] at hl hwants
    obtain rfl : r' = r := Option.some.inj hwants
    exact hl.1.resolve_left hr
  | _ => rw [he] at hwants; cases hwants

end LockOrder
