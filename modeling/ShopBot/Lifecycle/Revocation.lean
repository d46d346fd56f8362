import ShopBot.Lifecycle.Fleet

/-! # Revokes of a configuration

A revoke always works for a later generation than the provision, and only the success of
a revoke of the current generation, or the compensation of the provision it has overtaken,
ends a configuration.
-/

namespace ShopBot.Lifecycle

open Relation

variable {S T : Type*} [DecidableEq T]

namespace Aggregate

/-- No revoke belongs to the first generation. -/
def RevokesLater (a : Aggregate S T) : Prop :=
  ∀ r t, a.task r = some t → t.operation = .revoke → 1 < t.generation

variable {a a' : Aggregate S T} {r r' : T} {t t' : Task} {op : Operation} {funded : S → Prop}
  {actor : Actor T} {s : TaskStatus} {generation : ℕ} {p : TaskStatus → Prop}

theorem RevokesLater.setTask (h : a.RevokesLater) (ht : a.task r = some t) :
    (a.setTask r { t with status := s }).RevokesLater := by
  intro r' t' h' hop
  rcases setTask_task_eq h' with ⟨rfl, rfl⟩ | ⟨-, h'⟩
  · exact h _ t ht hop
  · exact h _ _ h' hop

theorem RevokesLater.adds (h : a.RevokesLater) (hg : op = .revoke → 1 < a.generation)
    (ha : Adds a op a') : a'.RevokesLater := by
  cases ha with
  | existing => exact h
  | inserted r free fresh =>
    intro r' t' h' hop
    rcases setTask_task_eq h' with ⟨rfl, rfl⟩ | ⟨-, h'⟩
    · exact hg hop
    · exact h _ _ h' hop

omit [DecidableEq T] in
/-- The status of the only provision. -/
theorem Ledger.has_provision (h : a.Ledger) (hh : a.Has .provision generation p)
    (ht : a.task r = some t) (hop : t.operation = .provision) : p t.status := by
  obtain ⟨r', t', ht', hop', -, hp⟩ := hh
  have hg := h.provision r t ht hop
  have hg' := h.provision r' t' ht' hop'
  obtain rfl := h.unique r r' t t' ht ht' (hop.trans hop'.symm) (hg.trans hg'.symm)
  rwa [Option.some.inj (ht.symm.trans ht')]

omit [DecidableEq T] in
/-- What the provision has come to, by the status of the configuration. -/
theorem Inv.provision_status (h : a.Inv) (ht : a.task r = some t) (hop : t.operation = .provision) :
    (a.status = .provisioning ∧ t.status.isOpen = true) ∨
      (a.status = .active ∧ t.status = .succeeded) ∨
      (a.status = .failed ∧ t.status = .failed) ∨ a.desired = .revoked := by
  have hst := h.status
  unfold StatusInv at hst
  cases hs : a.status <;> rw [hs] at hst <;> dsimp only at hst
  case provisioning => exact .inl ⟨rfl, h.ledger.has_provision hst.2 ht hop⟩
  case active => exact .inr (.inl ⟨rfl, h.ledger.has_provision hst.2 ht hop⟩)
  case failed => exact .inr (.inr (.inl ⟨rfl, h.ledger.has_provision hst.2 ht hop⟩))
  case revoking | revokeFailed | revoked => exact .inr (.inr (.inr hst.1))

omit [DecidableEq T] in
/-- A provision that is open although it is not current has been overtaken by a revoke. -/
theorem Inv.revoked_of_stale (h : a.Inv) (ht : a.task r = some t) (hop : t.operation = .provision)
    (hopen : t.status.isOpen = true) (stale : ¬ a.Current t) : a.desired = .revoked := by
  rcases h.provision_status ht hop with ⟨hs, -⟩ | ⟨-, hs⟩ | ⟨-, hs⟩ | hd
  · by_contra hd
    have hactive : a.desired = .active := by
      cases hdes : a.desired with
      | active => rfl
      | revoked => exact absurd hdes hd
    refine stale ⟨(h.ledger.provision r t ht hop).trans (h.first hactive).symm, ?_⟩
    rw [hop]
    exact ⟨hactive, hs⟩
  · rw [hs] at hopen
    cases hopen
  · rw [hs] at hopen
    cases hopen
  · exact hd

theorem RevokesLater.step (h : a.RevokesLater) (hinv : a.Inv) (hstep : Step funded a actor a') :
    a'.RevokesLater := by
  have hnext : Operation.revoke = .revoke → 1 < a.generation + 1 :=
    fun _ => Nat.succ_lt_succ hinv.generation_pos
  cases hstep with
  | requeue r t s ht => exact h.setTask ht
  | settle r t s ht => exact h.setTask ht
  | finish r t ht => exact h.setTask ht
  | activate r t ht => exact h.setTask ht
  | failProvision r t ht => exact h.setTask ht
  | revoked r t ht => exact h.setTask ht
  | failRevoke r t ht => exact h.setTask ht
  | compensated r t _ ht => exact h.setTask ht
  | lapsePanel | recoverProvision | recoverRevoke => exact h
  | lapseNode r t _ _ ht _ _ _ _ adds =>
    have hset : (a.setTask r { t with status := .succeeded }).requestRevoke.RevokesLater :=
      h.setTask ht
    exact hset.adds hnext adds
  | followUp r t _ _ ht hop isOpen stale adds =>
    have hd := hinv.revoked_of_stale ht hop isOpen stale
    exact (h.setTask ht).adds (fun _ => hinv.later hd) adds
  | request _ _ adds =>
    have hreq : a.requestRevoke.RevokesLater := h
    exact hreq.adds hnext adds
  | restoreRevoke _ hs adds =>
    have hst := hinv.status
    unfold StatusInv at hst
    rw [hs] at hst
    exact h.adds (fun _ => hinv.later hst.1) adds
  | restoreProvision _ _ _ adds =>
    exact h.adds (fun hop : Operation.provision = .revoke => nomatch hop) adds

theorem RevokesLater.of_fresh (h : a.Fresh) : a.RevokesLater := by
  obtain ⟨-, -, -, r, htask⟩ := h
  intro r' t' h' hop
  rw [htask] at h'
  by_cases hr : r' = r
  · subst hr
    rw [Function.update_self] at h'
    cases h'
    cases hop
  · rw [Function.update_of_ne hr] at h'
    cases h'

/-- A task that has ended stays as it is. -/
theorem Step.keeps_ended (h : Step funded a actor a') (ht : a.task r = some t)
    (hended : t.status.isOpen = false) : a'.task r = some t := by
  have hset : ∀ {r₀ t₀ s}, a.task r₀ = some t₀ → t₀.status.isOpen = true →
      (a.setTask r₀ { t₀ with status := s }).task r = some t := by
    intro r₀ t₀ s h₀ hopen
    rw [setTask_task_of_ne, ht]
    rintro rfl
    rw [Option.some.inj (h₀.symm.trans ht), hended] at hopen
    cases hopen
  cases h with
  | requeue r₀ t₀ s h₀ hopen => exact hset h₀ hopen
  | settle r₀ t₀ s h₀ hopen => exact hset h₀ hopen
  | finish r₀ t₀ h₀ hopen => exact hset h₀ hopen
  | activate r₀ t₀ h₀ _ hopen => exact hset h₀ hopen
  | failProvision r₀ t₀ h₀ _ hopen => exact hset h₀ hopen
  | revoked r₀ t₀ h₀ _ hopen => exact hset h₀ hopen
  | failRevoke r₀ t₀ h₀ _ hopen => exact hset h₀ hopen
  | compensated r₀ t₀ _ h₀ _ hopen => exact hset h₀ hopen
  | lapseNode r₀ t₀ _ _ h₀ _ hopen _ _ adds => exact adds.keeps (hset h₀ hopen)
  | followUp r₀ t₀ _ _ h₀ _ hopen _ adds => exact adds.keeps (hset h₀ hopen)
  | request _ _ adds => exact adds.keeps ht
  | restoreRevoke _ _ adds => exact adds.keeps ht
  | restoreProvision _ _ _ adds => exact adds.keeps ht
  | lapsePanel | recoverProvision | recoverRevoke => exact ht

/-- A configuration ends when an open revoke of its generation succeeds, or when the
provision that a revoke has overtaken has been compensated. -/
theorem Step.revocation (h : Step funded a actor a') (hinv : a.Inv) (hs : a.status ≠ .revoked)
    (hs' : a'.status = .revoked) :
    (∃ r t, actor = .success r ∧ a.task r = some t ∧ t.operation = .revoke ∧
      t.generation = a.generation ∧ t.status.isOpen = true ∧ a.status = .revoking) ∨
      (∃ r t, actor = .compensation r ∧ a.task r = some t ∧ t.operation = .provision ∧
        t.status.isOpen = true ∧ a.status = .revoking) := by
  have hadds : ∀ {op : Operation} {b : Aggregate S T}, Adds b op a' → b.status = .revoked :=
    fun ha => ha.frame.2.2.1.symm.trans hs'
  cases h with
  | requeue | settle | finish => exact absurd hs' hs
  | revoked r t ht hop hopen current =>
    have hc := current.2
    rw [hop] at hc
    exact .inl ⟨r, t, rfl, ht, hop, current.1, hopen, hc.2⟩
  | compensated r t _ ht hop hopen hrev => exact .inr ⟨r, t, rfl, ht, hop, hopen, hrev⟩
  | recoverRevoke r t ht hop hg done hrev =>
    have hst := hinv.status
    unfold StatusInv at hst
    rw [hrev] at hst
    have hopen := hst.2.1 r t ht hop hg
    rw [done] at hopen
    cases hopen
  | lapseNode _ _ _ _ _ _ _ _ _ adds => cases hadds adds
  | request _ _ adds => cases hadds adds
  | followUp _ _ _ _ _ _ _ _ adds => exact absurd (hadds adds) hs
  | restoreRevoke _ _ adds => exact absurd (hadds adds) hs
  | restoreProvision _ _ _ adds => exact absurd (hadds adds) hs
  | _ => cases hs'

end Aggregate

namespace Fleet

variable {f f' : Fleet S T} {funded : S → Prop} {actors : Actor T → Prop} {id : ℕ}
  {a a' : Aggregate S T} {r : T} {t : Task}

theorem Run.revokesLater (h : Run funded actors f f') (hinv : f.Inv)
    (hl : ∀ id a, f id = some a → a.RevokesLater) : ∀ id a, f' id = some a → a.RevokesLater := by
  induction h with
  | refl => exact hl
  | tail hr hstep ih =>
    intro j b hb
    obtain ⟨actor, -, hstep⟩ := hstep
    cases hstep with
    | transition i a a' _ ha hstep =>
      by_cases hj : j = i
      · subst hj
        rw [Function.update_self] at hb
        cases hb
        exact (ih _ _ ha).step ((Run.inv hr hinv).each _ _ ha) hstep
      · rw [Function.update_of_ne hj] at hb
        exact ih _ _ hb
    | create i a next fresh =>
      by_cases hj : j = i
      · subst hj
        rw [Function.update_self] at hb
        cases hb
        exact .of_fresh fresh
      · rw [Function.update_of_ne hj] at hb
        exact ih _ _ hb

theorem Run.keeps_ended (h : Run funded actors f f') (hinv : f.Inv) (ha : f id = some a)
    (ht : a.task r = some t) (hended : t.status.isOpen = false) (ha' : f' id = some a') :
    a'.task r = some t :=
  invariant (fun b => b.task r = some t) (fun _ _ _ _ hs hb => hs.keeps_ended hb hended)
    h hinv ha ht ha'

/-- In a run a configuration ends by the success of a revoke of its generation that was
open before, or by the compensation of its provision. -/
theorem Run.revocation (h : Run funded actors f f') (hinv : f.Inv) (ha : f id = some a)
    (ha' : f' id = some a') (hs : a.status ≠ .revoked) (hs' : a'.status = .revoked) :
    (∃ r t, actors (.success r) ∧ a'.task r = some t ∧ t.operation = .revoke ∧
      t.generation = a'.generation ∧ ∀ t₀, a.task r = some t₀ → t₀.status.isOpen = true) ∨
      (∃ r t, actors (.compensation r) ∧ a'.task r = some t ∧ t.operation = .provision) := by
  induction h using ReflTransGen.head_induction_on generalizing a with
  | refl =>
    rw [Option.some.inj (ha.symm.trans ha')] at hs
    exact absurd hs' hs
  | @head g g' hstep hr ih =>
    obtain ⟨actor, hact, hstep⟩ := hstep
    have hinv' := hstep.inv hinv
    obtain ⟨b, hb, hstep⟩ := hstep.at ha
    rcases hstep with rfl | hstep
    · exact ih hinv' hb hs
    · by_cases hbs : b.status = .revoked
      · have hkeep : ∀ {r t}, a.task r = some t → ∃ s, a'.task r = some { t with status := s } := by
          intro r t ht
          obtain ⟨s, hb'⟩ := hstep.keeps_task ht
          obtain ⟨s', hs'⟩ := Run.keeps_task hr hinv' hb hb' ha'
          exact ⟨s', hs'⟩
        -- nothing changes the generation of a configuration that has ended
        have hend : a'.generation = b.generation := by
          refine invariant (fun c => c.status = .revoked ∧ c.generation = b.generation)
            ?_ hr hinv' hb ⟨hbs, rfl⟩ ha' |>.2
          rintro c c' _ _ hc ⟨hcs, hcg⟩
          have hsame := hc.status_of_terminal (by rw [hcs]; rfl)
          refine ⟨hsame.trans hcs, ?_⟩
          rcases hc.generation with h | h
          · exact h.1.trans hcg
          · rw [hsame, hcs] at h
            cases h.2.2.1
        have hgen : b.generation = a.generation := by
          rcases hstep.generation with h | h
          · exact h.1
          · cases h.2.2.1.symm.trans hbs
        rcases hstep.revocation (hinv.each _ _ ha) hs hbs with
          ⟨r, t, rfl, ht, hop, hg, hopen, -⟩ | ⟨r, t, rfl, ht, hop, -⟩
        · obtain ⟨s, hs⟩ := hkeep ht
          refine .inl ⟨r, _, hact, hs, hop, hg.trans (hgen.symm.trans hend.symm), ?_⟩
          intro t₀ ht₀
          rwa [Option.some.inj (ht₀.symm.trans ht)]
        · obtain ⟨s, hs⟩ := hkeep ht
          exact .inr ⟨r, _, hact, hs, hop⟩
      · rcases ih hinv' hb hbs with ⟨r, t, hsucc, ht, hop, hg, hopen⟩ | hcomp
        · refine .inl ⟨r, t, hsucc, ht, hop, hg, fun t₀ ht₀ => ?_⟩
          by_contra hended
          rw [Bool.not_eq_true] at hended
          have hstill := hopen t₀ (hstep.keeps_ended ht₀ hended)
          rw [hended] at hstill
          cases hstill
        · exact .inr hcomp

end Fleet

end ShopBot.Lifecycle
