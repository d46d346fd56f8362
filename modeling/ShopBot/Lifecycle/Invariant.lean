import ShopBot.Lifecycle.Protocol

/-! # The invariant of one configuration

The ledger numbers tasks by operation and generation, and the status of a configuration
tells what the task of its current wish has come to.
-/

namespace ShopBot.Lifecycle

variable {S T : Type*} [DecidableEq T]

namespace Aggregate

/-- Provisions belong to the first generation, revokes to generations already reached. -/
structure Ledger (a : Aggregate S T) : Prop where
  provision : ∀ r t, a.task r = some t → t.operation = .provision → t.generation = 1
  reached : ∀ r t, a.task r = some t → t.generation ≤ a.generation
  unique : ∀ r r' t t', a.task r = some t → a.task r' = some t' → t.operation = t'.operation →
    t.generation = t'.generation → r = r'

/-- A task of the operation and the generation whose status satisfies the condition. -/
def Has (a : Aggregate S T) (op : Operation) (generation : ℕ) (p : TaskStatus → Prop) : Prop :=
  ∃ r t, a.task r = some t ∧ t.operation = op ∧ t.generation = generation ∧ p t.status

/-- Every revoke of the current generation is open. -/
def RevokesOpen (a : Aggregate S T) : Prop :=
  ∀ r t, a.task r = some t → t.operation = .revoke → t.generation = a.generation →
    t.status.isOpen = true

/-- What the tasks of the current wish have come to. -/
def StatusInv (a : Aggregate S T) : Prop :=
  match a.status with
  | .provisioning => a.desired = .active ∧ a.Has .provision 1 (·.isOpen = true)
  | .active => a.desired = .active ∧ a.Has .provision 1 (· = .succeeded)
  | .failed => a.desired = .active ∧ a.Has .provision 1 (· = .failed)
  | .revoking => a.desired = .revoked ∧ a.RevokesOpen ∧
      (a.route = .node → a.Has .revoke a.generation (·.isOpen = true))
  | .revokeFailed => a.desired = .revoked ∧ a.Has .revoke a.generation (· = .failed)
  | .revoked => a.desired = .revoked ∧
      (a.route = .node → a.Has .revoke a.generation (· = .succeeded))
  | .expired | .disabled => False

/-- The client is wanted in the first generation and in no later one. -/
def Generations (a : Aggregate S T) : Prop :=
  match a.desired with
  | .active => a.generation = 1
  | .revoked => 1 < a.generation

structure Inv (a : Aggregate S T) : Prop where
  ledger : a.Ledger
  generations : a.Generations
  status : a.StatusInv

variable {a a' : Aggregate S T} {r r' : T} {t t' : Task} {op : Operation} {generation : ℕ}
  {s : TaskStatus} {p : TaskStatus → Prop} {funded : S → Prop} {actor : Actor T}

omit [DecidableEq T] in
theorem Inv.first (h : a.Inv) (hd : a.desired = .active) : a.generation = 1 := by
  have hg := h.generations
  unfold Generations at hg
  rwa [hd] at hg

omit [DecidableEq T] in
theorem Inv.later (h : a.Inv) (hd : a.desired = .revoked) : 1 < a.generation := by
  have hg := h.generations
  unfold Generations at hg
  rwa [hd] at hg

omit [DecidableEq T] in
theorem Inv.generation_pos (h : a.Inv) : 0 < a.generation := by
  cases hd : a.desired with
  | active => exact h.first hd ▸ Nat.one_pos
  | revoked => exact Nat.zero_lt_of_lt (h.later hd)

/-! ## The ledger -/

theorem Ledger.setTask (h : a.Ledger) (ht : a.task r = some t) :
    (a.setTask r { t with status := s }).Ledger where
  provision r' t' h' hop := by
    rcases setTask_task_eq h' with ⟨rfl, rfl⟩ | ⟨-, h'⟩
    · exact h.provision _ t ht hop
    · exact h.provision _ _ h' hop
  reached r' t' h' := by
    rcases setTask_task_eq h' with ⟨rfl, rfl⟩ | ⟨-, h'⟩
    · exact h.reached _ t ht
    · exact h.reached _ _ h'
  unique r₁ r₂ t₁ t₂ h₁ h₂ hop hg := by
    rcases setTask_task_eq h₁ with ⟨rfl, rfl⟩ | ⟨-, k₁⟩ <;>
      rcases setTask_task_eq h₂ with ⟨rfl, rfl⟩ | ⟨-, k₂⟩
    · rfl
    · exact h.unique _ _ t _ ht k₂ hop hg
    · exact h.unique _ _ _ t k₁ ht hop hg
    · exact h.unique _ _ _ _ k₁ k₂ hop hg

omit [DecidableEq T] in
theorem Ledger.setStatus (h : a.Ledger) (status : VpnConfigurationStatus) :
    (a.setStatus status).Ledger :=
  ⟨h.provision, h.reached, h.unique⟩

omit [DecidableEq T] in
theorem Ledger.requestRevoke (h : a.Ledger) : a.requestRevoke.Ledger :=
  ⟨h.provision, fun r t ht => Nat.le_succ_of_le (h.reached r t ht), h.unique⟩

theorem Ledger.adds (h : a.Ledger) (hp : op = .provision → a.generation = 1)
    (ha : Adds a op a') : a'.Ledger := by
  cases ha with
  | existing r t found operation generation => exact h
  | inserted r free fresh =>
    refine ⟨fun r' t' h' hop => ?_, fun r' t' h' => ?_, fun r₁ r₂ t₁ t₂ h₁ h₂ hop hg => ?_⟩
    · rcases setTask_task_eq h' with ⟨rfl, rfl⟩ | ⟨-, h'⟩
      · exact hp hop
      · exact h.provision _ _ h' hop
    · rcases setTask_task_eq h' with ⟨rfl, rfl⟩ | ⟨-, h'⟩
      · exact Nat.le_refl _
      · exact h.reached _ _ h'
    · rcases setTask_task_eq h₁ with ⟨rfl, rfl⟩ | ⟨-, k₁⟩ <;>
        rcases setTask_task_eq h₂ with ⟨rfl, rfl⟩ | ⟨-, k₂⟩
      · rfl
      · exact absurd hg.symm (fresh _ _ k₂ hop.symm)
      · exact absurd hg (fresh _ _ k₁ hop)
      · exact h.unique _ _ _ _ k₁ k₂ hop hg

/-! ## Tasks that are there -/

theorem Adds.frame (ha : Adds a op a') :
    a'.subscription = a.subscription ∧ a'.route = a.route ∧ a'.status = a.status ∧
      a'.desired = a.desired ∧ a'.generation = a.generation := by
  cases ha <;> simp

theorem Adds.keeps (ha : Adds a op a') (ht : a.task r = some t) : a'.task r = some t := by
  cases ha with
  | existing => exact ht
  | inserted r' free fresh =>
    rw [setTask_task_of_ne, ht]
    rintro rfl
    rw [free] at ht
    cases ht

/-- A revoke that is added belongs to the current generation. -/
theorem Adds.has_task (ha : Adds a .revoke a') :
    ∃ r t, a'.task r = some t ∧ t.operation = .revoke ∧ t.generation = a'.generation := by
  cases ha with
  | existing r t found operation generation => exact ⟨r, t, found, operation, generation rfl⟩
  | inserted r free fresh => exact ⟨r, _, setTask_task_self, rfl, rfl⟩

theorem Adds.has_revoke (ha : Adds a .revoke a')
    (hopen : ∀ r t, a.task r = some t → t.operation = .revoke → t.generation = a.generation →
      t.status.isOpen = true) :
    a'.RevokesOpen ∧ a'.Has .revoke a'.generation (·.isOpen = true) := by
  cases ha with
  | existing r t found operation generation =>
    exact ⟨hopen, r, t, found, operation, generation rfl, hopen r t found operation (generation rfl)⟩
  | inserted r free fresh =>
    refine ⟨fun r' t' h' hop hg => ?_, r, _, setTask_task_self, rfl, rfl, rfl⟩
    rcases setTask_task_eq h' with ⟨rfl, rfl⟩ | ⟨-, h'⟩
    · rfl
    · exact absurd hg (fresh _ _ h' hop)

theorem Has.adds (h : a.Has op generation p) {op' : Operation} (ha : Adds a op' a') :
    a'.Has op generation p := by
  obtain ⟨r, t, ht, hop, hg, hp⟩ := h
  exact ⟨r, t, ha.keeps ht, hop, hg, hp⟩

/-- Writing the status of an open task keeps the tasks that have ended. -/
theorem Has.setTask_of_ended (h : a.Has op generation p) (ht : a.task r = some t)
    (hopen : t.status.isOpen = true) (hp : ∀ s, p s → s.isOpen = false) :
    (a.setTask r { t with status := s }).Has op generation p := by
  obtain ⟨r', t', ht', hop, hg, h'⟩ := h
  refine ⟨r', t', ?_, hop, hg, h'⟩
  rw [setTask_task_of_ne, ht']
  rintro rfl
  rw [ht] at ht'
  cases ht'
  simp [hp _ h'] at hopen

/-- Writing a status that satisfies the condition keeps a task that satisfies it. -/
theorem Has.setTask (h : a.Has op generation p) (ht : a.task r = some t) (hs : p s) :
    (a.setTask r { t with status := s }).Has op generation p := by
  obtain ⟨r', t', ht', hop, hg, h'⟩ := h
  by_cases hr : r' = r
  · subst hr
    rw [ht] at ht'
    cases ht'
    exact ⟨r', _, setTask_task_self, hop, hg, hs⟩
  · exact ⟨r', t', (setTask_task_of_ne hr).trans ht', hop, hg, h'⟩

/-- A task that stays open while it is current keeps the open tasks of the wish. -/
theorem Has.setTask_of_current (h : a.Has op generation (·.isOpen = true)) (ht : a.task r = some t)
    (hs : t.operation = op → t.generation = generation → s.isOpen = true) :
    (a.setTask r { t with status := s }).Has op generation (·.isOpen = true) := by
  obtain ⟨r', t', ht', hop, hg, h'⟩ := h
  by_cases hr : r' = r
  · subst hr
    rw [ht] at ht'
    cases ht'
    exact ⟨r', _, setTask_task_self, hop, hg, hs hop hg⟩
  · exact ⟨r', t', (setTask_task_of_ne hr).trans ht', hop, hg, h'⟩

/-! ## The status -/

/-- Writing a task that was open keeps the status invariant, unless it ends the task of
the current wish. -/
theorem Inv.status_setTask (h : a.Inv) (ht : a.task r = some t) (hopen : t.status.isOpen = true)
    (hs : a.Current t → s.isOpen = true) : (a.setTask r { t with status := s }).StatusInv := by
  have hst := h.status
  unfold StatusInv at hst ⊢
  rw [setTask_status]
  cases hc : a.status <;> rw [hc] at hst <;> dsimp only at hst ⊢
  case provisioning =>
    refine ⟨hst.1, hst.2.setTask_of_current ht fun hop hg => hs ⟨?_, ?_⟩⟩
    · rw [hg, h.first hst.1]
    · rw [hop]
      exact ⟨hst.1, hc⟩
  case active =>
    exact ⟨hst.1, hst.2.setTask_of_ended ht hopen (by rintro _ rfl; rfl)⟩
  case failed =>
    exact ⟨hst.1, hst.2.setTask_of_ended ht hopen (by rintro _ rfl; rfl)⟩
  case revoking =>
    have hcur : t.operation = .revoke → t.generation = a.generation → s.isOpen = true := by
      intro hop hg
      refine hs ⟨hg, ?_⟩
      rw [hop]
      exact ⟨hst.1, hc⟩
    refine ⟨hst.1, fun r' t' h' hop hg => ?_, fun hr => (hst.2.2 hr).setTask_of_current ht hcur⟩
    rcases setTask_task_eq h' with ⟨rfl, rfl⟩ | ⟨-, h'⟩
    · exact hcur hop hg
    · exact hst.2.1 _ _ h' hop hg
  case revokeFailed =>
    exact ⟨hst.1, hst.2.setTask_of_ended ht hopen (by rintro _ rfl; rfl)⟩
  case revoked =>
    exact ⟨hst.1, fun hr => (hst.2 hr).setTask_of_ended ht hopen (by rintro _ rfl; rfl)⟩

omit [DecidableEq T] in
/-- No task belongs to a generation that has not been reached. -/
theorem Ledger.next_free (h : a.Ledger) (ht : a.task r = some t) :
    t.generation ≠ a.generation + 1 :=
  Nat.ne_of_lt (Nat.lt_succ_of_le (h.reached r t ht))

theorem Ledger.requested (h : a.Ledger) (hg : 0 < a.generation)
    (ha : Adds a.requestRevoke .revoke a') : a'.Inv where
  ledger := h.requestRevoke.adds (fun hop : Operation.revoke = .provision => nomatch hop) ha
  generations := by
    obtain ⟨-, -, -, hd, hg'⟩ := ha.frame
    unfold Generations
    rw [hd, hg']
    exact Nat.succ_lt_succ hg
  status := by
    obtain ⟨-, -, hs, hd, -⟩ := ha.frame
    have hr := ha.has_revoke fun r t ht hop hg => absurd hg (h.next_free ht)
    unfold StatusInv
    rw [hs]
    exact ⟨hd, hr.1, fun _ => hr.2⟩

theorem Inv.of_fresh (h : a.Fresh) : a.Inv := by
  obtain ⟨hs, hd, hg, r, ht⟩ := h
  have huniq : ∀ r' t', a.task r' = some t' → r' = r ∧ t' = ⟨.provision, 1, .pending⟩ := by
    intro r' t' h'
    rw [ht] at h'
    by_cases hr : r' = r
    · subst hr
      rw [Function.update_self] at h'
      exact ⟨rfl, (Option.some.inj h').symm⟩
    · rw [Function.update_of_ne hr] at h'
      cases h'
  refine ⟨⟨fun r' t' h' _ => ?_, fun r' t' h' => ?_, fun r₁ r₂ t₁ t₂ h₁ h₂ _ _ => ?_⟩,
    ?_, ?_⟩
  · rw [(huniq r' t' h').2]
  · rw [(huniq r' t' h').2]
    exact Nat.le_of_eq hg.symm
  · rw [(huniq r₁ t₁ h₁).1, (huniq r₂ t₂ h₂).1]
  · unfold Generations
    rwa [hd]
  · unfold StatusInv
    rw [hs]
    exact ⟨hd, r, _, by rw [ht, Function.update_self], rfl, rfl, rfl⟩

/-- Creating a revoke of the current generation preserves the invariant. -/
theorem Inv.adds_revoke (h : a.Inv) (ha : Adds a .revoke a') : a'.Inv where
  ledger := h.ledger.adds (fun hop : Operation.revoke = .provision => nomatch hop) ha
  generations := by
    obtain ⟨-, -, -, hd, hg⟩ := ha.frame
    have hgen := h.generations
    unfold Generations at hgen ⊢
    rwa [hd, hg]
  status := by
    obtain ⟨-, hr, hs, hd, hg⟩ := ha.frame
    have hst := h.status
    unfold StatusInv at hst ⊢
    rw [hs, hd, hr, hg]
    cases hc : a.status <;> rw [hc] at hst <;> dsimp only at hst ⊢
    case provisioning | active | failed | revokeFailed => exact ⟨hst.1, hst.2.adds ha⟩
    case revoking =>
      have := ha.has_revoke hst.2.1
      exact ⟨hst.1, this.1, fun _ => hg ▸ this.2⟩
    case revoked => exact ⟨hst.1, fun hn => (hst.2 hn).adds ha⟩

/-- Every transaction preserves the invariant. -/
theorem Step.inv (hstep : Step funded a actor a') (h : a.Inv) : a'.Inv := by
  have hend : ∀ r t, a.task r = some t → t.operation = .provision → t.generation = 1 :=
    h.ledger.provision
  cases hstep with
  | requeue r t s ht isOpen stays =>
    exact ⟨h.ledger.setTask ht, h.generations, h.status_setTask ht isOpen fun _ => stays⟩
  | settle r t s ht isOpen givesUp stale =>
    exact ⟨h.ledger.setTask ht, h.generations,
      h.status_setTask ht isOpen fun hc => absurd hc stale⟩
  | finish r t ht isOpen stale =>
    exact ⟨h.ledger.setTask ht, h.generations,
      h.status_setTask ht isOpen fun hc => absurd hc stale⟩
  | activate r t ht hop isOpen current hf =>
    have hd : a.desired = .active := by
      have := current.2
      rw [hop] at this
      exact this.1
    exact ⟨(h.ledger.setTask ht).setStatus _, h.generations,
      hd, r, _, setTask_task_self, hop, hend r t ht hop, rfl⟩
  | failProvision r t ht hop isOpen current =>
    have hd : a.desired = .active := by
      have := current.2
      rw [hop] at this
      exact this.1
    exact ⟨(h.ledger.setTask ht).setStatus _, h.generations,
      hd, r, _, setTask_task_self, hop, hend r t ht hop, rfl⟩
  | revoked r t ht hop isOpen current =>
    have hd : a.desired = .revoked := by
      have := current.2
      rw [hop] at this
      exact this.1
    exact ⟨(h.ledger.setTask ht).setStatus _, h.generations,
      hd, fun _ => ⟨r, _, setTask_task_self, hop, current.1, rfl⟩⟩
  | failRevoke r t ht hop isOpen current =>
    have hd : a.desired = .revoked := by
      have := current.2
      rw [hop] at this
      exact this.1
    exact ⟨(h.ledger.setTask ht).setStatus _, h.generations,
      hd, r, _, setTask_task_self, hop, current.1, rfl⟩
  | lapseNode r t _ hr ht hop isOpen current hf adds =>
    exact (h.ledger.setTask ht).requested h.generation_pos adds
  | lapsePanel r t hr ht hop isOpen current hf =>
    refine ⟨h.ledger.requestRevoke, Nat.succ_lt_succ h.generation_pos, rfl, fun r' t' h' _ hg => ?_,
      fun hn => ?_⟩
    · exact absurd hg (h.ledger.next_free h')
    · cases hr.symm.trans hn
  | compensated r t hr ht hop isOpen hs hd overtaken =>
    exact ⟨(h.ledger.setTask ht).setStatus _, h.generations, hd, fun hn => nomatch hr.symm.trans hn⟩
  | followUp r t _ hr ht hop isOpen stale adds =>
    have hset : (a.setTask r { t with status := .succeeded }).Inv :=
      ⟨h.ledger.setTask ht, h.generations, h.status_setTask ht isOpen fun hc => absurd hc stale⟩
    exact hset.adds_revoke adds
  | recoverProvision r t ht hop done hs hd hf =>
    exact ⟨h.ledger.setStatus _, h.generations, hd, r, t, ht, hop, hend r t ht hop, done⟩
  | recoverRevoke r t ht hop hg done hs hd =>
    exact ⟨h.ledger.setStatus _, h.generations, hd, fun _ => ⟨r, t, ht, hop, hg, done⟩⟩
  | request _ hs adds =>
    exact h.ledger.requested h.generation_pos adds
  | restoreRevoke _ hs adds =>
    exact h.adds_revoke adds
  | restoreProvision _ hs hd adds =>
    obtain ⟨-, -, hs', hd', hg'⟩ := adds.frame
    refine ⟨h.ledger.adds (fun _ => h.first hd) adds, ?_, ?_⟩
    · have hgen := h.generations
      unfold Generations at hgen ⊢
      rwa [hd', hg']
    have hst := h.status
    unfold StatusInv at hst ⊢
    rw [hs', hs]
    rw [hs] at hst
    exact ⟨hd'.trans hd, hst.2.adds adds⟩

end Aggregate

end ShopBot.Lifecycle
