import ShopBot.Refinement.System

/-! # Workers between their transactions

A worker appears when a task is claimed, holds what it has claimed, and moves from stage
to stage by its own transactions only.
-/

namespace ShopBot

open Database

/-- A task that has been claimed for a node is stored as the worker holds it. -/
theorem DispatchNodeTask.prepare_prepared {settings : Settings} {ambient : Ambient}
    {db db' : Database} {k : ℕ} {p : PreparedDispatch}
    (h : DispatchNodeTask.prepare settings ambient db k = .ok (.prepared p, db')) :
    p.taskId = k ∧ db'.nodeTasks[k]? = some p.task := by
  unfold prepare at h
  split at h
  next => cases h
  next t ht =>
    split at h
    next => cases h
    next =>
      have hdefer : ∀ {reason : String},
          deferUnavailableNode settings ambient db t k reason ≠ .ok (.prepared p, db') := by
        intro reason hd
        obtain ⟨t', -, hd⟩ := bind_eq_ok.1 hd
        cases hd
      split at h
      next => exact absurd h hdefer
      next node =>
        split_ifs at h
        · obtain ⟨t', -, h⟩ := bind_eq_ok.1 h
          obtain ⟨⟨a, db₁⟩, ha, h⟩ := bind_eq_ok.1 h
          obtain ⟨rows, rfl⟩ := createTaskAttempt_ok ha
          dsimp only at h
          split_ifs at h
          · obtain ⟨_, -, h⟩ := bind_eq_ok.1 h
            cases h
          · cases h
            have hk : k < db.nodeTasks.length := (List.getElem?_eq_some_iff.1 ht).1
            exact ⟨rfl, by simp [saveNodeTask, hk]⟩
        · exact absurd h hdefer

namespace System

variable {settings : Settings} {s s' : System} {cmd : Command}

/-- What a command does to the workers of the nodes. -/
theorem exec_nodeDispatches (h : s.exec settings cmd = some s') :
    s'.nodeDispatches = s.nodeDispatches ∨
    (∃ ambient taskId p, cmd = .prepareNode ambient taskId ∧
      DispatchNodeTask.prepare settings ambient s.db taskId = .ok (.prepared p, s'.db) ∧
      s'.nodeDispatches = s.nodeDispatches ++ [{ prepared := p }]) ∨
    ∃ ambient worker reply w, cmd = .finalizeNode ambient worker reply ∧
      s.nodeDispatches[worker]? = some w ∧
      s'.nodeDispatches = s.nodeDispatches.set worker { w with finished := true } := by
  cases cmd with
  | prepareNode ambient taskId =>
    obtain ⟨p, hp, hs'⟩ := prepareNode_eq_some h
    cases p with
    | prepared p => exact .inr (.inl ⟨ambient, taskId, p, rfl, hp, by rw [hs']⟩)
    | result => exact .inl (by rw [hs'])
  | finalizeNode ambient worker reply =>
    obtain ⟨w, f, hw, -, -, hs'⟩ := finalizeNode_eq_some h
    exact .inr (.inr ⟨ambient, worker, reply, w, rfl, hw, by rw [hs']⟩)
  | provisionVpn | revokeVpn | recoverNodes | recoverPanelProvisions | recoverPanelRevokes |
    ingestWebhook | processPayment | markPaymentOrderPaid =>
    obtain ⟨_, -, rfl⟩ := Option.map_eq_some_iff.1 h
    exact .inl rfl
  | preparePanel ambient taskId =>
    obtain ⟨p, -, hs'⟩ := preparePanel_eq_some h
    exact .inl (by rw [hs'])
  | preparePanelRevoke ambient taskId =>
    obtain ⟨p, -, hs'⟩ := preparePanelRevoke_eq_some h
    exact .inl (by rw [hs'])
  | finalizeProvision | abortProvision | failProvision | recordCompensation |
    recordCompensationFailure =>
    simp only [exec] at h
    obtain ⟨w, next, -, -, -, hs'⟩ := panelTransaction_eq_some h
    exact .inl (by rw [hs'])
  | finalizePanelRevoke | failPanelRevoke =>
    simp only [exec] at h
    obtain ⟨w, status, -, -, -, hs'⟩ := panelRevokeTransaction_eq_some h
    exact .inl (by rw [hs'])
  | createPayment =>
    obtain ⟨⟨p, db⟩, -, h⟩ := Option.bind_eq_some_iff.1 h
    dsimp only at h
    split_ifs at h <;> cases h <;> exact .inl rfl
  | finalizeInvoice | failInvoice =>
    obtain ⟨w, -, h⟩ := Option.bind_eq_some_iff.1 h
    split_ifs at h
    obtain ⟨db, -, h⟩ := Option.bind_eq_some_iff.1 h
    cases h
    exact .inl rfl
  | listAnomalies | administer =>
    cases h
    exact .inl rfl
  | processAnomaly =>
    obtain ⟨b, -, h⟩ := Option.bind_eq_some_iff.1 h
    obtain ⟨a, -, h⟩ := Option.bind_eq_some_iff.1 h
    cases h
    exact .inl rfl

theorem exec_keeps_nodeDispatches (h : s.exec settings cmd = some s') :
    Table.Keeps NodeDispatch.prepared s.nodeDispatches s'.nodeDispatches := by
  rcases exec_nodeDispatches h with hs' | ⟨_, _, _, -, -, hs'⟩ | ⟨_, _, _, w, -, hw, hs'⟩ <;>
    rw [hs']
  · exact .refl
  · exact .append _
  · exact .set hw rfl

/-- A worker that has just appeared holds its task as it is stored. -/
theorem exec_new_nodeDispatch (h : s.exec settings cmd = some s') {i : ℕ} {d : NodeDispatch}
    (hi : s.nodeDispatches.length ≤ i) (hd : s'.nodeDispatches[i]? = some d) :
    s'.db.nodeTasks[d.prepared.taskId]? = some d.prepared.task := by
  have hlt := (List.getElem?_eq_some_iff.1 hd).1
  rcases exec_nodeDispatches h with hs' | ⟨ambient, taskId, p, -, hp, hs'⟩ |
    ⟨_, _, _, w, -, hw, hs'⟩ <;> rw [hs'] at hd hlt
  · omega
  · rw [List.getElem?_append_right hi] at hd
    obtain ⟨hk, hrow⟩ := DispatchNodeTask.prepare_prepared hp
    obtain rfl := List.mem_singleton.1 (List.mem_of_getElem? hd)
    rw [hk]
    exact hrow
  · rw [List.length_set] at hlt
    omega

end System

end ShopBot
