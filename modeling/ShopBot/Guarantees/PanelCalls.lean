import ShopBot.Guarantees.Fencing
import ShopBot.Lifecycle.Revocation
import ShopBot.Refinement.PanelBoards
import ShopBot.System.PanelNetwork

/-! # Calls of the panel

What the calls that have taken effect have to do with the tasks they were made for, in
every run.
-/

namespace ShopBot

open Lifecycle Database

namespace Database

variable {db : Database} {id k : ℕ} {c : VpnConfiguration} {t : PanelProvisionTask}
  {q : PanelRevokeTask}

/-- A provision task belongs to the configuration of its client. -/
theorem WellFormed.provision_client (hw : db.WellFormed)
    (ht : db.panelProvisionTasks[k]? = some t) (hc : db.vpnConfigurations[id]? = some c) :
    t.payload.clientUuid = c.clientUuid ↔ t.vpnConfigurationId = id := by
  obtain ⟨o, ho, -, -, hu, -⟩ := hw.panelProvisionTasks t (List.mem_of_getElem? ht)
  obtain ⟨c₀, e₀, hc₀, -, rfl⟩ := owner_eq_some.1 ho
  constructor
  · intro heq
    exact hw.clientUuid _ _ _ _ hc₀ hc (hu.symm.trans heq)
  · rintro rfl
    rw [Option.some.inj (hc.symm.trans hc₀)]
    exact hu

/-- A revoke task belongs to the configuration of its client. -/
theorem WellFormed.revoke_client (hw : db.WellFormed)
    (hq : db.panelRevokeTasks[k]? = some q) (hc : db.vpnConfigurations[id]? = some c) :
    q.payload.clientUuid = c.clientUuid ↔ q.vpnConfigurationId = id := by
  obtain ⟨o, ho, -, -, hu, -⟩ := hw.panelRevokeTasks q (List.mem_of_getElem? hq)
  obtain ⟨c₀, e₀, hc₀, -, rfl⟩ := owner_eq_some.1 ho
  constructor
  · intro heq
    exact hw.clientUuid _ _ _ _ hc₀ hc (hu.symm.trans heq)
  · rintro rfl
    rw [Option.some.inj (hc.symm.trans hc₀)]
    exact hu

end Database

namespace System

variable {settings : Settings} {s s' : System} {cmd : Command} {i j k id : ℕ}
  {c c' : VpnConfiguration} {t t' : PanelProvisionTask} {q : PanelRevokeTask} {d : PanelDispatch}
  {r : PanelRevokeDispatch}

/-! ## Tasks of a configuration -/

theorem Reachable.revokesLater (h : Reachable settings s) :
    ∀ id a, s.db.fleet id = some a → a.RevokesLater := by
  have hstep : ∀ s s' : System, Reachable settings s →
      (∀ id a, s.db.fleet id = some a → a.RevokesLater) → Step settings s s' →
      ∀ id a, s'.db.fleet id = some a → a.RevokesLater := by
    rintro s s' hr hl ⟨cmd, hcmd⟩
    exact (exec_evolves hr.inv.1 hcmd).run.revokesLater hr.inv.2 hl
  have hinit : ∀ s : System, Initial s → ∀ id a, s.db.fleet id = some a → a.RevokesLater := by
    intro s hs id a ha
    obtain ⟨c, e, hc, -⟩ := fleet_eq_some.1 ha
    rw [hs] at hc
    cases hc
  exact Transition.Reachable.invariant
    (fun s : System => ∀ id a, s.db.fleet id = some a → a.RevokesLater) hinit hstep h

/-- A configuration whose client is wanted is in its first generation. -/
theorem Reachable.wanted (h : Reachable settings s)
    (hc : s.db.vpnConfigurations[id]? = some c)
    (hs : c.status = .provisioning ∨ c.status = .active) :
    c.desiredState = .active ∧ c.generation = 1 := by
  obtain ⟨e, -, ha⟩ := h.inv.1.row hc
  have hinv := h.inv.2.each _ _ ha
  have hst := hinv.status
  simp only [Aggregate.StatusInv, aggregateOf] at hst
  have hd : c.desiredState = .active := by
    rcases hs with hs | hs <;> rw [hs] at hst <;> exact hst.1
  exact ⟨hd, hinv.first hd⟩

/-- A client with a revoke is not wanted. -/
theorem Reachable.revoke_desired (h : Reachable settings s)
    (hq : s.db.panelRevokeTasks[k]? = some q)
    (hc : s.db.vpnConfigurations[q.vpnConfigurationId]? = some c) : c.desiredState = .revoked := by
  obtain ⟨c₀, e, hat⟩ := h.inv.1.panelRevokeTask hq
  obtain rfl := Option.some.inj (hat.configuration.symm.trans hc)
  have ha := fleet_of_row hat.configuration hat.endpoint
  have hinv := h.inv.2.each _ _ ha
  have hle : q.vpnGeneration ≤ c₀.generation := hinv.ledger.reached _ _ hat.task
  have hlt : 1 < q.vpnGeneration := h.revokesLater _ _ ha _ _ hat.task rfl
  cases hd : c₀.desiredState with
  | revoked => rfl
  | active =>
    have hone : c₀.generation = 1 := hinv.first hd
    omega

/-- What a provision task has come to, by the status of its configuration. -/
theorem Reachable.provision_status (h : Reachable settings s)
    (ht : s.db.panelProvisionTasks[k]? = some t)
    (hc : s.db.vpnConfigurations[t.vpnConfigurationId]? = some c) :
    (c.status = .provisioning ∧ t.status.isOpen = true) ∨
      (c.status = .active ∧ t.status = .succeeded) ∨
      (c.status = .failed ∧ t.status = .failed) ∨ c.desiredState = .revoked := by
  obtain ⟨c₀, e, hat⟩ := h.inv.1.panelProvisionTask ht
  obtain rfl := Option.some.inj (hat.configuration.symm.trans hc)
  have hinv := h.inv.2.each _ _ (fleet_of_row hat.configuration hat.endpoint)
  exact hinv.provision_status hat.task rfl

/-- A configuration has one provision task. -/
theorem Reachable.provision_unique (h : Reachable settings s)
    (ht : s.db.panelProvisionTasks[k]? = some t) (ht' : s.db.panelProvisionTasks[j]? = some t')
    (hid : t.vpnConfigurationId = t'.vpnConfigurationId) : k = j := by
  obtain ⟨c, e, hat⟩ := h.inv.1.panelProvisionTask ht
  obtain ⟨c', e', hat'⟩ := h.inv.1.panelProvisionTask ht'
  have hinv := (h.inv.2.each _ _ (fleet_of_row hat.configuration hat.endpoint)).ledger
  have htask' := hat'.task
  rw [← hid] at htask'
  have hg := hinv.provision _ _ hat.task rfl
  have hg' := hinv.provision _ _ htask' rfl
  have hsame := hinv.unique _ _ _ _ hat.task htask' rfl (hg.trans hg'.symm)
  exact TaskRef.panelProvision.inj hsame

/-! ## Workers and their tasks -/

/-- The worker of the current attempt of a provision task. -/
theorem provisionBoard_holds (hd : s.panelDispatches[i]? = some d)
    (ht : s.db.panelProvisionTasks[d.prepared.taskId]? = some t) :
    (∃ terms, s.provisionBoard.Holds i terms) ↔
      t.status = .inProgress ∧ t.attempts = d.prepared.attemptNo := by
  have hw : s.provisionBoard.workers[i]? = some ⟨d.prepared.taskId, d.prepared.attemptNo⟩ := by
    simp [provisionBoard, hd]
  have hitem : s.provisionBoard.items[d.prepared.taskId]? = some t.toDurableTask.item := by
    simp [provisionBoard, ht]
  constructor
  · rintro ⟨terms, w, hw', hrow⟩
    obtain rfl := Option.some.inj (hw.symm.trans hw')
    have heq := Option.some.inj (hitem.symm.trans hrow)
    simp only [DurableTask.item, Leases.Item.mk.injEq] at heq
    refine ⟨?_, heq.1⟩
    by_contra hs
    rw [if_neg hs] at heq
    cases heq.2
  · rintro ⟨hs, hn⟩
    refine ⟨t.leaseExpiresAt, _, hw, ?_⟩
    rw [hitem]
    simp [DurableTask.item, hs, hn]

theorem revokeBoard_holds (hr : s.panelRevokeDispatches[i]? = some r)
    (hq : s.db.panelRevokeTasks[r.prepared.taskId]? = some q) :
    (∃ terms, s.revokeBoard.Holds i terms) ↔
      q.status = .inProgress ∧ q.attempts = r.prepared.attemptNo := by
  have hw : s.revokeBoard.workers[i]? = some ⟨r.prepared.taskId, r.prepared.attemptNo⟩ := by
    simp [revokeBoard, hr]
  have hitem : s.revokeBoard.items[r.prepared.taskId]? = some q.toDurableTask.item := by
    simp [revokeBoard, hq]
  constructor
  · rintro ⟨terms, w, hw', hrow⟩
    obtain rfl := Option.some.inj (hw.symm.trans hw')
    have heq := Option.some.inj (hitem.symm.trans hrow)
    simp only [DurableTask.item, Leases.Item.mk.injEq] at heq
    refine ⟨?_, heq.1⟩
    by_contra hs
    rw [if_neg hs] at heq
    cases heq.2
  · rintro ⟨hs, hn⟩
    refine ⟨q.leaseExpiresAt, _, hw, ?_⟩
    rw [hitem]
    simp [DurableTask.item, hs, hn]

/-- A worker that holds its task after a command, and was there, held it before. -/
theorem provisionBoard_holds_before (h : Reachable settings s)
    (hexec : s.exec settings cmd = some s') (hd : s.panelDispatches[i]? = some d)
    (hh : ∃ terms, s'.provisionBoard.Holds i terms) : ∃ terms, s.provisionBoard.Holds i terms := by
  obtain ⟨terms, hh⟩ := hh
  have hw : s.provisionBoard.workers[i]? = some ⟨d.prepared.taskId, d.prepared.attemptNo⟩ := by
    simp [provisionBoard, hd]
  exact ⟨terms, (exec_provisionBoard hexec).holds_before h.provisionBoard hw hh⟩

theorem revokeBoard_holds_before (h : Reachable settings s)
    (hexec : s.exec settings cmd = some s') (hr : s.panelRevokeDispatches[i]? = some r)
    (hh : ∃ terms, s'.revokeBoard.Holds i terms) : ∃ terms, s.revokeBoard.Holds i terms := by
  obtain ⟨terms, hh⟩ := hh
  have hw : s.revokeBoard.workers[i]? = some ⟨r.prepared.taskId, r.prepared.attemptNo⟩ := by
    simp [revokeBoard, hr]
  exact ⟨terms, (exec_revokeBoard hexec).holds_before h.revokeBoard hw hh⟩

end System

end ShopBot
