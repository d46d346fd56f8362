import ShopBot.Guarantees.PanelAttempts

/-! # Clients of active configurations on the panel

A provision that the panel has applied is what its task ends with, unless a compensation
arrives after it: the last call of a task is a provision whenever no compensation is later than
the provision that follows it.
-/

namespace ShopBot

open Lifecycle Database

namespace PanelNetwork

variable {settings : Settings} {n n' : PanelNetwork} {event : PanelEvent} {s' : System}
  {cmd : Command} {worker k id : ℕ} {d : PanelDispatch} {t t' : PanelProvisionTask}
  {c c' : VpnConfiguration}

/-- The task has succeeded, or the worker of its current attempt has provisioned. -/
def Landed (n : PanelNetwork) (k : ℕ) (t : PanelProvisionTask) : Prop :=
  t.status = .succeeded ∨ (t.status = .inProgress ∧ ∃ owner ∈ n.provisioned,
    ∃ d ∈ n.system.panelDispatches[owner]?, d.prepared.taskId = k ∧
      d.prepared.attemptNo = t.attempts ∧ d.stage = .provisioning)

/-- The client of a wanted configuration is on the panel once its provision has landed. -/
structure ClientInv (settings : Settings) (n : PanelNetwork) : Prop where
  reachable : n.system.Reachable settings
  known : ∀ i ∈ n.provisioned, i < n.system.panelDispatches.length
  landed : ∀ (k : ℕ) (t : PanelProvisionTask) (c : VpnConfiguration),
    n.system.db.panelProvisionTasks[k]? = some t →
    n.system.db.vpnConfigurations[t.vpnConfigurationId]? = some c → c.desiredState = .active →
    n.Landed k t → t.payload.clientUuid ∈ n.clients

theorem ClientInv.of_initial (h : n.Initial) : n.ClientInv settings := by
  obtain ⟨hs, -, hn⟩ := h
  refine ⟨.of_init hs, fun i hi => ?_, fun k t c ht => ?_⟩
  · rw [hn] at hi
    cases hi
  · rw [hs] at ht
    cases ht

/-! ## Transactions -/

/-- A client that is wanted after a transaction was wanted before it. -/
theorem wanted_before (h : n.system.Reachable settings)
    (hexec : n.system.exec settings cmd = some s')
    (hc : n.system.db.vpnConfigurations[id]? = some c)
    (hc' : s'.db.vpnConfigurations[id]? = some c') (hdesired : c'.desiredState = .active) :
    c.desiredState = .active := by
  obtain ⟨e, e', hrun, hinv, ha, ha'⟩ := h.run hexec hc hc'
  cases hd : c.desiredState with
  | active => rfl
  | revoked =>
    have hrevoked : c'.desiredState = .revoked := hrun.desired_revoked hinv ha hd ha'
    cases hdesired.symm.trans hrevoked

/-- A provision that has landed after a transaction had landed before it. -/
theorem Landed.before (h : n.ClientInv settings) (hgen : n.genuine cmd = true)
    (hexec : n.system.exec settings cmd = some s')
    (ht' : s'.db.panelProvisionTasks[k]? = some t')
    (hlanded : Landed { n with system := s' } k t') :
    ∃ t, n.system.db.panelProvisionTasks[k]? = some t ∧ n.Landed k t := by
  have heffect := System.exec_provisionEffect hexec
  rcases hlanded with hs | ⟨hs, owner, howner, d', hd', htask, hno, hstage⟩
  · rcases heffect.succeeded ht' hs with hold | ⟨ambient, i, w, t, rfl, hw, hstage, htask, ht, howns⟩
    · exact ⟨t', hold, .inl hs⟩
    · obtain ⟨hst, -, hat⟩ := DurableTask.ownsLease_iff.1 howns
      exact ⟨t, ht, .inr ⟨hst, i, of_decide_eq_true hgen, w, hw, htask, hat.symm, hstage⟩⟩
  · have hd := List.getElem?_eq_getElem (h.known owner howner)
    obtain ⟨e, he, hprepared, hstages⟩ := heffect.worker hd
    obtain rfl := Option.some.inj (he.symm.trans hd')
    obtain ⟨t, ht, -⟩ := h.reachable.panelDispatch (List.mem_of_getElem? hd)
    rw [← htask] at ht'
    have hholds := System.provisionBoard_holds_before h.reachable hexec hd
      ((System.provisionBoard_holds hd' ht').2 ⟨hs, hno.symm⟩)
    obtain ⟨hst, hat⟩ := (System.provisionBoard_holds hd ht).1 hholds
    rw [hprepared] at htask
    rw [htask] at ht
    refine ⟨t, ht, .inr ⟨hst, owner, howner, _, hd, htask, hat.symm, ?_⟩⟩
    rcases hstages with hsame | hend | ⟨hprov, -⟩
    · exact hsame ▸ hstage
    · cases hend.symm.trans hstage
    · exact hprov

theorem ClientInv.transaction (h : n.ClientInv settings)
    (hstep : n.transaction settings cmd = some n') : n'.ClientInv settings := by
  unfold PanelNetwork.transaction at hstep
  dsimp only at hstep
  split_ifs at hstep with hguard
  obtain ⟨s', hexec, rfl⟩ := Option.map_eq_some_iff.1 hstep
  have hev := System.exec_evolves h.reachable.inv.1 hexec
  refine ⟨h.reachable.exec hexec, fun i hi => ?_, fun k t' c' ht' hc' hdesired hlanded => ?_⟩
  · obtain ⟨d', hd', -⟩ := (System.exec_provisionEffect hexec).worker
      (List.getElem?_eq_getElem (h.known i hi))
    exact (List.getElem?_eq_some_iff.1 hd').1
  · obtain ⟨t, ht, hbefore⟩ := Landed.before h hguard.1 hexec ht' hlanded
    obtain ⟨t₁, ht₁, hid⟩ := hev.keeps.panelProvisionTasks k t ht
    obtain rfl := Option.some.inj (ht₁.symm.trans ht')
    simp only [PanelProvisionTask.identity, Prod.mk.injEq] at hid
    obtain ⟨hconfiguration, -, -, hpayload, -⟩ := hid
    obtain ⟨c, e, hat⟩ := h.reachable.inv.1.panelProvisionTask ht
    rw [hconfiguration] at hc'
    rw [hpayload]
    exact h.landed k t c ht hat.configuration
      (wanted_before h.reachable hexec hat.configuration hc' hdesired) hbefore

/-! ## Calls -/

theorem ClientInv.provision (h : n.ClientInv settings) (hstep : n.provision worker = some n') :
    n'.ClientInv settings := by
  obtain ⟨d, hd, hstep⟩ := Option.bind_eq_some_iff.1 hstep
  split_ifs at hstep with hcall
  cases hstep
  refine ⟨h.reachable, fun i hi => ?_, fun k t c ht hc hdesired hlanded => ?_⟩
  · rcases List.mem_cons.1 hi with rfl | hold
    · exact (List.getElem?_eq_some_iff.1 hd).1
    · exact h.known i hold
  · rcases hlanded with hs | ⟨hs, owner, howner, e, he, htask, hno, hstage⟩
    · exact List.mem_cons_of_mem _ (h.landed k t c ht hc hdesired (.inl hs))
    · rcases List.mem_cons.1 howner with rfl | hold
      · obtain rfl := Option.some.inj (hd.symm.trans he)
        obtain ⟨t₀, ht₀, hpayload⟩ := h.reachable.panelDispatch (List.mem_of_getElem? hd)
        rw [htask] at ht₀
        obtain rfl := Option.some.inj (ht₀.symm.trans ht)
        rw [hpayload]
        exact List.mem_cons_self
      · exact List.mem_cons_of_mem _ (h.landed k t c ht hc hdesired
          (.inr ⟨hs, owner, hold, e, he, htask, hno, hstage⟩))

theorem ClientInv.compensate (h : n.ClientInv settings) (hstep : n.compensate worker = some n')
    (hlate : ¬ n.LateCompensation (.compensate worker)) : n'.ClientInv settings := by
  obtain ⟨d, hd, hstep⟩ := Option.bind_eq_some_iff.1 hstep
  split_ifs at hstep with hcall
  cases hstep
  refine ⟨h.reachable, h.known, fun k t c ht hc hdesired hlanded => ?_⟩
  have hmem := h.landed k t c ht hc hdesired hlanded
  refine List.mem_filter.2 ⟨hmem, decide_eq_true fun hsame => hlate ?_⟩
  -- the compensation is about the same client, hence about the same task
  obtain ⟨u, hu, hpayload⟩ := h.reachable.panelDispatch (List.mem_of_getElem? hd)
  have hclient := (h.reachable.inv.1.provision_client ht hc).2 rfl
  have hconfiguration : u.vpnConfigurationId = t.vpnConfigurationId := by
    refine (h.reachable.inv.1.provision_client hu hc).1 ?_
    rw [hpayload, ← hsame, hclient]
  obtain rfl := h.reachable.provision_unique hu ht hconfiguration
  obtain rfl := Option.some.inj (hu.symm.trans ht)
  exact ⟨d, hd, u, hu, hlanded⟩

theorem ClientInv.revoke (h : n.ClientInv settings) (hstep : n.revoke worker = some n') :
    n'.ClientInv settings := by
  obtain ⟨d, hd, hstep⟩ := Option.bind_eq_some_iff.1 hstep
  split_ifs at hstep with hcall
  cases hstep
  refine ⟨h.reachable, h.known, fun k t c ht hc hdesired hlanded => ?_⟩
  have hmem := h.landed k t c ht hc hdesired hlanded
  refine List.mem_filter.2 ⟨hmem, decide_eq_true fun hsame => ?_⟩
  obtain ⟨q, hq, hpayload⟩ := h.reachable.panelRevokeDispatch (List.mem_of_getElem? hd)
  have hclient := (h.reachable.inv.1.provision_client ht hc).2 rfl
  have hconfiguration : q.vpnConfigurationId = t.vpnConfigurationId := by
    refine (h.reachable.inv.1.revoke_client hq hc).1 ?_
    rw [hpayload, ← hsame, hclient]
  rw [← hconfiguration] at hc
  cases hdesired.symm.trans (h.reachable.revoke_desired hq hc)

theorem ClientInv.step (h : n.ClientInv settings) (hstep : PunctualStep settings n n') :
    n'.ClientInv settings := by
  obtain ⟨event, hexec⟩ := hstep
  unfold execPunctual at hexec
  split_ifs at hexec with hlate
  cases event with
  | transaction cmd => exact h.transaction hexec
  | elapse duration =>
    cases hexec
    exact ⟨h.reachable, h.known, h.landed⟩
  | provision worker => exact h.provision hexec
  | compensate worker => exact h.compensate hexec hlate
  | revoke worker => exact h.revoke hexec

/-! ## Active configurations -/

/-- Where no compensation arrives after the provision that follows it, an active configuration
has its client on the panel: whenever nothing of it is open, and before. -/
theorem active_client_present (h : Transition.Reachable Initial (PunctualStep settings) n)
    {e : ServerEndpoint} (hc : n.system.db.vpnConfigurations[id]? = some c)
    (he : n.system.db.serverEndpoints[c.serverEndpointId]? = some e) (hpanel : e.nodeId = none)
    (hs : c.status = .active) : c.clientUuid ∈ n.clients := by
  have hinv : n.ClientInv settings := Transition.Reachable.invariant
    (fun n => n.ClientInv settings) (fun _ => .of_initial) (fun _ _ _ hi hstep => hi.step hstep) h
  obtain ⟨hw, hfleet⟩ := hinv.reachable.inv
  have hstatus := (hfleet.each _ _ (fleet_of_row hc he)).status
  simp only [Aggregate.StatusInv, aggregateOf, hs] at hstatus
  obtain ⟨hdesired, r, t, ht, hop, -, hsucceeded⟩ := hstatus
  rcases hw.task_cases (owner_eq_some.2 ⟨c, e, hc, he, rfl⟩) ht with
    ⟨k, u, -, -, hnode, -⟩ | ⟨k, p, -, hp, -, hid, htask⟩ | ⟨k, q, -, -, -, -, htask⟩
  · dsimp only at hnode
    rw [hpanel] at hnode
    cases hnode
  · rw [← hid] at hc
    have hclient := (hw.provision_client hp hc).2 rfl
    rw [htask] at hsucceeded
    rw [← hclient]
    exact hinv.landed k p c hp hc hdesired (.inl hsucceeded)
  · rw [htask] at hop
    cases hop

/-- The first success arrives after its lease, and its compensation waits. -/
def lateSuccess : List PanelEvent := purchase.map .transaction ++ [.elapse 61000000,
  .transaction (.provisionVpn { now := 1, clientUuid := 100, taskUuid := 1 } 0),
  .transaction (.preparePanel { now := 2, leaseToken := 5 } 0), .provision 0,
  .transaction (.finalizeProvision { now := seconds 61 } 0)]

/-- The lease is taken back, the second worker compensates and the third one provisions. -/
def provisionedAgain : List PanelEvent := [
  .transaction (.recoverPanelProvisions { now := seconds 61 } [] 10),
  .transaction (.preparePanel { now := seconds 61, leaseToken := 6 } 0), .compensate 1,
  .transaction (.recordCompensation { now := seconds 61 } 1),
  .transaction (.preparePanel { now := seconds 61, leaseToken := 7 } 0), .provision 2,
  .transaction (.finalizeProvision { now := seconds 61 } 2)]

/-- The first worker compensates at last. -/
def compensatedLate : List PanelEvent := [.compensate 0,
  .transaction (.recordCompensation { now := seconds 61 } 0)]

theorem active_client_present_panel : ∃ n c,
    Transition.Reachable Initial (PunctualStep shopSettings) n ∧
      n.system.db.vpnConfigurations[0]? = some c ∧ c.status = .active ∧
      c.clientUuid ∈ n.clients := by
  obtain ⟨n, hn, hcond⟩ := (Option.any_eq_true _ _).1
    (show (Transition.execAll (execPunctual shopSettings) panel
      (lateSuccess ++ provisionedAgain)).any (fun n =>
        (n.system.db.vpnConfigurations[0]?).any (fun c => c.status = .active &&
          (n.system.db.serverEndpoints[c.serverEndpointId]?).any (·.nodeId = none))) = true by
      decide +kernel)
  obtain ⟨c, hc, hcond⟩ := (Option.any_eq_true _ _).1 hcond
  rw [Bool.and_eq_true] at hcond
  obtain ⟨e, he, hpanel⟩ := (Option.any_eq_true _ _).1 hcond.2
  have hs : c.status = .active := of_decide_eq_true hcond.1
  have hr := Transition.Reachable.of_execAll panel_initial hn
  exact ⟨n, c, hr, hc, hs, active_client_present hr hc he (of_decide_eq_true hpanel) hs⟩

/-- A late compensation leaves an active configuration without its client, and nothing is left
to be done. -/
theorem active_client_absent : ∃ n c, Transition.Reachable Initial (Step shopSettings) n ∧
    n.Quiescent 0 ∧ n.system.db.vpnConfigurations[0]? = some c ∧ c.status = .active ∧
    n.system.db.serverEndpoints[c.serverEndpointId]? = some panelEndpoint ∧
    c.clientUuid ∉ n.clients := by
  obtain ⟨n, hn, hcond⟩ := (Option.any_eq_true _ _).1
    (show (Transition.execAll (exec shopSettings) panel
      (lateSuccess ++ provisionedAgain ++ compensatedLate)).any (fun n =>
        n.system.db.panelProvisionTasks.all (·.status.isTerminal) &&
        n.system.db.panelRevokeTasks.all (·.status.isTerminal) &&
        n.system.panelDispatches.all (·.stage = .finished) &&
        n.system.panelRevokeDispatches.all (·.finished) &&
        (n.system.db.vpnConfigurations[0]?).any (fun c => c.status = .active &&
          (n.system.db.serverEndpoints[c.serverEndpointId]? = some panelEndpoint &&
            !decide (c.clientUuid ∈ n.clients)))) = true by
      decide +kernel)
  simp only [Bool.and_eq_true, List.all_eq_true, decide_eq_true_eq] at hcond
  obtain ⟨⟨⟨⟨hprovisions, hrevokes⟩, hworkers⟩, hrevokers⟩, hcond⟩ := hcond
  obtain ⟨c, hc, hcond⟩ := (Option.any_eq_true _ _).1 hcond
  simp only [Bool.and_eq_true, decide_eq_true_eq, Bool.not_eq_true', decide_eq_false_iff_not]
    at hcond
  exact ⟨n, c, .of_execAll panel_initial hn, ⟨fun t ht _ => hprovisions t ht,
    fun t ht _ => hrevokes t ht, fun d hd _ _ _ => hworkers d hd,
    fun d hd _ _ _ => hrevokers d hd⟩, hc, hcond⟩

end PanelNetwork

end ShopBot
