import ShopBot.Refinement.Transaction
import ShopBot.UseCases.DispatchNodeTask

/-! # Node dispatch refines the lifecycle

Claiming, failing and recovering a node task are attempts of that task; recording the
success of its operation is a success of it.
-/

namespace ShopBot

open Lifecycle Database

namespace DispatchNodeTask

variable {settings : Settings} {ambient : Ambient} {db db₁ db' : Database} {k id generation : ℕ}
  {t t₀ : NodeTask} {op : Operation} {c : VpnConfiguration} {e : ServerEndpoint}
  {actors : Actor TaskRef → Prop}

/-- What a final failure makes of the configuration. -/
theorem markConfigurationFailure_ok (hid : t.vpnConfigurationId = some id)
    (hg : t.vpnGeneration = some generation) (hop : t.operation = nodeOperation op)
    (hc : db.getConfiguration id = some c) (h : markConfigurationFailure db t = .ok db') :
    (db' = db ∧ ¬ Wants c op generation) ∨
      (Wants c op generation ∧ op = .provision ∧
        db' = db.saveConfiguration id { c with status := .failed }) ∨
      (Wants c op generation ∧ op = .revoke ∧
        db' = db.saveConfiguration id { c with status := .revokeFailed }) := by
  unfold markConfigurationFailure at h
  simp only [hid, hc, hg, hop] at h
  split_ifs at h with hgen hp hr
  · refine .inl ⟨(Except.ok.inj h).symm, fun hw => hgen ?_⟩
    rw [hw.1]
  · obtain ⟨hop', hd, hs⟩ := hp
    obtain rfl : op = .provision := by
      cases op
      · rfl
      · cases hop'
    refine .inr (.inl ⟨⟨by simpa using hgen, hd, hs⟩, rfl, ?_⟩)
    rw [VpnConfiguration.failProvisioning_eq_ok.2 ⟨hs, rfl⟩] at h
    exact (Except.ok.inj h).symm
  · obtain ⟨hop', hd, hs⟩ := hr
    obtain rfl : op = .revoke := by
      cases op
      · cases hop'
      · rfl
    refine .inr (.inr ⟨⟨by simpa using hgen, hd, hs⟩, rfl, ?_⟩)
    rw [VpnConfiguration.failRevoke_eq_ok.2 ⟨hs, rfl⟩] at h
    exact (Except.ok.inj h).symm
  · refine .inl ⟨(Except.ok.inj h).symm, fun hw => ?_⟩
    cases op with
    | provision => exact hp ⟨rfl, hw.2⟩
    | revoke => exact hr ⟨rfl, hw.2⟩

/-- The writes of an attempt that did not succeed, after the task itself has been written. -/
theorem fail_refines (h : db.NodeTaskAt k t₀ op id generation c e)
    (hopen : t₀.status.isOpen = true) (hact : actors (.attempt (.node k)))
    (hw : db.Wrote id ((db.aggregateOf id c e).setTask (.node k) ⟨op, generation, t.status⟩) db₁)
    (hc : db₁.vpnConfigurations = db.vpnConfigurations) (hid : t.identity = t₀.identity)
    (hfail : if t.status ≠ .failed then t.status.isOpen = true ∧ db' = db₁
      else markConfigurationFailure db₁ t = .ok db') :
    db.Refines ambient.now actors db' := by
  have ha := fleet_of_row h.configuration h.endpoint
  have hrow : db₁.getConfiguration id = some c := by
    unfold getConfiguration
    rw [hc]
    exact h.configuration
  simp only [NodeTask.identity, Prod.mk.injEq] at hid
  obtain ⟨-, -, hop, -, -, hcid, -, hgen⟩ := hid
  split_ifs at hfail with hs
  · obtain ⟨hstays, rfl⟩ := hfail
    exact hw.refines ha
      (.requeue (TaskRef.node k) ⟨op, generation, t₀.status⟩ t.status h.task hopen hstays) hact
  · have hs : t.status = .failed := not_not.1 hs
    rw [hs] at hw
    rcases markConfigurationFailure_ok (hcid.trans h.configurationId) (hgen.trans h.generationOf)
      (hop.trans h.operation) hrow hfail with ⟨rfl, hn⟩ | ⟨hwants, rfl, rfl⟩ | ⟨hwants, rfl, rfl⟩
    · exact hw.refines ha (.settle (TaskRef.node k) ⟨op, generation, t₀.status⟩ _ h.task hopen
        (.inl rfl) (current_iff.not.2 hn)) hact
    · exact (hw.saveStatus { c with status := .failed } hrow rfl rfl rfl).refines ha
        (.failProvision (TaskRef.node k) ⟨.provision, generation, t₀.status⟩ h.task rfl hopen
          (current_iff.2 hwants)) hact
    · exact (hw.saveStatus { c with status := .revokeFailed } hrow rfl rfl rfl).refines ha
        (.failRevoke (TaskRef.node k) ⟨.revoke, generation, t₀.status⟩ h.task rfl hopen
          (current_iff.2 hwants)) hact

theorem retry_status_cases {error : String} {response : Option NodeResponse} {now : DateTime}
    {base : ℤ} : (t.retry error response now base).status ≠ .failed →
      (t.retry error response now base).status.isOpen = true := by
  intro h
  have hs : (t.retry error response now base).status =
      (t.toDurableTask.retry now error base).status := rfl
  rw [hs, DurableTask.retry_status] at h ⊢
  split_ifs at h ⊢
  · exact absurd rfl h
  · rfl

theorem failOrRetry_refines {error status : String} {response : Option NodeResponse}
    (h : db.NodeTaskAt k t₀ op id generation c e) (hopen : t₀.status.isOpen = true)
    (hact : actors (.attempt (.node k)))
    (hw : db.Wrote id ((db.aggregateOf id c e).setTask (.node k) ⟨op, generation, t.status⟩) db₁)
    (hc : db₁.vpnConfigurations = db.vpnConfigurations) (hrow : db₁.nodeTasks[k]? = some t)
    (hid : t.identity = t₀.identity)
    (hf : failOrRetry settings ambient db₁ t k error response = .ok (status, db')) :
    db.Refines ambient.now actors db' := by
  have htask : db₁.taskOf id (.node k) = some ⟨op, generation, t.status⟩ := by
    rw [← hw.task_eq, Aggregate.setTask_task_self]
  have hw' := hw.saveNodeTask (t.retry error response ambient.now settings.nodeRetryBaseSeconds)
    hrow rfl htask
  rw [Aggregate.setTask_setTask] at hw'
  refine fail_refines h hopen hact hw' hc hid ?_
  unfold failOrRetry at hf
  dsimp only at hf
  split_ifs at hf ⊢ with hs
  · cases hf
    exact ⟨retry_status_cases hs, rfl⟩
  · obtain ⟨db₂, hm, hr⟩ := bind_eq_ok.1 hf
    obtain ⟨-, rfl⟩ : "failed" = status ∧ db₂ = db' := by simpa [pure, Except.pure] using hr
    exact hm

/-! ## Claiming a task -/

theorem startTask_refines {preparation : NodePreparation} {node : Node} (hwf : db.WellFormed)
    (hact : actors (.attempt (.node k))) (hat : db.NodeTaskAt k t op id generation c e)
    (h : startTask settings ambient db t k node = .ok (preparation, db')) :
    db.Refines ambient.now actors db' := by
  have ha := fleet_of_row hat.configuration hat.endpoint
  obtain ⟨t', ht', h⟩ := bind_eq_ok.1 h
  obtain ⟨hd, -, ht'⟩ := NodeTask.startAttempt_eq_ok.1 ht'
  have hid : t'.identity = t.identity := by rw [ht']; rfl
  have hs : t'.status = .inProgress := by rw [ht']
  have hopen : t.status.isOpen = true := by
    rw [DurableTask.canDispatch_status hd]
    rfl
  have hw := (Wrote.refl hwf ha).saveNodeTask t' hat.row hid hat.task
  obtain ⟨⟨attemptId, db₁⟩, hattempt, h⟩ := bind_eq_ok.1 h
  obtain ⟨rows, rfl⟩ := createTaskAttempt_ok hattempt
  dsimp only at h
  split_ifs at h
  · obtain ⟨⟨status, db₂⟩, hf, h⟩ := bind_eq_ok.1 h
    cases h
    exact failOrRetry_refines hat hopen hact ((hw.attempts rows).attempts _) rfl
      (congrFun (Table.getElem?_set hat.row) k |>.trans (Function.update_self ..)) hid hf
  · cases h
    rw [hs] at hw
    exact (hw.attempts rows).refines ha
      (.requeue (TaskRef.node k) ⟨op, generation, t.status⟩ .inProgress hat.task hopen rfl) hact

theorem prepare_refines {preparation : NodePreparation} (hw : db.WellFormed)
    (hact : actors (.attempt (.node k)))
    (h : prepare settings ambient db k = .ok (preparation, db')) :
    db.Refines ambient.now actors db' := by
  unfold prepare at h
  split at h
  next => cases h; exact .refl hw
  next t ht =>
    split at h
    next => cases h; exact .refl hw
    next hearly =>
      obtain ⟨op, id, generation, c, e, hat⟩ := hw.nodeTask ht
      have ha := fleet_of_row hat.configuration hat.endpoint
      have hdefer : ∀ reason, deferUnavailableNode settings ambient db t k reason =
          .ok (preparation, db') → db.Refines ambient.now actors db' := by
        intro reason hd
        obtain ⟨t', ht', hr⟩ := bind_eq_ok.1 hd
        obtain ⟨hs, -, ht'⟩ := NodeTask.deferWithoutAttempt_eq_ok.1 ht'
        cases hr
        have hopen : t'.status.isOpen = true := by
          rw [ht']
          change t.status.isOpen = true
          rw [hs]
          rfl
        have hopen₀ : t.status.isOpen = true := by
          rw [hs]
          rfl
        exact ((Wrote.refl hw ha).saveNodeTask t' ht (by rw [ht']; rfl) hat.task).refines ha
          (.requeue (TaskRef.node k) ⟨op, generation, t.status⟩ t'.status hat.task hopen₀ hopen)
          hact
      split at h
      next => exact hdefer _ h
      next node hnode =>
        split_ifs at h
        · exact startTask_refines hw hact hat h
        · exact hdefer _ h

/-! ## Recording an outcome -/

theorem revokeFollowUp_fits {owner : ℕ → Option Owner} (h : t.Fits owner)
    (hid : t.vpnConfigurationId = some id) {pos : 0 < generation} :
    (revokeFollowUp ambient t id generation pos).Fits owner := by
  obtain ⟨id', -, o, hid', -, ho, hn, hs, hu, -⟩ := h
  obtain rfl := Option.some.inj (hid.symm.trans hid')
  exact ⟨id, generation, o, rfl, rfl, ho, hn, hs, hu, rfl, .inr ⟨rfl, rfl⟩⟩

theorem addFollowUp_adds {a : Aggregate ℕ TaskRef} {f : DispatchFinalization}
    {remoteStatus : String} (hw : db.Wrote id a db₁) (hfit : t.Fits db₁.owner)
    (hid : t.vpnConfigurationId = some id) (hg : a.generation = c.generation)
    (h : addFollowUp ambient db₁ t c id remoteStatus = .ok (f, db')) :
    ∃ a', Aggregate.Adds a .revoke a' ∧ db.Wrote id a' db' := by
  obtain ⟨⟨u, followUpId, db₂⟩, hadd, h⟩ := bind_eq_ok.1 h
  cases h
  exact hw.addNodeTask (revokeFollowUp_fits hfit hid) rfl (by rw [hg]; rfl) rfl rfl hadd

theorem isCurrentProvision_iff : isCurrentProvision (some generation) c = true ↔
    Wants c .provision generation := by
  simp [isCurrentProvision, Wants, and_assoc]

theorem isCurrentRevoke_iff : isCurrentRevoke (some generation) c = true ↔
    Wants c .revoke generation := by
  simp [isCurrentRevoke, Wants, and_assoc]

theorem completeProvision_refines {f : DispatchFinalization} {remoteStatus : String}
    (hat : db.NodeTaskAt k t₀ .provision id generation c e) (hopen : t₀.status.isOpen = true)
    (hact : actors (.success (.node k)))
    (hw : db.Wrote id
      ((db.aggregateOf id c e).setTask (.node k) ⟨.provision, generation, .succeeded⟩) db₁)
    (hc : db₁.vpnConfigurations = db.vpnConfigurations) (hmem : t ∈ db₁.nodeTasks)
    (hid : t.identity = t₀.identity)
    (h : completeProvision ambient db₁ t id remoteStatus = .ok (f, db')) :
    db.Refines ambient.now actors db' := by
  have ha := fleet_of_row hat.configuration hat.endpoint
  have hroute : (db.aggregateOf id c e).route = .node := route_node hat.node
  have hrow : db₁.getConfiguration id = some c := by
    unfold getConfiguration
    rw [hc]
    exact hat.configuration
  have hfit := hw.wellFormed.nodeTasks t hmem
  simp only [NodeTask.identity, Prod.mk.injEq] at hid
  obtain ⟨-, -, -, -, -, hcid, hsid, hgen⟩ := hid
  have hperiod : (t.subscriptionId.bind fun id => db₁.getCurrentPeriod id ambient.now) =
      db.getCurrentPeriod c.subscriptionId ambient.now := by
    rw [hsid, hat.subscription]
    exact getCurrentPeriod_congr hw.billing _
  simp only [completeProvision, hperiod, hrow, hgen, hat.generationOf] at h
  split_ifs at h with hcur hfund
  · obtain ⟨c', hc', h⟩ := bind_eq_ok.1 h
    cases h
    obtain ⟨-, -, hc'⟩ := VpnConfiguration.activate_eq_ok.1 hc'
    have hw' := hw.saveStatus c' hrow (by rw [hc']; rfl) (by rw [hc']) (by rw [hc'])
    rw [show c'.status = .active by rw [hc']] at hw'
    exact (hw'.appendAudit _ _ _).refines ha
      (.activate (TaskRef.node k) ⟨.provision, generation, t₀.status⟩ hat.task rfl hopen
        (current_iff.2 (isCurrentProvision_iff.1 hcur)) hfund) hact
  · obtain ⟨c', hc', h⟩ := bind_eq_ok.1 h
    obtain ⟨-, rfl⟩ := VpnConfiguration.requestRevoke_eq_ok.1 hc'
    have hw' := hw.saveRevoking { c with
      desiredState := .revoked
      generation := c.generation + 1
      generation_pos := Nat.succ_pos _
      status := .revoking
      revokedAt := none
      remoteClientRef := orText t.remoteClientRef c.remoteClientRef } hrow rfl rfl rfl rfl
    have hfit' := hw'.wellFormed.nodeTasks t hmem
    obtain ⟨a', hadds, hw''⟩ := addFollowUp_adds hw' hfit' (hcid.trans hat.configurationId) rfl h
    exact hw''.refines ha
      (.lapseNode (TaskRef.node k) ⟨.provision, generation, t₀.status⟩ a' hroute hat.task rfl hopen
        (current_iff.2 (isCurrentProvision_iff.1 hcur)) hfund hadds) hact
  · obtain ⟨a', hadds, hw''⟩ := addFollowUp_adds hw hfit (hcid.trans hat.configurationId) rfl h
    exact hw''.refines ha
      (.followUp (TaskRef.node k) ⟨.provision, generation, t₀.status⟩ a' hroute hat.task rfl hopen
        (current_iff.not.2 fun hwants => hcur (isCurrentProvision_iff.2 hwants)) hadds) hact

theorem completeRevoke_refines {f : DispatchFinalization} {remoteStatus : String}
    (hat : db.NodeTaskAt k t₀ .revoke id generation c e) (hopen : t₀.status.isOpen = true)
    (hact : actors (.success (.node k)))
    (hw : db.Wrote id
      ((db.aggregateOf id c e).setTask (.node k) ⟨.revoke, generation, .succeeded⟩) db₁)
    (hc : db₁.vpnConfigurations = db.vpnConfigurations) (hid : t.identity = t₀.identity)
    (h : completeRevoke ambient db₁ t id remoteStatus = .ok (f, db')) :
    db.Refines ambient.now actors db' := by
  have ha := fleet_of_row hat.configuration hat.endpoint
  have hrow : db₁.getConfiguration id = some c := by
    unfold getConfiguration
    rw [hc]
    exact hat.configuration
  simp only [NodeTask.identity, Prod.mk.injEq] at hid
  obtain ⟨-, -, -, -, -, -, -, hgen⟩ := hid
  simp only [completeRevoke, hrow, hgen, hat.generationOf] at h
  split_ifs at h with hcur
  · obtain ⟨c', hc', h⟩ := bind_eq_ok.1 h
    cases h
    obtain ⟨-, -, hc'⟩ := VpnConfiguration.revoke_eq_ok.1 hc'
    have hw' := hw.saveStatus c' hrow (by rw [hc']; rfl) (by rw [hc']) (by rw [hc'])
    rw [show c'.status = .revoked by rw [hc']] at hw'
    exact (hw'.appendAudit _ _ _).refines ha
      (.revoked (TaskRef.node k) ⟨.revoke, generation, t₀.status⟩ hat.task rfl hopen
        (current_iff.2 (isCurrentRevoke_iff.1 hcur))) hact
  · cases h
    exact hw.refines ha (.finish (TaskRef.node k) ⟨.revoke, generation, t₀.status⟩ hat.task hopen
      (current_iff.not.2 fun hwants => hcur (isCurrentRevoke_iff.2 hwants))) hact

theorem finalizeSuccess_refines {f : DispatchFinalization} {response : NodeResponse}
    (hat : db.NodeTaskAt k t op id generation c e) (hwf : db.WellFormed)
    (hact : actors (.success (.node k))) {rows : List NodeTaskAttempt}
    (h : finalizeSuccess ambient { db with nodeTaskAttempts := rows } t k response =
      .ok (f, db')) :
    db.Refines ambient.now actors db' := by
  have ha := fleet_of_row hat.configuration hat.endpoint
  obtain ⟨t', ht', h⟩ := bind_eq_ok.1 h
  obtain ⟨hs, ht'⟩ := NodeTask.complete_eq_ok.1 ht'
  have hid : t'.identity = t.identity := by rw [ht']; rfl
  have hs' : t'.status = .succeeded := by rw [ht']; rfl
  have hopen : t.status.isOpen = true := by
    rw [hs]
    rfl
  have hw := ((Wrote.refl hwf ha).saveNodeTask t' hat.row hid hat.task).attempts rows
  rw [hs'] at hw
  have hmem : t' ∈ (db.saveNodeTask k t').nodeTasks :=
    List.mem_of_getElem? (congrFun (Table.getElem?_set hat.row) k |>.trans (Function.update_self ..))
  have hid' := hid
  simp only [NodeTask.identity, Prod.mk.injEq] at hid'
  obtain ⟨-, -, hop, -, -, hcid, -, -⟩ := hid'
  rw [hop, hat.operation, hcid, hat.configurationId] at h
  cases op with
  | provision => exact completeProvision_refines hat hopen hact hw rfl hmem hid h
  | revoke => exact completeRevoke_refines hat hopen hact hw rfl hid h

theorem finalize_refines {f : DispatchFinalization} {p : PreparedDispatch} {reply : NodeReply}
    (hwf : db.WellFormed) (hact : actors (.attempt (.node p.taskId)))
    (hsucc : ∀ r t, reply = .response r → db.getNodeTask p.taskId = some t →
      t.acceptsRemoteStatus (r.status.getD "failed") = true → actors (.success (.node p.taskId)))
    (h : finalize settings ambient db p reply = .ok (f, db')) :
    db.Refines ambient.now actors db' := by
  unfold finalize at h
  split at h
  next => cases h; exact .refl hwf
  next t ht =>
    split_ifs at h with howns
    · obtain ⟨op, id, generation, c, e, hat⟩ := hwf.nodeTask ht
      have ha := fleet_of_row hat.configuration hat.endpoint
      have hopen : t.status.isOpen = true := by
        rw [(DurableTask.ownsLease_iff.1 (DurableTask.ownsActiveLease_iff.1 howns).1).1]
        rfl
      have hw : ∀ response error, db.Wrote id
          ((db.aggregateOf id c e).setTask (.node p.taskId) ⟨op, generation, t.status⟩)
          (db.finishTaskAttempt p.attemptId .failed ambient.now response error) := by
        intro response error
        rw [Aggregate.setTask_eq_self hat.task]
        exact (Wrote.refl hwf ha).attempts _
      split at h
      next text =>
        obtain ⟨⟨status, db₁⟩, hf, h⟩ := bind_eq_ok.1 h
        cases h
        exact failOrRetry_refines hat hopen hact (hw _ _) rfl ht rfl hf
      next r =>
        split_ifs at h with haccept
        · exact finalizeSuccess_refines hat hwf (hsucc r t rfl ht haccept) h
        · obtain ⟨⟨status, db₁⟩, hf, h⟩ := bind_eq_ok.1 h
          cases h
          exact failOrRetry_refines hat hopen hact (hw _ _) rfl ht rfl hf
    · cases h
      exact .refl hwf

/-! ## Recovering expired leases -/

theorem recoverOne_refines (hwf : db.WellFormed) (hact : actors (.attempt (.node k)))
    (h : recoverOne settings ambient db k = .ok db') : db.Refines ambient.now actors db' := by
  unfold recoverOne at h
  split at h
  next => cases h; exact .refl hwf
  next t ht =>
    split_ifs at h with hexp
    · obtain ⟨op, id, generation, c, e, hat⟩ := hwf.nodeTask ht
      have ha := fleet_of_row hat.configuration hat.endpoint
      have hopen : t.status.isOpen = true := by
        rw [(DurableTask.leaseIsExpired_iff.1 hexp).1]
        rfl
      obtain ⟨t', ht', h⟩ := bind_eq_ok.1 h
      obtain ⟨-, ht'⟩ := NodeTask.recoverExpiredLease_eq_ok.1 ht'
      have hid : t'.identity = t.identity := by rw [ht']; rfl
      have hw := ((Wrote.refl hwf ha).saveNodeTask t' hat.row hid hat.task).attempts
        (db.failStartedTaskAttempt k t.attempts ambient.now "node task lease expired").nodeTaskAttempts
      refine fail_refines hat hopen hact hw rfl hid ?_
      by_cases hs : t'.status = .failed
      · rw [if_neg (not_not.2 hs)]
        dsimp only at h
        rwa [if_pos hs] at h
      · rw [if_pos hs]
        dsimp only at h
        rw [if_neg hs] at h
        cases h
        refine ⟨?_, rfl⟩
        rw [ht'] at hs ⊢
        exact retry_status_cases hs
    · cases h
      exact .refl hwf

theorem recoverAll_refines {ids : List ℕ} (hwf : db.WellFormed)
    (hact : ∀ k ∈ ids, actors (.attempt (.node k)))
    (h : recoverAll settings ambient db ids = .ok db') : db.Refines ambient.now actors db' := by
  induction ids generalizing db with
  | nil =>
    cases h
    exact .refl hwf
  | cons k rest ih =>
    obtain ⟨db₁, h₁, h₂⟩ := bind_eq_ok.1 h
    have hfirst := recoverOne_refines hwf (hact k (List.mem_cons_self ..)) h₁
    exact hfirst.trans (ih hfirst.wellFormed (fun j hj => hact j (List.mem_cons_of_mem _ hj)) h₂)

end DispatchNodeTask

end ShopBot
