import ShopBot.Persistence.Reconciliation
import ShopBot.Refinement.Planning

/-! # What a revoke plan comes to

A call finds current access or nothing to do and keeps every row, completes a revoke that
has succeeded, or leaves the configuration revoking with a task of its generation.
-/

namespace ShopBot

open Lifecycle Database

namespace RevokeVpn

/-- The statuses from which a configuration starts to be revoked. -/
def revocable : List VpnConfigurationStatus := [.provisioning, .active, .failed, .revokeFailed]

variable {settings : Settings} {ambient : Ambient} {db db' : Database} {id : ℕ}
  {reason : VpnRevokeReason} {c : VpnConfiguration} {e : ServerEndpoint} {plan : RevokePlan}
  {r : TaskRef} {s : TaskStatus}

/-- What one call comes to. -/
inductive Outcome (settings : Settings) (ambient : Ambient) (db : Database) (id : ℕ)
    (reason : VpnRevokeReason) (plan : RevokePlan) : Database → Prop where
  | skipped (c : VpnConfiguration) (row : db.vpnConfigurations[id]? = some c)
      (result : plan = .result "skipped_current_access" (some id))
      (expiration : reason = .expiration)
      (access : db.hasAccess ambient.now c.subscriptionId = true) :
      Outcome settings ambient db id reason plan db

  | kept (owned : ∀ c, db.vpnConfigurations[id]? = some c → c.status = .revoking →
        ∃ r s, db.taskOf id r = some ⟨.revoke, c.generation, s⟩)
      (idle : ∀ c, db.vpnConfigurations[id]? = some c → c.status ∈ revocable →
        c.status = .failed ∧ c.desiredState = .revoked) :
      Outcome settings ambient db id reason plan db

  | recovered (c c' : VpnConfiguration) (r : TaskRef) (row : db.vpnConfigurations[id]? = some c)
      (done : db.taskOf id r = some ⟨.revoke, c.generation, .succeeded⟩)
      (revoke : c.revoke ambient.now = .ok c') :
      Outcome settings ambient db id reason plan
        ((db.saveConfiguration id c').appendAudit .vpnConfigurationRevoked .vpnConfiguration id)

  | requested (c c' : VpnConfiguration) (e : ServerEndpoint) (db' : Database)
      (row : db.vpnConfigurations[id]? = some c)
      (endpoint : db.serverEndpoints[c.serverEndpointId]? = some e)
      (checked : reason = .expiration → db.hasAccess ambient.now c.subscriptionId = false)
      (request : requestRevoke c = .ok (some c'))
      (task : createTask settings ambient (db.saveConfiguration id c') c' id e = .ok (plan, db')) :
      Outcome settings ambient db id reason plan db'

/-! ## The task of the current generation -/

theorem existingCurrentRevokeTask_task
    (h : existingCurrentRevokeTask ambient db c id e = .ok (.task plan)) :
    ∃ r s, db.taskOf id r = some ⟨.revoke, c.generation, s⟩ := by
  unfold existingCurrentRevokeTask at h
  dsimp only at h
  split at h
  next hn =>
    split at h
    next => cases h
    next q k hq =>
      obtain ⟨hrow, hp, -⟩ := Table.lastWhere_some hq
      simp only [Bool.and_eq_true, decide_eq_true_eq] at hp
      refine ⟨.panelRevoke k, q.status, taskOf_eq_some.2 ?_⟩
      simp [taskAt, hrow, hp]
  next nodeId hn =>
    split at h
    next => cases h
    next t k ht =>
      obtain ⟨hrow, hp, -⟩ := Table.lastWhere_some ht
      simp only [isVpnTask, Bool.and_eq_true, decide_eq_true_eq] at hp
      have hop : t.operation = nodeOperation .revoke := hp.1.2
      refine ⟨.node k, t.status, taskOf_eq_some.2 ?_⟩
      simp [taskAt, hrow, NodeTask.lifecycle_eq hp.1.1 hp.2 hop]

theorem existingCurrentRevokeTask_recovered
    (h : existingCurrentRevokeTask ambient db c id e = .ok (.recovered plan db')) :
    ∃ r c', db.taskOf id r = some ⟨.revoke, c.generation, .succeeded⟩ ∧
      c.revoke ambient.now = .ok c' ∧
      db' = (db.saveConfiguration id c').appendAudit .vpnConfigurationRevoked
        .vpnConfiguration id := by
  obtain ⟨r, ht⟩ := existingCurrentRevokeTask_succeeded h
  obtain ⟨c', hc', hdb⟩ := recoverSucceededRevoke_ok _ (existingCurrentRevokeTask_eq_recovered _ h).1
  exact ⟨r, c', ht, hc', hdb⟩

/-- An open task of the current generation is the one that is found. -/
theorem existingCurrentRevokeTask_open (hwf : db.WellFormed)
    (hledger : (db.aggregateOf id c e).Ledger) (hc : db.vpnConfigurations[id]? = some c)
    (he : db.serverEndpoints[c.serverEndpointId]? = some e)
    (ht : db.taskOf id r = some ⟨.revoke, c.generation, s⟩) (hs : s.isOpen = true) :
    ∃ plan, existingCurrentRevokeTask ambient db c id e = .ok (.task plan) := by
  have ho : db.owner id = some ⟨c.subscriptionId, e.nodeId, c.clientUuid⟩ :=
    owner_eq_some.2 ⟨c, e, hc, he, rfl⟩
  have hne : s ≠ .succeeded ∧ s ≠ .failed := by constructor <;> rintro rfl <;> cases hs
  unfold existingCurrentRevokeTask
  dsimp only
  rcases hwf.task_cases ho ht with ⟨k, t, rfl, hrow, hsome, hid, hg, hop, hst⟩ |
    ⟨k, p, rfl, -, -, -, hp⟩ | ⟨k, q, rfl, hrow, hnone, hid, hq⟩
  · obtain ⟨nodeId, hn⟩ := Option.isSome_iff_exists.1 hsome
    simp only at hn
    have hfound : db.getVpnTaskForGeneration id .revokeClient c.generation = some (t, k) := by
      refine Table.lastWhere_of_unique hrow (by simp [isVpnTask, hid, hg, hop, nodeOperation])
        fun j b hb hpb => ?_
      simp only [isVpnTask, Bool.and_eq_true, decide_eq_true_eq] at hpb
      have hop' : b.operation = nodeOperation .revoke := hpb.1.2
      have hb' : db.taskOf id (.node j) = some ⟨.revoke, c.generation, b.status⟩ := by
        rw [taskOf_eq_some]
        simp [taskAt, hb, NodeTask.lifecycle_eq hpb.1.1 hpb.2 hop']
      exact TaskRef.node.inj (hledger.unique _ _ _ _ hb' ht rfl rfl)
    rw [hn]
    dsimp only
    rw [hfound]
    dsimp only
    rw [hst]
    simp [hne.1]
  · cases hp
  · obtain ⟨hg, rfl⟩ : c.generation = q.vpnGeneration ∧ s = q.status := by simpa using hq
    have hfound : db.getPanelRevokeTaskForGeneration id c.generation = some (q, k) := by
      refine Table.lastWhere_of_unique hrow (by simp [hid, hg]) fun j b hb hpb => ?_
      simp only [Bool.and_eq_true, decide_eq_true_eq] at hpb
      have hb' : db.taskOf id (.panelRevoke j) = some ⟨.revoke, c.generation, b.status⟩ := by
        rw [taskOf_eq_some]
        simp [taskAt, hb, hpb]
      exact TaskRef.panelRevoke.inj (hledger.unique _ _ _ _ hb' ht rfl rfl)
    simp only at hnone
    rw [hnone]
    dsimp only
    rw [hfound]
    simp [hne.1, hne.2]

/-! ## One call -/

theorem createTask_configurations
    (h : createTask settings ambient db c id e = .ok (plan, db')) :
    db'.vpnConfigurations = db.vpnConfigurations := by
  unfold createTask at h
  split at h
  next =>
    obtain ⟨⟨u, k, db₁⟩, hadd, h⟩ := bind_eq_ok.1 h
    cases h
    rcases addPanelRevokeTask_ok hadd with ⟨rfl, -⟩ | ⟨rfl, -⟩
    · rfl
    · rfl
  next =>
    obtain ⟨⟨u, k, db₁⟩, hadd, h⟩ := bind_eq_ok.1 h
    cases h
    rcases addNodeTask_ok hadd with ⟨rfl, -⟩ | ⟨rfl, -⟩
    · rfl
    · rfl

theorem requestRevoke_none (h : requestRevoke c = .ok none) :
    c.status ≠ .revoking ∧ c.status ∉ revocable := by
  have hmap : ∀ x : Except Error VpnConfiguration, x.map some ≠ .ok none := by
    intro x
    cases x <;> exact nofun
  unfold requestRevoke at h
  split at h
  next => exact absurd h (hmap _)
  next => exact absurd h (hmap _)
  next => exact absurd h (hmap _)
  next => exact absurd h (hmap _)
  next => cases h
  next hactive hfailed hprovisioning hfail hrevoking =>
    refine ⟨hrevoking, fun hs => ?_⟩
    simp only [revocable, List.mem_cons, List.not_mem_nil, or_false] at hs
    rcases hs with hs | hs | hs | hs
    · exact hprovisioning hs
    · exact hactive hs
    · exact hfail hs
    · exact hfailed hs

theorem startRevoke_outcome (hc : db.vpnConfigurations[id]? = some c)
    (he : db.serverEndpoints[c.serverEndpointId]? = some e)
    (hcheck : reason = .expiration → db.hasAccess ambient.now c.subscriptionId = false)
    (h : startRevoke settings ambient db c id e = .ok (plan, db')) :
    Outcome settings ambient db id reason plan db' := by
  unfold startRevoke at h
  split_ifs at h with hterm
  · cases h
    refine .kept (fun d hd hs => ?_) fun d hd hs => ?_
    · cases hc.symm.trans hd
      rw [VpnConfiguration.isTerminal, hs] at hterm
      cases hterm
    · cases hc.symm.trans hd
      have hlive : ∀ s ∈ revocable, s.isTerminal = false := by decide
      cases (hlive _ hs).symm.trans hterm
  · obtain ⟨found, hfound, hplan⟩ := bind_eq_ok.1 h
    cases found with
    | none =>
      cases hplan
      obtain ⟨hrev, hlive⟩ := requestRevoke_none hfound
      refine .kept (fun d hd hs => ?_) fun d hd hs => ?_
      · cases hc.symm.trans hd
        exact absurd hs hrev
      · cases hc.symm.trans hd
        exact absurd hs hlive
    | some c' => exact .requested c c' e db' hc he hcheck hfound hplan

theorem revokeCurrent_outcome (hc : db.vpnConfigurations[id]? = some c)
    (he : db.serverEndpoints[c.serverEndpointId]? = some e)
    (hcheck : reason = .expiration → db.hasAccess ambient.now c.subscriptionId = false)
    (h : revokeCurrent settings ambient db c id e = .ok (plan, db')) :
    Outcome settings ambient db id reason plan db' := by
  obtain ⟨existing, hex, h⟩ := bind_eq_ok.1 h
  split at h
  next plan₁ db₁ =>
    cases h
    obtain ⟨r, c', hdone, hc', rfl⟩ := existingCurrentRevokeTask_recovered hex
    exact .recovered c c' r hc hdone hc'
  next plan₁ =>
    have hkept : (c.status ∈ revocable → c.status = .failed ∧ c.desiredState = .revoked) →
        Outcome settings ambient db id reason plan₁ db := by
      intro hidle
      refine .kept (fun d hd _ => ?_) fun d hd hs => ?_
      · cases hc.symm.trans hd
        exact existingCurrentRevokeTask_task hex
      · cases hc.symm.trans hd
        exact hidle hs
    split_ifs at h with hrev hfailed
    · cases h
      refine hkept fun hs => ?_
      rw [hrev] at hs
      exact absurd hs (by decide)
    · cases h
      rw [Bool.and_eq_true, decide_eq_true_eq, decide_eq_true_eq] at hfailed
      exact hkept fun _ => hfailed
    · exact startRevoke_outcome hc he hcheck h
  next => exact startRevoke_outcome hc he hcheck h

theorem preparePlan_outcome (hwf : db.WellFormed)
    (h : preparePlan settings ambient db id reason = .ok (plan, db')) :
    Outcome settings ambient db id reason plan db' := by
  unfold preparePlan at h
  split at h
  next hnone =>
    have habsent : ∀ d, db.vpnConfigurations[id]? ≠ some d := by
      intro d hd
      obtain ⟨e, he⟩ := hwf.endpoint id d hd
      cases hnone.symm.trans (getConfigurationWithEndpoint_eq_some.2 ⟨hd, he⟩)
    cases h
    exact .kept (fun d hd => absurd hd (habsent d)) fun d hd => absurd hd (habsent d)
  next c e hce =>
    obtain ⟨hc, he⟩ := getConfigurationWithEndpoint_eq_some.1 hce
    split_ifs at h with hreason
    · split at h
      next hnone =>
        exact absurd (List.getElem?_eq_none_iff.1 hnone) (hwf.subscription id c hc).not_ge
      next s hs =>
        have haccess : db.hasAccess ambient.now c.subscriptionId =
            (s.status = .active && (db.getCurrentPeriod c.subscriptionId ambient.now).isSome) := by
          rw [hasAccess, subscriptionIs, hs, Option.any_some, hasCurrentPeriod_eq]
        split_ifs at h with hcurrent
        · cases h
          exact .skipped c hc rfl hreason (haccess.trans hcurrent)
        · exact revokeCurrent_outcome hc he
            (fun _ => haccess.trans (Bool.eq_false_of_not_eq_true hcurrent)) h
    · exact revokeCurrent_outcome hc he (fun h => absurd h hreason) h

/-- The configuration that is revoked starts a generation exactly when it starts to be
revoked. -/
theorem Outcome.generation {j : ℕ} {c' : VpnConfiguration}
    (h : Outcome settings ambient db id reason plan db') (hc : db.vpnConfigurations[j]? = some c)
    (hc' : db'.vpnConfigurations[j]? = some c') :
    c'.generation =
      if c.status ∈ revocable ∧ c'.status = .revoking
      then c.generation + 1 else c.generation := by
  have hsame : c' = c → c'.generation =
      if c.status ∈ revocable ∧ c'.status = .revoking
      then c.generation + 1 else c.generation := by
    rintro rfl
    rw [if_neg]
    rintro ⟨hs, hrev⟩
    rw [hrev] at hs
    exact absurd hs (by decide)
  have hset : ∀ {k : ℕ} {d d' : VpnConfiguration}, db.vpnConfigurations[k]? = some d →
      db'.vpnConfigurations = db.vpnConfigurations.set k d' →
      c' = c ∨ (c = d ∧ c' = d') := by
    intro k d d' hd hrows
    rw [hrows] at hc'
    by_cases hj : j = k
    · subst hj
      rw [List.getElem?_set_self (List.getElem?_eq_some_iff.1 hd).1] at hc'
      exact .inr ⟨Option.some.inj (hc.symm.trans hd), (Option.some.inj hc').symm⟩
    · rw [List.getElem?_set_ne (Ne.symm hj)] at hc'
      exact .inl (Option.some.inj (hc'.symm.trans hc))
  cases h with
  | skipped | kept => exact hsame (Option.some.inj (hc'.symm.trans hc))
  | recovered d d' r row done revoke =>
    rcases hset row rfl with heq | ⟨rfl, rfl⟩
    · exact hsame heq
    · obtain ⟨-, -, hd'⟩ := VpnConfiguration.revoke_eq_ok.1 revoke
      rw [if_neg]
      · rw [hd']
      · rintro ⟨-, hrev⟩
        rw [hd'] at hrev
        cases hrev
  | requested d d' e _ row endpoint checked request task =>
    rcases hset row (createTask_configurations task) with heq | ⟨rfl, rfl⟩
    · exact hsame heq
    · rcases requestRevoke_ok request with ⟨-, heq⟩ | ⟨hs, -, hs', -, hg⟩
      · exact hsame heq
      · rw [hg, if_pos]
        refine ⟨?_, hs'⟩
        rcases hs with hs | hs | hs | hs
        all_goals rw [hs]; decide

/-- What a call leaves revoking has a task of its generation. -/
theorem Outcome.task {c' : VpnConfiguration} (hwf : db.WellFormed)
    (h : Outcome settings ambient db id reason plan db') (hc' : db'.vpnConfigurations[id]? = some c')
    (hs : c'.status = .revoking) (hplan : plan ≠ .result "skipped_current_access" (some id)) :
    ∃ r s, db'.taskOf id r = some ⟨.revoke, c'.generation, s⟩ := by
  cases h with
  | skipped c row result => exact absurd result hplan
  | kept owned => exact owned c' hc' hs
  | recovered d d' r row done revoke =>
    obtain ⟨-, -, hd'⟩ := VpnConfiguration.revoke_eq_ok.1 revoke
    have hrow : (db.vpnConfigurations.set id d')[id]? = some c' := hc'
    rw [List.getElem?_set_self (List.getElem?_eq_some_iff.1 row).1] at hrow
    rw [← Option.some.inj hrow, hd'] at hs
    cases hs
  | requested d d' e _ row endpoint checked request task =>
    have hrow : (db.saveConfiguration id d').vpnConfigurations[id]? = some d' :=
      (congrFun (Table.getElem?_set row) id).trans (Function.update_self ..)
    have hd' : d' = c' := by
      rw [createTask_configurations task, hrow] at hc'
      exact Option.some.inj hc'
    subst hd'
    have hw := Wrote.refl hwf (fleet_of_row row endpoint)
    have hadds : ∃ a a', Aggregate.Adds a .revoke a' ∧ db.Wrote id a' db' := by
      rcases requestRevoke_ok request with ⟨-, rfl⟩ | ⟨-, hid, hs', hd, hg⟩
      · obtain ⟨a', ha⟩ := createTask_adds (hw.saveConfiguration _ row rfl) hrow endpoint task
        exact ⟨_, a', ha⟩
      · have hend : d'.serverEndpointId = d.serverEndpointId := by
          simp only [VpnConfiguration.identity, Prod.mk.injEq] at hid
          exact hid.2.1
        obtain ⟨a', ha⟩ := createTask_adds (hw.saveRevoking d' row hid hs' hd hg) hrow
          (hend ▸ endpoint) task
        exact ⟨_, a', ha⟩
    obtain ⟨a, a', hadd, hw'⟩ := hadds
    obtain ⟨r, t, ht, hop, hg⟩ := hadd.has_task
    obtain ⟨f, f', hf, hf', rfl⟩ := fleet_eq_some.1 hw'.aggregate
    cases hc'.symm.trans hf
    obtain ⟨top, tg, ts⟩ := t
    cases hop
    cases hg
    exact ⟨r, ts, ht⟩

/-- A call finds nothing to do for a configuration that has ended, or whose revoke is open. -/
theorem preparePlan_idle (hwf : db.WellFormed)
    (hinv : db.fleet.Inv) (h : preparePlan settings ambient db id reason = .ok (plan, db'))
    (hc : db.vpnConfigurations[id]? = some c)
    (hidle : c.isTerminal = true ∨ (c.status = .revoking ∧
      ∃ r s, db.taskOf id r = some ⟨.revoke, c.generation, s⟩ ∧ s.isOpen = true)) :
    db' = db := by
  obtain ⟨e, he⟩ := hwf.endpoint id c hc
  have hcurrent : ∀ {plan : RevokePlan} {db' : Database},
      revokeCurrent settings ambient db c id e = .ok (plan, db') → db' = db := by
    intro plan db' h
    obtain ⟨existing, hex, h⟩ := bind_eq_ok.1 h
    rcases hidle with hterm | ⟨hs, r, s, ht, hopen⟩
    · have hstart : ∀ {plan : RevokePlan} {db' : Database},
          startRevoke settings ambient db c id e = .ok (plan, db') → db' = db := by
        intro plan db' h
        unfold startRevoke at h
        rw [if_pos hterm] at h
        cases h
        rfl
      split at h
      next plan₁ db₁ =>
        obtain ⟨r, c', -, hc', -⟩ := existingCurrentRevokeTask_recovered hex
        obtain ⟨hs, -⟩ := VpnConfiguration.revoke_eq_ok.1 hc'
        rw [VpnConfiguration.isTerminal, hs] at hterm
        cases hterm
      next plan₁ =>
        split_ifs at h
        · cases h
          rfl
        · cases h
          rfl
        · exact hstart h
      next => exact hstart h
    · obtain ⟨plan₁, hfound⟩ := existingCurrentRevokeTask_open hwf
        (hinv.each id _ (fleet_of_row hc he)).ledger hc he ht hopen
      cases hex.symm.trans hfound
      dsimp only at h
      rw [if_pos hs] at h
      cases h
      rfl
  unfold preparePlan at h
  rw [getConfigurationWithEndpoint_eq_some.2 ⟨hc, he⟩] at h
  dsimp only at h
  split_ifs at h
  · split at h
    next =>
      cases h
      rfl
    next =>
      split_ifs at h
      · cases h
        rfl
      · exact hcurrent h
  · exact hcurrent h

end RevokeVpn

end ShopBot
