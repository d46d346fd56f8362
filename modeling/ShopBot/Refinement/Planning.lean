import ShopBot.Refinement.Transaction
import ShopBot.UseCases.ProvisionVpn
import ShopBot.UseCases.RevokeVpn

/-! # Provisioning and revoking refine the lifecycle

A plan requests a revoke, creates a missing task, recovers the result of a task that
has succeeded, or creates the next configuration of a subscription.
-/

namespace ShopBot

open Lifecycle Database

/-- Tasks that have succeeded, whichever configuration they belong to. -/
def Database.HasSucceeded (db : Database) (r : TaskRef) : Prop :=
  ∃ id t, db.taskAt r = some (id, t) ∧ t.status = .succeeded

namespace RevokeVpn

variable {settings : Settings} {ambient : Ambient} {db db₁ db' : Database} {id : ℕ}
  {c c' : VpnConfiguration} {e : ServerEndpoint} {a : Aggregate ℕ TaskRef} {plan : RevokePlan}
  {actors : Actor TaskRef → Prop}

theorem createTask_adds (hw : db.Wrote id a db₁) (hc : db₁.vpnConfigurations[id]? = some c)
    (he : db₁.serverEndpoints[c.serverEndpointId]? = some e)
    (h : createTask settings ambient db₁ c id e = .ok (plan, db')) :
    ∃ a', Aggregate.Adds a .revoke a' ∧ db.Wrote id a' db' := by
  have ho : db₁.owner id = some ⟨c.subscriptionId, e.nodeId, c.clientUuid⟩ :=
    owner_eq_some.2 ⟨c, e, hc, he, rfl⟩
  have hg : a.generation = c.generation := by
    obtain ⟨c₀, e₀, hc₀, -, rfl⟩ := fleet_eq_some.1 hw.aggregate
    rw [Option.some.inj (hc.symm.trans hc₀)]
    rfl
  unfold createTask at h
  split at h
  next hn =>
    rw [hn] at ho
    obtain ⟨⟨u, k, db₂⟩, hadd, h⟩ := bind_eq_ok.1 h
    cases h
    exact Wrote.addPanelRevokeTask (q := panelTaskOf settings ambient c id e) hw
      ⟨_, ho, rfl, rfl, rfl, rfl⟩ hg.symm rfl hadd
  next nodeId hn =>
    rw [hn] at ho
    obtain ⟨⟨u, k, db₂⟩, hadd, h⟩ := bind_eq_ok.1 h
    cases h
    exact hw.addNodeTask ⟨id, c.generation, _, rfl, rfl, ho, rfl, rfl, rfl, rfl, .inr ⟨rfl, rfl⟩⟩
      rfl (by rw [hg]; rfl) rfl rfl hadd

/-- What a request does to the configuration, when it does anything. -/
theorem requestRevoke_ok (h : requestRevoke c = .ok (some c')) :
    (c.status = .revoking ∧ c' = c) ∨
      ((c.status = .active ∨ c.status = .revokeFailed ∨ c.status = .provisioning ∨
          c.status = .failed) ∧ c'.identity = c.identity ∧ c'.status = .revoking ∧
        c'.desiredState = .revoked ∧ c'.generation = c.generation + 1) := by
  have hmap : ∀ {required : VpnConfigurationStatus} {message : String} {r : Option DateTime},
      (c.requestRevoke required message r).map some = .ok (some c') →
      c'.identity = c.identity ∧ c'.status = .revoking ∧ c'.desiredState = .revoked ∧
        c'.generation = c.generation + 1 := by
    intro required message r hm
    cases hr : c.requestRevoke required message r with
    | error e => rw [hr] at hm; cases hm
    | ok d =>
      rw [hr] at hm
      cases hm
      obtain ⟨-, rfl⟩ := VpnConfiguration.requestRevoke_eq_ok.1 hr
      exact ⟨rfl, rfl, rfl, rfl⟩
  unfold requestRevoke at h
  split at h
  next hs => exact .inr ⟨.inl hs, hmap h⟩
  next hs => exact .inr ⟨.inr (.inl hs), hmap h⟩
  next hs => exact .inr ⟨.inr (.inr (.inl hs)), hmap h⟩
  next hs => exact .inr ⟨.inr (.inr (.inr hs)), hmap h⟩
  next hs =>
    cases h
    exact .inl ⟨hs, rfl⟩
  next => cases h

theorem startRevoke_refines (hwf : db.WellFormed) (hreq : actors .request)
    (hc : db.vpnConfigurations[id]? = some c)
    (he : db.serverEndpoints[c.serverEndpointId]? = some e)
    (h : startRevoke settings ambient db c id e = .ok (plan, db')) :
    db.Refines ambient.now actors db' := by
  have ha := fleet_of_row hc he
  have hw := Wrote.refl hwf ha
  unfold startRevoke at h
  split_ifs at h with hterm
  · cases h
    exact .refl hwf
  · obtain ⟨found, hfound, hplan⟩ := bind_eq_ok.1 h
    cases found with
    | none =>
      cases hplan
      exact .refl hwf
    | some c' =>
      have hrow : (db.saveConfiguration id c').vpnConfigurations[id]? = some c' :=
        (congrFun (Table.getElem?_set hc) id).trans (Function.update_self ..)
      rcases requestRevoke_ok hfound with ⟨hs, rfl⟩ | ⟨hs, hid, hs', hd, hg⟩
      · have hw' := hw.saveConfiguration c' hc rfl
        obtain ⟨a', hadds, hw''⟩ := createTask_adds hw' hrow he hplan
        exact hw''.refines ha (.restoreRevoke a' hs hadds) hreq
      · have hw' := hw.saveRevoking c' hc hid hs' hd hg
        have hend : c'.serverEndpointId = c.serverEndpointId := by
          simp only [VpnConfiguration.identity, Prod.mk.injEq] at hid
          exact hid.2.1
        obtain ⟨a', hadds, hw''⟩ := createTask_adds hw' hrow (hend ▸ he) hplan
        exact hw''.refines ha (.request a' hs hadds) hreq

/-- A revoke that has already succeeded completes the configuration. -/
theorem recoverSucceededRevoke_refines {r : TaskRef} {s : TaskStatus} (hwf : db.WellFormed)
    (hsucc : ∀ r, db.HasSucceeded r → actors (.success r))
    (hc : db.vpnConfigurations[id]? = some c)
    (he : db.serverEndpoints[c.serverEndpointId]? = some e)
    (ht : db.taskOf id r = some ⟨.revoke, c.generation, s⟩) (hs : s = .succeeded)
    (h : recoverSucceededRevoke ambient db c id = .ok (plan, db')) :
    db.Refines ambient.now actors db' := by
  have ha := fleet_of_row hc he
  subst hs
  obtain ⟨c', hc', h⟩ := bind_eq_ok.1 h
  obtain ⟨hst, hd, hc'⟩ := VpnConfiguration.revoke_eq_ok.1 hc'
  cases h
  have hw := (Wrote.refl hwf ha).saveStatus c' hc (by rw [hc']; rfl) (by rw [hc']) (by rw [hc'])
  rw [show c'.status = .revoked by rw [hc']] at hw
  exact (hw.appendAudit _ _ _).refines ha
    (.recoverRevoke r ⟨.revoke, c.generation, .succeeded⟩ ht rfl rfl rfl hst hd)
    (hsucc r ⟨id, _, taskOf_eq_some.1 ht, rfl⟩)

/-- The task that recovers a revoke, as the lifecycle sees it. -/
theorem existingCurrentRevokeTask_succeeded
    (h : existingCurrentRevokeTask ambient db c id e = .ok (.recovered plan db')) :
    ∃ r, db.taskOf id r = some ⟨.revoke, c.generation, .succeeded⟩ := by
  obtain ⟨-, ⟨t, k, ht, hdone⟩ | ⟨t, k, ht, hdone⟩⟩ := existingCurrentRevokeTask_eq_recovered _ h
  · obtain ⟨hrow, hp, -⟩ := Table.lastWhere_some ht
    simp only [Bool.and_eq_true, decide_eq_true_eq] at hp
    refine ⟨.panelRevoke k, taskOf_eq_some.2 ?_⟩
    simp [taskAt, hrow, hp, hdone]
  · obtain ⟨hrow, hp, -⟩ := Table.lastWhere_some ht
    simp only [isVpnTask, Bool.and_eq_true, decide_eq_true_eq] at hp
    have hop : t.operation = nodeOperation .revoke := hp.1.2
    refine ⟨.node k, taskOf_eq_some.2 ?_⟩
    simp [taskAt, hrow, NodeTask.lifecycle_eq hp.1.1 hp.2 hop, hdone]

theorem revokeCurrent_refines (hwf : db.WellFormed) (hreq : actors .request)
    (hsucc : ∀ r, db.HasSucceeded r → actors (.success r))
    (hc : db.vpnConfigurations[id]? = some c)
    (he : db.serverEndpoints[c.serverEndpointId]? = some e)
    (h : revokeCurrent settings ambient db c id e = .ok (plan, db')) :
    db.Refines ambient.now actors db' := by
  obtain ⟨existing, hex, h⟩ := bind_eq_ok.1 h
  split at h
  next plan₁ db₁ =>
    cases h
    obtain ⟨r, ht⟩ := existingCurrentRevokeTask_succeeded hex
    exact recoverSucceededRevoke_refines hwf hsucc hc he ht rfl
      (existingCurrentRevokeTask_eq_recovered _ hex).1
  next plan₁ =>
    split_ifs at h with hrev hfailed
    · cases h
      exact .refl hwf
    · cases h
      exact .refl hwf
    · exact startRevoke_refines hwf hreq hc he h
  next => exact startRevoke_refines hwf hreq hc he h

theorem preparePlan_refines {reason : VpnRevokeReason} (hwf : db.WellFormed)
    (hreq : actors .request) (hsucc : ∀ r, db.HasSucceeded r → actors (.success r))
    (h : preparePlan settings ambient db id reason = .ok (plan, db')) :
    db.Refines ambient.now actors db' := by
  unfold preparePlan at h
  split at h
  next => cases h; exact .refl hwf
  next c e hce =>
    obtain ⟨hc, he⟩ := getConfigurationWithEndpoint_eq_some.1 hce
    split_ifs at h with hreason
    · split at h
      next => cases h; exact .refl hwf
      next s hs =>
        split_ifs at h with haccess
        · cases h
          exact .refl hwf
        · exact revokeCurrent_refines hwf hreq hsucc hc he h
    · exact revokeCurrent_refines hwf hreq hsucc hc he h

end RevokeVpn

namespace ProvisionVpn

variable {settings : Settings} {ambient : Ambient} {db db₁ db' : Database}
  {id subscriptionId endpointId : ℕ} {c : VpnConfiguration} {e : ServerEndpoint}
  {a : Aggregate ℕ TaskRef} {plan : ProvisionPlan} {expiresAt : DateTime}
  {actors : Actor TaskRef → Prop}

/-- Creating the provision task of a configuration on its own route. -/
theorem createTask_adds (hw : db.Wrote id a db₁) (hc : db₁.vpnConfigurations[id]? = some c)
    (he : db₁.serverEndpoints[c.serverEndpointId]? = some e)
    (h : (match e.nodeId with
      | none => createPanelTask settings ambient db₁ c id e expiresAt
      | some nodeId => createNodeTask settings ambient db₁ c id nodeId e expiresAt) =
        .ok (plan, db')) :
    ∃ a', Aggregate.Adds a .provision a' ∧ db.Wrote id a' db' := by
  have ho : db₁.owner id = some ⟨c.subscriptionId, e.nodeId, c.clientUuid⟩ :=
    owner_eq_some.2 ⟨c, e, hc, he, rfl⟩
  have hg : a.generation = c.generation := by
    obtain ⟨c₀, e₀, hc₀, -, rfl⟩ := fleet_eq_some.1 hw.aggregate
    rw [Option.some.inj (hc.symm.trans hc₀)]
    rfl
  split at h
  next hn =>
    rw [hn] at ho
    obtain ⟨⟨u, k, db₂⟩, hadd, h⟩ := bind_eq_ok.1 h
    cases h
    exact Wrote.addPanelProvisionTask (p := panelTaskOf settings ambient c id e expiresAt) hw
      ⟨_, ho, rfl, rfl, rfl, rfl⟩ hg.symm rfl hadd
  next nodeId hn =>
    rw [hn] at ho
    obtain ⟨⟨u, k, db₂⟩, hadd, h⟩ := bind_eq_ok.1 h
    cases h
    exact hw.addNodeTask ⟨id, c.generation, _, rfl, rfl, ho, rfl, rfl, rfl, rfl, .inl ⟨rfl, rfl⟩⟩
      rfl (by rw [hg]; rfl) rfl rfl hadd

/-- Creating a task writes no configuration. -/
theorem createTask_configurations (h : (match e.nodeId with
      | none => createPanelTask settings ambient db c id e expiresAt
      | some nodeId => createNodeTask settings ambient db c id nodeId e expiresAt) =
        .ok (plan, db')) : db'.vpnConfigurations = db.vpnConfigurations := by
  split at h
  next =>
    obtain ⟨⟨u, k, db₁⟩, hadd, h⟩ := bind_eq_ok.1 h
    cases h
    obtain ⟨-, ⟨rfl, -⟩ | ⟨rfl, -⟩⟩ := addPanelProvisionTask_ok hadd
    · rfl
    · rfl
  next =>
    obtain ⟨⟨u, k, db₁⟩, hadd, h⟩ := bind_eq_ok.1 h
    cases h
    rcases addNodeTask_ok hadd with ⟨rfl, -⟩ | ⟨rfl, -⟩
    · rfl
    · rfl

theorem selectEndpoint_row (h : selectEndpoint settings ambient db = some (e, endpointId)) :
    db.serverEndpoints[endpointId]? = some e := by
  have hfirst : firstEnabledEndpoint db = some (e, endpointId) →
      db.serverEndpoints[endpointId]? = some e := by
    intro h
    have hm := (List.mem_insertionSort _).1 (List.mem_of_mem_head? h)
    exact (Table.mem_select.1 hm).1
  unfold selectEndpoint at h
  dsimp only at h
  split at h
  next selected hsel =>
    split at h
    next => cases h
    next locked hlocked =>
      split_ifs at h
      obtain ⟨e', he', hr⟩ := Option.map_eq_some_iff.1 h
      cases hr
      exact he'
  next =>
    split_ifs at h
    exact hfirst h

/-- The next configuration of a subscription whose latest has ended. -/
theorem provisionOn_refines {latest : Option (VpnConfiguration × ℕ)} (hwf : db.WellFormed)
    (hreq : actors .request) (he : db.serverEndpoints[endpointId]? = some e)
    (hend : ∀ c id, latest = some (c, id) → c.isTerminal = true)
    (hlatest : ∀ (j : ℕ) (c : VpnConfiguration), db.vpnConfigurations[j]? = some c →
      c.subscriptionId = subscriptionId → c.isTerminal = true ∨
        ∃ (k : ℕ) (d : VpnConfiguration), j < k ∧ db.vpnConfigurations[k]? = some d ∧
          d.subscriptionId = subscriptionId)
    (hs : subscriptionId < db.subscriptions.length)
    (h : provisionOn settings ambient db subscriptionId e endpointId latest expiresAt =
      .ok (plan, db')) :
    db.Refines ambient.now actors db' ∧ ∃ c : VpnConfiguration,
      db'.vpnConfigurations = db.vpnConfigurations ++ [c] ∧ c.subscriptionId = subscriptionId ∧
        c.serverEndpointId = endpointId := by
  obtain ⟨⟨c, id, db₁⟩, hload, h⟩ := bind_eq_ok.1 h
  obtain ⟨hl, hlive, -⟩ | ⟨db₀, hprep, hadd, rfl⟩ := loadOrCreateConfiguration_cases _ _ hload
  · rw [hend c id hl] at hlive
    cases hlive
  obtain ⟨-, -, hc⟩ := bind_eq_ok.1 hprep
  have hsub : c.subscriptionId = subscriptionId := by cases hc; rfl
  have hend' : c.serverEndpointId = endpointId := by cases hc; rfl
  have hfresh : c.status = .provisioning ∧ c.desiredState = .active ∧ c.generation = 1 := by
    cases hc
    exact ⟨rfl, rfl, rfl⟩
  rw [← hend'] at he
  have he₀ : db₀.serverEndpoints[c.serverEndpointId]? = some e := by
    rw [(addConfiguration_ok hadd).2.1]
    exact he
  obtain ⟨rfl, hrow, hw, hnone⟩ := Wrote.of_addConfiguration hwf he (hsub ▸ hs) hadd
  have hce : (db₀.appendAudit .vpnConfigurationCreated .vpnConfiguration
      db.vpnConfigurations.length).getConfigurationWithEndpoint db.vpnConfigurations.length =
        some (c, e) :=
    getConfigurationWithEndpoint_eq_some.2 ⟨hrow, he₀⟩
  simp only [hce] at h
  obtain ⟨a', hadds, hw'⟩ := createTask_adds (hw.appendAudit _ _ _) hrow he₀ h
  have hframe := hadds.frame
  refine ⟨hw'.refines_create hwf rfl ?_ (fun j d hd hds => ?_) hreq, c, ?_, hsub, hend'⟩
  · refine ⟨hframe.2.2.1.trans hfresh.1, hframe.2.2.2.1.trans hfresh.2.1,
      hframe.2.2.2.2.trans hfresh.2.2, ?_⟩
    cases hadds with
    | existing r t found => cases (hnone r).symm.trans found
    | inserted r free fresh =>
      refine ⟨r, ?_⟩
      have hempty : (db₀.aggregateOf db.vpnConfigurations.length c e).task = fun _ => none :=
        funext hnone
      have hgen : (db₀.aggregateOf db.vpnConfigurations.length c e).generation = 1 := hfresh.2.2
      simp only [Aggregate.setTask, hempty, hgen]
  · have hsub' : (db₀.aggregateOf db.vpnConfigurations.length c e).subscription =
        subscriptionId := hsub
    rw [hframe.1, hsub']
    exact hlatest j d hd (hds.trans (hframe.1.trans hsub))
  · rw [createTask_configurations h]
    exact congrArg Database.vpnConfigurations (addConfiguration_ok hadd).2.1

theorem provisionNew_refines {latest : Option (VpnConfiguration × ℕ)} (hwf : db.WellFormed)
    (hreq : actors .request) (hlatest : db.getLatestForSubscription subscriptionId = latest)
    (hend : ∀ c id, latest = some (c, id) → c.isTerminal = true)
    (hs : subscriptionId < db.subscriptions.length)
    (h : provisionNew settings ambient db subscriptionId latest expiresAt = .ok (plan, db')) :
    db.Refines ambient.now actors db' := by
  rw [provisionNew_eq_provisionOn] at h
  split at h
  next =>
    cases h
    exact .refl hwf
  next e endpointId hsel =>
    refine (provisionOn_refines hwf hreq (selectEndpoint_row hsel) hend ?_ hs h).1
    intro j d hd hds
    rcases latest with _ | ⟨l, k⟩
    · have hnone := Table.lastWhere_eq_none.1 hlatest j d hd
      simp [hds] at hnone
    · obtain ⟨hrow, hp, hmax⟩ := Table.lastWhere_some hlatest
      rcases Nat.lt_or_eq_of_le (hmax j d hd (by simpa using hds)) with hlt | rfl
      · exact .inr ⟨k, l, hlt, hrow, by simpa using hp⟩
      · rw [hd] at hrow
        cases hrow
        exact .inl (hend _ _ rfl)

theorem recoverSucceededProvision_refines {r : TaskRef} {generation : ℕ} {ref : Option String}
    (hwf : db.WellFormed) (hsucc : ∀ r, db.HasSucceeded r → actors (.success r))
    (hfund : db.Funded ambient.now c.subscriptionId)
    (hc : db.vpnConfigurations[id]? = some c)
    (he : db.serverEndpoints[c.serverEndpointId]? = some e)
    (ht : db.taskOf id r = some ⟨.provision, generation, .succeeded⟩)
    (h : recoverSucceededProvision db c id ref = .ok (plan, db')) :
    db.Refines ambient.now actors db' := by
  have ha := fleet_of_row hc he
  obtain ⟨c', hc', h⟩ := bind_eq_ok.1 h
  obtain ⟨hst, hd, hc'⟩ := VpnConfiguration.activate_eq_ok.1 hc'
  cases h
  have hw := (Wrote.refl hwf ha).saveStatus c' hc (by rw [hc']; rfl) (by rw [hc']) (by rw [hc'])
  rw [show c'.status = .active by rw [hc']] at hw
  exact (hw.appendAudit _ _ _).refines ha
    (.recoverProvision r ⟨.provision, generation, .succeeded⟩ ht rfl rfl hst hd hfund)
    (hsucc r ⟨id, _, taskOf_eq_some.1 ht, rfl⟩)

theorem reuseExistingProvisioning_refines (hwf : db.WellFormed) (hreq : actors .request)
    (hsucc : ∀ r, db.HasSucceeded r → actors (.success r))
    (hfund : db.Funded ambient.now c.subscriptionId)
    (hc : db.vpnConfigurations[id]? = some c) (hs : c.status = .provisioning)
    (h : reuseExistingProvisioning settings ambient db c id expiresAt = .ok (plan, db')) :
    db.Refines ambient.now actors db' := by
  unfold reuseExistingProvisioning at h
  split_ifs at h with hdes
  · cases h
    exact .refl hwf
  · have hd : c.desiredState = .active := not_not.1 hdes
    split at h
    next => cases h
    next c₀ e hce =>
      obtain ⟨hc₀, he⟩ := getConfigurationWithEndpoint_eq_some.1 hce
      obtain rfl := Option.some.inj (hc.symm.trans hc₀)
      have ha := fleet_of_row hc he
      have hcreate : (match e.nodeId with
          | none => createPanelTask settings ambient db c id e expiresAt
          | some nodeId => createNodeTask settings ambient db c id nodeId e expiresAt) =
            .ok (plan, db') → db.Refines ambient.now actors db' := by
        intro hm
        obtain ⟨a', hadds, hw⟩ := createTask_adds (Wrote.refl hwf ha) hc he hm
        exact hw.refines ha (.restoreProvision a' hs hd hadds) hreq
      split at h
      next nodeId hn =>
        rw [hn] at hcreate
        split at h
        next => exact hcreate h
        next t k ht =>
          obtain ⟨hrow, hp, -⟩ := Table.lastWhere_some ht
          simp only [isVpnTask, Bool.and_eq_true, decide_eq_true_eq] at hp
          have hop : t.operation = nodeOperation .provision := hp.1.2
          have htask : db.taskOf id (.node k) = some ⟨.provision, c.generation, t.status⟩ := by
            rw [taskOf_eq_some]
            simp [taskAt, hrow, NodeTask.lifecycle_eq hp.1.1 hp.2 hop]
          split at h
          next hst =>
            rw [hst] at htask
            exact recoverSucceededProvision_refines hwf hsucc hfund hc he htask h
          next => cases h; exact .refl hwf
          next => cases h; exact .refl hwf
          next => cases h; exact .refl hwf
      next hn =>
        rw [hn] at hcreate
        obtain ⟨found, hfound, h⟩ := bind_eq_ok.1 h
        split at h
        next => exact hcreate h
        next t k =>
          obtain ⟨-, hrow, hid⟩ := getPanelTaskForConfiguration_ok hfound
          have htask : db.taskOf id (.panelProvision k) =
              some ⟨.provision, t.vpnGeneration, t.status⟩ := by
            rw [taskOf_eq_some]
            simp [taskAt, hrow, hid]
          split at h
          next hst =>
            rw [hst] at htask
            exact recoverSucceededProvision_refines hwf hsucc hfund hc he htask h
          next => cases h; exact .refl hwf
          next => cases h; exact .refl hwf
          next => cases h; exact .refl hwf

theorem preparePlan_refines (hwf : db.WellFormed) (hreq : actors .request)
    (hsucc : ∀ r, db.HasSucceeded r → actors (.success r))
    (h : preparePlan settings ambient db subscriptionId = .ok (plan, db')) :
    db.Refines ambient.now actors db' := by
  unfold preparePlan at h
  split at h
  next => cases h; exact .refl hwf
  next s hs =>
    have hlt : subscriptionId < db.subscriptions.length := (List.getElem?_eq_some_iff.1 hs).1
    split_ifs at h
    · cases h
      exact .refl hwf
    · split at h
      next => cases h; exact .refl hwf
      next period hperiod =>
        have hfund : db.Funded ambient.now subscriptionId := by
          unfold Funded
          rw [hperiod]
          rfl
        split at h
        next => cases h; exact .refl hwf
        next hactive =>
          split at h
          next hl => exact provisionNew_refines hwf hreq hl (fun _ _ h => nomatch h) hlt h
          next c id hl =>
            obtain ⟨hc, hp, -⟩ := Table.lastWhere_some hl
            have hsub : c.subscriptionId = subscriptionId := by simpa using hp
            split at h
            next => cases h; exact .refl hwf
            next => cases h; exact .refl hwf
            next => cases h; exact .refl hwf
            next hst =>
              exact reuseExistingProvisioning_refines hwf hreq hsucc (hsub ▸ hfund) hc hst h
            next h₁ h₂ h₃ h₄ =>
              refine provisionNew_refines hwf hreq hl (fun d j hdj => ?_) hlt h
              cases hdj
              have hna : c.status ≠ .active := by
                intro hs
                have := Table.firstWhere_eq_none.1 hactive id c hc
                simp [hsub, hs] at this
              cases hs : c.status <;> simp_all [VpnConfiguration.isTerminal,
                VpnConfigurationStatus.isTerminal]

/-! ## Created configurations -/

theorem loadOrCreateConfiguration_configurations {endpointId j : ℕ}
    {latest : Option (VpnConfiguration × ℕ)} {d : VpnConfiguration}
    (h : loadOrCreateConfiguration settings ambient db subscriptionId e endpointId latest =
      .ok (d, j, db')) : db'.vpnConfigurations = db.vpnConfigurations ∨
      (db'.vpnConfigurations = db.vpnConfigurations ++ [d] ∧
        d.subscriptionId = subscriptionId) := by
  rcases loadOrCreateConfiguration_cases _ _ h with ⟨-, -, rfl⟩ | ⟨db₀, hprep, hadd, rfl⟩
  · exact .inl rfl
  · obtain ⟨-, -, hprep⟩ := bind_eq_ok.1 hprep
    cases hprep
    exact .inr ⟨congrArg Database.vpnConfigurations (addConfiguration_ok hadd).2.1, rfl⟩

theorem provisionNew_configurations {latest : Option (VpnConfiguration × ℕ)}
    (h : provisionNew settings ambient db subscriptionId latest expiresAt = .ok (plan, db')) :
    db'.vpnConfigurations = db.vpnConfigurations ∨
      ∃ d : VpnConfiguration, db'.vpnConfigurations = db.vpnConfigurations ++ [d] ∧
        d.subscriptionId = subscriptionId := by
  unfold provisionNew at h
  split at h
  next =>
    cases h
    exact .inl rfl
  next e endpointId _ =>
    obtain ⟨⟨d, id, db₁⟩, hload, h₁⟩ := bind_eq_ok.1 h
    have hrows : db'.vpnConfigurations = db₁.vpnConfigurations := by
      dsimp only at h₁
      split at h₁
      next => cases h₁
      next c₀ e' _ =>
        split at h₁
        next hn =>
          obtain ⟨⟨u, k, db₂⟩, hadd, h₂⟩ := bind_eq_ok.1 h₁
          cases h₂
          obtain ⟨-, ⟨rfl, -⟩ | ⟨rfl, -⟩⟩ := addPanelProvisionTask_ok hadd <;> rfl
        next nodeId hn =>
          obtain ⟨⟨u, k, db₂⟩, hadd, h₂⟩ := bind_eq_ok.1 h₁
          cases h₂
          rcases addNodeTask_ok hadd with ⟨rfl, -⟩ | ⟨rfl, -⟩ <;> rfl
    rw [hrows]
    exact (loadOrCreateConfiguration_configurations hload).imp_right fun hd => ⟨d, hd⟩

theorem reuseExistingProvisioning_length
    (h : reuseExistingProvisioning settings ambient db c id expiresAt = .ok (plan, db')) :
    db'.vpnConfigurations.length = db.vpnConfigurations.length := by
  have hrecover : ∀ {ref : Option String},
      recoverSucceededProvision db c id ref = .ok (plan, db') →
      db'.vpnConfigurations.length = db.vpnConfigurations.length := by
    intro ref h
    obtain ⟨c', -, h₁⟩ := bind_eq_ok.1 h
    cases h₁
    exact List.length_set
  unfold reuseExistingProvisioning at h
  split_ifs at h
  · cases h
    rfl
  split at h
  next => cases h
  next e _ =>
    have hcreate : (match e.nodeId with
        | none => createPanelTask settings ambient db c id e expiresAt
        | some nodeId => createNodeTask settings ambient db c id nodeId e expiresAt) =
          .ok (plan, db') → db'.vpnConfigurations.length = db.vpnConfigurations.length :=
      fun hm => by rw [createTask_configurations hm]
    split at h
    next nodeId hn =>
      rw [hn] at hcreate
      split at h
      next => exact hcreate h
      next =>
        split at h
        next => exact hrecover h
        all_goals
          cases h
          rfl
    next hn =>
      rw [hn] at hcreate
      obtain ⟨found, -, h₁⟩ := bind_eq_ok.1 h
      split at h₁
      next => exact hcreate h₁
      next =>
        split at h₁
        next => exact hrecover h₁
        all_goals
          cases h₁
          rfl

/-- A configuration is only created for an active subscription. -/
theorem preparePlan_created (h : preparePlan settings ambient db subscriptionId = .ok (plan, db')) :
    db'.vpnConfigurations.length = db.vpnConfigurations.length ∨
      ∃ (d : VpnConfiguration) (s : Subscription),
        db'.vpnConfigurations = db.vpnConfigurations ++ [d] ∧
        db.subscriptions[d.subscriptionId]? = some s ∧ s.status = .active := by
  unfold preparePlan at h
  split at h
  next =>
    cases h
    exact .inl rfl
  next s hs =>
    split_ifs at h with hstatus
    · cases h
      exact .inl rfl
    · have hnew : ∀ {latest : Option (VpnConfiguration × ℕ)} {expiresAt : DateTime},
          provisionNew settings ambient db subscriptionId latest expiresAt = .ok (plan, db') →
          db'.vpnConfigurations.length = db.vpnConfigurations.length ∨
          ∃ (d : VpnConfiguration) (s : Subscription),
            db'.vpnConfigurations = db.vpnConfigurations ++ [d] ∧
            db.subscriptions[d.subscriptionId]? = some s ∧ s.status = .active := by
        intro latest expiresAt hp
        refine (provisionNew_configurations hp).imp (fun hrows => by rw [hrows]) ?_
        rintro ⟨d, hrows, hd⟩
        exact ⟨d, s, hrows, by rw [hd]; exact hs, not_not.1 hstatus⟩
      split at h
      next =>
        cases h
        exact .inl rfl
      next =>
        split at h
        next =>
          cases h
          exact .inl rfl
        next =>
          split at h
          next => exact hnew h
          next =>
            split at h
            next =>
              cases h
              exact .inl rfl
            next =>
              cases h
              exact .inl rfl
            next =>
              cases h
              exact .inl rfl
            next => exact .inl (reuseExistingProvisioning_length h)
            next => exact hnew h

end ProvisionVpn

namespace RevokeVpn

variable {settings : Settings} {ambient : Ambient} {db db' : Database} {id : ℕ}
  {c : VpnConfiguration} {e : ServerEndpoint} {plan : RevokePlan}

theorem startRevoke_length (h : startRevoke settings ambient db c id e = .ok (plan, db')) :
    db'.vpnConfigurations.length = db.vpnConfigurations.length := by
  unfold startRevoke at h
  split_ifs at h
  · cases h
    rfl
  · obtain ⟨found, -, h₁⟩ := bind_eq_ok.1 h
    cases found with
    | none =>
      cases h₁
      rfl
    | some c' =>
      have hsave : (db.saveConfiguration id c').vpnConfigurations.length =
          db.vpnConfigurations.length := List.length_set
      rw [← hsave]
      change createTask settings ambient (db.saveConfiguration id c') c' id e = _ at h₁
      unfold createTask at h₁
      split at h₁
      next =>
        obtain ⟨⟨u, k, db₁⟩, hadd, h₂⟩ := bind_eq_ok.1 h₁
        cases h₂
        rcases addPanelRevokeTask_ok hadd with ⟨rfl, -⟩ | ⟨rfl, -⟩ <;> rfl
      next =>
        obtain ⟨⟨u, k, db₁⟩, hadd, h₂⟩ := bind_eq_ok.1 h₁
        cases h₂
        rcases addNodeTask_ok hadd with ⟨rfl, -⟩ | ⟨rfl, -⟩ <;> rfl

theorem existingCurrentRevokeTask_length
    (h : existingCurrentRevokeTask ambient db c id e = .ok (.recovered plan db')) :
    db'.vpnConfigurations.length = db.vpnConfigurations.length := by
  obtain ⟨c', -, rfl⟩ := recoverSucceededRevoke_ok _ (existingCurrentRevokeTask_eq_recovered _ h).1
  exact List.length_set

theorem preparePlan_length {reason : VpnRevokeReason}
    (h : preparePlan settings ambient db id reason = .ok (plan, db')) :
    db'.vpnConfigurations.length = db.vpnConfigurations.length := by
  have hcurrent : ∀ {c : VpnConfiguration} {e : ServerEndpoint},
      revokeCurrent settings ambient db c id e = .ok (plan, db') →
      db'.vpnConfigurations.length = db.vpnConfigurations.length := by
    intro c e h
    obtain ⟨existing, hex, h₁⟩ := bind_eq_ok.1 h
    split at h₁
    next =>
      cases h₁
      exact existingCurrentRevokeTask_length hex
    next =>
      split_ifs at h₁
      · cases h₁
        rfl
      · cases h₁
        rfl
      · exact startRevoke_length h₁
    next => exact startRevoke_length h₁
  unfold preparePlan at h
  split at h
  next =>
    cases h
    rfl
  next =>
    split_ifs at h
    · split at h
      next =>
        cases h
        rfl
      next =>
        split_ifs at h
        · cases h
          rfl
        · exact hcurrent h
    · exact hcurrent h

end RevokeVpn

end ShopBot
