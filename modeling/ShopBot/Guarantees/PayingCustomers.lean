import ShopBot.Guarantees.Repair

/-! # Customers who have paid

What reconciliation does for a subscription with a current paid period: which of its
states have a task or an anomaly that leads on, and which have none.
-/

namespace ShopBot

open Lifecycle Database

namespace ProvisionVpn

variable {settings : Settings} {ambient : Ambient} {db : Database}
  {subscriptionId endpointId : ℕ} {c : VpnConfiguration} {e : ServerEndpoint}
  {latest : Option (VpnConfiguration × ℕ)} {expiresAt : DateTime}

/-- Without a live configuration, a funded subscription gets a new one. -/
theorem preparePlan_eq_new (settings : Settings)
    (hacc : db.hasAccess ambient.now subscriptionId = true)
    (hend : ∀ (id : ℕ) (c : VpnConfiguration), db.vpnConfigurations[id]? = some c →
      c.subscriptionId = subscriptionId → c.isTerminal = true) :
    ∃ latest expiresAt, (∀ c id, latest = some (c, id) → c.isTerminal = true) ∧
      preparePlan settings ambient db subscriptionId =
        provisionNew settings ambient db subscriptionId latest expiresAt := by
  simp only [hasAccess, subscriptionIs, Bool.and_eq_true, Option.any_eq_true, decide_eq_true_eq,
    hasCurrentPeriod_eq, Option.isSome_iff_exists] at hacc
  obtain ⟨⟨s, hs, hactive⟩, period, hperiod⟩ := hacc
  have hnone : db.getActiveForSubscription subscriptionId = none := by
    refine Table.firstWhere_eq_none.2 fun id c hc => ?_
    rw [← Bool.not_eq_true]
    intro hp
    simp only [Bool.and_eq_true, decide_eq_true_eq] at hp
    have hterm := hend id c hc hp.1
    rw [System.not_terminal_of_active hp.2] at hterm
    cases hterm
  unfold preparePlan
  rw [hs]
  dsimp only
  rw [if_neg (not_not.2 hactive), hperiod]
  dsimp only
  rw [hnone]
  dsimp only
  cases hl : db.getLatestForSubscription subscriptionId with
  | none =>
    refine ⟨none, period.expiresAt, fun c id h => ?_, rfl⟩
    cases h
  | some row =>
    obtain ⟨hc, hp, -⟩ := Table.lastWhere_some hl
    have hterm := hend _ _ hc (by simpa using hp)
    refine ⟨some row, period.expiresAt, fun c id h => ?_, ?_⟩
    · cases h
      exact hterm
    · rw [VpnConfiguration.isTerminal] at hterm
      dsimp only
      split
      next h => simp [h, VpnConfigurationStatus.isTerminal] at hterm
      next h => simp [h, VpnConfigurationStatus.isTerminal] at hterm
      next h => simp [h, VpnConfigurationStatus.isTerminal] at hterm
      next h => simp [h, VpnConfigurationStatus.isTerminal] at hterm
      next => rfl

/-- The database with the new configuration. -/
def created (db : Database) (c : VpnConfiguration) : Database :=
  { db with vpnConfigurations := db.vpnConfigurations ++ [c] }.appendAudit
    .vpnConfigurationCreated .vpnConfiguration db.vpnConfigurations.length

theorem provisionNew_eq (hsel : selectEndpoint settings ambient db = some (e, endpointId))
    (hprep : prepareConfiguration settings ambient subscriptionId e endpointId = .ok c)
    (hclient : ∀ d ∈ db.vpnConfigurations, d.clientUuid ≠ ambient.clientUuid)
    (hend : ∀ c id, latest = some (c, id) → c.isTerminal = true) :
    provisionNew settings ambient db subscriptionId latest expiresAt = match e.nodeId with
      | none => createPanelTask settings ambient (created db c) c db.vpnConfigurations.length e
          expiresAt
      | some nodeId => createNodeTask settings ambient (created db c) c
          db.vpnConfigurations.length nodeId e expiresAt := by
  have hc : c.serverEndpointId = endpointId ∧ c.clientUuid = ambient.clientUuid := by
    obtain ⟨-, -, h⟩ := bind_eq_ok.1 hprep
    cases h
    exact ⟨rfl, rfl⟩
  have hadd : db.addConfiguration c = .ok (db.vpnConfigurations.length,
      { db with vpnConfigurations := db.vpnConfigurations ++ [c] }) := by
    unfold addConfiguration
    rw [if_neg]
    simpa [hc.2] using hclient
  have hload : loadOrCreateConfiguration settings ambient db subscriptionId e endpointId latest =
      .ok (c, db.vpnConfigurations.length, created db c) := by
    unfold loadOrCreateConfiguration
    simp only [hprep, hadd, bind, Except.bind, pure, Except.pure]
    split
    next d id => rw [if_pos (hend d id rfl)]; rfl
    next => rfl
  have hrow : (created db c).getConfigurationWithEndpoint db.vpnConfigurations.length =
      some (c, e) := by
    refine getConfigurationWithEndpoint_eq_some.2 ⟨by simp [created, appendAudit], ?_⟩
    have he := selectEndpoint_row hsel
    rw [hc.1]
    exact he
  unfold provisionNew
  rw [hsel]
  dsimp only
  rw [hload]
  cases e.nodeId <;> simp only [bind, Except.bind, hrow]

theorem createNodeTask_created (hw : db.WellFormed) (hfresh : db.FreshTask ambient.taskUuid)
    (nodeId : ℕ) : ∃ plan db', createNodeTask settings ambient (created db c) c
      db.vpnConfigurations.length nodeId e expiresAt = .ok (plan, db') ∧
      db.nodeTasks.length < db'.nodeTasks.length := by
  have hfree : ∀ t ∈ (created db c).nodeTasks, nodeTaskConflict
      (nodeTaskOf settings ambient c db.vpnConfigurations.length nodeId e expiresAt) t = false := by
    intro t ht
    obtain ⟨k, hk⟩ := List.mem_iff_getElem?.1 ht
    obtain ⟨op, j, g, d, f, hat⟩ := hw.nodeTask hk
    have hlt := hw.taskAt_lt (taskOf_eq_some.1 hat.task)
    have hid : t.vpnConfigurationId ≠ some db.vpnConfigurations.length := by
      rw [hat.configurationId]
      intro h
      exact absurd (Option.some.inj h) (Nat.ne_of_lt hlt)
    have huuid := hfresh.1 t ht
    have hkey := (hfresh.nodeKey hw ht db.vpnConfigurations.length c.generation).1
    simp [nodeTaskConflict, nodeTaskOf, huuid, hkey, hid]
  unfold createNodeTask
  rw [addNodeTask_of_free hfree]
  exact ⟨_, _, rfl, by simp [created, appendAudit]⟩

theorem createPanelTask_created (hw : db.WellFormed) (hm : settings.mapper = .storedFields) :
    ∃ plan db', createPanelTask settings ambient (created db c) c db.vpnConfigurations.length e
        expiresAt = .ok (plan, db') ∧
      db.panelProvisionTasks.length < db'.panelProvisionTasks.length := by
  have hlt : ∀ p ∈ db.panelProvisionTasks, p.vpnConfigurationId ≠ db.vpnConfigurations.length ∧
      p.idempotencyKey ≠ .panelProvision db.vpnConfigurations.length := by
    intro p hp
    obtain ⟨k, hk⟩ := List.mem_iff_getElem?.1 hp
    obtain ⟨d, f, hat⟩ := hw.panelProvisionTask hk
    obtain ⟨o, -, -, -, -, hkey⟩ := hw.panelProvisionTasks p hp
    have hne := Nat.ne_of_lt (hw.taskAt_lt (taskOf_eq_some.1 hat.task))
    exact ⟨hne, by rw [hkey]; simpa using hne⟩
  have hadd : (created db c).addPanelProvisionTask .storedFields
      (panelTaskOf settings ambient c db.vpnConfigurations.length e expiresAt) = .ok (_, _, _) :=
    addPanelProvisionTask_of_free (fun p hp => (hlt p hp).1) (fun p hp => (hlt p hp).2)
  unfold createPanelTask
  rw [hm, hadd]
  exact ⟨_, _, rfl, by simp [created, appendAudit]⟩

end ProvisionVpn

namespace Database

/-- A provision or revoke task of the generation is pending or in progress. -/
def TaskOpen (db : Database) (id generation : ℕ) : Prop :=
  db.nodeTaskExists id .provisionClient generation (·.isOpen) = true ∨
    db.nodeTaskExists id .revokeClient generation (·.isOpen) = true ∨
    db.panelProvisionTaskExists id generation (·.isOpen) = true ∨
    db.panelRevokeTaskExists id generation (·.isOpen) = true

/-- The anomaly is about the subscription, or about a configuration of it. -/
def Concerns (db : Database) (a : ReconciliationAnomaly) (subscriptionId : ℕ) : Prop :=
  match a.kind with
  | .expireSubscription | .provisionSubscription | .repairProvision => a.entityId = subscriptionId
  | .revokeVpn | .cleanupVpn | .repairRevoke =>
    ∃ c, db.vpnConfigurations[a.entityId]? = some c ∧ c.subscriptionId = subscriptionId

/-- A configuration of the subscription has another status, or a configuration or a task
has been created. -/
def Progress (db db' : Database) (subscriptionId : ℕ) : Prop :=
  (∃ (id : ℕ) (c c' : VpnConfiguration), db.vpnConfigurations[id]? = some c ∧
      c.subscriptionId = subscriptionId ∧ db'.vpnConfigurations[id]? = some c' ∧
      c'.status ≠ c.status) ∨
    db.vpnConfigurations.length < db'.vpnConfigurations.length ∨
    db.nodeTasks.length < db'.nodeTasks.length ∨
    db.panelProvisionTasks.length < db'.panelProvisionTasks.length ∨
    db.panelRevokeTasks.length < db'.panelRevokeTasks.length

variable {db : Database} {now : DateTime} {id generation subscriptionId : ℕ} {c : VpnConfiguration}

theorem taskOpen_iff (hw : db.WellFormed) : db.TaskOpen id generation ↔
    ∃ r t, db.taskOf id r = some t ∧ t.generation = generation ∧ t.status.isOpen = true := by
  constructor
  · have hnode : ∀ op, db.nodeTaskExists id (nodeOperation op) generation (·.isOpen) = true →
        ∃ r t, db.taskOf id r = some t ∧ t.generation = generation ∧ t.status.isOpen = true := by
      intro op h
      obtain ⟨k, t, hk, hp⟩ := Table.any_iff.1 h
      simp only [isVpnTask, Bool.and_eq_true, decide_eq_true_eq] at hp
      refine ⟨.node k, ⟨op, generation, t.status⟩, taskOf_eq_some.2 ?_, rfl, hp.2⟩
      simp [taskAt, hk, NodeTask.lifecycle_eq hp.1.1.1 hp.1.2 hp.1.1.2]
    rintro (h | h | h | h)
    · exact hnode .provision h
    · exact hnode .revoke h
    · obtain ⟨k, p, hk, hp⟩ := Table.any_iff.1 h
      simp only [Bool.and_eq_true, decide_eq_true_eq] at hp
      refine ⟨.panelProvision k, ⟨.provision, p.vpnGeneration, p.status⟩, taskOf_eq_some.2 ?_,
        hp.1.2, hp.2⟩
      simp [taskAt, hk, hp.1.1]
    · obtain ⟨k, q, hk, hq⟩ := Table.any_iff.1 h
      simp only [Bool.and_eq_true, decide_eq_true_eq] at hq
      refine ⟨.panelRevoke k, ⟨.revoke, q.vpnGeneration, q.status⟩, taskOf_eq_some.2 ?_,
        hq.1.2, hq.2⟩
      simp [taskAt, hk, hq.1.1]
  · rintro ⟨r, t, ht, hg, hopen⟩
    obtain ⟨c, hc⟩ : ∃ c, db.vpnConfigurations[id]? = some c :=
      ⟨_, List.getElem?_eq_getElem (hw.taskAt_lt (taskOf_eq_some.1 ht))⟩
    obtain ⟨e, he, -⟩ := hw.row hc
    rcases hw.task_cases (owner_eq_some.2 ⟨c, e, hc, he, rfl⟩) ht with
      ⟨k, u, -, hu, -, hid, hug, huop, hs⟩ | ⟨k, p, -, hp, -, hid, rfl⟩ | ⟨k, q, -, hq, -, hid, rfl⟩
    · have hex : db.nodeTaskExists id (nodeOperation t.operation) generation (·.isOpen) = true :=
        Table.any_iff.2 ⟨k, u, hu, by simp [isVpnTask, hid, hug, huop, hg, hs, hopen]⟩
      cases hop : t.operation <;> rw [hop] at hex
      · exact .inl hex
      · exact .inr (.inl hex)
    · dsimp only at hg hopen
      exact .inr (.inr (.inl (Table.any_iff.2 ⟨k, p, hp, by simp [hid, hg, hopen]⟩)))
    · dsimp only at hg hopen
      exact .inr (.inr (.inr (Table.any_iff.2 ⟨k, q, hq, by simp [hid, hg, hopen]⟩)))

theorem mem_cleanupVpn (hc : db.vpnConfigurations[id]? = some c) (hs : c.status = .failed)
    (hacc : db.hasAccess now c.subscriptionId = true) :
    ⟨.cleanupVpn, id⟩ ∈ db.reconciliationAnomalies now := by
  have hmem : ⟨.cleanupVpn, id⟩ ∈ db.cleanupVpn now :=
    List.mem_map.2 ⟨(c, id), Table.mem_select.2 ⟨hc, by simp [hs, hacc]⟩, rfl⟩
  simp only [reconciliationAnomalies, List.mem_append]
  exact .inl (.inl (.inl (.inr hmem)))

theorem blocking_iff : c.status ∈ BLOCKING_VPN_STATUSES ↔ c.isTerminal = false := by
  rw [VpnConfiguration.isTerminal]
  cases c.status <;> decide

theorem mem_provisionSubscriptions (hacc : db.hasAccess now subscriptionId = true)
    (hend : ∀ (id : ℕ) (c : VpnConfiguration), db.vpnConfigurations[id]? = some c →
      c.subscriptionId = subscriptionId → c.isTerminal = true) :
    ⟨.provisionSubscription, subscriptionId⟩ ∈ db.reconciliationAnomalies now := by
  simp only [hasAccess, subscriptionIs, Bool.and_eq_true, Option.any_eq_true] at hacc
  obtain ⟨⟨s, hs, hactive⟩, hperiod⟩ := hacc
  have hnone : (db.vpnConfigurations.any fun c =>
      c.subscriptionId = subscriptionId && c.status ∈ BLOCKING_VPN_STATUSES) = false := by
    refine Table.any_eq_false_iff.2 fun id c hc => ?_
    rw [← Bool.not_eq_true]
    intro hp
    simp only [Bool.and_eq_true, decide_eq_true_eq] at hp
    have hlive := blocking_iff.1 hp.2
    rw [hend id c hc hp.1] at hlive
    cases hlive
  have hmem : ⟨.provisionSubscription, subscriptionId⟩ ∈ db.provisionSubscriptions now :=
    List.mem_map.2 ⟨(s, subscriptionId), List.mem_filter.2
      ⟨Table.mem_select.2 ⟨hs, hactive⟩, by simp [hperiod, hnone]⟩, rfl⟩
  simp only [reconciliationAnomalies, List.mem_append]
  exact .inl (.inl (.inr hmem))

/-- Every anomaly of a funded subscription has a configuration to work on, or is the
request for a new one. -/
theorem concerns_cases {a : ReconciliationAnomaly} (h : a ∈ db.reconciliationAnomalies now)
    (hconcerns : db.Concerns a subscriptionId) (hacc : db.hasAccess now subscriptionId = true) :
    (a = ⟨.provisionSubscription, subscriptionId⟩ ∧ ∀ (id : ℕ) (c : VpnConfiguration),
      db.vpnConfigurations[id]? = some c → c.subscriptionId = subscriptionId →
        c.isTerminal = true) ∨
    ∃ (id : ℕ) (c : VpnConfiguration), db.vpnConfigurations[id]? = some c ∧
      c.subscriptionId = subscriptionId ∧ (c.status = .failed ∨ c.status = .provisioning ∨ c.status = .revoking) := by
  have hcurrent := hacc
  simp only [hasAccess, Bool.and_eq_true] at hcurrent
  simp only [reconciliationAnomalies, List.mem_append] at h
  rcases h with ((((h | h) | h) | h) | h) | h
  · obtain ⟨⟨s, i⟩, hm, rfl⟩ := List.mem_map.1 h
    obtain rfl : i = subscriptionId := hconcerns
    have hno := (List.mem_filter.1 hm).2
    simp [hcurrent.2] at hno
  · obtain ⟨⟨c, i⟩, hm, rfl⟩ := List.mem_map.1 h
    obtain ⟨hc, hp⟩ := Table.mem_select.1 hm
    obtain ⟨c', hc', hsub⟩ := hconcerns
    obtain rfl := Option.some.inj (hc.symm.trans hc')
    obtain ⟨s, hs, hactive⟩ := (Option.any_eq_true _ _).1 hcurrent.1
    simp only [decide_eq_true_eq] at hactive
    simp [hsub, subscriptionIs, hs, hactive, hcurrent.2] at hp
  · obtain ⟨⟨c, i⟩, hm, rfl⟩ := List.mem_map.1 h
    obtain ⟨hc, hp⟩ := Table.mem_select.1 hm
    obtain ⟨c', hc', hsub⟩ := hconcerns
    obtain rfl := Option.some.inj (hc.symm.trans hc')
    simp only [Bool.and_eq_true, decide_eq_true_eq] at hp
    exact .inr ⟨i, c, hc, hsub, .inl hp.1⟩
  · obtain ⟨⟨s, i⟩, hm, rfl⟩ := List.mem_map.1 h
    obtain rfl : i = subscriptionId := hconcerns
    refine .inl ⟨rfl, fun id c hc hsub => ?_⟩
    have hno := (List.mem_filter.1 hm).2
    simp only [Bool.and_eq_true, Bool.not_eq_true'] at hno
    have hnot := Table.any_eq_false_iff.1 hno.2 id c hc
    by_contra hlive
    rw [Bool.not_eq_true] at hlive
    simp [hsub, blocking_iff.2 hlive] at hnot
  · obtain ⟨⟨c, i⟩, hm, rfl⟩ := List.mem_map.1 h
    obtain ⟨hc, hp⟩ := Table.mem_select.1 (List.mem_filter.1 hm).1
    simp only [Bool.and_eq_true, decide_eq_true_eq] at hp
    exact .inr ⟨i, c, hc, hconcerns, .inr (.inl hp.1.1)⟩
  · obtain ⟨⟨c, i⟩, hm, rfl⟩ := List.mem_map.1 h
    obtain ⟨hc, hp⟩ := Table.mem_select.1 (List.mem_filter.1 hm).1
    obtain ⟨c', hc', hsub⟩ := hconcerns
    obtain rfl := Option.some.inj (hc.symm.trans hc')
    simp only [Bool.and_eq_true, decide_eq_true_eq] at hp
    exact .inr ⟨i, c, hc, hsub, .inr (.inr hp.1)⟩

end Database

namespace System

variable {settings : Settings} {s : System} {now : DateTime} {ambient : Ambient}
  {subscriptionId endpointId : ℕ} {e : ServerEndpoint} {c : VpnConfiguration} {id : ℕ}

/-- The command that runs a job of the reconciliation. -/
def commandOf (ambient : Ambient) : Job → Option Command
  | .provisionSubscription subscriptionId => some (.provisionVpn ambient subscriptionId)
  | .revokeVpnConfiguration id reason => some (.revokeVpn ambient id reason)
  | _ => none

/-- The subscription has an active configuration, or a task is open for the current
generation of its live one, or an anomaly of it is listed whose job makes progress. -/
def Attended (settings : Settings) (s : System) (now : DateTime) (ambient : Ambient)
    (subscriptionId : ℕ) : Prop :=
  (∃ (id : ℕ) (c : VpnConfiguration), s.db.vpnConfigurations[id]? = some c ∧
      c.subscriptionId = subscriptionId ∧ c.status = .active) ∨
    (∃ (id : ℕ) (c : VpnConfiguration), s.db.vpnConfigurations[id]? = some c ∧
      c.subscriptionId = subscriptionId ∧ c.isTerminal = false ∧
      s.db.TaskOpen id c.generation) ∨
    ∃ a job cmd s', (∀ limit, (s.db.reconciliationAnomalies now).length ≤ limit →
        a ∈ s.db.listReconciliationAnomalies now 0 0 limit) ∧ s.db.Concerns a subscriptionId ∧
      ReconcileSubscriptions.jobOf a = some job ∧ commandOf ambient job = some cmd ∧
      s.exec settings cmd = some s' ∧ s.db.Progress s'.db subscriptionId

/-- No configuration of the subscription has failed to be revoked, and a new one could be
created: on the endpoint that is selected for it the ledger of its tasks can be read. -/
def Repairable (settings : Settings) (s : System) (subscriptionId : ℕ) (e : ServerEndpoint) :
    Prop :=
  (∀ c ∈ s.db.vpnConfigurations, c.subscriptionId = subscriptionId → c.status ≠ .revokeFailed) ∧
    ((∀ c ∈ s.db.vpnConfigurations, c.subscriptionId = subscriptionId → c.isTerminal = true) →
      e.nodeId.isSome = true ∨ settings.mapper = .storedFields)

theorem Reachable.statusInv (h : Reachable settings s) (hc : s.db.vpnConfigurations[id]? = some c) :
    ∃ e, s.db.serverEndpoints[c.serverEndpointId]? = some e ∧ (s.db.aggregateOf id c e).Inv := by
  obtain ⟨hw, hinv⟩ := h.inv
  obtain ⟨e, he, ha⟩ := hw.row hc
  exact ⟨e, he, hinv.each _ _ ha⟩

theorem mem_of_listed {a : ReconciliationAnomaly}
    (h : ∀ limit, (s.db.reconciliationAnomalies now).length ≤ limit →
      a ∈ s.db.listReconciliationAnomalies now 0 0 limit) : a ∈ s.db.reconciliationAnomalies now :=
  of_mem_listReconciliationAnomalies (h _ (Nat.le_refl _))

/-- The job of an anomaly about a configuration makes progress with it. -/
theorem Reachable.attended_of_revoke (h : Reachable settings s) {kind : ReconciliationAnomalyKind}
    {reason : VpnRevokeReason} (hc : s.db.vpnConfigurations[id]? = some c)
    (hterm : c.isTerminal = false) (hfresh : s.db.FreshTask ambient.taskUuid)
    (hreason : reason ≠ .expiration)
    (hfree : c.status = .revoking → ∀ r t, s.db.taskOf id r = some t → t.operation = .revoke →
      t.generation ≠ c.generation)
    (hmem : ⟨kind, id⟩ ∈ s.db.reconciliationAnomalies now)
    (hconcerns : s.db.Concerns ⟨kind, id⟩ c.subscriptionId)
    (hjob : ReconcileSubscriptions.jobOf ⟨kind, id⟩ = some (.revokeVpnConfiguration id reason)) :
    Attended settings s now ambient c.subscriptionId := by
  obtain ⟨hw, hinv⟩ := h.inv
  obtain ⟨plan, db', c', hplan, -, -, -, -, hgrows⟩ := RevokeVpn.preparePlan_pending settings reason
    hw hinv hc hterm hfresh (fun h => absurd h hreason) hfree
  refine .inr (.inr ⟨_, _, _, _, fun limit hl => mem_listReconciliationAnomalies hmem hl, hconcerns,
    hjob, rfl, commit_of_ok hplan, ?_⟩)
  rcases hgrows with hg | hg
  · exact .inr (.inr (.inl hg))
  · exact .inr (.inr (.inr (.inr hg)))

/-- A live configuration that has not failed to be revoked is attended to. -/
theorem Reachable.attended_of_live (h : Reachable settings s)
    (hc : s.db.vpnConfigurations[id]? = some c) (hterm : c.isTerminal = false)
    (hacc : s.db.hasAccess now c.subscriptionId = true) (hfresh : s.db.FreshTask ambient.taskUuid)
    (hs : c.status ≠ .revokeFailed) : Attended settings s now ambient c.subscriptionId := by
  obtain ⟨hw, hinv⟩ := h.inv
  obtain ⟨e, he, hagg⟩ := h.statusInv hc
  have hstatus := hagg.status
  have htask : (s.db.aggregateOf id c e).Has .provision c.generation (·.isOpen = true) →
      Attended settings s now ambient c.subscriptionId := by
    rintro ⟨r, t, ht, -, hg, hopen⟩
    exact .inr (.inl ⟨id, c, hc, rfl, hterm, (taskOpen_iff hw).2 ⟨r, t, ht, hg, hopen⟩⟩)
  cases hst : c.status with
  | active => exact .inl ⟨id, c, hc, rfl, hst⟩
  | revokeFailed => exact absurd hst hs
  | revoked | expired | disabled =>
    rw [VpnConfiguration.isTerminal, hst] at hterm
    cases hterm
  | provisioning =>
    simp only [Aggregate.StatusInv, aggregateOf, hst] at hstatus
    have hg : c.generation = 1 := hagg.first hstatus.1
    exact htask (by rw [hg]; exact hstatus.2)
  | failed =>
    exact h.attended_of_revoke hc hterm hfresh (by rintro ⟨⟩) (fun h => by rw [hst] at h; cases h)
      (mem_cleanupVpn hc hst hacc) ⟨c, hc, rfl⟩ rfl
  | revoking =>
    simp only [Aggregate.StatusInv, aggregateOf, hst] at hstatus
    by_cases hopen : s.db.TaskOpen id c.generation
    · exact .inr (.inl ⟨id, c, hc, rfl, hterm, hopen⟩)
    · have hfree : ∀ r t, s.db.taskOf id r = some t → t.operation = .revoke →
          t.generation ≠ c.generation := fun r t ht hop hg =>
        hopen ((taskOpen_iff hw).2 ⟨r, t, ht, hg, hstatus.2.1 r t ht hop hg⟩)
      have hpanel : e.nodeId = none := by
        cases hn : e.nodeId with
        | none => rfl
        | some n =>
          obtain ⟨r, t, ht, hop, hg, -⟩ := hstatus.2.2 (route_node hn)
          exact absurd hg (hfree r t ht hop)
      exact h.attended_of_revoke hc hterm hfresh (by rintro ⟨⟩) (fun _ => hfree)
        (mem_repairRevoke hc he hpanel hst hstatus.1 hfree) ⟨c, hc, rfl⟩ rfl

/-- Without a live configuration, what the selected endpoint is decides. -/
theorem Reachable.attended_of_none (h : Reachable settings s)
    (hend : ∀ (id : ℕ) (c : VpnConfiguration), s.db.vpnConfigurations[id]? = some c →
      c.subscriptionId = subscriptionId → c.isTerminal = true)
    (hacc : s.db.hasAccess now subscriptionId = true)
    (hacc' : s.db.hasAccess ambient.now subscriptionId = true)
    (hfresh : s.db.FreshTask ambient.taskUuid)
    (hclient : ∀ d ∈ s.db.vpnConfigurations, d.clientUuid ≠ ambient.clientUuid)
    (hsel : ProvisionVpn.selectEndpoint settings ambient s.db = some (e, endpointId))
    (hprep : ProvisionVpn.prepareConfiguration settings ambient subscriptionId e endpointId = .ok c) :
    Attended settings s now ambient subscriptionId ↔
      (e.nodeId.isSome = true ∨ settings.mapper = .storedFields) := by
  have hw := h.inv.1
  obtain ⟨latest, expiresAt, hlatest, hplan⟩ :=
    ProvisionVpn.preparePlan_eq_new settings hacc' hend
  rw [ProvisionVpn.provisionNew_eq hsel hprep hclient hlatest] at hplan
  have hlive : ∀ {id : ℕ} {c : VpnConfiguration}, s.db.vpnConfigurations[id]? = some c →
      c.subscriptionId = subscriptionId → ¬ c.isTerminal = false := fun hc hsub hlive => by
    rw [hend _ _ hc hsub] at hlive
    cases hlive
  constructor
  · rintro (⟨id, d, hd, hsub, hs⟩ | ⟨id, d, hd, hsub, hd', -⟩ |
      ⟨a, job, cmd, s', hlist, hconcerns, hjob, hcmd, hexec, -⟩)
    · exact absurd (not_terminal_of_active hs) (hlive hd hsub)
    · exact absurd hd' (hlive hd hsub)
    · rcases concerns_cases (mem_of_listed hlist) hconcerns hacc with
        ⟨rfl, -⟩ | ⟨id, d, hd, hsub, hs⟩
      · cases hjob
        cases hcmd
        obtain ⟨r, hexec⟩ := commit_eq_some hexec
        rw [hplan] at hexec
        cases hn : e.nodeId with
        | some n => exact .inl rfl
        | none =>
          rw [hn] at hexec
          obtain ⟨_, hadd, -⟩ := bind_eq_ok.1 hexec
          exact .inr (addPanelProvisionTask_ok hadd).1
      · refine absurd ?_ (hlive hd hsub)
        rw [VpnConfiguration.isTerminal]
        rcases hs with hs | hs | hs <;> rw [hs] <;> rfl
  · intro hok
    have hcreated : ∃ plan db', ProvisionVpn.preparePlan settings ambient s.db subscriptionId =
        .ok (plan, db') ∧ s.db.Progress db' subscriptionId := by
      rw [hplan]
      cases hn : e.nodeId with
      | some n =>
        obtain ⟨plan, db', hcreate, hgrows⟩ := ProvisionVpn.createNodeTask_created hw hfresh n
        exact ⟨plan, db', hcreate, .inr (.inr (.inl hgrows))⟩
      | none =>
        have hm : settings.mapper = .storedFields := by
          rcases hok with h | h
          · rw [hn] at h
            cases h
          · exact h
        obtain ⟨plan, db', hcreate, hgrows⟩ := ProvisionVpn.createPanelTask_created hw hm
        exact ⟨plan, db', hcreate, .inr (.inr (.inr (.inl hgrows)))⟩
    obtain ⟨plan, db', hcreate, hprogress⟩ := hcreated
    exact .inr (.inr ⟨⟨.provisionSubscription, subscriptionId⟩, _, _, _, fun limit hl =>
      mem_listReconciliationAnomalies (mem_provisionSubscriptions hacc hend) hl, rfl, rfl, rfl,
      commit_of_ok hcreate, hprogress⟩)

/-- A configuration that has failed to be revoked is not attended to while it is paid for. -/
theorem Reachable.not_attended (h : Reachable settings s)
    (hc : s.db.vpnConfigurations[id]? = some c) (hs : c.status = .revokeFailed)
    (hacc : s.db.hasAccess now c.subscriptionId = true) :
    ¬ Attended settings s now ambient c.subscriptionId := by
  have hterm : c.isTerminal = false := by
    rw [VpnConfiguration.isTerminal, hs]
    rfl
  -- every other configuration of the subscription has ended
  have honly : ∀ {j : ℕ} {d : VpnConfiguration}, s.db.vpnConfigurations[j]? = some d →
      d.subscriptionId = c.subscriptionId → d.isTerminal = false → j = id ∧ d = c := by
    intro j d hd hsub hlive
    by_cases hj : j = id
    · subst hj
      exact ⟨rfl, Option.some.inj (hd.symm.trans hc)⟩
    · have hended := (h.oneLive hd hc hsub hj hterm).1
      rw [hlive] at hended
      cases hended
  have hlive : ∀ {d : VpnConfiguration}, d.status = .active ∨ d.status = .failed ∨
      d.status = .provisioning ∨ d.status = .revoking → d.isTerminal = false := by
    intro d hd
    rw [VpnConfiguration.isTerminal]
    rcases hd with hd | hd | hd | hd <;> rw [hd] <;> rfl
  rintro (⟨j, d, hd, hsub, hds⟩ | ⟨j, d, hd, hsub, hdl, hopen⟩ |
    ⟨a, job, cmd, s', hlist, hconcerns, -⟩)
  · obtain ⟨-, rfl⟩ := honly hd hsub (hlive (.inl hds))
    rw [hs] at hds
    cases hds
  · obtain ⟨rfl, rfl⟩ := honly hd hsub hdl
    obtain ⟨r, t, ht, hg, hopen⟩ := (taskOpen_iff h.inv.1).1 hopen
    obtain ⟨e, -, hagg⟩ := h.statusInv hc
    have hstatus := hagg.status
    simp only [Aggregate.StatusInv, aggregateOf, hs] at hstatus
    obtain ⟨r', t', ht', hop', hg', hfailed⟩ := hstatus.2
    cases hop : t.operation with
    | provision =>
      have hone := hagg.ledger.provision r t ht hop
      have hlater : 1 < d.generation := hagg.later hstatus.1
      omega
    | revoke =>
      obtain rfl := hagg.ledger.unique r r' t t' ht ht' (hop.trans hop'.symm) (hg.trans hg'.symm)
      cases ht.symm.trans ht'
      rw [hfailed] at hopen
      cases hopen
  · rcases concerns_cases (mem_of_listed hlist) hconcerns hacc with
      ⟨-, hend⟩ | ⟨j, d, hd, hsub, hds⟩
    · rw [hend id c hc rfl] at hterm
      cases hterm
    · obtain ⟨-, rfl⟩ := honly hd hsub (hlive (.inr hds))
      rw [hs] at hds
      simp at hds

/-- A job can be run: the subscription is still paid for, the identifiers are new, and a
valid endpoint is available. -/
structure Ready (settings : Settings) (s : System) (ambient : Ambient) (subscriptionId : ℕ)
    (e : ServerEndpoint) : Prop where
  access : s.db.hasAccess ambient.now subscriptionId = true
  taskUuid : s.db.FreshTask ambient.taskUuid
  clientUuid : ∀ d ∈ s.db.vpnConfigurations, d.clientUuid ≠ ambient.clientUuid
  endpoint : ∃ endpointId, ProvisionVpn.selectEndpoint settings ambient s.db = some (e, endpointId) ∧
    (ProvisionVpn.prepareConfiguration settings ambient subscriptionId e
      endpointId).toOption.isSome = true

/-- Exactly when reconciliation attends to a customer who has paid. -/
theorem paying_customers_are_reconciled_iff (h : Reachable settings s)
    (hacc : s.db.hasAccess now subscriptionId = true)
    (hready : Ready settings s ambient subscriptionId e) :
    Attended settings s now ambient subscriptionId ↔ Repairable settings s subscriptionId e := by
  obtain ⟨endpointId, hsel, hprep⟩ := hready.endpoint
  obtain ⟨c, hc⟩ := Option.isSome_iff_exists.1 hprep
  have hnone := fun hend => h.attended_of_none hend hacc hready.access hready.taskUuid
    hready.clientUuid hsel (toOption_eq_some hc)
  have hall : (∀ c ∈ s.db.vpnConfigurations, c.subscriptionId = subscriptionId →
      c.isTerminal = true) ↔ ∀ (id : ℕ) (c : VpnConfiguration), s.db.vpnConfigurations[id]? = some c →
        c.subscriptionId = subscriptionId → c.isTerminal = true := by
    constructor
    · exact fun hend id c hc => hend c (List.mem_of_getElem? hc)
    · intro hend c hc
      obtain ⟨id, hid⟩ := List.mem_iff_getElem?.1 hc
      exact hend id c hid
  constructor
  · refine fun hatt => ⟨fun c hc hsub hs => ?_, fun hend => (hnone (hall.1 hend)).1 hatt⟩
    obtain ⟨id, hid⟩ := List.mem_iff_getElem?.1 hc
    subst hsub
    exact h.not_attended hid hs hacc hatt
  · rintro ⟨hfailed, hnew⟩
    by_cases hend : ∀ c ∈ s.db.vpnConfigurations, c.subscriptionId = subscriptionId →
        c.isTerminal = true
    · exact (hnone (hall.1 hend)).2 (hnew hend)
    · simp only [not_forall, Bool.not_eq_true] at hend
      obtain ⟨d, hd, hsub, hlive⟩ := hend
      obtain ⟨id, hid⟩ := List.mem_iff_getElem?.1 hd
      have hs := hfailed d hd hsub
      rw [← hsub] at hacc ⊢
      exact h.attended_of_live hid hlive hacc hready.taskUuid hs

/-- A new customer is attended to by the job that creates the first configuration. -/
theorem paying_customers_are_reconciled_iff_shop :
    Attended shopSettings ((shop nodeEndpoint).after shopSettings purchase) 1
        { now := 2, clientUuid := 100, taskUuid := 1 } 0 ↔
      Repairable shopSettings ((shop nodeEndpoint).after shopSettings purchase) 0 nodeEndpoint :=
  paying_customers_are_reconciled_iff (.after (shop_initial _) (by decide +kernel))
    (by decide +kernel)
    ⟨by decide +kernel, by decide +kernel, by decide +kernel, 0, by decide +kernel,
      by decide +kernel⟩

/-- Every task is given up after its first attempt. -/
def oneAttempt : Settings := { shopSettings with
  nodeTaskMaxAttempts := 1
  nodeTaskMaxAttempts_pos := Nat.one_pos
  panelTaskMaxAttempts := 1
  panelTaskMaxAttempts_pos := Nat.one_pos }

/-- The provision has failed, reconciliation has asked for its cleanup, and that has failed. -/
def cleanupFailed : List Command := claimed ++ [
  .finalizeNode { now := 2 } 0 (.error "timeout"),
  .revokeVpn { now := 3, taskUuid := 2 } 0 .replacementCleanup,
  .prepareNode { now := 4, leaseToken := 6 } 1,
  .finalizeNode { now := 5 } 1 (.error "timeout")]

/-- The customer has paid for a month and an endpoint is free, but nothing is ever done. -/
theorem paying_customer_is_stuck : ∃ s, Reachable oneAttempt s ∧ s.db.hasAccess 6 0 = true ∧
    Ready oneAttempt s { now := 7, clientUuid := 101, taskUuid := 3 } 0 nodeEndpoint ∧
    ¬ Attended oneAttempt s 6 { now := 7, clientUuid := 101, taskUuid := 3 } 0 := by
  have hr : Reachable oneAttempt ((shop nodeEndpoint).after oneAttempt cleanupFailed) :=
    .after (shop_initial _) (by decide +kernel)
  refine ⟨_, hr, by decide +kernel, ⟨by decide +kernel, by decide +kernel, by decide +kernel, 0,
    by decide +kernel, by decide +kernel⟩, ?_⟩
  obtain ⟨c, hc, hcond⟩ : ∃ c, ((shop nodeEndpoint).after oneAttempt
      cleanupFailed).db.vpnConfigurations[0]? = some c ∧
        (c.status = .revokeFailed && c.subscriptionId = 0) = true :=
    (Option.any_eq_true _ _).1 (by decide +kernel)
  simp only [Bool.and_eq_true, decide_eq_true_eq] at hcond
  have hnot : ¬ Attended oneAttempt ((shop nodeEndpoint).after oneAttempt cleanupFailed) 6
      { now := 7, clientUuid := 101, taskUuid := 3 } c.subscriptionId :=
    hr.not_attended hc hcond.1 (by rw [hcond.2]; decide +kernel)
  rwa [hcond.2] at hnot

end System

end ShopBot
