import ShopBot.Guarantees.Fencing

/-! # What reconciliation repairs

A configuration whose client should be there and is not, or should be gone and is not,
has a task that is still open, or an anomaly is listed whose job makes progress.
-/

namespace ShopBot

open Lifecycle

namespace Database

/-- The identifier drawn for a new task names no task yet. -/
def FreshTask (db : Database) (taskUuid : Uuid) : Prop :=
  (∀ t ∈ db.nodeTasks, t.taskUuid ≠ taskUuid) ∧ ∀ q ∈ db.panelRevokeTasks, q.taskUuid ≠ taskUuid

/-- A revoke task of the configuration is pending or in progress. -/
def RevokeOpen (db : Database) (id : ℕ) : Prop :=
  (∃ t ∈ db.nodeTasks, t.vpnConfigurationId = some id ∧ t.operation = .revokeClient ∧
      t.status.isOpen = true) ∨
    ∃ q ∈ db.panelRevokeTasks, q.vpnConfigurationId = id ∧ q.status.isOpen = true

/-- A provision task of the configuration owes a compensation. -/
def CompensationOpen (db : Database) (id : ℕ) : Prop :=
  ∃ p ∈ db.panelProvisionTasks, p.vpnConfigurationId = id ∧ p.compensationRequired = true ∧
    p.status.isOpen = true

/-- A revoke task of the generation is pending. -/
def RevokePending (db : Database) (id generation : ℕ) : Prop :=
  db.nodeTaskExists id .revokeClient generation (· = .pending) = true ∨
    db.panelRevokeTaskExists id generation (· = .pending) = true

instance (db : Database) (taskUuid : Uuid) : Decidable (db.FreshTask taskUuid) :=
  inferInstanceAs (Decidable (_ ∧ _))

instance (db : Database) (id : ℕ) : Decidable (db.RevokeOpen id) :=
  inferInstanceAs (Decidable (_ ∨ _))

instance (db : Database) (id : ℕ) : Decidable (db.CompensationOpen id) :=
  inferInstanceAs (Decidable (∃ p ∈ db.panelProvisionTasks, _))

instance (db : Database) (id generation : ℕ) : Decidable (db.RevokePending id generation) :=
  inferInstanceAs (Decidable (_ ∨ _))

variable {db : Database} {id : ℕ} {uuid : Uuid}

theorem FreshTask.nodeKey (h : db.FreshTask uuid) (hw : db.WellFormed) {t : NodeTask}
    (ht : t ∈ db.nodeTasks) (i g : ℕ) :
    t.idempotencyKey ≠ .provision i g uuid ∧ t.idempotencyKey ≠ .revoke i g uuid := by
  obtain ⟨j, g', o, -, -, -, -, -, -, -, hkey⟩ := hw.nodeTasks t ht
  have hne := h.1 t ht
  rcases hkey with ⟨-, hkey⟩ | ⟨-, hkey⟩ <;> rw [hkey] <;> simp [hne]

theorem FreshTask.panelKey (h : db.FreshTask uuid) (hw : db.WellFormed) {q : PanelRevokeTask}
    (hq : q ∈ db.panelRevokeTasks) (i g : ℕ) : q.idempotencyKey ≠ .panelRevoke i g uuid := by
  obtain ⟨o, -, -, -, -, hkey⟩ := hw.panelRevokeTasks q hq
  rw [hkey]
  simp [h.2 q hq]

end Database

open Database

namespace RevokeVpn

variable {settings : Settings} {ambient : Ambient} {db : Database} {id : ℕ}
  {c c' : VpnConfiguration} {e : ServerEndpoint}

/-- A revoke task is created when its generation has none yet. -/
theorem createTask_pending (settings : Settings) (e : ServerEndpoint) (hw : db.WellFormed) (hfresh : db.FreshTask ambient.taskUuid)
    (hfree : ∀ r t, db.taskOf id r = some t → t.operation = .revoke → t.generation ≠ c.generation) :
    ∃ plan db', createTask settings ambient db c id e = .ok (plan, db') ∧
      db'.vpnConfigurations = db.vpnConfigurations ∧ db'.RevokePending id c.generation ∧
      (db.nodeTasks.length < db'.nodeTasks.length ∨
        db.panelRevokeTasks.length < db'.panelRevokeTasks.length) := by
  unfold createTask
  cases hn : e.nodeId with
  | none =>
    have hphysical : ∀ q ∈ db.panelRevokeTasks,
        ¬ (q.vpnConfigurationId = id ∧ q.vpnGeneration = c.generation) := by
      rintro q hq ⟨hqid, hqg⟩
      obtain ⟨k, hk⟩ := List.mem_iff_getElem?.1 hq
      obtain ⟨d, f, hat⟩ := hw.panelRevokeTask hk
      have ht := hat.task
      rw [hqid] at ht
      exact hfree _ _ ht rfl hqg
    have hadd : db.addPanelRevokeTask (panelTaskOf settings ambient c id e) = .ok (_, _, _) :=
      addPanelRevokeTask_of_free hphysical hfresh.2 (fun q hq => hfresh.panelKey hw hq _ _)
    dsimp only
    rw [hadd]
    refine ⟨_, _, rfl, rfl, .inr ?_, .inr (by simp)⟩
    simp [panelRevokeTaskExists, panelTaskOf]
  | some nodeId =>
    have hconflicts : ∀ t ∈ db.nodeTasks,
        nodeTaskConflict (nodeTaskOf settings ambient c id nodeId e) t = false := by
      intro t ht
      obtain ⟨k, hk⟩ := List.mem_iff_getElem?.1 ht
      obtain ⟨op, j, g, d, f, hat⟩ := hw.nodeTask hk
      have hphysical : ¬ (t.vpnConfigurationId = some id ∧ t.operation = .revokeClient ∧
          t.vpnGeneration = some c.generation) := by
        rintro ⟨hid, hop, hg⟩
        obtain rfl := Option.some.inj (hat.configurationId.symm.trans hid)
        obtain rfl := Option.some.inj (hat.generationOf.symm.trans hg)
        have : op = .revoke := by
          cases op
          · cases hat.operation.symm.trans hop
          · rfl
        subst this
        exact hfree _ _ hat.task rfl rfl
      have huuid := hfresh.1 t ht
      have hkey := (hfresh.nodeKey hw ht id c.generation).2
      rw [← Bool.not_eq_true]
      intro hconflict
      simp only [nodeTaskConflict, nodeTaskOf, huuid, hkey, decide_false, Bool.false_or,
        Option.isSome_some, Bool.true_and, Bool.and_eq_true] at hconflict
      exact hphysical ⟨of_decide_eq_true hconflict.1.1, of_decide_eq_true hconflict.1.2,
        of_decide_eq_true hconflict.2⟩
    dsimp only
    rw [addNodeTask_of_free hconflicts]
    refine ⟨_, _, rfl, rfl, .inl ?_, .inl (by simp)⟩
    simp [nodeTaskExists, isVpnTask, nodeTaskOf]

theorem requestRevoke_isSome (hterm : c.isTerminal = false) :
    ∃ c', requestRevoke c = .ok (some c') := by
  unfold requestRevoke
  cases hs : c.status <;>
    simp_all [VpnConfiguration.isTerminal, VpnConfigurationStatus.isTerminal,
      VpnConfiguration.beginRevoke, VpnConfiguration.retryRevoke,
      VpnConfiguration.cancelProvisioningForRevoke, VpnConfiguration.requestCleanupFromFailed,
      VpnConfiguration.requestRevoke, Except.map]

/-- Nothing owns the current generation of a configuration that is not being revoked. -/
theorem revokeCurrent_eq (hfailed : c.status = .failed → c.desiredState = .active)
    (hfree : c.status = .revoking → ∀ r t, db.taskOf id r = some t → t.operation = .revoke →
      t.generation ≠ c.generation) :
    revokeCurrent settings ambient db c id e = startRevoke settings ambient db c id e := by
  have hex : existingCurrentRevokeTask ambient db c id e = .ok .nothing ∨
      (c.status ≠ .revoking ∧
        ∃ plan, existingCurrentRevokeTask ambient db c id e = .ok (.task plan)) := by
    unfold existingCurrentRevokeTask
    cases hn : e.nodeId with
    | none =>
      dsimp only
      split
      next => exact .inl rfl
      next q k hq =>
        obtain ⟨hrow, hp, -⟩ := Table.lastWhere_some hq
        simp only [Bool.and_eq_true, decide_eq_true_eq] at hp
        have hs : c.status ≠ .revoking := by
          intro hs
          refine hfree hs (.panelRevoke k) ⟨.revoke, q.vpnGeneration, q.status⟩ ?_ rfl hp.2
          rw [taskOf_eq_some]
          simp [taskAt, hrow, hp.1]
        simp only [hs, decide_false, Bool.false_and, Bool.and_false, Bool.false_eq_true, if_false]
        split_ifs
        · exact .inl rfl
        · exact .inr ⟨hs, _, rfl⟩
    | some nodeId =>
      dsimp only
      split
      next => exact .inl rfl
      next t k ht =>
        obtain ⟨hrow, hp, -⟩ := Table.lastWhere_some ht
        simp only [isVpnTask, Bool.and_eq_true, decide_eq_true_eq] at hp
        have hs : c.status ≠ .revoking := by
          intro hs
          refine hfree hs (.node k) ⟨.revoke, c.generation, t.status⟩ ?_ rfl rfl
          rw [taskOf_eq_some]
          have hop : t.operation = nodeOperation .revoke := hp.1.2
          simp [taskAt, hrow, NodeTask.lifecycle_eq hp.1.1 hp.2 hop]
        simp only [hs, decide_false, Bool.false_and, Bool.and_false, Bool.false_eq_true, if_false]
        exact .inr ⟨hs, _, rfl⟩
  unfold revokeCurrent
  rcases hex with hex | ⟨hs, plan, hex⟩
  · rw [hex]
    rfl
  · rw [hex]
    change (if c.status = .revoking then _ else _) = _
    rw [if_neg hs, if_neg]
    simp only [Bool.and_eq_true, decide_eq_true_eq, not_and]
    intro hf
    rw [hfailed hf]
    simp

/-- A request to revoke ends with a pending task of the current generation. -/
theorem preparePlan_pending (settings : Settings) (reason : VpnRevokeReason) (hw : db.WellFormed)
    (hinv : db.fleet.Inv)
    (hc : db.vpnConfigurations[id]? = some c) (hterm : c.isTerminal = false)
    (hfresh : db.FreshTask ambient.taskUuid)
    (haccess : reason = .expiration → db.hasAccess ambient.now c.subscriptionId = false)
    (hfree : c.status = .revoking → ∀ r t, db.taskOf id r = some t → t.operation = .revoke →
      t.generation ≠ c.generation) :
    ∃ plan db' c', preparePlan settings ambient db id reason = .ok (plan, db') ∧
      db'.vpnConfigurations[id]? = some c' ∧ c'.subscriptionId = c.subscriptionId ∧
      c'.status = .revoking ∧ db'.RevokePending id c'.generation ∧
      (db.nodeTasks.length < db'.nodeTasks.length ∨
        db.panelRevokeTasks.length < db'.panelRevokeTasks.length) := by
  obtain ⟨e, he, ha⟩ := hw.row hc
  have hagg := hinv.each _ _ ha
  have hfailed : c.status = .failed → c.desiredState = .active := by
    intro hs
    have hstatus := hagg.status
    simp only [Aggregate.StatusInv, aggregateOf, hs] at hstatus
    exact hstatus.1
  have hplan : preparePlan settings ambient db id reason =
      startRevoke settings ambient db c id e := by
    unfold preparePlan
    rw [getConfigurationWithEndpoint_eq_some.2 ⟨hc, he⟩]
    dsimp only
    rw [revokeCurrent_eq hfailed hfree]
    by_cases hreason : reason = .expiration
    · have hsub := List.getElem?_eq_getElem (hw.subscription id c hc)
      have hno := haccess hreason
      simp only [hasAccess, subscriptionIs, getSubscription, hsub, Option.any_some,
        hasCurrentPeriod_eq] at hno
      rw [if_pos hreason]
      simp only [getSubscription, hsub, hno]
      rfl
    · rw [if_neg hreason]
  obtain ⟨c', hc'⟩ := requestRevoke_isSome hterm
  have hrow : (db.saveConfiguration id c').vpnConfigurations[id]? = some c' :=
    (congrFun (Table.getElem?_set hc) id).trans (Function.update_self ..)
  have hwrote : ∃ a, db.Wrote id a (db.saveConfiguration id c') := by
    rcases requestRevoke_ok hc' with ⟨-, rfl⟩ | ⟨-, hid, hs', hd, hg⟩
    · exact ⟨_, (Wrote.refl hw ha).saveConfiguration c' hc rfl⟩
    · exact ⟨_, (Wrote.refl hw ha).saveRevoking c' hc hid hs' hd hg⟩
  obtain ⟨a, hwrote⟩ := hwrote
  have hs' : c'.status = .revoking := by
    rcases requestRevoke_ok hc' with ⟨hs, rfl⟩ | ⟨-, -, hs, -⟩ <;> exact hs
  have hsub' : c'.subscriptionId = c.subscriptionId := by
    rcases requestRevoke_ok hc' with ⟨-, rfl⟩ | ⟨-, hid, -⟩
    · rfl
    · exact congrArg Prod.fst hid
  have hfree' : ∀ r t, (db.saveConfiguration id c').taskOf id r = some t → t.operation = .revoke →
      t.generation ≠ c'.generation := by
    intro r t ht hop
    rcases requestRevoke_ok hc' with ⟨hs, rfl⟩ | ⟨-, -, -, -, hg⟩
    · exact hfree hs r t ht hop
    · have hle : t.generation ≤ c.generation := hagg.ledger.reached r t ht
      omega
  obtain ⟨plan, db', hcreate, hrows, hpending, hgrows⟩ :=
    createTask_pending settings e hwrote.wellFormed hfresh hfree'
  refine ⟨plan, db', c', ?_, by rw [hrows, hrow], hsub', hs', hpending, hgrows⟩
  rw [hplan]
  unfold startRevoke
  rw [if_neg (by rw [hterm]; simp), hc']
  exact hcreate

end RevokeVpn

/-! ## Lapsed customers -/

namespace Database

variable {db : Database} {now : DateTime} {id : ℕ} {c : VpnConfiguration} {e : ServerEndpoint}

theorem revokeOpen_of_task (hw : db.WellFormed) {r : TaskRef} {t : Lifecycle.Task}
    (ht : db.taskOf id r = some t) (hop : t.operation = .revoke) (hopen : t.status.isOpen = true) :
    db.RevokeOpen id := by
  obtain ⟨c, hc⟩ : ∃ c, db.vpnConfigurations[id]? = some c :=
    ⟨_, List.getElem?_eq_getElem (hw.taskAt_lt (taskOf_eq_some.1 ht))⟩
  obtain ⟨e, he, -⟩ := hw.row hc
  rcases hw.task_cases (owner_eq_some.2 ⟨c, e, hc, he, rfl⟩) ht with
    ⟨k, u, -, hu, -, hid, -, huop, hs⟩ | ⟨k, p, -, -, -, -, rfl⟩ | ⟨k, q, -, hq, -, hid, rfl⟩
  · rw [hop] at huop
    exact .inl ⟨u, List.mem_of_getElem? hu, hid, huop, hs ▸ hopen⟩
  · cases hop
  · exact .inr ⟨q, List.mem_of_getElem? hq, hid, hopen⟩

/-- While a configuration is being revoked, its current revoke is open or not there. -/
theorem no_revoke_of_not_open (hw : db.WellFormed) (hinv : db.fleet.Inv)
    (hc : db.vpnConfigurations[id]? = some c) (hopen : ¬ db.RevokeOpen id)
    (hs : c.status = .revoking) :
    ∀ r t, db.taskOf id r = some t → t.operation = .revoke → t.generation ≠ c.generation := by
  intro r t ht hop hg
  obtain ⟨e, -, ha⟩ := hw.row hc
  have hstatus := (hinv.each _ _ ha).status
  simp only [Aggregate.StatusInv, aggregateOf, hs] at hstatus
  exact hopen (revokeOpen_of_task hw ht hop (hstatus.2.1 r t ht hop hg))

theorem mem_revokeVpn (hc : db.vpnConfigurations[id]? = some c) (hw : db.WellFormed)
    (hterm : c.isTerminal = false) (hs : c.status ≠ .revoking)
    (hno : db.hasAccess now c.subscriptionId = false) :
    ⟨.revokeVpn, id⟩ ∈ db.reconciliationAnomalies now := by
  have hsub := List.getElem?_eq_getElem (hw.subscription id c hc)
  have hlive : c.status ∈ REMOTE_LIVE_VPN_STATUSES := by
    rw [VpnConfiguration.isTerminal] at hterm
    generalize c.status = st at *
    cases st <;> first | decide | exact absurd rfl hs | cases hterm
  have hmem : ⟨.revokeVpn, id⟩ ∈ db.revokeVpn now := by
    refine List.mem_map.2 ⟨(c, id), Table.mem_select.2 ⟨hc, ?_⟩, rfl⟩
    simp only [hasAccess, subscriptionIs, getSubscription, hsub, Option.any_some,
      Bool.and_eq_false_iff, decide_eq_false_iff_not] at hno
    simp only [subscriptionIs, getSubscription, hsub, Option.any_some, hlive, decide_true,
      Bool.true_and, Bool.or_eq_true, decide_eq_true_eq, Bool.not_eq_true']
    exact hno
  simp only [reconciliationAnomalies, List.mem_append]
  exact .inl (.inl (.inl (.inl (.inr hmem))))

theorem mem_repairRevoke (hc : db.vpnConfigurations[id]? = some c)
    (he : db.serverEndpoints[c.serverEndpointId]? = some e) (hpanel : e.nodeId = none)
    (hs : c.status = .revoking) (hd : c.desiredState = .revoked)
    (hfree : ∀ r t, db.taskOf id r = some t → t.operation = .revoke →
      t.generation ≠ c.generation) :
    ⟨.repairRevoke, id⟩ ∈ db.reconciliationAnomalies now := by
  have hnone : db.panelRevokeTaskExists id c.generation (fun _ => true) = false := by
    refine Table.any_eq_false_iff.2 fun k q hq => ?_
    rw [← Bool.not_eq_true]
    intro hp
    simp only [Bool.and_true, Bool.and_eq_true, decide_eq_true_eq] at hp
    refine hfree (.panelRevoke k) ⟨.revoke, q.vpnGeneration, q.status⟩ ?_ rfl hp.2
    rw [taskOf_eq_some]
    simp [taskAt, hq, hp.1]
  have hmem : ⟨.repairRevoke, id⟩ ∈ db.repairRevoke := by
    refine List.mem_map.2 ⟨(c, id), List.mem_filter.2 ⟨Table.mem_select.2 ⟨hc, ?_⟩, ?_⟩, rfl⟩
    · simp [hs, hd]
    · simp [he, revokeNeedsRepair, hpanel, hnone]
  simp only [reconciliationAnomalies, List.mem_append]
  exact .inr hmem

end Database

namespace System

variable {settings : Settings} {s s' : System} {id : ℕ} {c : VpnConfiguration} {now : DateTime}

/-- The job of the anomaly revokes the configuration, in every later state in which the
configuration is as it was and no revoke has been started. -/
def Removes (settings : Settings) (s : System) (id : ℕ) (c : VpnConfiguration)
    (reason : VpnRevokeReason) : Prop :=
  ∀ (t : System) (ambient : Ambient), Relation.ReflTransGen (Step settings) s t →
    t.db.vpnConfigurations[id]? = some c → ¬ t.db.RevokeOpen id →
    t.db.FreshTask ambient.taskUuid → t.db.hasAccess ambient.now c.subscriptionId = false →
    ∃ t' c', t.exec settings (.revokeVpn ambient id reason) = some t' ∧
      t'.db.vpnConfigurations[id]? = some c' ∧ (c'.status = .revoked ∨
        (c'.status = .revoking ∧ t'.db.RevokePending id c'.generation))

theorem commit_of_ok {α : Type} {result : Except Error (α × Database)} {r : α} {db : Database}
    (h : result = .ok (r, db)) : s.commit result = some { s with db := db } := by
  rw [h]
  rfl

theorem Reachable.removes (h : Reachable settings s) (hterm : c.isTerminal = false)
    (reason : VpnRevokeReason) : Removes settings s id c reason := by
  intro t ambient hr hc hopen hfresh hno
  obtain ⟨hw, hinv⟩ := (h.steps hr).inv
  obtain ⟨plan, db', c', hplan, hrow, -, hs, hpending, -⟩ :=
    RevokeVpn.preparePlan_pending settings reason hw hinv hc hterm hfresh
      (fun _ => hno) fun hs => no_revoke_of_not_open hw hinv hc hopen hs
  exact ⟨_, c', commit_of_ok hplan, hrow, .inr ⟨hs, hpending⟩⟩

/-- A live configuration of a customer without access is being removed, or an anomaly is
listed whose job removes it. -/
theorem lapsed_customers_are_reconciled (h : Reachable settings s)
    (hc : s.db.vpnConfigurations[id]? = some c) (hterm : c.isTerminal = false)
    (hno : s.db.hasAccess now c.subscriptionId = false) :
    (s.db.RevokeOpen id ∨ s.db.CompensationOpen id) ∨
      ∃ a reason, a.entityId = id ∧ ReconcileSubscriptions.jobOf a =
          some (.revokeVpnConfiguration id reason) ∧
        (∀ limit, (s.db.reconciliationAnomalies now).length ≤ limit →
          a ∈ s.db.listReconciliationAnomalies now 0 0 limit) ∧
        Removes settings s id c reason := by
  obtain ⟨hw, hinv⟩ := h.inv
  by_cases hopen : s.db.RevokeOpen id
  · exact .inl (.inl hopen)
  right
  by_cases hs : c.status = .revoking
  · obtain ⟨e, he, ha⟩ := hw.row hc
    have hfree := no_revoke_of_not_open hw hinv hc hopen hs
    have hstatus := (hinv.each _ _ ha).status
    simp only [Aggregate.StatusInv, aggregateOf, hs] at hstatus
    have hpanel : e.nodeId = none := by
      cases hn : e.nodeId with
      | none => rfl
      | some n =>
        obtain ⟨r, t, ht, hop, -, ht'⟩ := hstatus.2.2 (route_node hn)
        exact absurd (revokeOpen_of_task hw ht hop ht') hopen
    exact ⟨⟨.repairRevoke, id⟩, .force, rfl, rfl, fun limit hl => mem_listReconciliationAnomalies
      (mem_repairRevoke hc he hpanel hs hstatus.1 hfree) hl, h.removes hterm _⟩
  · exact ⟨⟨.revokeVpn, id⟩, .expiration, rfl, rfl, fun limit hl => mem_listReconciliationAnomalies
      (mem_revokeVpn hc hw hterm hs hno) hl, h.removes hterm _⟩

/-- The month of the first customer is over while the configuration is active. -/
theorem lapsed_customers_are_reconciled_shop : ∃ a reason c,
    ReconcileSubscriptions.jobOf a = some (.revokeVpnConfiguration 0 reason) ∧
      a ∈ ((shop nodeEndpoint).after shopSettings
        (claimed ++ [confirm 2 "provisioned"])).db.listReconciliationAnomalies (days 31) 0 0 9 ∧
      Removes shopSettings
        ((shop nodeEndpoint).after shopSettings (claimed ++ [confirm 2 "provisioned"])) 0 c
        reason := by
  have hr : Reachable shopSettings
      ((shop nodeEndpoint).after shopSettings (claimed ++ [confirm 2 "provisioned"])) :=
    .after (shop_initial _) (by decide +kernel)
  obtain ⟨c, hc, hcond⟩ : ∃ c, ((shop nodeEndpoint).after shopSettings
      (claimed ++ [confirm 2 "provisioned"])).db.vpnConfigurations[0]? = some c ∧
        (!c.isTerminal && c.subscriptionId = 0) = true :=
    (Option.any_eq_true _ _).1 (by decide +kernel)
  simp only [Bool.and_eq_true, Bool.not_eq_true', decide_eq_true_eq] at hcond
  have hno : ((shop nodeEndpoint).after shopSettings
      (claimed ++ [confirm 2 "provisioned"])).db.hasAccess (days 31) c.subscriptionId = false := by
    rw [hcond.2]
    decide +kernel
  rcases lapsed_customers_are_reconciled hr hc hcond.1 hno with
    hopen | ⟨a, reason, -, hjob, hlist, hremoves⟩
  · exact absurd hopen (by decide +kernel)
  · exact ⟨a, reason, c, hjob, hlist 9 (by decide +kernel), hremoves⟩

end System

end ShopBot
