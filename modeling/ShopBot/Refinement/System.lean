import ShopBot.Refinement.Billing
import ShopBot.Refinement.NodeDispatch
import ShopBot.Refinement.PanelDispatch
import ShopBot.Refinement.Planning
import ShopBot.Refinement.Settlement
import ShopBot.System.Command

/-! # The system refines the fleet

Every command is a run of the fleet by the tasks it works on. So every reachable state
holds a well formed database whose fleet satisfies the invariant of the lifecycle.
-/

namespace ShopBot

open Lifecycle Database

/-- A change of the database that the lifecycle explains. -/
structure Database.Evolves (now : DateTime) (admin : Billing.Actor) (actors : Actor TaskRef → Prop)
    (db db' : Database) : Prop where
  wellFormed : db'.WellFormed
  keeps : db.Keeps db'
  run : Fleet.Run (db.Funded now) actors db.fleet db'.fleet
  subscriptions : db.subscriptions.length ≤ db'.subscriptions.length
  endpoint : ∀ (i : ℕ) (e : ServerEndpoint), db.serverEndpoints[i]? = some e →
    db'.serverEndpoints[i]? = some e
  billing : Billing.Run admin db.billingLedger db'.billingLedger

theorem Database.Refines.billingLedger {db db' : Database} {now : DateTime}
    {actors : Actor TaskRef → Prop} (h : db.Refines now actors db') :
    db'.billingLedger = db.billingLedger := by
  have hb : db'.billing.billingLedger = db.billing.billingLedger := by rw [h.billing]
  exact hb

theorem Database.Refines.evolves {db db' : Database} {now : DateTime} {admin : Billing.Actor}
    {actors : Actor TaskRef → Prop} (h : db.Refines now actors db') :
    db.Evolves now admin actors db' := by
  have hs : db'.billing.subscriptions = db.billing.subscriptions := by rw [h.billing]
  have he : db'.billing.serverEndpoints = db.billing.serverEndpoints := by rw [h.billing]
  change db'.subscriptions = db.subscriptions at hs
  change db'.serverEndpoints = db.serverEndpoints at he
  exact ⟨h.wellFormed, h.keeps, h.run, by rw [hs], fun i e hi => by rwa [he],
    by rw [h.billingLedger]⟩

theorem Database.KeepsVpn.evolves {db db' : Database} {now : DateTime} {admin : Billing.Actor}
    {actors : Actor TaskRef → Prop} (h : db.KeepsVpn db')
    (hr : Billing.Run admin db.billingLedger db'.billingLedger) (hw : db.WellFormed) :
    db.Evolves now admin actors db' := by
  have he : db'.serverEndpoints = db.serverEndpoints := by
    have ht := h.tables
    simp only [vpnTables, Prod.mk.injEq] at ht
    exact ht.2.1
  exact ⟨h.wellFormed hw, h.keeps, by rw [h.fleet]; exact .refl, h.subscriptions,
    fun i e hi => by rwa [he], hr⟩

/-- A configuration of a well formed database, as the fleet shows it. -/
theorem Database.WellFormed.row {db : Database} {id : ℕ} {c : VpnConfiguration}
    (hw : db.WellFormed) (hc : db.vpnConfigurations[id]? = some c) :
    ∃ e, db.serverEndpoints[c.serverEndpointId]? = some e ∧
      db.fleet id = some (db.aggregateOf id c e) := by
  obtain ⟨e, he⟩ := hw.endpoint id c hc
  exact ⟨e, he, fleet_of_row hc he⟩

/-- A configuration stays, with its owner. -/
theorem Database.Evolves.row {db db' : Database} {now : DateTime} {admin : Billing.Actor}
    {actors : Actor TaskRef → Prop} {id : ℕ} {c : VpnConfiguration} (h : db.Evolves now admin actors db') (hw : db.WellFormed)
    (hc : db.vpnConfigurations[id]? = some c) :
    ∃ c', db'.vpnConfigurations[id]? = some c' ∧ c'.subscriptionId = c.subscriptionId ∧
      c'.clientUuid = c.clientUuid := by
  obtain ⟨e, he⟩ := hw.endpoint id c hc
  obtain ⟨c', e', hc', -, ho⟩ := owner_eq_some.1 (h.keeps.owner _ _ (owner_eq_some.2 ⟨c, e, hc, he, rfl⟩))
  rw [Owner.mk.injEq] at ho
  exact ⟨c', hc', ho.1.symm, ho.2.2.symm⟩

/-- The clock of the transactions on configurations. -/
def Command.now : Command → DateTime
  | .provisionVpn ambient _ | .revokeVpn ambient _ _ | .prepareNode ambient _
  | .finalizeNode ambient _ _ | .recoverNodes ambient _ _ | .preparePanel ambient _
  | .finalizeProvision ambient _ | .failProvision ambient _ _ | .recordCompensation ambient _
  | .recordCompensationFailure ambient _ _ | .recoverPanelProvisions ambient _ _
  | .preparePanelRevoke ambient _ | .finalizePanelRevoke ambient _ | .failPanelRevoke ambient _ _
  | .recoverPanelRevokes ambient _ _ => ambient.now
  | _ => 0

/-- A transaction on configurations and their tasks. -/
def Command.onVpn : Command → Bool
  | .createPayment .. | .finalizeInvoice .. | .failInvoice .. | .ingestWebhook ..
  | .processPayment .. | .markPaymentOrderPaid .. | .listAnomalies .. | .processAnomaly ..
  | .administer .. => false
  | _ => true

/-- The order that an administrator settles by hand. -/
def Command.settles : Command → ℕ → Prop
  | .markPaymentOrderPaid orderId _, k => k = orderId
  | _, _ => False

/-- The event that a command processes. -/
def Command.processes : Command → ℕ → Prop
  | .processPayment _ eventId, i => i = eventId
  | _, _ => False

def Command.billing (cmd : Command) : Billing.Actor := ⟨cmd.settles, cmd.processes⟩

namespace System

variable {settings : Settings} {s s' : System} {cmd : Command}

/-- The reply reports that the operation of the task has succeeded. -/
def Accepted (s : System) (taskId : ℕ) (reply : NodeReply) : Prop :=
  ∃ r t, reply = .response r ∧ s.db.getNodeTask taskId = some t ∧
    t.acceptsRemoteStatus (r.status.getD "failed") = true

/-- The tasks that act in a command. -/
def actors (s : System) : Command → Actor TaskRef → Prop
  | .provisionVpn _ _, x | .revokeVpn _ _ _, x =>
    x = .request ∨ ∃ r, x = .success r ∧ s.db.HasSucceeded r
  | .prepareNode _ k, x => x = .attempt (.node k)
  | .finalizeNode _ worker reply, x => ∃ w, s.nodeDispatches[worker]? = some w ∧
    (x = .attempt (.node w.prepared.taskId) ∨
      (x = .success (.node w.prepared.taskId) ∧ s.Accepted w.prepared.taskId reply))
  | .recoverNodes ambient locked limit, x =>
    ∃ k ∈ staleIds (s.db.nodeTasks.map (·.toDurableTask)) ambient.now locked limit,
      x = .attempt (.node k)
  | .preparePanel _ k, x => x = .attempt (.panelProvision k)
  | .finalizeProvision _ worker, x => ∃ w, s.panelDispatches[worker]? = some w ∧
    x = .success (.panelProvision w.prepared.taskId)
  | .failProvision _ worker _, x | .recordCompensationFailure _ worker _, x =>
    ∃ w, s.panelDispatches[worker]? = some w ∧ x = .attempt (.panelProvision w.prepared.taskId)
  | .recordCompensation _ worker, x => ∃ w, s.panelDispatches[worker]? = some w ∧
    (x = .attempt (.panelProvision w.prepared.taskId) ∨
      x = .compensation (.panelProvision w.prepared.taskId))
  | .recoverPanelProvisions ambient locked limit, x =>
    ∃ k ∈ staleIds (s.db.panelProvisionTasks.map (·.toDurableTask)) ambient.now locked limit,
      x = .attempt (.panelProvision k)
  | .preparePanelRevoke _ k, x => x = .attempt (.panelRevoke k)
  | .finalizePanelRevoke _ worker, x => ∃ w, s.panelRevokeDispatches[worker]? = some w ∧
    x = .success (.panelRevoke w.prepared.taskId)
  | .failPanelRevoke _ worker _, x => ∃ w, s.panelRevokeDispatches[worker]? = some w ∧
    x = .attempt (.panelRevoke w.prepared.taskId)
  | .recoverPanelRevokes ambient locked limit, x =>
    ∃ k ∈ staleIds (s.db.panelRevokeTasks.map (·.toDurableTask)) ambient.now locked limit,
      x = .attempt (.panelRevoke k)
  | _, _ => False

/-! ## Committed transactions -/

theorem toOption_eq_some {α : Type} {x : Except Error α} {a : α} (h : x.toOption = some a) :
    x = .ok a := by
  cases x with
  | error e => cases h
  | ok b => exact congrArg _ (Option.some.inj h)

theorem commit_eq_some {α : Type} {result : Except Error (α × Database)}
    (h : s.commit result = some s') : ∃ r, result = .ok (r, s'.db) := by
  obtain ⟨⟨r, db⟩, hr, rfl⟩ := Option.map_eq_some_iff.1 h
  exact ⟨r, toOption_eq_some hr⟩

theorem commitDb_eq_some {result : Except Error Database} (h : s.commitDb result = some s') :
    result = .ok s'.db := by
  obtain ⟨db, hr, rfl⟩ := Option.map_eq_some_iff.1 h
  exact toOption_eq_some hr

theorem finalizeNode_eq_some {ambient : Ambient} {worker : ℕ} {reply : NodeReply}
    (h : s.finalizeNode settings ambient worker reply = some s') :
    ∃ w f, s.nodeDispatches[worker]? = some w ∧ w.finished = false ∧
      DispatchNodeTask.finalize settings ambient s.db w.prepared reply = .ok (f, s'.db) ∧
      s' = { s with
        db := s'.db
        nodeDispatches := s.nodeDispatches.set worker { w with finished := true } } := by
  obtain ⟨w, hw, h⟩ := Option.bind_eq_some_iff.1 h
  split_ifs at h with hf
  obtain ⟨⟨f, db⟩, hr, h⟩ := Option.bind_eq_some_iff.1 h
  cases h
  exact ⟨w, f, hw, by simpa using hf, toOption_eq_some hr, rfl⟩

theorem panelTransaction_eq_some {worker : ℕ} {stage : PanelStage}
    {run : PreparedPanelDispatch → Except Error (PanelStage × Database)}
    (h : s.panelTransaction worker stage run = some s') :
    ∃ w next, s.panelDispatches[worker]? = some w ∧ w.stage = stage ∧
      run w.prepared = .ok (next, s'.db) ∧ s' = { s with
        db := s'.db
        panelDispatches := s.panelDispatches.set worker { w with stage := next } } := by
  obtain ⟨w, hw, h⟩ := Option.bind_eq_some_iff.1 h
  split_ifs at h with hstage
  obtain ⟨⟨next, db⟩, hr, h⟩ := Option.bind_eq_some_iff.1 h
  cases h
  exact ⟨w, next, hw, not_not.1 hstage, toOption_eq_some hr, rfl⟩

theorem panelRevokeTransaction_eq_some {worker : ℕ}
    {run : PreparedPanelRevoke → Except Error (String × Database)}
    (h : s.panelRevokeTransaction worker run = some s') :
    ∃ w status, s.panelRevokeDispatches[worker]? = some w ∧ w.finished = false ∧
      run w.prepared = .ok (status, s'.db) ∧ s' = { s with
        db := s'.db
        panelRevokeDispatches := s.panelRevokeDispatches.set worker { w with finished := true } } := by
  obtain ⟨w, hw, h⟩ := Option.bind_eq_some_iff.1 h
  split_ifs at h with hf
  obtain ⟨⟨status, db⟩, hr, h⟩ := Option.bind_eq_some_iff.1 h
  cases h
  exact ⟨w, status, hw, by simpa using hf, toOption_eq_some hr, rfl⟩

theorem prepareNode_eq_some {ambient : Ambient} {taskId : ℕ}
    (h : s.prepareNode settings ambient taskId = some s') :
    ∃ preparation, DispatchNodeTask.prepare settings ambient s.db taskId =
        .ok (preparation, s'.db) ∧ s' = { s with
        db := s'.db
        nodeDispatches := match preparation with
          | .prepared p => s.nodeDispatches ++ [{ prepared := p }]
          | .result _ => s.nodeDispatches } := by
  obtain ⟨⟨preparation, db⟩, hr, h⟩ := Option.bind_eq_some_iff.1 h
  cases preparation <;> cases h <;> exact ⟨_, toOption_eq_some hr, rfl⟩

theorem preparePanel_eq_some {ambient : Ambient} {taskId : ℕ}
    (h : s.preparePanel settings ambient taskId = some s') :
    ∃ preparation, DispatchPanelProvisionTask.prepare settings ambient s.db taskId =
        .ok (preparation, s'.db) ∧ s' = { s with
        db := s'.db
        panelDispatches := match preparation with
          | .prepared p => s.panelDispatches ++ [{ prepared := p, stage := stageOf p.action }]
          | .result _ => s.panelDispatches } := by
  obtain ⟨⟨preparation, db⟩, hr, h⟩ := Option.bind_eq_some_iff.1 h
  cases preparation <;> cases h <;> exact ⟨_, toOption_eq_some hr, rfl⟩

theorem preparePanelRevoke_eq_some {ambient : Ambient} {taskId : ℕ}
    (h : s.preparePanelRevoke settings ambient taskId = some s') :
    ∃ preparation, DispatchPanelRevokeTask.prepare settings ambient s.db taskId =
        .ok (preparation, s'.db) ∧ s' = { s with
        db := s'.db
        panelRevokeDispatches := match preparation with
          | .prepared p => s.panelRevokeDispatches ++ [{ prepared := p }]
          | .result _ => s.panelRevokeDispatches } := by
  obtain ⟨⟨preparation, db⟩, hr, h⟩ := Option.bind_eq_some_iff.1 h
  cases preparation <;> cases h <;> exact ⟨_, toOption_eq_some hr, rfl⟩

/-! ## Every command -/

theorem administer_evolves {db : Database} {nodes : List Node} {tariffs : List Tariff}
    {endpoints : List ServerEndpoint} {now : DateTime} {admin : Billing.Actor} {x : Actor TaskRef → Prop}
    (hw : db.WellFormed) : db.Evolves now admin x { db with
      nodes := nodes
      tariffs := tariffs
      serverEndpoints := db.serverEndpoints ++ endpoints } := by
  have hkeep : ∀ {i : ℕ} {e : ServerEndpoint}, db.serverEndpoints[i]? = some e →
      (db.serverEndpoints ++ endpoints)[i]? = some e := fun {i e} he => by
    rw [List.getElem?_append_left (List.getElem?_eq_some_iff.1 he).1]
    exact he
  have hrow : { db with
      nodes := nodes
      tariffs := tariffs
      serverEndpoints := db.serverEndpoints ++ endpoints }.getConfigurationWithEndpoint =
        db.getConfigurationWithEndpoint := by
    funext id
    unfold getConfigurationWithEndpoint
    cases hc : db.vpnConfigurations[id]? with
    | none => rfl
    | some c =>
      obtain ⟨e, he⟩ := hw.endpoint id c hc
      simp only [he, hkeep he, bind, Option.bind]
  have howner : { db with
      nodes := nodes
      tariffs := tariffs
      serverEndpoints := db.serverEndpoints ++ endpoints }.owner = db.owner := by
    funext id
    unfold owner
    rw [hrow]
  refine ⟨⟨fun id c hc => ?_, hw.subscription, hw.clientUuid, ?_, ?_, ?_⟩,
    ⟨fun j o ho => by rwa [howner], .refl, .refl, .refl⟩, ?_, Nat.le_refl _, fun i e => hkeep, .refl⟩
  · obtain ⟨e, he⟩ := hw.endpoint id c hc
    exact ⟨e, hkeep he⟩
  · rw [howner]
    exact hw.nodeTasks
  · rw [howner]
    exact hw.panelProvisionTasks
  · rw [howner]
    exact hw.panelRevokeTasks
  · have hf : { db with
        nodes := nodes
        tariffs := tariffs
        serverEndpoints := db.serverEndpoints ++ endpoints }.fleet = db.fleet := by
      funext id
      unfold fleet
      rw [hrow]
      rfl
    rw [hf]
    exact .refl

/-- Every transaction on configurations and tasks is a run by the tasks that act in it. -/
theorem exec_refines (hw : s.db.WellFormed) (h : s.exec settings cmd = some s')
    (hcmd : cmd.onVpn = true) : s.db.Refines cmd.now (s.actors cmd) s'.db := by
  cases cmd with
  | provisionVpn ambient subscriptionId =>
    obtain ⟨r, h⟩ := commit_eq_some h
    exact ProvisionVpn.preparePlan_refines hw (.inl rfl) (fun r hr => .inr ⟨r, rfl, hr⟩) h
  | revokeVpn ambient id reason =>
    obtain ⟨r, h⟩ := commit_eq_some h
    exact RevokeVpn.preparePlan_refines hw (.inl rfl) (fun r hr => .inr ⟨r, rfl, hr⟩) h
  | prepareNode ambient taskId =>
    have hactor : s.actors (.prepareNode ambient taskId) (.attempt (.node taskId)) := rfl
    obtain ⟨p, h, -⟩ := prepareNode_eq_some h
    exact DispatchNodeTask.prepare_refines hw hactor h
  | finalizeNode ambient worker reply =>
    obtain ⟨w, f, hrow, -, h, -⟩ := finalizeNode_eq_some h
    exact DispatchNodeTask.finalize_refines hw ⟨w, hrow, .inl rfl⟩
      (fun r t hr ht ha => ⟨w, hrow, .inr ⟨rfl, r, t, hr, ht, ha⟩⟩) h
  | recoverNodes ambient locked limit =>
    exact DispatchNodeTask.recoverAll_refines hw (fun k hk => ⟨k, hk, rfl⟩)
      (commitDb_eq_some h)
  | preparePanel ambient taskId =>
    have hactor : s.actors (.preparePanel ambient taskId) (.attempt (.panelProvision taskId)) := rfl
    obtain ⟨p, h, -⟩ := preparePanel_eq_some h
    exact DispatchPanelProvisionTask.prepare_refines hw hactor h
  | finalizeProvision ambient worker =>
    simp only [exec] at h
    obtain ⟨w, next, hrow, -, h, -⟩ := panelTransaction_eq_some h
    obtain ⟨⟨outcome, db⟩, hf, hr⟩ := bind_eq_ok.1 h
    cases hr
    exact DispatchPanelProvisionTask.finalizeProvisionSuccess_refines hw ⟨w, hrow, rfl⟩ hf
  | abortProvision worker =>
    simp only [exec] at h
    obtain ⟨w, next, hrow, -, h, -⟩ := panelTransaction_eq_some h
    have hdb : s.db = s'.db := congrArg Prod.snd (Except.ok.inj h)
    rw [← hdb]
    exact .refl hw
  | failProvision ambient worker errorName =>
    simp only [exec] at h
    obtain ⟨w, next, hrow, -, h, -⟩ := panelTransaction_eq_some h
    obtain ⟨⟨status, db⟩, h, hr⟩ := bind_eq_ok.1 h
    cases hr
    exact DispatchPanelProvisionTask.finalizeRemoteFailure_refines hw ⟨w, hrow, rfl⟩ h
  | recordCompensation ambient worker =>
    simp only [exec] at h
    obtain ⟨w, next, hrow, -, h, -⟩ := panelTransaction_eq_some h
    obtain ⟨⟨status, db⟩, h, hr⟩ := bind_eq_ok.1 h
    cases hr
    exact DispatchPanelProvisionTask.recordCompensationSuccess_refines hw
      ⟨w, hrow, .inl rfl⟩ ⟨w, hrow, .inr rfl⟩ h
  | recordCompensationFailure ambient worker errorName =>
    simp only [exec] at h
    obtain ⟨w, next, hrow, -, h, -⟩ := panelTransaction_eq_some h
    obtain ⟨db, h, hr⟩ := bind_eq_ok.1 h
    cases hr
    exact DispatchPanelProvisionTask.recordCompensationFailure_refines hw
      ⟨w, hrow, rfl⟩ h
  | recoverPanelProvisions ambient locked limit =>
    exact DispatchPanelProvisionTask.recoverAll_refines hw (fun k hk => ⟨k, hk, rfl⟩)
      (commitDb_eq_some h)
  | preparePanelRevoke ambient taskId =>
    have hactor : s.actors (.preparePanelRevoke ambient taskId) (.attempt (.panelRevoke taskId)) := rfl
    obtain ⟨p, h, -⟩ := preparePanelRevoke_eq_some h
    exact DispatchPanelRevokeTask.prepare_refines hw hactor h
  | finalizePanelRevoke ambient worker =>
    obtain ⟨w, status, hrow, -, h, -⟩ := panelRevokeTransaction_eq_some h
    exact DispatchPanelRevokeTask.finalizeSuccess_refines hw ⟨w, hrow, rfl⟩ h
  | failPanelRevoke ambient worker errorName =>
    simp only [exec] at h
    obtain ⟨w, status, hrow, -, h, -⟩ := panelRevokeTransaction_eq_some h
    exact DispatchPanelRevokeTask.finalizeFailure_refines hw ⟨w, hrow, rfl⟩ h
  | recoverPanelRevokes ambient locked limit =>
    exact DispatchPanelRevokeTask.recoverAll_refines hw (fun k hk => ⟨k, hk, rfl⟩)
      (commitDb_eq_some h)
  | createPayment | finalizeInvoice | failInvoice | ingestWebhook | processPayment |
    markPaymentOrderPaid | listAnomalies | processAnomaly | administer => cases hcmd

/-- Every command is a run of the fleet by the tasks that act in it. -/
theorem exec_evolves (hw : s.db.WellFormed) (h : s.exec settings cmd = some s') :
    s.db.Evolves cmd.now cmd.billing (s.actors cmd) s'.db := by
  cases cmd with
  | createPayment request now leaseSeconds token =>
    obtain ⟨⟨p, db⟩, hr, h⟩ := Option.bind_eq_some_iff.1 h
    have hk := CreatePayment.prepareOrder_keepsVpn (toOption_eq_some hr)
    have hb : Billing.Run (Command.createPayment request now leaseSeconds token).billing
        s.db.billingLedger db.billingLedger := CreatePayment.prepareOrder_run (toOption_eq_some hr)
    dsimp only at h
    split_ifs at h <;> cases h <;> exact hk.evolves hb hw
  | finalizeInvoice claim intent now =>
    obtain ⟨w, hrow, h⟩ := Option.bind_eq_some_iff.1 h
    split_ifs at h
    obtain ⟨db, hr, h⟩ := Option.bind_eq_some_iff.1 h
    cases h
    obtain ⟨⟨a, db₁⟩, hf, hr⟩ := bind_eq_ok.1 (toOption_eq_some hr)
    cases hr
    exact (CreatePayment.finalizeOwnedClaim_keepsVpn hf).evolves
      (CreatePayment.finalizeOwnedClaim_run hf) hw
  | failInvoice claim now =>
    obtain ⟨w, hrow, h⟩ := Option.bind_eq_some_iff.1 h
    split_ifs at h
    obtain ⟨db, hr, h⟩ := Option.bind_eq_some_iff.1 h
    cases h
    have hf := toOption_eq_some hr
    exact (CreatePayment.failOwnedClaim_keepsVpn hf).evolves
      (CreatePayment.failOwnedClaim_run hf) hw
  | ingestWebhook provider webhook headers rawPayload now =>
    obtain ⟨r, h⟩ := commit_eq_some h
    exact (IngestWebhook.execute_keepsVpn h).evolves (IngestWebhook.execute_run h) hw
  | processPayment now eventId =>
    obtain ⟨r, h⟩ := commit_eq_some h
    exact (ProcessPayment.execute_keepsVpn h).evolves (ProcessPayment.execute_run rfl h) hw
  | markPaymentOrderPaid orderId now =>
    obtain ⟨r, h⟩ := commit_eq_some h
    exact (AdminOperations.markPaymentOrderPaid_keepsVpn h).evolves
      (AdminOperations.markPaymentOrderPaid_run rfl h) hw
  | listAnomalies now afterKindOrder afterEntityId limit =>
    cases h
    exact (KeepsVpn.refl s.db).evolves .refl hw
  | processAnomaly batch index =>
    obtain ⟨b, -, h⟩ := Option.bind_eq_some_iff.1 h
    obtain ⟨a, -, h⟩ := Option.bind_eq_some_iff.1 h
    cases h
    exact (ReconcileSubscriptions.processAnomaly_keepsVpn a).evolves
      (ReconcileSubscriptions.processAnomaly_run a) hw
  | administer nodes tariffs endpoints =>
    cases h
    exact administer_evolves hw
  | _ => exact (exec_refines hw h rfl).evolves

/-! ## Reachable states -/

theorem initial_inv (h : Initial s) : s.db.WellFormed ∧ s.db.fleet.Inv := by
  rw [h]
  refine ⟨⟨by simp, by simp, by simp, by simp, by simp, by simp⟩, ?_⟩
  exact ⟨fun id a ha => (nomatch ha), fun j k a b _ ha => (nomatch ha)⟩

/-- Every reachable database is well formed, and its fleet satisfies the invariant. -/
theorem Reachable.inv (h : Reachable settings s) : s.db.WellFormed ∧ s.db.fleet.Inv := by
  have hstep : ∀ s s' : System, Reachable settings s → s.db.WellFormed ∧ s.db.fleet.Inv →
      Step settings s s' → s'.db.WellFormed ∧ s'.db.fleet.Inv := by
    rintro s s' - ⟨hw, hinv⟩ ⟨cmd, hcmd⟩
    have he := exec_evolves hw hcmd
    exact ⟨he.wellFormed, he.run.inv hinv⟩
  exact Transition.Reachable.invariant (fun s : System => s.db.WellFormed ∧ s.db.fleet.Inv)
    (fun _ => initial_inv) hstep h

end System

end ShopBot
