import ShopBot.Guarantees.Fencing
import ShopBot.Refinement.NodeFrame
import ShopBot.Refinement.Workers

/-! # The ledger of node tasks

Every command is a run of the ledger, so its rules hold in every reachable state: the
attempts of a task are numbered without gaps, the last one is open exactly while a worker
owns the task, and what has ended is not written again.
-/

namespace ShopBot

open Database Relation

theorem Database.KeepsVpn.nodeLedger {db db' : Database} (h : db.KeepsVpn db') :
    db'.nodeLedger = db.nodeLedger := by
  have ht := h.tables
  simp only [vpnTables, Prod.mk.injEq] at ht
  obtain ⟨-, -, h₃, -, -, h₆⟩ := ht
  unfold Database.nodeLedger
  rw [h₃, h₆]

namespace System

variable {settings : Settings} {s s' : System} {cmd : Command}

/-- The ledger is in order, and every worker holds the attempt it has been given. -/
structure LedgerInv (s : System) : Prop where
  ledger : s.db.nodeLedger.Inv
  holds : ∀ d ∈ s.nodeDispatches, DispatchNodeTask.AttemptAt s.db d.prepared.attemptId
    (d.prepared.taskId, d.prepared.attemptNo)

theorem attemptAt_later {db db' : Database} {i : ℕ} {key : ℕ × ℕ}
    (h : db.nodeLedger.Later db'.nodeLedger) (hat : DispatchNodeTask.AttemptAt db i key) :
    DispatchNodeTask.AttemptAt db' i key := by
  obtain ⟨a, ha, hkey⟩ := Option.map_eq_some_iff.1 hat
  obtain ⟨a', ha', hkey', -⟩ := h.attempt i a ha
  exact Option.map_eq_some_iff.2 ⟨a', ha', hkey'.trans hkey⟩

/-- Every command is a run of the ledger. -/
theorem exec_ledger (hinv : s.LedgerInv) (h : s.exec settings cmd = some s') :
    NodeLedger.Run s.db.nodeLedger s'.db.nodeLedger := by
  have hsame : s'.db.nodeLedger = s.db.nodeLedger →
      NodeLedger.Run s.db.nodeLedger s'.db.nodeLedger := by
    intro he
    rw [he]
  cases cmd with
  | provisionVpn ambient subscriptionId =>
    obtain ⟨r, h⟩ := commit_eq_some h
    exact (ProvisionVpn.preparePlan_inserted h).ledger
  | revokeVpn ambient id reason =>
    obtain ⟨r, h⟩ := commit_eq_some h
    exact (RevokeVpn.preparePlan_inserted h).ledger
  | prepareNode ambient taskId =>
    obtain ⟨p, h, -⟩ := prepareNode_eq_some h
    exact (DispatchNodeTask.prepare_run hinv.ledger h).1
  | finalizeNode ambient worker reply =>
    obtain ⟨w, f, hrow, -, h, -⟩ := finalizeNode_eq_some h
    exact DispatchNodeTask.finalize_run hinv.ledger (hinv.holds w (List.mem_of_getElem? hrow)) h
  | recoverNodes ambient locked limit =>
    exact DispatchNodeTask.recoverAll_run hinv.ledger (commitDb_eq_some h)
  | preparePanel ambient taskId =>
    obtain ⟨p, h, -⟩ := preparePanel_eq_some h
    exact hsame (DispatchPanelProvisionTask.prepare_nodeLedger h)
  | finalizeProvision ambient worker =>
    simp only [exec] at h
    obtain ⟨w, next, hrow, -, h, -⟩ := panelTransaction_eq_some h
    obtain ⟨⟨outcome, db⟩, hf, hr⟩ := bind_eq_ok.1 h
    cases hr
    exact hsame (DispatchPanelProvisionTask.finalizeProvisionSuccess_nodeLedger hf)
  | abortProvision worker =>
    simp only [exec] at h
    obtain ⟨w, next, hrow, -, h, -⟩ := panelTransaction_eq_some h
    have hdb : s.db = s'.db := congrArg Prod.snd (Except.ok.inj h)
    exact hsame (by rw [hdb])
  | failProvision ambient worker errorName =>
    simp only [exec] at h
    obtain ⟨w, next, hrow, -, h, -⟩ := panelTransaction_eq_some h
    obtain ⟨⟨status, db⟩, h, hr⟩ := bind_eq_ok.1 h
    cases hr
    exact hsame (DispatchPanelProvisionTask.finalizeRemoteFailure_nodeLedger h)
  | recordCompensation ambient worker =>
    simp only [exec] at h
    obtain ⟨w, next, hrow, -, h, -⟩ := panelTransaction_eq_some h
    obtain ⟨⟨status, db⟩, h, hr⟩ := bind_eq_ok.1 h
    cases hr
    exact hsame (DispatchPanelProvisionTask.recordCompensationSuccess_nodeLedger h)
  | recordCompensationFailure ambient worker errorName =>
    simp only [exec] at h
    obtain ⟨w, next, hrow, -, h, -⟩ := panelTransaction_eq_some h
    obtain ⟨db, h, hr⟩ := bind_eq_ok.1 h
    cases hr
    exact hsame (DispatchPanelProvisionTask.recordCompensationFailure_nodeLedger h)
  | recoverPanelProvisions ambient locked limit =>
    exact hsame (DispatchPanelProvisionTask.recoverAll_nodeLedger (commitDb_eq_some h))
  | preparePanelRevoke ambient taskId =>
    obtain ⟨p, h, -⟩ := preparePanelRevoke_eq_some h
    exact hsame (DispatchPanelRevokeTask.prepare_nodeLedger h)
  | finalizePanelRevoke ambient worker =>
    obtain ⟨w, status, hrow, -, h, -⟩ := panelRevokeTransaction_eq_some h
    exact hsame (DispatchPanelRevokeTask.finalizeSuccess_nodeLedger h)
  | failPanelRevoke ambient worker errorName =>
    simp only [exec] at h
    obtain ⟨w, status, hrow, -, h, -⟩ := panelRevokeTransaction_eq_some h
    exact hsame (DispatchPanelRevokeTask.finalizeFailure_nodeLedger h)
  | recoverPanelRevokes ambient locked limit =>
    exact hsame (DispatchPanelRevokeTask.recoverAll_nodeLedger (commitDb_eq_some h))
  | createPayment request now leaseSeconds token =>
    obtain ⟨⟨p, db⟩, hr, h⟩ := Option.bind_eq_some_iff.1 h
    have hk := CreatePayment.prepareOrder_keepsVpn (toOption_eq_some hr)
    dsimp only at h
    split_ifs at h <;> cases h <;> exact hsame hk.nodeLedger
  | finalizeInvoice claim intent now =>
    obtain ⟨w, hrow, h⟩ := Option.bind_eq_some_iff.1 h
    split_ifs at h
    obtain ⟨db, hr, h⟩ := Option.bind_eq_some_iff.1 h
    cases h
    obtain ⟨⟨a, db₁⟩, hf, hr⟩ := bind_eq_ok.1 (toOption_eq_some hr)
    cases hr
    exact hsame (CreatePayment.finalizeOwnedClaim_keepsVpn hf).nodeLedger
  | failInvoice claim now =>
    obtain ⟨w, hrow, h⟩ := Option.bind_eq_some_iff.1 h
    split_ifs at h
    obtain ⟨db, hr, h⟩ := Option.bind_eq_some_iff.1 h
    cases h
    exact hsame (CreatePayment.failOwnedClaim_keepsVpn (toOption_eq_some hr)).nodeLedger
  | ingestWebhook provider webhook headers rawPayload now =>
    obtain ⟨r, h⟩ := commit_eq_some h
    exact hsame (IngestWebhook.execute_keepsVpn h).nodeLedger
  | processPayment now eventId =>
    obtain ⟨r, h⟩ := commit_eq_some h
    exact hsame (ProcessPayment.execute_keepsVpn h).nodeLedger
  | markPaymentOrderPaid orderId now =>
    obtain ⟨r, h⟩ := commit_eq_some h
    exact hsame (AdminOperations.markPaymentOrderPaid_keepsVpn h).nodeLedger
  | listAnomalies now afterKindOrder afterEntityId limit =>
    cases h
    exact .refl
  | processAnomaly batch index =>
    obtain ⟨b, -, h⟩ := Option.bind_eq_some_iff.1 h
    obtain ⟨a, -, h⟩ := Option.bind_eq_some_iff.1 h
    cases h
    exact hsame (ReconcileSubscriptions.processAnomaly_keepsVpn a).nodeLedger
  | administer nodes tariffs endpoints =>
    cases h
    exact .refl

theorem LedgerInv.exec (hinv : s.LedgerInv) (h : s.exec settings cmd = some s') :
    s'.LedgerInv := by
  have hrun := exec_ledger hinv h
  have hold : ∀ d ∈ s.nodeDispatches, DispatchNodeTask.AttemptAt s'.db d.prepared.attemptId
      (d.prepared.taskId, d.prepared.attemptNo) := fun d hd =>
    attemptAt_later (hrun.later hinv.ledger) (hinv.holds d hd)
  refine ⟨hrun.inv hinv.ledger, ?_⟩
  rcases exec_nodeDispatches h with hs' | ⟨ambient, taskId, p, -, hp, hs'⟩ |
    ⟨_, _, _, w, -, hw, hs'⟩ <;> rw [hs']
  · exact hold
  · intro d hd
    rcases List.mem_append.1 hd with hd | hd
    · exact hold d hd
    · obtain rfl := List.mem_singleton.1 hd
      exact (DispatchNodeTask.prepare_run hinv.ledger hp).2 p rfl
  · intro d hd
    rcases List.mem_or_eq_of_mem_set hd with hd | rfl
    · exact hold d hd
    · exact hold w (List.mem_of_getElem? hw)

theorem initial_ledgerInv (h : Initial s) : s.LedgerInv := by
  rw [h]
  constructor
  · constructor <;> simp [nodeLedger]
  · simp

theorem Reachable.ledgerInv (h : Reachable settings s) : s.LedgerInv := by
  have hstep : ∀ s s' : System, Reachable settings s → s.LedgerInv → Step settings s s' →
      s'.LedgerInv := by
    rintro s s' - hinv ⟨cmd, hcmd⟩
    exact hinv.exec hcmd
  exact Transition.Reachable.invariant LedgerInv (fun _ => initial_ledgerInv) hstep h

theorem run_later (hinv : s.LedgerInv) (hrun : ReflTransGen (Step settings) s s') :
    s.db.nodeLedger.Later s'.db.nodeLedger := by
  have hboth : s'.LedgerInv ∧ s.db.nodeLedger.Later s'.db.nodeLedger := by
    induction hrun with
    | refl => exact ⟨hinv, .refl⟩
    | tail _ hstep ih =>
      obtain ⟨cmd, hcmd⟩ := hstep
      exact ⟨ih.1.exec hcmd, ih.2.trans ((exec_ledger ih.1 hcmd).later ih.1.ledger)⟩
  exact hboth.2

/-! ## The guarantee -/

/-- What the ledger records about one task. -/
structure TaskLedger (db : Database) (k : ℕ) (t : NodeTask) : Prop where
  bounded : t.attempts ≤ t.maxAttempts
  numbered : ((db.nodeTaskAttempts.filter (·.nodeTaskId = k)).map (·.attemptNo)) =
    List.range' 1 t.attempts
  started : ∀ a ∈ db.nodeTaskAttempts, a.nodeTaskId = k →
    (a.status = .started ↔ a.attemptNo = t.attempts ∧ t.status = .inProgress)
  claimedAt : t.claimedAt ≠ none ↔ t.status = .inProgress
  leaseExpiresAt : t.leaseExpiresAt ≠ none ↔ t.status = .inProgress
  leaseToken : t.leaseToken ≠ none ↔ t.status = .inProgress

theorem LedgerInv.task {k : ℕ} {t : NodeTask} (h : s.LedgerInv)
    (ht : s.db.getNodeTask k = some t) : TaskLedger s.db k t := by
  have hmem : t ∈ s.db.nodeLedger.tasks := List.mem_of_getElem? ht
  obtain ⟨hleased, hunleased⟩ := h.ledger.lease t hmem
  have hlease : ∀ {α : Type} {x : Option α}, (t.status = .inProgress → x.isSome = true) →
      (t.status ≠ .inProgress → x = none) → (x ≠ none ↔ t.status = .inProgress) := by
    intro α x hsome hnone
    constructor
    · intro hx
      by_contra hs
      exact hx (hnone hs)
    · intro hs hx
      have := hsome hs
      rw [hx] at this
      cases this
  refine ⟨(h.ledger.bounded t hmem).1, ?_, fun a ha hk => ?_, ?_, ?_, ?_⟩
  · have hn := h.ledger.numbered k t ht
    rw [List.filter_map, List.map_map] at hn
    exact hn
  · exact h.ledger.started t a ha (hk ▸ ht)
  · exact hlease (fun hs => (hleased hs).1) fun hs => (hunleased hs).1
  · exact hlease (fun hs => (hleased hs).2.1) fun hs => (hunleased hs).2.1
  · exact hlease (fun hs => (hleased hs).2.2) fun hs => (hunleased hs).2.2

theorem finalize_of_not_owner {ambient : Ambient} {db : Database} {p : PreparedDispatch}
    {reply : NodeReply} (h : ∀ t, db.getNodeTask p.taskId = some t →
      t.ownsActiveLease p.leaseToken p.attemptNo ambient.now = false) :
    ∃ f, DispatchNodeTask.finalize settings ambient db p reply = .ok (f, db) := by
  unfold DispatchNodeTask.finalize
  cases ht : db.getNodeTask p.taskId with
  | none => exact ⟨_, rfl⟩
  | some t =>
    dsimp only
    rw [h t ht]
    exact ⟨_, rfl⟩

/-- In every reachable state each task agrees with its attempts, and its lease columns with
its status; tasks that have ended and attempts that are closed are never written again;
a worker that does not own an active lease records nothing. -/
theorem node_task_ledger (h : Reachable settings s) :
    (∀ (k : ℕ) (t : NodeTask), s.db.getNodeTask k = some t → TaskLedger s.db k t) ∧
    (∀ s', ReflTransGen (Step settings) s s' →
      (∀ (k : ℕ) (t : NodeTask), s.db.getNodeTask k = some t → t.status.isTerminal = true →
        s'.db.getNodeTask k = some t) ∧
      (∀ (i : ℕ) (a : NodeTaskAttempt), s.db.nodeTaskAttempts[i]? = some a →
        ∃ a', s'.db.nodeTaskAttempts[i]? = some a' ∧ a'.nodeTaskId = a.nodeTaskId ∧
          a'.attemptNo = a.attemptNo ∧ (a.status ≠ .started → a' = a))) ∧
    (∀ (ambient : Ambient) (p : PreparedDispatch) (reply : NodeReply),
      (∀ t, s.db.getNodeTask p.taskId = some t →
        t.ownsActiveLease p.leaseToken p.attemptNo ambient.now = false) →
      ∃ f, DispatchNodeTask.finalize settings ambient s.db p reply = .ok (f, s.db)) := by
  have hinv := h.ledgerInv
  refine ⟨fun k t ht => hinv.task ht, fun s' hrun => ?_,
    fun ambient p reply hno => finalize_of_not_owner hno⟩
  have hlater := run_later hinv hrun
  refine ⟨hlater.task, fun i a ha => ?_⟩
  obtain ⟨a', ha', hkey, hsame⟩ := hlater.attempt i a ha
  exact ⟨a', ha', congrArg Prod.fst hkey, congrArg Prod.snd hkey, hsame⟩

/-- The provision task of the shop while its first attempt is open. -/
theorem node_task_ledger_shop : ∃ t,
    ((shop nodeEndpoint).after shopSettings claimed).db.getNodeTask 0 = some t ∧
      TaskLedger ((shop nodeEndpoint).after shopSettings claimed).db 0 t := by
  have hr : Reachable shopSettings ((shop nodeEndpoint).after shopSettings claimed) :=
    .after (shop_initial _) (by decide +kernel)
  have hrow : (((shop nodeEndpoint).after shopSettings claimed).db.getNodeTask 0).isSome = true := by
    decide +kernel
  obtain ⟨t, ht⟩ := Option.isSome_iff_exists.1 hrow
  exact ⟨t, ht, (node_task_ledger hr).1 0 t ht⟩

end System

end ShopBot
