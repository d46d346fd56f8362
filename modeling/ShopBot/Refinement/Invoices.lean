import ShopBot.Lifecycle.Invoices
import ShopBot.Refinement.System

/-! # Commands as runs of the invoices

Every command changes attempts, events and claims by steps of the ledger of invoices. So in
every reachable state an open claim has an attempt of its own.
-/

namespace ShopBot

open Database Relation

namespace Database

def invoices (db : Database) (claims : List InvoiceClaim) : Invoices :=
  ⟨db.paymentAttempts, db.paymentEvents, claims⟩

variable {db db' : Database} {claims : List InvoiceClaim} {a a' : PaymentAttempt}
  {e e' : PaymentEvent} {i j : ℕ} {now : DateTime}

theorem invoices_of_ledger (h : db'.billingLedger = db.billingLedger) :
    db'.invoices claims = db.invoices claims := by
  have hattempts : db'.paymentAttempts = db.paymentAttempts := congrArg Billing.attempts h
  have hevents : db'.paymentEvents = db.paymentEvents := congrArg Billing.events h
  rw [invoices, invoices, hattempts, hevents]

theorem createProviderTransaction_invoices (t : ProviderTransaction) :
    (db.createProviderTransaction t).invoices claims = db.invoices claims := by
  have hledger := createProviderTransaction_ledger db t
  have hattempts : (db.createProviderTransaction t).paymentAttempts = db.paymentAttempts :=
    congrArg Billing.attempts hledger
  have hevents : (db.createProviderTransaction t).paymentEvents = db.paymentEvents :=
    congrArg Billing.events hledger
  rw [invoices, invoices, hattempts, hevents]

/-- An event is closed behind changes that leave attempts and events alone. -/
theorem saveEvent_invoices (hsame : db'.invoices claims = db.invoices claims)
    (hrow : db.paymentEvents[i]? = some e) (hr : e'.report = e.report) :
    Invoices.Run (db.invoices claims) ((db'.saveEvent i e').invoices claims) := by
  have hevents : db'.paymentEvents = db.paymentEvents := congrArg Invoices.events hsame
  rw [← hevents] at hrow
  rw [← hsame]
  exact .single (.close i e e' hrow hr)

/-- An attempt takes the status that its event reports, unless that is stale. -/
theorem saveAttempt_invoices {status : PaymentStatus} (hrow : db.paymentEvents[i]? = some e)
    (hlink : e.paymentAttemptId = some j) (ha : db.paymentAttempts[j]? = some a)
    (hstatus : status ≠ .created)
    (hstale : (a.applyProviderStatus status e.payload).2 ≠ .stale)
    (h : db.saveAttempt j (a.applyProviderStatus status e.payload).1 = .ok db') :
    db'.paymentEvents = db.paymentEvents ∧
      Invoices.Run (db.invoices claims) (db'.invoices claims) := by
  rw [saveAttempt_ok h]
  refine ⟨rfl, ?_⟩
  rcases a.applyProviderStatus_cases status e.payload hstale with ⟨hsame, -⟩ | ⟨-, hnew⟩
  · rw [hsame]
    have hset : db.paymentAttempts.set j a = db.paymentAttempts := by
      obtain ⟨hlt, hget⟩ := List.getElem?_eq_some_iff.1 ha
      rw [← hget, List.set_getElem_self]
    rw [hset]
  · rw [hnew]
    exact .single (.apply i j e a status e.payload hrow hlink ha hstatus)

theorem createPaymentEvent_invoices {id : ℕ} (hlinked : Invoices.Linked db.paymentAttempts e)
    (h : db.createPaymentEvent e = .ok (id, db')) :
    Invoices.Run (db.invoices claims) (db'.invoices claims) := by
  unfold createPaymentEvent at h
  split at h
  · cases h
    exact .refl
  · split_ifs at h
    cases h
    exact .single (.receive e hlinked)

end Database

/-! ## Processing events -/

namespace ProcessPayment

variable {db db' db₁ : Database} {claims : List InvoiceClaim} {e : PaymentEvent}
  {o : PaymentOrder} {eventId orderId attemptId : ℕ} {now : DateTime} {r : PaymentResult}
  {status : PaymentStatus}

theorem withdrawFunding_invoices :
    (withdrawFunding now db orderId).2.invoices claims = db.invoices claims := by
  have hledger := (withdrawFunding_withdrawal now db orderId).1
  have hattempts : (withdrawFunding now db orderId).2.paymentAttempts = db.paymentAttempts :=
    congrArg Billing.attempts hledger
  have hevents : (withdrawFunding now db orderId).2.paymentEvents = db.paymentEvents :=
    congrArg Billing.events hledger
  rw [invoices, invoices, hattempts, hevents]

theorem settleRefund_invoices {amount : ℤ} {currency : Currency}
    (hrow : db.paymentEvents[eventId]? = some e) : Invoices.Run (db.invoices claims)
      ((settleRefund now db e eventId orderId attemptId o amount currency).2.invoices claims) := by
  unfold settleRefund
  dsimp only
  split
  · refine saveEvent_invoices ?_ hrow rfl
    rw [withdrawFunding_invoices, createProviderTransaction_invoices]
  · refine saveEvent_invoices ?_ hrow rfl
    rw [createProviderTransaction_invoices]

theorem processRefund_invoices (hrow : db.paymentEvents[eventId]? = some e) :
    Invoices.Run (db.invoices claims) ((processRefund now db e eventId).2.invoices claims) := by
  unfold processRefund
  split
  · exact saveEvent_invoices rfl hrow rfl
  · split
    · exact saveEvent_invoices rfl hrow rfl
    · split
      · exact saveEvent_invoices rfl hrow rfl
      · split
        · split_ifs
          · exact saveEvent_invoices rfl hrow rfl
          · exact saveEvent_invoices rfl hrow rfl
          · exact settleRefund_invoices hrow
        · exact saveEvent_invoices rfl hrow rfl

theorem settleOrder_invoices {subscriptionId : Option ℕ}
    (h : settleOrder now db orderId o = .ok (subscriptionId, db')) :
    db'.invoices claims = db.invoices claims := by
  obtain ⟨⟨o', changed⟩, -, h₁⟩ := bind_eq_ok.1 h
  dsimp only at h₁
  split_ifs at h₁
  · obtain ⟨⟨sid, pid, db₂⟩, hact, h₂⟩ := bind_eq_ok.1 h₁
    cases h₂
    rw [(ActivateSubscription.execute_activation hact).1]
    rfl
  · cases h₁
    rfl

theorem closeOrder_invoices (hrow : db.paymentEvents[eventId]? = some e)
    (h : closeOrder now db e eventId orderId o status = .ok (r, db')) :
    Invoices.Run (db.invoices claims) (db'.invoices claims) := by
  obtain ⟨⟨o', changed⟩, -, h₁⟩ := bind_eq_ok.1 h
  cases h₁
  refine saveEvent_invoices ?_ hrow rfl
  cases changed <;> rfl

theorem resolvePaid_invoices (hrow : db.paymentEvents[eventId]? = some e)
    (h : resolvePaid now db e eventId = .ok (r, db')) :
    Invoices.Run (db.invoices claims) (db'.invoices claims) := by
  unfold resolvePaid at h
  split at h
  · cases h
    exact saveEvent_invoices rfl hrow rfl
  next attemptId hlink =>
    split at h
    · cases h
      exact saveEvent_invoices rfl hrow rfl
    next a ha =>
      split at h
      · cases h
        exact saveEvent_invoices rfl hrow rfl
      · unfold processPaid at h
        split at h
        · cases h
          exact saveEvent_invoices rfl hrow rfl
        · cases h
        · dsimp only at h
          split_ifs at h with hstale
          · cases h
            exact saveEvent_invoices rfl hrow rfl
          · obtain ⟨db₁, hsave, h₁⟩ := bind_eq_ok.1 h
            obtain ⟨⟨sid, db₂⟩, hsettle, h₂⟩ := bind_eq_ok.1 h₁
            cases h₂
            obtain ⟨hevents, hrun⟩ : db₁.paymentEvents = db.paymentEvents ∧
              Invoices.Run (db.invoices claims) (db₁.invoices claims) :=
              saveAttempt_invoices hrow hlink ha (by decide) hstale hsave
            rw [← hevents] at hrow
            refine hrun.trans (saveEvent_invoices ?_ hrow rfl)
            rw [createProviderTransaction_invoices, settleOrder_invoices hsettle]

/-- The attempt of an event is the one it is linked to. -/
theorem attemptOf_linked {a : PaymentAttempt} {j : ℕ}
    (hlinked : Invoices.Linked db.paymentAttempts e) (horder : resolveOrderReference db e ≠ none)
    (h : attemptOf db e orderId = some (a, j)) : e.paymentAttemptId = some j := by
  rcases hlinked with ⟨hattempt, hnone⟩ | ⟨k, c, hc, hlink, -, -⟩
  · rw [resolveOrderReference, hnone, hattempt] at horder
    exact absurd rfl horder
  · unfold attemptOf at h
    rw [hlink] at h ⊢
    simp only [Option.bind_some, getAttempt, hc, Option.map_some, Option.some.injEq] at h
    rw [(Prod.mk.inj h).2]

theorem resolveOther_invoices (hrow : db.paymentEvents[eventId]? = some e)
    (hlinked : Invoices.Linked db.paymentAttempts e)
    (h : resolveOther now db e eventId = .ok (r, db')) :
    Invoices.Run (db.invoices claims) (db'.invoices claims) := by
  unfold resolveOther at h
  split at h
  · cases h
    exact saveEvent_invoices rfl hrow rfl
  next o orderId horder =>
    have href : resolveOrderReference db e ≠ none := by
      intro hnone
      rw [hnone] at horder
      cases horder
    have hun : ∀ status, status ≠ .created →
        processUnsuccessful now db e eventId (attemptOf db e orderId) orderId o status =
          .ok (r, db') → Invoices.Run (db.invoices claims) (db'.invoices claims) := by
      intro status hstatus h
      unfold processUnsuccessful at h
      split at h
      · exact closeOrder_invoices hrow h
      next a j hattempt =>
        dsimp only at h
        split_ifs at h with hstale
        · cases h
          exact saveEvent_invoices rfl hrow rfl
        · obtain ⟨db₁, hsave, h₁⟩ := bind_eq_ok.1 h
          obtain ⟨hevents, hrun⟩ : db₁.paymentEvents = db.paymentEvents ∧
              Invoices.Run (db.invoices claims) (db₁.invoices claims) :=
            saveAttempt_invoices hrow (attemptOf_linked hlinked href hattempt)
              (attemptOf_row hattempt) hstatus hstale hsave
          rw [← hevents] at hrow
          exact hrun.trans (closeOrder_invoices hrow h₁)
    split at h
    next hs => exact hun _ (by rw [hs]; decide) h
    next hs => exact hun _ (by rw [hs]; decide) h
    next hs => exact hun _ (by rw [hs]; decide) h
    · cases h
      exact saveEvent_invoices rfl hrow rfl

theorem execute_invoices (hlinked : ∀ e ∈ db.paymentEvents, Invoices.Linked db.paymentAttempts e)
    (h : execute now db eventId = .ok (r, db')) :
    Invoices.Run (db.invoices claims) (db'.invoices claims) := by
  unfold execute at h
  split at h
  · cases h
    exact .refl
  next e hrow =>
    split_ifs at h
    · cases h
      exact .refl
    · cases h
      exact .refl
    · have hr : (processRefund now db e eventId).2 = db' := congrArg Prod.snd (Except.ok.inj h)
      rw [← hr]
      exact processRefund_invoices hrow
    · exact resolvePaid_invoices hrow h
    · exact resolveOther_invoices hrow (hlinked e (List.mem_of_getElem? hrow)) h

end ProcessPayment

theorem AdminOperations.markPaymentOrderPaid_invoices {db db' : Database}
    {claims : List InvoiceClaim} {orderId : ℕ} {now : DateTime} {r : Option ℕ}
    (h : AdminOperations.markPaymentOrderPaid db orderId now = .ok (r, db')) :
    db'.invoices claims = db.invoices claims := by
  unfold AdminOperations.markPaymentOrderPaid at h
  split at h
  · cases h
  · obtain ⟨⟨o', changed⟩, -, h₁⟩ := bind_eq_ok.1 h
    dsimp only at h₁
    split_ifs at h₁
    · obtain ⟨⟨sid, pid, db₁⟩, hact, h₂⟩ := bind_eq_ok.1 h₁
      cases h₂
      rw [(ActivateSubscription.execute_activation hact).1]
      rfl
    · cases h₁
      rfl

theorem ReconcileSubscriptions.processAnomaly_invoices {db : Database}
    {claims : List InvoiceClaim} {now : DateTime} (a : ReconciliationAnomaly) :
    (ReconcileSubscriptions.processAnomaly db a now).invoices claims = db.invoices claims := by
  unfold ReconcileSubscriptions.processAnomaly
  split
  · unfold ReconcileSubscriptions.expireSubscription
    split
    · rfl
    · split_ifs <;> rfl
  · rfl

/-! ## Webhooks -/

namespace IngestWebhook

variable {db db' : Database} {claims : List InvoiceClaim} {provider : String}
  {w : NormalizedWebhookEvent} {now : DateTime}

theorem eventOf_linked : Invoices.Linked db.paymentAttempts (eventOf db provider w) := by
  unfold eventOf
  dsimp only
  cases hid : orText w.providerPaymentId none with
  | none => exact .inl ⟨rfl, rfl⟩
  | some id =>
    rw [Option.bind_some]
    cases hattempt : db.getAttemptByProviderPaymentId provider id with
    | none => exact .inl ⟨rfl, rfl⟩
    | some found =>
      obtain ⟨a, j⟩ := found
      obtain ⟨hrow, hmatch⟩ := Table.firstWhere_some hattempt
      simp only [Bool.and_eq_true, decide_eq_true_eq] at hmatch
      exact .inr ⟨j, a, hrow, rfl, rfl, by rw [hmatch.2]; rfl⟩

theorem execute_invoices {headers rawPayload : Payload} {r : IngestResult}
    (h : execute db provider w headers rawPayload now = .ok (r, db')) :
    Invoices.Run (db.invoices claims) (db'.invoices claims) := by
  obtain ⟨⟨eventId, db₁⟩, he, h₁⟩ := bind_eq_ok.1 h
  cases h₁
  have hrun : Invoices.Run ((db.saveWebhookInbox
      ⟨provider, w.eventKey, headers, rawPayload, .received, none⟩).2.2.invoices claims)
      (db₁.invoices claims) := createPaymentEvent_invoices eventOf_linked he
  rw [invoices_of_ledger (saveWebhookInbox_ledger _)] at hrun
  exact hrun

end IngestWebhook

/-! ## Creating payments -/

namespace CreatePayment

variable {db db' : Database} {claims : List InvoiceClaim} {orderId attemptId i : ℕ}
  {o : PaymentOrder} {name diagnostic : String} {now : DateTime} {leaseSeconds : ℤ} {token : Uuid}
  {p : PreparedPaymentOrder} {w : InvoiceClaim} {a : PaymentAttempt}

/-- The claims behind the preparation of an order. -/
def claimsAfter (claims : List InvoiceClaim) (p : PreparedPaymentOrder) (token : Uuid) :
    List InvoiceClaim :=
  if p.ownsCreationClaim then claims ++ [{ prepared := p, token := token }] else claims

theorem claimCreation_invoices
    (h : claimCreation db orderId o name now leaseSeconds token = .ok (p, db')) :
    Invoices.Run (db.invoices claims) (db'.invoices (claimsAfter claims p token)) := by
  obtain ⟨claim, hclaim, h₁⟩ := bind_eq_ok.1 h
  obtain ⟨⟨id, db₁⟩, hadd, h₂⟩ := bind_eq_ok.1 h₁
  cases h₂
  unfold PaymentAttempt.claimCreation at hclaim
  split_ifs at hclaim
  cases hclaim
  unfold Database.addAttempt at hadd
  split_ifs at hadd
  cases hadd
  exact .single (.claim _ _ rfl rfl rfl rfl rfl)

theorem failCreation_invoices (hrow : db.paymentAttempts[attemptId]? = some a)
    (hs : a.status = .created)
    (h : db.saveAttempt attemptId (a.failCreation now diagnostic) = .ok db') :
    Invoices.Run (db.invoices claims) (db'.invoices claims) := by
  rw [saveAttempt_ok h]
  exact .single (.fail attemptId a now diagnostic hrow hs)

theorem resolveAttempt_invoices
    (h : resolveAttempt db orderId o name now leaseSeconds token = .ok (p, db')) :
    Invoices.Run (db.invoices claims) (db'.invoices (claimsAfter claims p token)) := by
  unfold resolveAttempt at h
  split at h
  · exact claimCreation_invoices h
  next a attemptId hlatest =>
    dsimp only at h
    split_ifs at h with hcreated
    · cases h
      exact .refl
    · obtain ⟨db₂, hsave, h₁⟩ := bind_eq_ok.1 h
      exact (failCreation_invoices (Table.lastWhere_some hlatest).1 hcreated hsave).trans
        (claimCreation_invoices h₁)
    · exact claimCreation_invoices h
    · cases h
      exact .refl

theorem prepareOrder_invoices {request : PaymentRequest}
    (h : prepareOrder db request now leaseSeconds token = .ok (p, db')) :
    Invoices.Run (db.invoices claims) (db'.invoices (claimsAfter claims p token)) := by
  obtain ⟨⟨userId, db₁⟩, huser, h₁⟩ := bind_eq_ok.1 h
  have hsame : db₁.invoices claims = db.invoices claims := by
    unfold resolveUser at huser
    split at huser
    · cases huser
      rfl
    · obtain ⟨-, -, huser'⟩ := bind_eq_ok.1 huser
      cases huser'
      rfl
  dsimp only at h₁
  split at h₁
  · cases h₁
  · obtain ⟨-, -, h₂⟩ := bind_eq_ok.1 h₁
    obtain ⟨-, -, h₃⟩ := bind_eq_ok.1 h₂
    split at h₃
    · cases h₃
    · obtain ⟨-, -, h₄⟩ := bind_eq_ok.1 h₃
      have hrun : Invoices.Run _ (db'.invoices (claimsAfter claims p token)) :=
        resolveAttempt_invoices h₄
      rw [← hsame]
      unfold addOrder at hrun
      split at hrun <;> exact hrun

/-- The owner finalises its attempt, or finds that it has lost the claim. -/
theorem finalizeOwnedClaim_invoices {intent : PaymentIntent} (hclaim : claims[i]? = some w)
    (hunfinished : w.finished = false)
    (h : finalizeOwnedClaim db orderId o w.prepared.attemptId token intent now = .ok (a, db')) :
    Invoices.Run (db.invoices claims)
      (db'.invoices (claims.set i { w with finished := true })) := by
  unfold finalizeOwnedClaim at h
  split at h
  · cases h
  next a₀ hrow =>
    split_ifs at h with howns
    · obtain ⟨a', hfinal, h₁⟩ := bind_eq_ok.1 h
      obtain ⟨db₁, hsave, h₂⟩ := bind_eq_ok.1 h₁
      cases h₂
      rw [createProviderTransaction_invoices, saveAttempt_ok hsave]
      exact .single (.finalize i w a₀ a _ _ _ _ now hclaim hunfinished hrow hfinal)
    · split at h
      · cases h
      · cases h
        exact .single (.release i w hclaim)

theorem failOwnedClaim_invoices (hclaim : claims[i]? = some w)
    (h : failOwnedClaim db w.prepared.attemptId token now = .ok db') :
    Invoices.Run (db.invoices claims)
      (db'.invoices (claims.set i { w with finished := true })) := by
  have hrelease : Invoices.Run (db'.invoices claims)
      (db'.invoices (claims.set i { w with finished := true })) := .single (.release i w hclaim)
  unfold failOwnedClaim at h
  split at h
  · cases h
    exact hrelease
  next a hrow =>
    split_ifs at h with howns
    · have hcreated : a.status = .created := Invoices.created_of_owns howns
      exact (failCreation_invoices hrow hcreated h).trans hrelease
    · cases h
      exact hrelease

end CreatePayment

/-! ## Commands -/

namespace System

variable {settings : Settings} {s s' : System} {cmd : Command}

def invoices (s : System) : Invoices := s.db.invoices s.invoiceClaims

theorem exec_invoiceClaims (h : s.exec settings cmd = some s') (hcmd : cmd.onVpn = true) :
    s'.invoiceClaims = s.invoiceClaims := by
  cases cmd with
  | provisionVpn | revokeVpn | recoverNodes | recoverPanelProvisions | recoverPanelRevokes =>
    obtain ⟨_, -, rfl⟩ := Option.map_eq_some_iff.1 h
    rfl
  | prepareNode ambient taskId =>
    obtain ⟨_, -, hs'⟩ := prepareNode_eq_some h
    rw [hs']
  | finalizeNode ambient worker reply =>
    obtain ⟨_, _, -, -, -, hs'⟩ := finalizeNode_eq_some h
    rw [hs']
  | preparePanel ambient taskId =>
    obtain ⟨_, -, hs'⟩ := preparePanel_eq_some h
    rw [hs']
  | finalizeProvision | abortProvision | failProvision | recordCompensation |
    recordCompensationFailure =>
    simp only [exec] at h
    obtain ⟨_, _, -, -, -, hs'⟩ := panelTransaction_eq_some h
    rw [hs']
  | preparePanelRevoke ambient taskId =>
    obtain ⟨_, -, hs'⟩ := preparePanelRevoke_eq_some h
    rw [hs']
  | finalizePanelRevoke | failPanelRevoke =>
    simp only [exec] at h
    obtain ⟨_, _, -, -, -, hs'⟩ := panelRevokeTransaction_eq_some h
    rw [hs']
  | createPayment | finalizeInvoice | failInvoice | ingestWebhook | processPayment |
    markPaymentOrderPaid | listAnomalies | processAnomaly | administer => cases hcmd

theorem exec_invoices (hw : s.db.WellFormed)
    (hlinked : ∀ e ∈ s.db.paymentEvents, Invoices.Linked s.db.paymentAttempts e)
    (h : s.exec settings cmd = some s') : Invoices.Run s.invoices s'.invoices := by
  have hvpn : cmd.onVpn = true → Invoices.Run s.invoices s'.invoices := by
    intro hcmd
    rw [invoices, invoices, exec_invoiceClaims h hcmd,
      invoices_of_ledger (exec_refines hw h hcmd).billingLedger]
  cases cmd with
  | createPayment request now leaseSeconds token =>
    obtain ⟨⟨p, db⟩, hr, h⟩ := Option.bind_eq_some_iff.1 h
    have hrun : Invoices.Run s.invoices
        (db.invoices (CreatePayment.claimsAfter s.invoiceClaims p token)) :=
      CreatePayment.prepareOrder_invoices (toOption_eq_some hr)
    unfold CreatePayment.claimsAfter at hrun
    dsimp only at h
    split_ifs at h hrun <;> cases h <;> exact hrun
  | finalizeInvoice claim intent now =>
    obtain ⟨w, hrow, h⟩ := Option.bind_eq_some_iff.1 h
    split_ifs at h with hf
    obtain ⟨db, hr, h⟩ := Option.bind_eq_some_iff.1 h
    cases h
    obtain ⟨⟨a, db₁⟩, hf', hr⟩ := bind_eq_ok.1 (toOption_eq_some hr)
    cases hr
    exact CreatePayment.finalizeOwnedClaim_invoices hrow (by simpa using hf) hf'
  | failInvoice claim now =>
    obtain ⟨w, hrow, h⟩ := Option.bind_eq_some_iff.1 h
    split_ifs at h
    obtain ⟨db, hr, h⟩ := Option.bind_eq_some_iff.1 h
    cases h
    exact CreatePayment.failOwnedClaim_invoices hrow (toOption_eq_some hr)
  | ingestWebhook provider webhook headers rawPayload now =>
    obtain ⟨⟨r, db⟩, hr, rfl⟩ := Option.map_eq_some_iff.1 h
    exact IngestWebhook.execute_invoices (toOption_eq_some hr)
  | processPayment now eventId =>
    obtain ⟨⟨r, db⟩, hr, rfl⟩ := Option.map_eq_some_iff.1 h
    exact ProcessPayment.execute_invoices hlinked (toOption_eq_some hr)
  | markPaymentOrderPaid orderId now =>
    obtain ⟨⟨r, db⟩, hr, rfl⟩ := Option.map_eq_some_iff.1 h
    have hsame : db.invoices s.invoiceClaims = s.db.invoices s.invoiceClaims :=
      AdminOperations.markPaymentOrderPaid_invoices (toOption_eq_some hr)
    change Invoices.Run s.invoices (db.invoices s.invoiceClaims)
    rw [hsame]
    exact .refl
  | listAnomalies now afterKindOrder afterEntityId limit =>
    cases h
    exact .refl
  | processAnomaly batch index =>
    obtain ⟨b, -, h⟩ := Option.bind_eq_some_iff.1 h
    obtain ⟨a, -, h⟩ := Option.bind_eq_some_iff.1 h
    cases h
    have hsame : (ReconcileSubscriptions.processAnomaly s.db a b.now).invoices s.invoiceClaims =
      s.db.invoices s.invoiceClaims := ReconcileSubscriptions.processAnomaly_invoices a
    change Invoices.Run s.invoices (Database.invoices _ s.invoiceClaims)
    rw [hsame]
    exact .refl
  | administer nodes tariffs endpoints =>
    cases h
    exact .refl
  | _ => exact hvpn rfl

theorem initial_invoices (h : Initial s) : s.invoices.Inv := by
  rw [h]
  refine ⟨?_, ?_, ?_, ?_, List.nodup_nil⟩
  · rintro _ ⟨⟩
  · rintro _ ⟨⟩
  · rintro _ ⟨⟩
  · rintro _ ⟨⟩

/-- In every reachable state the open claims have attempts of their own. -/
theorem Reachable.invoices (h : Reachable settings s) : s.invoices.Inv := by
  have hstep : ∀ s s' : System, Reachable settings s → s.invoices.Inv → Step settings s s' →
      s'.invoices.Inv := by
    rintro s s' hr hinv ⟨cmd, hcmd⟩
    have hrun : Invoices.Run s.invoices s'.invoices := exec_invoices hr.inv.1 hinv.linked hcmd
    exact hrun.inv hinv
  exact Transition.Reachable.invariant (fun s : System => s.invoices.Inv)
    (fun _ => initial_invoices) hstep h

end System

end ShopBot
