import ShopBot.Refinement.Transaction
import ShopBot.UseCases.AdminOperations
import ShopBot.UseCases.CreatePayment
import ShopBot.UseCases.IngestWebhook
import ShopBot.UseCases.ProcessPayment
import ShopBot.UseCases.ReconcileSubscriptions

/-! # Billing leaves configurations alone

Payments, refunds and reconciled subscriptions write no table of the VPN ledgers and
delete no subscription, so the fleet does not see them.
-/

namespace ShopBot

open Lifecycle

namespace Database

def vpnTables (db : Database) :=
  (db.vpnConfigurations, db.serverEndpoints, db.nodeTasks, db.panelProvisionTasks,
    db.panelRevokeTasks, db.nodeTaskAttempts)

structure KeepsVpn (db db' : Database) : Prop where
  tables : db'.vpnTables = db.vpnTables
  subscriptions : db.subscriptions.length ≤ db'.subscriptions.length

variable {db db₁ db₂ : Database}

theorem KeepsVpn.refl (db : Database) : db.KeepsVpn db := ⟨rfl, Nat.le_refl _⟩

theorem KeepsVpn.trans (h : db.KeepsVpn db₁) (h' : db₁.KeepsVpn db₂) : db.KeepsVpn db₂ :=
  ⟨h'.tables.trans h.tables, h.subscriptions.trans h'.subscriptions⟩

theorem KeepsVpn.fleet (h : db.KeepsVpn db₁) : db₁.fleet = db.fleet := by
  have ht := h.tables
  simp only [vpnTables, Prod.mk.injEq] at ht
  obtain ⟨h₁, h₂, h₃, h₄, h₅, -⟩ := ht
  have htask : db₁.taskOf = db.taskOf := by
    funext id r
    unfold taskOf taskAt
    rw [h₃, h₄, h₅]
  funext id
  unfold Database.fleet aggregateOf getConfigurationWithEndpoint
  rw [h₁, h₂, htask]

theorem KeepsVpn.owner (h : db.KeepsVpn db₁) : db₁.owner = db.owner := by
  have ht := h.tables
  simp only [vpnTables, Prod.mk.injEq] at ht
  exact owner_congr ht.1 ht.2.1

theorem KeepsVpn.keeps (h : db.KeepsVpn db₁) : db.Keeps db₁ := by
  have ho := h.owner
  have ht := h.tables
  simp only [vpnTables, Prod.mk.injEq] at ht
  obtain ⟨-, -, h₃, h₄, h₅, -⟩ := ht
  refine ⟨fun j o hj => by rwa [ho], ?_, ?_, ?_⟩
  · rw [h₃]
    exact .refl
  · rw [h₄]
    exact .refl
  · rw [h₅]
    exact .refl

theorem KeepsVpn.wellFormed (h : db.KeepsVpn db₁) (hw : db.WellFormed) : db₁.WellFormed := by
  have ho := h.owner
  have ht := h.tables
  simp only [vpnTables, Prod.mk.injEq] at ht
  obtain ⟨h₁, h₂, h₃, h₄, h₅, -⟩ := ht
  constructor
  · rw [h₁, h₂]
    exact hw.endpoint
  · rw [h₁]
    exact fun id c hc => Nat.lt_of_lt_of_le (hw.subscription id c hc) h.subscriptions
  · rw [h₁]
    exact hw.clientUuid
  · rw [h₃, ho]
    exact hw.nodeTasks
  · rw [h₄, ho]
    exact hw.panelProvisionTasks
  · rw [h₅, ho]
    exact hw.panelRevokeTasks

/-! ## Repositories -/

theorem saveSubscription_keepsVpn (db : Database) (id : ℕ) (s : Subscription) :
    db.KeepsVpn (db.saveSubscription id s) :=
  ⟨rfl, by simp [saveSubscription]⟩

theorem saveOrder_keepsVpn (db : Database) (id : ℕ) (o : PaymentOrder) :
    db.KeepsVpn (db.saveOrder id o) :=
  ⟨rfl, Nat.le_refl _⟩

theorem addSubscription_keepsVpn {s : Subscription} {id : ℕ}
    (h : db.addSubscription s = .ok (id, db₁)) : db.KeepsVpn db₁ := by
  unfold addSubscription at h
  split_ifs at h
  cases h
  exact ⟨rfl, by simp⟩

theorem addPeriod_keepsVpn {p : SubscriptionPeriod} {id : ℕ}
    (h : db.addPeriod p = .ok (id, db₁)) : db.KeepsVpn db₁ := by
  unfold addPeriod at h
  split_ifs at h
  cases h
  exact ⟨rfl, Nat.le_refl _⟩

theorem saveAttempt_keepsVpn {a : PaymentAttempt} {id : ℕ}
    (h : db.saveAttempt id a = .ok db₁) : db.KeepsVpn db₁ := by
  unfold saveAttempt at h
  split_ifs at h
  cases h
  exact ⟨rfl, Nat.le_refl _⟩

theorem createProviderTransaction_keepsVpn (db : Database) (t : ProviderTransaction) :
    db.KeepsVpn (db.createProviderTransaction t) := by
  unfold createProviderTransaction
  split_ifs
  · exact .refl db
  · exact ⟨rfl, Nat.le_refl _⟩

theorem saveWebhookInbox_keepsVpn (db : Database) (row : WebhookInboxRow) :
    db.KeepsVpn (db.saveWebhookInbox row).2.2 := by
  unfold saveWebhookInbox
  split
  · exact .refl db
  · exact ⟨rfl, Nat.le_refl _⟩

theorem addOrder_keepsVpn (db : Database) (o : PaymentOrder) : db.KeepsVpn (db.addOrder o).2 := by
  unfold addOrder
  split
  · exact .refl _
  · exact ⟨rfl, Nat.le_refl _⟩

theorem createPaymentEvent_keepsVpn {e : PaymentEvent} {id : ℕ}
    (h : db.createPaymentEvent e = .ok (id, db₁)) : db.KeepsVpn db₁ := by
  unfold createPaymentEvent at h
  split at h
  · cases h
    exact .refl _
  · split_ifs at h
    cases h
    exact ⟨rfl, Nat.le_refl _⟩

end Database

open Database

variable {db db' : Database} {now : DateTime}

/-! ## Activations -/

theorem ActivateSubscription.saveReplaced_keepsVpn (activation : SubscriptionActivation)
    (active : Option (Subscription × ℕ)) : db.KeepsVpn (saveReplaced db activation active) := by
  unfold saveReplaced
  split
  · exact saveSubscription_keepsVpn _ _ _
  · exact .refl db

theorem ActivateSubscription.storeSubscription_keepsVpn {activation : SubscriptionActivation}
    {active : Option (Subscription × ℕ)} {sid : ℕ}
    (h : storeSubscription db activation active = .ok (sid, db')) : db.KeepsVpn db' := by
  unfold storeSubscription at h
  split at h
  · cases h
    exact saveSubscription_keepsVpn _ _ _
  · exact addSubscription_keepsVpn h

theorem ActivateSubscription.execute_keepsVpn {userId tariffId periodDays sid pid : ℕ}
    {orderId : Option ℕ} (h : ActivateSubscription.execute db userId tariffId periodDays now
      orderId = .ok (sid, pid, db')) : db.KeepsVpn db' := by
  obtain ⟨activation, -, h⟩ := bind_eq_ok.1 h
  obtain ⟨⟨sid, db₁⟩, hsub, h⟩ := bind_eq_ok.1 h
  obtain ⟨⟨pid, db₂⟩, hperiod, h⟩ := bind_eq_ok.1 h
  cases h
  exact ((saveReplaced_keepsVpn activation _).trans (storeSubscription_keepsVpn hsub)).trans
    (addPeriod_keepsVpn hperiod)

theorem ReconcileSubscriptions.processAnomaly_keepsVpn (a : ReconciliationAnomaly) :
    db.KeepsVpn (ReconcileSubscriptions.processAnomaly db a now) := by
  unfold ReconcileSubscriptions.processAnomaly
  split
  · unfold ReconcileSubscriptions.expireSubscription
    split
    · exact .refl db
    · split_ifs
      · exact .refl db
      · exact .refl db
      · exact (saveSubscription_keepsVpn db _ _).trans ⟨rfl, Nat.le_refl _⟩
  · exact .refl db

/-! ## Payments -/

namespace ProcessPayment

variable {e : PaymentEvent} {eventId orderId attemptId : ℕ} {o : PaymentOrder} {a : PaymentAttempt}
  {r : PaymentResult} {status : PaymentStatus}

theorem rejectEvent_keepsVpn (reason : String) :
    db.KeepsVpn (rejectEvent now db e eventId reason).2 := ⟨rfl, Nat.le_refl _⟩

theorem withdrawFunding_keepsVpn : db.KeepsVpn (withdrawFunding now db orderId).2 := by
  unfold withdrawFunding
  split
  · exact ⟨rfl, Nat.le_refl _⟩
  · dsimp only
    split
    · exact ⟨rfl, Nat.le_refl _⟩
    · split
      · exact ⟨rfl, Nat.le_refl _⟩
      · split_ifs <;> exact ⟨rfl, by simp [saveSubscription, savePeriod]⟩

theorem processRefund_keepsVpn : db.KeepsVpn (processRefund now db e eventId).2 := by
  unfold processRefund
  split
  · exact rejectEvent_keepsVpn _
  · split
    · exact rejectEvent_keepsVpn _
    · split
      · exact rejectEvent_keepsVpn _
      · split
        · split_ifs
          · exact rejectEvent_keepsVpn _
          · exact rejectEvent_keepsVpn _
          · unfold settleRefund
            dsimp only
            split_ifs
            · exact ((createProviderTransaction_keepsVpn db _).trans withdrawFunding_keepsVpn).trans
                ⟨rfl, Nat.le_refl _⟩
            · exact (createProviderTransaction_keepsVpn db _).trans ⟨rfl, Nat.le_refl _⟩
        · exact rejectEvent_keepsVpn _

theorem settleOrder_keepsVpn {sid : Option ℕ} (h : settleOrder now db orderId o = .ok (sid, db')) :
    db.KeepsVpn db' := by
  obtain ⟨⟨o', changed⟩, -, h⟩ := bind_eq_ok.1 h
  dsimp only at h
  split_ifs at h
  · obtain ⟨⟨sid, pid, db₁⟩, hact, h⟩ := bind_eq_ok.1 h
    cases h
    exact (saveOrder_keepsVpn db orderId o').trans
      ((ActivateSubscription.execute_keepsVpn hact).trans ⟨rfl, Nat.le_refl _⟩)
  · cases h
    exact .refl db

theorem resolvePaid_keepsVpn (h : resolvePaid now db e eventId = .ok (r, db')) :
    db.KeepsVpn db' := by
  unfold resolvePaid at h
  split at h
  · cases h
    exact rejectEvent_keepsVpn _
  · split at h
    · cases h
      exact rejectEvent_keepsVpn _
    · split at h
      · cases h
        exact rejectEvent_keepsVpn _
      · unfold processPaid at h
        split at h
        · cases h
          exact rejectEvent_keepsVpn _
        · cases h
        · dsimp only at h
          split_ifs at h
          · cases h
            exact ⟨rfl, Nat.le_refl _⟩
          · obtain ⟨db₁, h₁, h⟩ := bind_eq_ok.1 h
            obtain ⟨⟨sid, db₂⟩, h₂, h⟩ := bind_eq_ok.1 h
            cases h
            exact ((saveAttempt_keepsVpn h₁).trans (settleOrder_keepsVpn h₂)).trans
              ((createProviderTransaction_keepsVpn db₂ _).trans ⟨rfl, Nat.le_refl _⟩)

theorem closeOrder_keepsVpn (h : closeOrder now db e eventId orderId o status = .ok (r, db')) :
    db.KeepsVpn db' := by
  obtain ⟨⟨o', changed⟩, -, h⟩ := bind_eq_ok.1 h
  cases h
  cases changed <;> exact ⟨rfl, Nat.le_refl _⟩

theorem resolveOther_keepsVpn (h : resolveOther now db e eventId = .ok (r, db')) :
    db.KeepsVpn db' := by
  have hun : ∀ attempt orderId o status,
      processUnsuccessful now db e eventId attempt orderId o status = .ok (r, db') →
      db.KeepsVpn db' := by
    intro attempt orderId o status h
    unfold processUnsuccessful at h
    split at h
    · exact closeOrder_keepsVpn h
    · dsimp only at h
      split_ifs at h
      · cases h
        exact ⟨rfl, Nat.le_refl _⟩
      · obtain ⟨db₁, h₁, h⟩ := bind_eq_ok.1 h
        exact (saveAttempt_keepsVpn h₁).trans (closeOrder_keepsVpn h)
  unfold resolveOther at h
  split at h
  · cases h
    exact ⟨rfl, Nat.le_refl _⟩
  · split at h
    · exact hun _ _ _ _ h
    · exact hun _ _ _ _ h
    · exact hun _ _ _ _ h
    · cases h
      exact ⟨rfl, Nat.le_refl _⟩

theorem execute_keepsVpn (h : execute now db eventId = .ok (r, db')) : db.KeepsVpn db' := by
  unfold execute at h
  split at h
  · cases h
    exact .refl db
  · split_ifs at h
    · cases h
      exact .refl db
    · cases h
      exact .refl db
    · have hr := congrArg Prod.snd (Except.ok.inj h)
      exact hr.subst processRefund_keepsVpn
    · exact resolvePaid_keepsVpn h
    · exact resolveOther_keepsVpn h

end ProcessPayment

theorem AdminOperations.markPaymentOrderPaid_keepsVpn {orderId : ℕ} {r : Option ℕ}
    (h : AdminOperations.markPaymentOrderPaid db orderId now = .ok (r, db')) : db.KeepsVpn db' := by
  unfold AdminOperations.markPaymentOrderPaid at h
  split at h
  · cases h
  · obtain ⟨⟨o', changed⟩, -, h⟩ := bind_eq_ok.1 h
    dsimp only at h
    split_ifs at h
    · obtain ⟨⟨sid, pid, db₁⟩, hact, h⟩ := bind_eq_ok.1 h
      cases h
      exact (saveOrder_keepsVpn db orderId _).trans
        ((ActivateSubscription.execute_keepsVpn hact).trans ⟨rfl, Nat.le_refl _⟩)
    · cases h
      exact .refl db

theorem IngestWebhook.execute_keepsVpn {provider : String} {w : NormalizedWebhookEvent}
    {headers rawPayload : Payload} {r : IngestResult}
    (h : IngestWebhook.execute db provider w headers rawPayload now = .ok (r, db')) :
    db.KeepsVpn db' := by
  obtain ⟨⟨eventId, db₁⟩, he, h⟩ := bind_eq_ok.1 h
  cases h
  exact ((saveWebhookInbox_keepsVpn db _).trans (createPaymentEvent_keepsVpn he)).trans
    ⟨rfl, Nat.le_refl _⟩

/-! ## Invoices -/

namespace CreatePayment

variable {request : PaymentRequest} {leaseSeconds : ℤ} {token : Uuid} {p : PreparedPaymentOrder}
  {orderId attemptId : ℕ} {o : PaymentOrder} {name : String}

theorem claimCreation_keepsVpn
    (h : claimCreation db orderId o name now leaseSeconds token = .ok (p, db')) :
    db.KeepsVpn db' := by
  obtain ⟨claim, -, h⟩ := bind_eq_ok.1 h
  obtain ⟨⟨id, db₁⟩, hadd, h⟩ := bind_eq_ok.1 h
  cases h
  unfold Database.addAttempt at hadd
  split_ifs at hadd
  cases hadd
  exact ⟨rfl, Nat.le_refl _⟩

theorem resolveAttempt_keepsVpn
    (h : resolveAttempt db orderId o name now leaseSeconds token = .ok (p, db')) :
    db.KeepsVpn db' := by
  unfold resolveAttempt at h
  split at h
  · exact claimCreation_keepsVpn h
  · dsimp only at h
    split_ifs at h
    · cases h
      exact .refl _
    · obtain ⟨db₂, hsave, h⟩ := bind_eq_ok.1 h
      exact (saveAttempt_keepsVpn hsave).trans (claimCreation_keepsVpn h)
    · exact claimCreation_keepsVpn h
    · cases h
      exact .refl _

theorem prepareOrder_keepsVpn
    (h : prepareOrder db request now leaseSeconds token = .ok (p, db')) : db.KeepsVpn db' := by
  obtain ⟨⟨userId, db₁⟩, huser, h⟩ := bind_eq_ok.1 h
  have h₁ : db.KeepsVpn db₁ := by
    unfold resolveUser at huser
    split at huser
    · cases huser
      exact .refl db
    · obtain ⟨-, -, huser⟩ := bind_eq_ok.1 huser
      cases huser
      exact ⟨rfl, Nat.le_refl _⟩
  dsimp only at h
  split at h
  · cases h
  · obtain ⟨-, -, h⟩ := bind_eq_ok.1 h
    obtain ⟨-, -, h⟩ := bind_eq_ok.1 h
    split at h
    · cases h
    · obtain ⟨-, -, h⟩ := bind_eq_ok.1 h
      exact (h₁.trans (addOrder_keepsVpn db₁ _)).trans (resolveAttempt_keepsVpn h)

theorem finalizeOwnedClaim_keepsVpn {intent : PaymentIntent} {a : PaymentAttempt}
    (h : finalizeOwnedClaim db orderId o attemptId token intent now = .ok (a, db')) :
    db.KeepsVpn db' := by
  unfold finalizeOwnedClaim at h
  split at h
  · cases h
  · split_ifs at h
    · obtain ⟨a', -, h⟩ := bind_eq_ok.1 h
      obtain ⟨db₁, hsave, h⟩ := bind_eq_ok.1 h
      cases h
      exact (saveAttempt_keepsVpn hsave).trans (createProviderTransaction_keepsVpn _ _)
    · split at h
      · cases h
      · cases h
        exact .refl db

theorem failOwnedClaim_keepsVpn (h : failOwnedClaim db attemptId token now = .ok db') :
    db.KeepsVpn db' := by
  unfold failOwnedClaim at h
  split at h
  · cases h
    exact .refl db
  · split_ifs at h
    · exact saveAttempt_keepsVpn h
    · cases h
      exact .refl db

end CreatePayment

end ShopBot
