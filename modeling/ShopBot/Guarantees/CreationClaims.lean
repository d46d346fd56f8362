import ShopBot.Guarantees.Fencing
import ShopBot.Refinement.Invoices
import ShopBot.UseCases.PaymentGateway

/-! # Settling creation claims

What becomes of an owned claim once the gateway has answered. The claim is failed when the call
of the gateway raises; a status that cannot be stored, and a provider without an adapter, leave
it open, because both are found outside the block that fails it.
-/

namespace ShopBot

theorem PaymentStatus.text_injective : Function.Injective PaymentStatus.text := by
  intro a b h
  cases a <;> cases b <;> first | rfl | simp [text] at h

theorem PaymentStatus.ofValue_eq_ok {value : PayloadValue} {status : PaymentStatus} :
    PaymentStatus.ofValue value = .ok status ↔ value = .text status.text := by
  constructor
  · intro h
    cases value with
    | text value => rw [enumFromText_eq_ok h]
    | null | number | flag | nested => cases h
  · rintro rfl
    refine enumFromText_text PaymentStatus.text_injective ?_
    cases status <;> decide

/-! ## What the gateway answers -/

/-- The statuses that an attempt can be given. -/
def storableStatuses : List PayloadValue :=
  [.text "pending", .text "authorized", .text "paid", .text "failed", .text "expired",
    .text "cancelled"]

/-- The statuses that the webhooks of YooKassa report under the name by which they are stored. -/
def agreedStatuses : List PayloadValue :=
  [.text "pending", .text "paid", .text "failed", .text "cancelled"]

theorem mem_storableStatuses {value : PayloadValue} : value ∈ storableStatuses ↔
    ∃ status : PaymentStatus, value = .text status.text ∧ status ≠ .created := by
  constructor
  · intro h
    simp only [storableStatuses, List.mem_cons, List.not_mem_nil, or_false] at h
    rcases h with rfl | rfl | rfl | rfl | rfl | rfl
    · exact ⟨.pending, rfl, by decide⟩
    · exact ⟨.authorized, rfl, by decide⟩
    · exact ⟨.paid, rfl, by decide⟩
    · exact ⟨.failed, rfl, by decide⟩
    · exact ⟨.expired, rfl, by decide⟩
    · exact ⟨.cancelled, rfl, by decide⟩
  · rintro ⟨status, rfl, hne⟩
    cases status <;> first | exact absurd rfl hne | decide

namespace YooKassaAdapter

variable {nestedText : Bool → String} {reply : YooKassaReply} {intent : GatewayIntent}
  {payload : Payload} {status : PaymentStatus}

theorem createPayment_eq_ok : createPayment nestedText reply = .ok intent ↔
    ∃ body id url, reply = .body body ∧ body.payload.lookup "id" = some id ∧
      body.confirmation = .object url ∧ intent = {
        providerPaymentId := id.str nestedText
        status := (body.payload.lookup "status").getD (.text "pending")
        paymentUrl := url
        payload := body.payload } := by
  constructor
  · intro h
    cases reply with
    | raised e => cases h
    | body body =>
      simp only [createPayment] at h
      split at h
      · cases h
      next id hid =>
        split at h
        · cases h
        next url hurl =>
          cases h
          exact ⟨body, id, url, rfl, hid, hurl, rfl⟩
  · rintro ⟨body, id, url, rfl, hid, hurl, rfl⟩
    simp only [createPayment, hid, hurl]

/-- A webhook reports the status of a created payment as it was stored, for four statuses. -/
theorem webhookStatus_eq_iff
    (h : (payload.lookup "status").getD (.text "pending") = .text status.text) :
    status = webhookStatus nestedText payload ↔ PayloadValue.text status.text ∈ agreedStatuses := by
  have htext : (if (payload.get "status").isTruthy then payload.get "status"
      else .text "pending") = .text status.text := by
    unfold Payload.get
    cases hlookup : payload.lookup "status" with
    | none =>
      rw [hlookup] at h
      exact h
    | some value =>
      rw [hlookup] at h
      obtain rfl : value = .text status.text := h
      cases status <;> rfl
  unfold webhookStatus
  dsimp only
  rw [htext, PayloadValue.str]
  cases status <;> decide

end YooKassaAdapter

/-! ## Settled claims -/

variable {settings : Settings} {s : System} {w : InvoiceClaim} {i : ℕ} {isProduction : Bool}
  {nestedText : Bool → String} {replies : GatewayReplies} {now : DateTime} {db : Database}
  {a : PaymentAttempt} {intent : GatewayIntent}

/-- The attempt has the invoice that the provider created, with the status that the webhooks of
YooKassa would report. -/
def Finalized (nestedText : Bool → String) (w : InvoiceClaim) (replies : GatewayReplies)
    (a : PaymentAttempt) : Prop :=
  ∃ intent, PaymentAdapterRegistry.createPayment nestedText w.prepared.order.provider replies =
      .ok intent ∧ a.providerPaymentId = some intent.providerPaymentId ∧ a.status ≠ .created ∧
    (w.prepared.order.provider = "yookassa" →
      a.status = YooKassaAdapter.webhookStatus nestedText intent.payload)

/-- The attempt of the claim is finalised or failed. -/
def ClaimSettled (nestedText : Bool → String) (w : InvoiceClaim) (replies : GatewayReplies)
    (db : Database) : Prop :=
  ∃ a, db.paymentAttempts[w.prepared.attemptId]? = some a ∧
    (a.status = .failed ∧ a.providerPaymentId = none ∨ Finalized nestedText w replies a)

/-- The attempt of the claim was failed before its owner came back. -/
def ClaimLost (w : InvoiceClaim) (db : Database) : Prop :=
  ∃ a, db.paymentAttempts[w.prepared.attemptId]? = some a ∧ a.status = .failed

/-- No attempt of the provider has the payment. -/
def Unused (provider id : String) (db : Database) : Prop :=
  ∀ a ∈ db.paymentAttempts, a.provider = provider → a.providerPaymentId ≠ some id

/-- What the provider has answered is an error, or can be stored as the webhooks will report
it. -/
def AnswerAgrees (nestedText : Bool → String) (provider : String) (replies : GatewayReplies)
    (db : Database) : Prop :=
  if provider = "yookassa" then
    ∀ body id url, replies.yooKassa = .body body → body.payload.lookup "id" = some id →
      body.confirmation = .object url →
      (body.payload.lookup "status").getD (.text "pending") ∈ agreedStatuses ∧
        Unused provider (id.str nestedText) db
  else
    ∀ intent, replies.other provider = .ok intent →
      intent.status ∈ storableStatuses ∧ Unused provider intent.providerPaymentId db

/-! ## The second transaction -/

theorem answerAgrees_iff {provider : String} : AnswerAgrees nestedText provider replies db ↔
    ∀ intent, PaymentAdapterRegistry.createPayment nestedText provider replies = .ok intent →
      intent.status ∈ storableStatuses ∧ Unused provider intent.providerPaymentId db ∧
      ∀ status : PaymentStatus, intent.status = .text status.text → provider = "yookassa" →
        status = YooKassaAdapter.webhookStatus nestedText intent.payload := by
  unfold AnswerAgrees PaymentAdapterRegistry.createPayment
  split_ifs with hprovider
  · constructor
    · intro h intent hintent
      obtain ⟨body, id, url, hreply, hid, hurl, rfl⟩ :=
        YooKassaAdapter.createPayment_eq_ok.1 hintent
      obtain ⟨hagreed, hunused⟩ := h body id url hreply hid hurl
      refine ⟨?_, hunused, fun status hstatus _ => ?_⟩
      · dsimp only
        revert hagreed
        generalize (body.payload.lookup "status").getD (.text "pending") = value
        simp only [agreedStatuses, storableStatuses, List.mem_cons, List.not_mem_nil, or_false]
        tauto
      · rw [YooKassaAdapter.webhookStatus_eq_iff hstatus, ← hstatus]
        exact hagreed
    · intro h body id url hreply hid hurl
      obtain ⟨hstorable, hunused, hagree⟩ :=
        h _ (YooKassaAdapter.createPayment_eq_ok.2 ⟨body, id, url, hreply, hid, hurl, rfl⟩)
      obtain ⟨status, hstatus, -⟩ := mem_storableStatuses.1 hstorable
      have hiff : status = YooKassaAdapter.webhookStatus nestedText body.payload ↔
          PayloadValue.text status.text ∈ agreedStatuses :=
        YooKassaAdapter.webhookStatus_eq_iff hstatus
      refine ⟨?_, hunused⟩
      dsimp only at hstatus
      rw [hstatus]
      exact hiff.1 (hagree status hstatus hprovider)
  · constructor
    · intro h intent hintent
      obtain ⟨hstorable, hunused⟩ := h intent hintent
      exact ⟨hstorable, hunused, fun _ _ hyes => absurd hyes hprovider⟩
    · intro h intent hintent
      obtain ⟨hstorable, hunused, -⟩ := h intent hintent
      exact ⟨hstorable, hunused⟩

theorem saveAttempt_eq_ok {a' : PaymentAttempt} {id : String} {j : ℕ}
    (hrow : db.paymentAttempts[j]? = some a) (hnone : a.providerPaymentId = none)
    (hid : a'.providerPaymentId = some id) :
    db.saveAttempt j a' = .ok { db with paymentAttempts := db.paymentAttempts.set j a' } ∧
        Unused a'.provider id db ∨
      (∃ e, db.saveAttempt j a' = .error e) ∧ ¬ Unused a'.provider id db := by
  unfold Database.saveAttempt
  split_ifs with hused
  · refine .inr ⟨⟨_, rfl⟩, fun hunused => ?_⟩
    simp only [Bool.and_eq_true, List.any_eq_true, decide_eq_true_eq] at hused
    obtain ⟨-, ⟨b, k⟩, hb, -⟩ := hused
    obtain ⟨hk, hmatch⟩ := Table.mem_select.1 hb
    simp only [Bool.and_eq_true, decide_eq_true_eq] at hmatch
    exact hunused b (List.mem_of_getElem? hk) hmatch.1 (hmatch.2.trans hid)
  · refine .inl ⟨rfl, fun b hb hprovider hsame => hused ?_⟩
    obtain ⟨k, hk⟩ := List.getElem?_of_mem hb
    rw [hid, Option.isSome_some, Bool.true_and, List.any_eq_true]
    refine ⟨(b, k), Table.mem_select.2 ⟨hk, by simp [hprovider, hsame]⟩, ?_⟩
    simp only [ne_eq, decide_eq_true_eq]
    rintro rfl
    obtain rfl := Option.some.inj (hrow.symm.trans hk)
    rw [hnone] at hsame
    cases hsame

theorem finalizeCreation_ok {status : PaymentStatus} (id : String) (url : Option String)
    (payload : Payload) (now : DateTime) (hcreated : a.status = .created)
    (hs : status ≠ .created) : ∃ a', a.finalizeCreation status id url payload now = .ok a' ∧
      a'.status = status ∧ a'.providerPaymentId = some id ∧ a'.provider = a.provider := by
  unfold PaymentAttempt.finalizeCreation
  rw [if_neg (not_not.2 hcreated), if_neg hs]
  exact ⟨_, rfl, rfl, rfl, rfl⟩

/-- The owner of a claim stores the intent, or the transaction fails. -/
theorem finalizeIntent_owned {p : PreparedPaymentOrder} {token : Uuid}
    (hrow : db.paymentAttempts[p.attemptId]? = some a) (hnone : a.providerPaymentId = none)
    (howns : a.ownsCreationClaim token = true) :
    (∃ (status : PaymentStatus) (a' : PaymentAttempt) (db' : Database),
      CreatePayment.finalizeIntent db p token intent now = .ok (a', db') ∧
      db'.paymentAttempts = db.paymentAttempts.set p.attemptId a' ∧
      intent.status = .text status.text ∧ status ≠ .created ∧ a'.status = status ∧
      a'.providerPaymentId = some intent.providerPaymentId ∧
      Unused a.provider intent.providerPaymentId db) ∨
    (∃ e, CreatePayment.finalizeIntent db p token intent now = .error e) ∧
      ¬ (intent.status ∈ storableStatuses ∧ Unused a.provider intent.providerPaymentId db) := by
  have hcreated : a.status = .created := Invoices.created_of_owns howns
  simp only [CreatePayment.finalizeIntent, Database.getAttempt, hrow, howns, if_true]
  cases hstatus : PaymentStatus.ofValue intent.status with
  | error e =>
    refine .inr ⟨⟨e, rfl⟩, ?_⟩
    rintro ⟨hstorable, -⟩
    obtain ⟨status, hvalue, -⟩ := mem_storableStatuses.1 hstorable
    rw [PaymentStatus.ofValue_eq_ok.2 hvalue] at hstatus
    cases hstatus
  | ok status =>
    have hvalue := PaymentStatus.ofValue_eq_ok.1 hstatus
    simp only [CreatePayment.finalizeOwnedClaim, Database.getAttempt, hrow, howns, if_true,
      bind, Except.bind]
    by_cases hs : status = .created
    · refine .inr ⟨⟨.invalidStateTransition "Provider result cannot remain in creation-claim state",
        ?_⟩, ?_⟩
      · unfold PaymentAttempt.finalizeCreation
        rw [if_neg (not_not.2 hcreated), if_pos hs]
      rintro ⟨hstorable, -⟩
      obtain ⟨other, hother, hne⟩ := mem_storableStatuses.1 hstorable
      rw [hvalue, PayloadValue.text.injEq] at hother
      rw [← PaymentStatus.text_injective hother] at hne
      exact hne hs
    · obtain ⟨a', hfinal, hstored, hid, hprovider⟩ := finalizeCreation_ok
        intent.providerPaymentId intent.paymentUrl intent.payload now hcreated hs
      rw [hfinal, ← hprovider]
      dsimp only
      rcases saveAttempt_eq_ok hrow hnone hid with ⟨hsave, hunused⟩ | ⟨⟨e, hsave⟩, hused⟩
      · rw [hsave]
        refine .inl ⟨status, a', _, rfl, ?_, hvalue, hs, hstored, hid, hunused⟩
        unfold Database.createProviderTransaction
        split <;> rfl
      · rw [hsave]
        exact .inr ⟨⟨e, rfl⟩, fun h => hused h.2⟩

/-! ## The outcome -/

namespace CreatePayment

/-- An owner that has lost its claim writes nothing. -/
theorem executeOwned_lost {p : PreparedPaymentOrder} {token : Uuid}
    (hrow : db.paymentAttempts[p.attemptId]? = some a) (hlost : a.ownsCreationClaim token = false) :
    (executeOwned isProduction nestedText db p token replies now).2 = db := by
  unfold executeOwned
  split
  · rfl
  · split
    · simp [failOwnedClaim, Database.getAttempt, hrow, hlost, Except.toOption]
    · simp only [finalizeIntent, Database.getAttempt, hrow, hlost, Bool.false_eq_true, if_false]
      cases db.getLatestAttempt p.orderId <;> rfl

/-- The owner stores the intent, fails its attempt, or writes nothing at all. -/
theorem executeOwned_owned {p : PreparedPaymentOrder} {token : Uuid}
    (hrow : db.paymentAttempts[p.attemptId]? = some a) (hnone : a.providerPaymentId = none)
    (howns : a.ownsCreationClaim token = true) :
    let registered := p.order.provider ∈ PaymentAdapterRegistry.adapters isProduction
    let answer := PaymentAdapterRegistry.createPayment nestedText p.order.provider replies
    let db' := (executeOwned isProduction nestedText db p token replies now).2
    (registered ∧ (∃ e, answer = .error e) ∧ ∃ a', a'.status = .failed ∧
      a'.providerPaymentId = none ∧
      db'.paymentAttempts = db.paymentAttempts.set p.attemptId a') ∨
    (registered ∧ ∃ (intent : GatewayIntent) (status : PaymentStatus) (a' : PaymentAttempt),
      answer = .ok intent ∧ db'.paymentAttempts = db.paymentAttempts.set p.attemptId a' ∧
      intent.status = .text status.text ∧ status ≠ .created ∧ a'.status = status ∧
      a'.providerPaymentId = some intent.providerPaymentId ∧
      Unused a.provider intent.providerPaymentId db) ∨
    db' = db ∧ (registered → ∃ intent, answer = .ok intent ∧
      ¬ (intent.status ∈ storableStatuses ∧ Unused a.provider intent.providerPaymentId db)) := by
  dsimp only
  unfold executeOwned
  have hget : PaymentAdapterRegistry.get isProduction p.order.provider = .ok () ↔
      p.order.provider ∈ PaymentAdapterRegistry.adapters isProduction := by
    unfold PaymentAdapterRegistry.get
    rw [require_eq_ok, decide_eq_true_eq]
  cases hregistry : PaymentAdapterRegistry.get isProduction p.order.provider with
  | error e =>
    refine .inr (.inr ⟨rfl, fun hregistered => ?_⟩)
    rw [hget.2 hregistered] at hregistry
    cases hregistry
  | ok u =>
    have hregistered := hget.1 hregistry
    dsimp only
    cases hanswer : PaymentAdapterRegistry.createPayment nestedText p.order.provider replies with
    | error e =>
      refine .inl ⟨hregistered, ⟨e, rfl⟩, a.failCreation now "provider_create_failed", ?_⟩
      have hcreated : a.status = .created := Invoices.created_of_owns howns
      obtain ⟨hstatus, hid, -⟩ :
          (a.failCreation now "provider_create_failed").status = .failed ∧ _ :=
        Invoices.failCreation_fields hcreated
      rw [hnone] at hid
      refine ⟨hstatus, hid, ?_⟩
      simp only [failOwnedClaim, Database.getAttempt, hrow, howns, if_true, Database.saveAttempt,
        hid, Option.isSome_none, Bool.false_and, Bool.false_eq_true, if_false, Except.toOption,
        Option.getD_some]
    | ok intent =>
      dsimp only
      have hcases : _ ∨ (∃ e, finalizeIntent db p token intent now = .error e) ∧ _ :=
        finalizeIntent_owned hrow hnone howns
      rcases hcases with
        ⟨status, a', db', hfinal, hset, hvalue, hs, hstored, hid, hunused⟩ | ⟨⟨e, hfail⟩, hrefused⟩
      · rw [hfinal]
        exact .inr (.inl ⟨hregistered, intent, status, a', rfl, hset, hvalue, hs, hstored, hid,
          hunused⟩)
      · rw [hfail]
        exact .inr (.inr ⟨rfl, fun _ => ⟨intent, rfl, hrefused⟩⟩)

/-- What the owner writes is one transaction of the system, or nothing. -/
theorem executeOwned_step (hclaim : s.invoiceClaims[i]? = some w) (hopen : w.finished = false) :
    ∃ s', s'.db = (executeOwned isProduction nestedText s.db w.prepared w.token replies now).2 ∧
      (s' = s ∨ System.Step settings s s') := by
  unfold executeOwned
  split
  · exact ⟨s, rfl, .inl rfl⟩
  · split
    · cases hfail : failOwnedClaim s.db w.prepared.attemptId w.token now with
      | error e => exact ⟨s, rfl, .inl rfl⟩
      | ok db =>
        refine ⟨{ s with
          db := db
          invoiceClaims := s.invoiceClaims.set i { w with finished := true } }, rfl,
          .inr ⟨.failInvoice i now, ?_⟩⟩
        simp [System.exec, System.invoiceTransaction, hclaim, hopen, hfail, Except.toOption]
    next intent hintent =>
      split
      · exact ⟨s, rfl, .inl rfl⟩
      next a db hfinal =>
        unfold finalizeIntent at hfinal
        split at hfinal
        · cases hfinal
        next a₀ hrow =>
          split_ifs at hfinal with howns
          · obtain ⟨status, hstatus, hfinal⟩ := bind_eq_ok.1 hfinal
            refine ⟨{ s with
              db := db
              invoiceClaims := s.invoiceClaims.set i { w with finished := true } }, rfl,
              .inr ⟨.finalizeInvoice i {
                providerPaymentId := intent.providerPaymentId
                status
                paymentUrl := intent.paymentUrl
                payload := intent.payload } now, ?_⟩⟩
            simp [System.exec, System.invoiceTransaction, hclaim, hopen, hfinal, bind, Except.bind,
              pure, Except.pure, Except.toOption]
          · split at hfinal
            · cases hfinal
            · cases hfinal
              exact ⟨s, rfl, .inl rfl⟩

end CreatePayment

theorem not_claimSettled (hrow : db.paymentAttempts[w.prepared.attemptId]? = some a)
    (hcreated : a.status = .created) : ¬ ClaimSettled nestedText w replies db := by
  rintro ⟨a', hrow', hsettled⟩
  obtain rfl := Option.some.inj (hrow.symm.trans hrow')
  rcases hsettled with ⟨hfailed, -⟩ | ⟨intent, -, -, hne, -⟩
  · rw [hcreated] at hfailed
    cases hfailed
  · exact hne hcreated

/-- An open claim is settled exactly when it was lost before, or when its provider has an adapter
and what the provider answers is an error or can be stored as the webhooks will report it. -/
theorem creation_claim_settles_iff (h : System.Reachable settings s)
    (hclaim : s.invoiceClaims[i]? = some w) (hopen : w.finished = false) :
    ClaimSettled nestedText w replies
        (CreatePayment.executeOwned isProduction nestedText s.db w.prepared w.token replies now).2 ↔
      ClaimLost w s.db ∨
        w.prepared.order.provider ∈ PaymentAdapterRegistry.adapters isProduction ∧
          AnswerAgrees nestedText w.prepared.order.provider replies s.db := by
  obtain ⟨a, hrow, hnone, hprovider, howned | hfailed⟩ :
      Invoices.Claimed s.db.paymentAttempts w :=
    h.invoices.claimed w (List.mem_of_getElem? hclaim) hopen
  · have howns : a.ownsCreationClaim w.token = true := by
      unfold PaymentAttempt.ownsCreationClaim
      rw [howned.1, howned.2]
      simp
    have hlost : ¬ ClaimLost w s.db := by
      rintro ⟨a', hrow', hfailed⟩
      obtain rfl := Option.some.inj (hrow.symm.trans hrow')
      rw [howned.1] at hfailed
      cases hfailed
    rw [or_iff_right hlost, answerAgrees_iff]
    have hlt := (List.getElem?_eq_some_iff.1 hrow).1
    rcases CreatePayment.executeOwned_owned hrow hnone howns with
      ⟨hregistered, ⟨e, hanswer⟩, a', hstatus, hid, hset⟩ |
      ⟨hregistered, intent, status, a', hanswer, hset, hvalue, hs, hstored, hid, hunused⟩ |
      ⟨hsame, hrefused⟩
    · refine iff_of_true ⟨a', ?_, .inl ⟨hstatus, hid⟩⟩ ⟨hregistered, fun intent hintent => ?_⟩
      · rw [hset, List.getElem?_set_self hlt]
      · rw [hanswer] at hintent
        cases hintent
    · have hstored' : ∀ status : PaymentStatus, intent.status = .text status.text →
          a'.status = status := by
        intro other hother
        rw [hvalue, PayloadValue.text.injEq] at hother
        rw [hstored, PaymentStatus.text_injective hother]
      constructor
      · rintro ⟨a₁, hrow', hsettled⟩
        rw [hset, List.getElem?_set_self hlt] at hrow'
        obtain rfl := Option.some.inj hrow'
        refine ⟨hregistered, fun intent' hintent => ?_⟩
        obtain rfl : intent' = intent := by
          rw [hanswer] at hintent
          exact (Except.ok.inj hintent).symm
        refine ⟨mem_storableStatuses.2 ⟨status, hvalue, hs⟩, hprovider ▸ hunused, ?_⟩
        intro other hother hyookassa
        rcases hsettled with ⟨-, hid'⟩ | ⟨intent₁, hintent₁, -, -, hagree⟩
        · rw [hid] at hid'
          cases hid'
        · rw [hanswer] at hintent₁
          cases hintent₁
          rw [← hstored' other hother]
          exact hagree hyookassa
      · rintro ⟨-, hagrees⟩
        obtain ⟨-, -, hagree⟩ := hagrees intent hanswer
        refine ⟨a', ?_, .inr ⟨intent, hanswer, hid, ?_, fun hyookassa => ?_⟩⟩
        · rw [hset, List.getElem?_set_self hlt]
        · rw [hstored]
          exact hs
        · rw [hstored]
          exact hagree status hvalue hyookassa
    · refine iff_of_false ?_ ?_
      · rw [hsame]
        exact not_claimSettled hrow howned.1
      · rintro ⟨hregistered, hagrees⟩
        obtain ⟨intent, hanswer, hno⟩ := hrefused hregistered
        obtain ⟨hstorable, hunused, -⟩ := hagrees intent hanswer
        exact hno ⟨hstorable, hprovider ▸ hunused⟩
  · have hlost : a.ownsCreationClaim w.token = false := by
      unfold PaymentAttempt.ownsCreationClaim
      rw [hfailed]
      rfl
    rw [CreatePayment.executeOwned_lost hrow hlost]
    exact iff_of_true ⟨a, hrow, .inl ⟨hfailed, hnone⟩⟩ (.inl ⟨a, hrow, hfailed⟩)

/-- The shop has prepared its first order and waits for the gateway. -/
def ordered : System := (shop nodeEndpoint).after shopSettings (purchase.take 1)

/-- YooKassa answers with a payment in some status. -/
def answered (status : String) : GatewayReplies where
  yooKassa := .body { payload := [("id", .text "payment"), ("status", .text status)] }
  other := fun _ => .error (.other "RuntimeError")

theorem ordered_reachable : System.Reachable shopSettings ordered :=
  .after (shop_initial nodeEndpoint) (by decide +kernel)

theorem creation_claim_settles_ordered : ∃ w, ordered.invoiceClaims[0]? = some w ∧
    ClaimSettled (fun _ => "nested") w (answered "pending")
      (CreatePayment.executeOwned true (fun _ => "nested") ordered.db w.prepared w.token
        (answered "pending") 1).2 := by
  obtain ⟨w, hclaim, hw⟩ : ∃ w, ordered.invoiceClaims[0]? = some w ∧
      (w.finished = false ∧ w.prepared.order.provider = "yookassa" ∧
        ∀ a ∈ ordered.db.paymentAttempts, a.providerPaymentId = none) := by
    have hany : ordered.invoiceClaims[0]?.any fun w => !w.finished &&
        w.prepared.order.provider = "yookassa" &&
        ordered.db.paymentAttempts.all (·.providerPaymentId = none) := by decide +kernel
    simpa [Option.any_eq_true, and_assoc] using hany
  obtain ⟨hopen, hprovider, hnone⟩ := hw
  refine ⟨w, hclaim, (creation_claim_settles_iff ordered_reachable hclaim hopen).2 (.inr ⟨?_, ?_⟩)⟩
  · rw [hprovider]
    decide
  · unfold AnswerAgrees
    rw [if_pos hprovider]
    intro body id url hbody _ _
    cases hbody
    refine ⟨by decide, fun a ha _ => ?_⟩
    rw [hnone a ha]
    intro h
    cases h

/-- A payment that is settled at once strands the claim on its invoice. -/
theorem creation_claim_stranded :
    ∃ w a, ordered.invoiceClaims[0]? = some w ∧ w.finished = false ∧
      (CreatePayment.executeOwned true (fun _ => "nested") ordered.db w.prepared w.token
        (answered "succeeded") 1).2.paymentAttempts[w.prepared.attemptId]? = some a ∧
      a.ownsCreationClaim w.token = true ∧
      ¬ ClaimSettled (fun _ => "nested") w (answered "succeeded")
        (CreatePayment.executeOwned true (fun _ => "nested") ordered.db w.prepared w.token
          (answered "succeeded") 1).2 := by
  have hany : (ordered.invoiceClaims[0]?.any fun w => !w.finished &&
      (CreatePayment.executeOwned true (fun _ => "nested") ordered.db w.prepared w.token
        (answered "succeeded") 1).2.paymentAttempts[w.prepared.attemptId]?.any
          (·.ownsCreationClaim w.token)) = true := by
    decide +kernel
  obtain ⟨w, hclaim, hw⟩ := (Option.any_eq_true _ _).1 hany
  simp only [Bool.and_eq_true, Bool.not_eq_true'] at hw
  obtain ⟨a, hrow, howns⟩ := (Option.any_eq_true _ _).1 hw.2
  exact ⟨w, a, hclaim, hw.1, hrow, howns, not_claimSettled hrow (Invoices.created_of_owns howns)⟩

end ShopBot
