import ShopBot.Guarantees.CreationRace
import ShopBot.Refinement.Refunds

/-! # Payments and refunds are real

Whoever sends webhooks, and whatever they say: an order is paid only by a payment that has
succeeded at YooKassa, with the amount of the order, and one payment pays one order. A period
is unpaid only once YooKassa has refunded the price of its order.
-/

namespace ShopBot

open Database

/-! ## What the adapter takes from the API -/

namespace YooKassaAdapter

variable {texts : WebhookTexts} {settings : YooKassaSettings} {api : YooKassaApi}
  {now : DateTime} {providerObject : JsonObject} {objectId eventType : String}
  {w : NormalizedWebhookEvent}

theorem normalizeStatus_eq_paid {status : String} (h : normalizeStatus status = .paid) :
    status ∈ ["succeeded", "paid"] := by
  by_contra hnot
  simp only [List.mem_cons, List.not_mem_nil, or_false, not_or] at hnot
  unfold normalizeStatus at h
  simp only [List.lookup_cons, beq_eq_false_iff_ne.2 hnot.1, beq_eq_false_iff_ne.2 hnot.2] at h
  split at h
  · cases h
  · split at h
    · cases h
    · split at h
      · cases h
      · split at h
        · cases h
        · split at h <;> cases h

/-- A status that counts as paid is in the object itself. -/
theorem rawStatus_of_paid (h : rawStatus texts providerObject "pending" ∈ ["succeeded", "paid"]) :
    rawStatus texts providerObject "" ∈ ["succeeded", "paid"] := by
  unfold rawStatus Json.or at h ⊢
  split_ifs at h ⊢ with htruthy
  · exact h
  · change lowerText "pending" ∈ ["succeeded", "paid"] at h
    exact absurd h (by decide +kernel)

theorem fetchObject_ok {resource : YooKassaResource}
    (h : fetchObject api resource objectId = .ok providerObject) :
    api resource objectId = some (.object providerObject) ∧
      Json.get providerObject "id" = .str objectId := by
  unfold fetchObject at h
  split at h
  next hapi =>
    split at h
    next hid =>
      split_ifs at h with heq
      cases h
      rw [heq] at hid
      exact ⟨hapi, hid⟩
    · cases h
  · cases h

theorem optionalObject_ok {value : Json} {message : String} {entries : JsonObject}
    (h : optionalObject value message = .ok entries) : entries = value.entries := by
  cases value with
  | null | object =>
    cases h
    rfl
  | _ => cases h

/-- What a webhook says of an amount is what the object says. -/
def Worth (texts : WebhookTexts) (amount : Json) (minor : Option ℤ) (currency : Option Currency) :
    Prop :=
  minorOf texts (Json.get amount.entries "value") = .ok minor ∧
    currencyOf texts (Json.get amount.entries "currency") = currency

theorem normalizePayment_ok
    (h : normalizePayment texts providerObject eventType now = .ok w) :
    w.eventType = eventType ∧
      w.status = some (normalizeStatus (rawStatus texts providerObject "pending")) ∧
      w.providerPaymentId = some ((Json.get providerObject "id").textOf texts) ∧
      Worth texts (Json.get providerObject "amount") w.amountMinor w.currency := by
  obtain ⟨amount, hamount, h⟩ := bind_eq_ok.1 h
  obtain ⟨metadata, -, h⟩ := bind_eq_ok.1 h
  obtain ⟨reference, -, h⟩ := bind_eq_ok.1 h
  obtain ⟨minor, hminor, h⟩ := bind_eq_ok.1 h
  obtain ⟨orderId, -, h⟩ := bind_eq_ok.1 h
  cases h
  rw [optionalObject_ok hamount] at hminor
  refine ⟨rfl, rfl, rfl, hminor, ?_⟩
  rw [optionalObject_ok hamount]

theorem normalizeRefund_ok (h : normalizeRefund texts providerObject objectId now = .ok w) :
    w.eventType = "refund.succeeded" ∧ w.eventKey = refundKey objectId ∧
      rawStatus texts providerObject "" = "succeeded" ∧
      (∃ paymentId, w.providerPaymentId = some paymentId ∧
        Json.get providerObject "payment_id" = .str paymentId) ∧
      Worth texts (Json.get providerObject "amount") w.amountMinor w.currency := by
  unfold normalizeRefund at h
  split_ifs at h with hstatus
  split at h
  next paymentId hpayment =>
    split_ifs at h
    split at h
    next amount hamount =>
      obtain ⟨minor, hminor, h⟩ := bind_eq_ok.1 h
      cases h
      refine ⟨rfl, rfl, not_not.1 hstatus, ⟨paymentId, rfl, hpayment⟩, ?_⟩
      rw [hamount]
      exact ⟨hminor, rfl⟩
    · cases h
  · cases h

end YooKassaAdapter

/-! ## Events that YooKassa vouches for -/

/-- YooKassa vouches for what the event reports, if it reports a payment or a refund. -/
structure PaymentEvent.Genuine (texts : WebhookTexts) (api : YooKassaApi) (e : PaymentEvent) :
    Prop where
  paid : e.eventType ≠ "refund.succeeded" → e.normalizedPaymentStatus = .paid →
    ∃ id amount reference, e.providerPaymentId = some id ∧
      api.Succeeded texts .payments id amount reference ∧
      YooKassaAdapter.Worth texts amount e.amountMinor e.currency
  refunded : e.eventType = "refund.succeeded" →
    ∃ refundId id amount, e.eventKey = YooKassaAdapter.refundKey refundId ∧
      e.providerPaymentId = some id ∧ api.Succeeded texts .refunds refundId amount (.str id) ∧
      YooKassaAdapter.Worth texts amount e.amountMinor e.currency

namespace PaymentEvent.Genuine

variable {texts : WebhookTexts} {api api' : YooKassaApi} {e e' : PaymentEvent}

theorem later (h : e.Genuine texts api) (hlater : api.Later texts api') : e.Genuine texts api' := by
  constructor
  · intro htype hstatus
    obtain ⟨id, amount, reference, hid, hsucceeded, hworth⟩ := h.paid htype hstatus
    exact ⟨id, amount, reference, hid, hlater _ _ _ _ hsucceeded, hworth⟩
  · intro htype
    obtain ⟨refundId, id, amount, hkey, hid, hsucceeded, hworth⟩ := h.refunded htype
    exact ⟨refundId, id, amount, hkey, hid, hlater _ _ _ _ hsucceeded, hworth⟩

theorem of_report (h : e.report.Genuine texts api) : e.Genuine texts api := ⟨h.paid, h.refunded⟩

theorem report (h : e.Genuine texts api) : e.report.Genuine texts api := ⟨h.paid, h.refunded⟩

end PaymentEvent.Genuine

/-- What the adapter makes of a webhook is vouched for by the API that it has asked. -/
theorem YooKassaAdapter.verifyAndNormalizeWebhook_genuine {texts : WebhookTexts}
    {settings : YooKassaSettings} {api : YooKassaApi} {now : DateTime} {rawBody : List UInt8}
    {w : NormalizedWebhookEvent}
    (h : verifyAndNormalizeWebhook texts settings api now rawBody = .ok w) (db : Database) :
    (IngestWebhook.eventOf db "yookassa" w).Genuine texts api := by
  obtain ⟨inbound, -, h⟩ := bind_eq_ok.1 h
  obtain ⟨objectId, -, h⟩ := bind_eq_ok.1 h
  cases hcredentials : hasCredentials settings with
  | false =>
    rw [hcredentials] at h
    cases h
  | true =>
    rw [hcredentials] at h
    simp only [Bool.not_true, Bool.false_eq_true, if_false] at h
    split_ifs at h with hrefund
    · obtain ⟨providerObject, hfetch, h⟩ := bind_eq_ok.1 h
      obtain ⟨hapi, hid⟩ := fetchObject_ok hfetch
      obtain ⟨htype, hkey, hstatus, ⟨paymentId, hpayment, hreference⟩, hworth⟩ :=
        normalizeRefund_ok h
      constructor
      · intro hnot
        exact absurd htype hnot
      · intro _
        exact ⟨objectId, paymentId, _, hkey, hpayment,
          ⟨providerObject, hapi, hid, by simp [hstatus], rfl, hreference⟩, hworth⟩
    · obtain ⟨providerObject, hfetch, h⟩ := bind_eq_ok.1 h
      obtain ⟨hapi, hid⟩ := fetchObject_ok hfetch
      obtain ⟨htype, hstatus, hpayment, hworth⟩ := normalizePayment_ok h
      constructor
      · intro _ hpaid
        have hnormal : w.status.getD (PaymentEvent.inferPaymentStatus w.eventType w.payload) =
            .paid := hpaid
        rw [hstatus, Option.getD_some] at hnormal
        rw [hid] at hpayment
        exact ⟨objectId, _, _, hpayment, ⟨providerObject, hapi, hid,
          rawStatus_of_paid (normalizeStatus_eq_paid hnormal), rfl, rfl⟩, hworth⟩
      · intro hrefunded
        exact absurd (htype.symm.trans hrefunded) hrefund

/-! ## Events and invoices -/

theorem IngestWebhook.eventOf_invoice {db : Database} {provider : String}
    {w : NormalizedWebhookEvent} {j : ℕ} (h : (eventOf db provider w).paymentAttemptId = some j) :
    ∃ (k : ℕ) (id : String), w.providerPaymentId = some id ∧
      db.invoiceColumn[j]? = some (provider, k, some id) := by
  obtain ⟨⟨a, i⟩, hfound, rfl⟩ := Option.map_eq_some_iff.1 h
  obtain ⟨id, hid, hattempt⟩ := Option.bind_eq_some_iff.1 hfound
  obtain ⟨hrow, hmatch⟩ := Table.firstWhere_some hattempt
  simp only [Bool.and_eq_true, decide_eq_true_eq] at hmatch
  refine ⟨a.paymentOrderId, id, ?_, ?_⟩
  · cases hw : w.providerPaymentId with
    | none =>
      rw [hw] at hid
      cases hid
    | some raw =>
      rw [hw] at hid
      unfold orText at hid
      dsimp only at hid
      split_ifs at hid
      exact hid
  · rw [invoiceColumn, List.getElem?_map, hrow, Option.map_some, PaymentAttempt.invoice, hmatch.1,
      hmatch.2]

theorem Database.NamesInvoices.keep {db db' : Database} (h : db.NamesInvoices)
    (hreports : db'.paymentEvents.map PaymentEvent.report = db.paymentEvents.map PaymentEvent.report)
    (hinvoices : InvoiceColumn.Change db.invoiceColumn db'.invoiceColumn) : db'.NamesInvoices := by
  intro e he j hj
  have hmem : e.report ∈ db.paymentEvents.map PaymentEvent.report := by
    rw [← hreports]
    exact List.mem_map_of_mem he
  obtain ⟨e₀, he₀, hreport⟩ := List.mem_map.1 hmem
  have hattempt : e₀.paymentAttemptId = e.paymentAttemptId := congrArg (·.paymentAttemptId) hreport
  have hprovider : e₀.provider = e.provider := congrArg (·.provider) hreport
  have hpayment : e₀.providerPaymentId = e.providerPaymentId :=
    congrArg (·.providerPaymentId) hreport
  obtain ⟨k, id, hid, hrow⟩ := h e₀ he₀ j (hattempt.trans hj)
  rw [hprovider] at hrow
  exact ⟨k, id, hpayment.symm.trans hid, hinvoices.keeps hrow⟩

namespace System

variable {settings : Settings} {s : System}

theorem Reachable.namesInvoices (h : Reachable settings s) : s.db.NamesInvoices := by
  refine Transition.Reachable.invariant (fun s : System => s.db.NamesInvoices) ?_ ?_ h
  · intro s hs e he
    rw [hs] at he
    cases he
  · rintro s s' hr hnames ⟨cmd, hcmd⟩
    cases hwebhook : cmd.isWebhook with
    | false =>
      exact hnames.keep (exec_reports (Reachable.inv hr).1 hcmd hwebhook)
        (exec_invoiceColumn hr hcmd)
    | true =>
      cases cmd with
      | ingestWebhook provider w headers rawPayload now =>
        obtain ⟨r, hexecute⟩ := commit_eq_some hcmd
        obtain ⟨hattempts, -, -, ⟨-, hsame⟩ | ⟨-, hnew⟩⟩ := IngestWebhook.execute_cases hexecute
        · refine hnames.keep (by rw [hsame]) (exec_invoiceColumn hr hcmd)
        · have hcolumn : s'.db.invoiceColumn = s.db.invoiceColumn := by
            rw [invoiceColumn, hattempts, invoiceColumn]
          intro e he j hj
          rw [hcolumn]
          rw [hnew] at he
          rcases List.mem_append.1 he with hold | hfresh
          · exact hnames e hold j hj
          · obtain rfl := List.mem_singleton.1 hfresh
            exact IngestWebhook.eventOf_invoice hj
      | _ => cases hwebhook

/-- Every refund that is recorded is reported by an event about an invoice of its order. -/
theorem Reachable.refundedBy (h : Reachable settings s) {t : ProviderTransaction}
    (ht : t ∈ s.db.providerTransactions) (htype : t.transactionType = "refund_succeeded") :
    ∃ e ∈ s.db.paymentEvents, s.db.RefundedBy t e := by
  refine Transition.Reachable.invariant (fun s : System => ∀ t ∈ s.db.providerTransactions,
    t.transactionType = "refund_succeeded" →
    ∃ e ∈ s.db.paymentEvents, s.db.RefundedBy t e) ?_ ?_ h t ht htype
  · intro s hs t ht
    rw [hs] at ht
    cases ht
  · rintro s s' hr hinv ⟨cmd, hcmd⟩ t ht htype
    have hw := (Reachable.inv hr).1
    obtain ⟨e, he, hby⟩ : ∃ e ∈ s.db.paymentEvents, s.db.RefundedBy t e := by
      rcases exec_refundedBy hw (namesInvoices hr) hcmd ht htype with hold | hnew
      · exact hinv t hold htype
      · exact hnew
    obtain ⟨i, hi⟩ := List.getElem?_of_mem he
    have hbilling := (exec_evolves hw hcmd).billing
    obtain ⟨e', he', hreport⟩ := hbilling.events i e hi
    exact ⟨e', List.mem_of_getElem? he', hby.keep hreport hbilling.orders
      (exec_invoiceColumn hr hcmd)⟩

end System

namespace PaymentNetwork

variable {settings : Settings} {webhooks : WebhookSettings} {texts : WebhookTexts}
  {others : String → List UInt8 → Except WebhookError NormalizedWebhookEvent}
  {n n' : PaymentNetwork}

/-- A webhook that is accepted is what its provider vouches for. -/
theorem handlePaymentWebhook_ok {api : YooKassaApi} {provider : String} {request : WebhookRequest}
    {rawPayload : Payload} {now : DateTime} {db db' : Database} {result : IngestResult}
    (h : Webhooks.handlePaymentWebhook texts webhooks api others provider request rawPayload now
      db = .ok (result, db')) : ∃ rawBody w,
    Webhooks.verify texts webhooks api others provider now rawBody = .ok w ∧
      IngestWebhook.execute db provider w request.headers rawPayload now = .ok (result, db') := by
  obtain ⟨-, -, h⟩ := bind_eq_ok.1 h
  obtain ⟨rawBody, -, h⟩ := bind_eq_ok.1 h
  split at h
  · cases h
  next w hverify =>
    split at h
    · cases h
    next hexecute =>
      cases h
      exact ⟨rawBody, w, hverify, hexecute⟩

/-- The shop takes a step of its own for every webhook. -/
theorem exec_ingestWebhook {s : System} {provider : String} {w : NormalizedWebhookEvent}
    {headers rawPayload : Payload} {now : DateTime} {result : IngestResult} {db' : Database}
    (h : IngestWebhook.execute s.db provider w headers rawPayload now = .ok (result, db')) :
    s.exec settings (.ingestWebhook provider w headers rawPayload now) =
      some { s with db := db' } := by
  change s.commit (IngestWebhook.execute s.db provider w headers rawPayload now) = _
  rw [h]
  rfl

/-- The events of YooKassa are genuine. -/
def GenuineEvents (texts : WebhookTexts) (n : PaymentNetwork) : Prop :=
  ∀ e ∈ n.shop.db.paymentEvents, e.provider = "yookassa" → e.Genuine texts n.api

theorem Reachable.genuine (h : Reachable settings webhooks texts others n) :
    System.Reachable settings n.shop ∧ n.GenuineEvents texts := by
  refine Transition.Reachable.invariant (fun n : PaymentNetwork =>
    System.Reachable settings n.shop ∧ n.GenuineEvents texts) ?_ ?_ h
  · intro n hn
    refine ⟨⟨n.shop, hn, .refl⟩, fun e he => ?_⟩
    rw [hn] at he
    cases he
  · rintro n n' - ⟨hr, hgenuine⟩ hstep
    cases hstep with
    | shop cmd shop' command step =>
      refine ⟨hr.tail ⟨cmd, step⟩, fun e he hprovider => ?_⟩
      have hreports := System.exec_reports (System.Reachable.inv hr).1 step command
      have hmem : e.report ∈ n.shop.db.paymentEvents.map PaymentEvent.report := by
        rw [← hreports]
        exact List.mem_map_of_mem he
      obtain ⟨e₀, he₀, hreport⟩ := List.mem_map.1 hmem
      have hsame : e₀.provider = "yookassa" := by
        rw [← hprovider]
        exact congrArg (·.provider) hreport
      have hold := (hgenuine e₀ he₀ hsame).report
      rw [hreport] at hold
      exact .of_report hold
    | webhook api provider request rawPayload now result db answered accepted =>
      obtain ⟨rawBody, w, hverify, hexecute⟩ := handlePaymentWebhook_ok accepted
      refine ⟨hr.tail ⟨_, exec_ingestWebhook hexecute⟩, fun e he hprovider => ?_⟩
      obtain ⟨-, -, -, ⟨-, hsame⟩ | ⟨-, hnew⟩⟩ := IngestWebhook.execute_cases hexecute
      · change e ∈ db.paymentEvents at he
        rw [hsame] at he
        exact hgenuine e he hprovider
      · change e ∈ db.paymentEvents at he
        rw [hnew] at he
        rcases List.mem_append.1 he with hold | hfresh
        · exact hgenuine e hold hprovider
        · obtain rfl := List.mem_singleton.1 hfresh
          obtain rfl : provider = "yookassa" := hprovider
          unfold Webhooks.verify at hverify
          split at hverify
          · cases hverify
          · rw [if_pos rfl] at hverify
            exact (YooKassaAdapter.verifyAndNormalizeWebhook_genuine hverify _).later answered
    | yooKassa api' later =>
      exact ⟨hr, fun e he hprovider => (hgenuine e he hprovider).later later⟩

/-! ## Payments -/

/-- The payment is an invoice of the order. -/
def Invoiced (n : PaymentNetwork) (k : ℕ) (id : String) : Prop :=
  ∃ (j : ℕ) (a : PaymentAttempt), n.shop.db.paymentAttempts[j]? = some a ∧
    a.provider = "yookassa" ∧ a.paymentOrderId = k ∧ a.providerPaymentId = some id

theorem invoiced_iff {k : ℕ} {id : String} : n.Invoiced k id ↔
    ∃ j : ℕ, n.shop.db.invoiceColumn[j]? = some ("yookassa", k, some id) := by
  constructor
  · rintro ⟨j, a, ha, hprovider, rfl, hid⟩
    exact ⟨j, by rw [invoiceColumn, List.getElem?_map, ha, Option.map_some, PaymentAttempt.invoice,
      hprovider, hid]⟩
  · rintro ⟨j, hrow⟩
    rw [invoiceColumn, List.getElem?_map] at hrow
    obtain ⟨a, ha, hinvoice⟩ := Option.map_eq_some_iff.1 hrow
    simp only [PaymentAttempt.invoice, Prod.mk.injEq] at hinvoice
    exact ⟨j, a, ha, hinvoice⟩

/-- The payment has succeeded at YooKassa, it is the invoice of the order, and it is worth what
the order costs. -/
structure PaidWith (texts : WebhookTexts) (n : PaymentNetwork) (k : ℕ) (o : PaymentOrder)
    (id : String) : Prop where
  invoice : n.Invoiced k id
  succeeded : ∃ amount reference, n.api.Succeeded texts .payments id amount reference ∧
    YooKassaAdapter.Worth texts amount (some (o.amount.minor : ℤ)) (some o.amount.currency)

/-- An order of YooKassa that nobody has settled by hand is paid by a payment that has succeeded
at YooKassa and is worth what the order costs, and no payment pays two orders. -/
theorem paid_orders_are_paid_at_yookassa (h : Reachable settings webhooks texts others n) {k : ℕ}
    {o : PaymentOrder} (ho : n.shop.db.paymentOrders[k]? = some o) (hpaid : o.status = .paid)
    (hprovider : o.provider = "yookassa") (hmanual : o.manuallySettled = false) :
    ∃ id, PaidWith texts n k o id ∧
      ∀ (k' : ℕ) (o' : PaymentOrder), PaidWith texts n k' o' id → k' = k := by
  obtain ⟨hr, hgenuine⟩ := h.genuine
  rcases System.Reachable.paidBy hr ho hpaid with hby | ⟨e, he, hpays⟩
  · rw [hmanual] at hby
    cases hby
  · obtain ⟨j, id, hid, hrow⟩ := hpays.invoice
    obtain ⟨id', amount, reference, hid', hsucceeded, hworth⟩ :=
      (hgenuine e he (hpays.provider.trans hprovider)).paid hpays.type hpays.status
    obtain rfl : id = id' := Option.some.inj (hid.symm.trans hid')
    rw [hpays.amount, hpays.currency] at hworth
    rw [hprovider] at hrow
    refine ⟨id, ⟨invoiced_iff.2 ⟨j, hrow⟩, amount, reference, hsucceeded, hworth⟩, ?_⟩
    intro k' o' hother
    obtain ⟨j', hrow'⟩ := invoiced_iff.1 hother.invoice
    obtain rfl := (System.Reachable.uniqueInvoices hr) _ _ _ _ _ _ hrow hrow'
    rw [hrow] at hrow'
    simp only [Option.some.injEq, Prod.mk.injEq] at hrow'
    exact hrow'.2.1.symm

/-! ## A sale -/

def price : Json := .object [("value", .str "5.00"), ("currency", .str "RUB")]

/-- One payment and its refund. -/
def yooKassaApi : YooKassaApi
  | .payments, id =>
    if id = "order" then
      some (.object [("id", .str id), ("status", .str "succeeded"), ("amount", price)])
    else none
  | .refunds, id =>
    if id = "refund" then
      some (.object [("id", .str id), ("status", .str "succeeded"), ("amount", price),
        ("payment_id", .str "order")])
    else none

/-- A body is read as a webhook about the payment or about its refund. -/
def hookTexts : WebhookTexts where
  str _ := ""
  dumps _ := ""
  loads body := if body = [0]
    then some (.object [("event", .str "payment.succeeded"),
      ("object", .object [("id", .str "order")])])
    else some (.object [("event", .str "refund.succeeded"),
      ("object", .object [("id", .str "refund")])])
  upper := id
  int _ := none
  fromIsoformat _ := none

def hookSettings : WebhookSettings where
  shopId := some "1"
  secretKey := some "key"
  isProduction := true
  webhookMaxBodyBytes := 65536
  trustedProxyCidrs := []
  yookassaWebhookAllowedNetworks := ["185.71.76.0/27"]

def hook (body : List UInt8) : WebhookRequest where
  clientHost := some "185.71.76.1"
  forwardedFor := none
  contentLength := none
  chunks := [body]

/-- The network after a webhook with the body, which may be rejected. -/
def serve (n : PaymentNetwork) (body : List UInt8) (now : DateTime) : PaymentNetwork :=
  match Webhooks.handlePaymentWebhook hookTexts hookSettings n.api (fun _ _ => .error .other)
    "yookassa" (hook body) [] now n.shop.db with
  | .ok (_, db) => { n with shop := { n.shop with db := db } }
  | .error _ => n

/-- The network after a transaction of the shop, which may be rolled back. -/
def run (n : PaymentNetwork) (cmd : Command) : PaymentNetwork :=
  if cmd.isWebhook then n else { n with shop := (n.shop.exec shopSettings cmd).getD n.shop }

abbrev ShopReachable : PaymentNetwork → Prop :=
  Reachable shopSettings hookSettings hookTexts fun _ _ => .error .other

theorem Reachable.serve {body : List UInt8} {now : DateTime} (h : n.ShopReachable) :
    (n.serve body now).ShopReachable := by
  unfold PaymentNetwork.serve
  split
  next hok => exact Transition.Reachable.tail h (.webhook n.api _ _ _ _ _ _ (fun _ _ _ _ hs => hs) hok)
  · exact h

theorem Reachable.run {cmd : Command} (h : n.ShopReachable) : (n.run cmd).ShopReachable := by
  unfold PaymentNetwork.run
  split_ifs with hcmd
  · exact h
  · cases hexec : n.shop.exec shopSettings cmd with
    | none =>
      exact h
    | some shop' =>
      exact Transition.Reachable.tail h (.shop cmd shop' (Bool.eq_false_of_not_eq_true hcmd) hexec)

/-- A client buys a month and pays for it. -/
def sold : PaymentNetwork :=
  ((((⟨ShopBot.shop nodeEndpoint, yooKassaApi⟩ : PaymentNetwork).run (.createPayment {
      telegramId := 7
      tariffId := 0
      provider := "yookassa"
      idempotencyKey := "order"
      nameOrNick := some "client" } 0 60 1)).run
    (.finalizeInvoice 0 { providerPaymentId := "order" } 0)).serve [0] 0).run (.processPayment 0 0)

theorem sold_reachable : sold.ShopReachable := by
  have hstart : ShopReachable ⟨ShopBot.shop nodeEndpoint, yooKassaApi⟩ :=
    ⟨⟨ShopBot.shop nodeEndpoint, yooKassaApi⟩, shop_initial nodeEndpoint, .refl⟩
  exact .run (.serve (.run (.run hstart)))

theorem paid_orders_are_paid_at_yookassa_shop : ∃ o id,
    sold.shop.db.paymentOrders[0]? = some o ∧ PaidWith hookTexts sold 0 o id := by
  obtain ⟨o, ho, hsold⟩ := (Option.any_eq_true _ _).1
    (show sold.shop.db.paymentOrders[0]?.any (fun o => decide (o.status = .paid ∧
      o.provider = "yookassa" ∧ o.manuallySettled = false)) = true by decide +kernel)
  obtain ⟨hpaid, hprovider, hmanual⟩ := of_decide_eq_true hsold
  obtain ⟨id, hid, -⟩ := paid_orders_are_paid_at_yookassa sold_reachable ho hpaid hprovider hmanual
  exact ⟨o, id, ho, hid⟩

/-! ## Refunds -/

/-- YooKassa has refunded so much of an invoice of the order. -/
structure RefundedWith (texts : WebhookTexts) (n : PaymentNetwork) (k : ℕ) (o : PaymentOrder)
    (refundId : String) (minor : ℤ) : Prop where
  positive : 0 < minor
  succeeded : ∃ id amount, n.Invoiced k id ∧
    n.api.Succeeded texts .refunds refundId amount (.str id) ∧
    YooKassaAdapter.Worth texts amount (some minor) (some o.amount.currency)

/-- A recorded refund of YooKassa is one that YooKassa has made, and its key says which. -/
theorem Reachable.refunded (h : Reachable settings webhooks texts others n)
    {t : ProviderTransaction} (ht : t ∈ n.shop.db.providerTransactions)
    (htype : t.transactionType = "refund_succeeded") (hprovider : t.provider = "yookassa")
    {o : PaymentOrder} (ho : n.shop.db.paymentOrders[t.paymentOrderId]? = some o) :
    ∃ refundId, t.providerTransactionKey = YooKassaAdapter.refundKey refundId ∧
      RefundedWith texts n t.paymentOrderId o refundId t.amountMinor := by
  obtain ⟨hr, hgenuine⟩ := h.genuine
  obtain ⟨e, he, hby⟩ := System.Reachable.refundedBy hr ht htype
  obtain ⟨refundId, id, amount, hkey, hid, hsucceeded, hworth⟩ :=
    (hgenuine e he (hby.provider.trans hprovider)).refunded hby.type
  obtain ⟨j, id', hid', hrow⟩ := hby.invoice
  obtain rfl : id = id' := Option.some.inj (hid.symm.trans hid')
  obtain ⟨o', ho', hcurrency⟩ := hby.order
  obtain rfl : o = o' := Option.some.inj (ho.symm.trans ho')
  rw [hby.amount, hby.currency, ← hcurrency] at hworth
  rw [hprovider] at hrow
  exact ⟨refundId, hby.key.symm.trans hkey, hby.positive, id, amount, invoiced_iff.2 ⟨j, hrow⟩,
    hsucceeded, hworth⟩

/-- A period of an order of YooKassa is unpaid only once different refunds of YooKassa sum up to
the amount of the order. -/
theorem unpaid_periods_are_refunded_at_yookassa
    (h : Reachable settings webhooks texts others n) {p : SubscriptionPeriod}
    (hp : p ∈ n.shop.db.subscriptionPeriods) (hunpaid : p.isPaid = false) {k : ℕ}
    {o : PaymentOrder} (hk : p.paymentOrderId = some k)
    (ho : n.shop.db.paymentOrders[k]? = some o) (hprovider : o.provider = "yookassa") :
    ∃ refunds : List (String × ℤ), (refunds.map Prod.fst).Nodup ∧
      (∀ r ∈ refunds, RefundedWith texts n k o r.1 r.2) ∧
      (o.amount.minor : ℤ) ≤ (refunds.map Prod.snd).sum := by
  have hledger := System.Reachable.refundLedger h.genuine.1
  obtain ⟨k', o', hk', ho', hcovers⟩ := hledger.unpaid p hp hunpaid
  obtain rfl : k = k' := Option.some.inj (hk.symm.trans hk')
  obtain rfl : o = o' := Option.some.inj (ho.symm.trans ho')
  have hrefund : ∀ t : ProviderTransaction, ∃ refundId, t ∈ n.shop.db.providerTransactions →
      t.transactionType = "refund_succeeded" → t.provider = "yookassa" → t.paymentOrderId = k →
      t.providerTransactionKey = YooKassaAdapter.refundKey refundId ∧
        RefundedWith texts n k o refundId t.amountMinor := by
    intro t
    by_cases hall : t ∈ n.shop.db.providerTransactions ∧ t.transactionType = "refund_succeeded" ∧
        t.provider = "yookassa" ∧ t.paymentOrderId = k
    · obtain ⟨ht, htype, hyookassa, rfl⟩ := hall
      obtain ⟨refundId, hrefund⟩ := h.refunded ht htype hyookassa ho
      exact ⟨refundId, fun _ _ _ _ => hrefund⟩
    · exact ⟨"", fun ht htype hyookassa hk => absurd ⟨ht, htype, hyookassa, hk⟩ hall⟩
  choose refundId hrefund using hrefund
  unfold Billing.refunded at hcovers
  generalize hrows : n.shop.db.billingLedger.transactions.filter _ = rows at hcovers
  have hmade : ∀ t ∈ rows, t.provider = "yookassa" ∧
      t.providerTransactionKey = YooKassaAdapter.refundKey (refundId t) ∧
      RefundedWith texts n k o (refundId t) t.amountMinor := by
    intro t ht
    rw [← hrows] at ht
    obtain ⟨hmem, hselect⟩ := List.mem_filter.1 ht
    simp only [Bool.and_eq_true, decide_eq_true_eq] at hselect
    obtain ⟨⟨⟨horder, hyookassa⟩, htype⟩, -⟩ := hselect
    rw [hprovider] at hyookassa
    exact ⟨hyookassa, hrefund t hmem htype hyookassa horder⟩
  have hkeys : Billing.DistinctKeys rows := by
    rw [← hrows]
    exact hledger.keys.filter _
  refine ⟨rows.map fun t => (refundId t, t.amountMinor), ?_, ?_, ?_⟩
  · rw [List.map_map]
    refine List.pairwise_map.2 (hkeys.imp_of_mem fun {t u} ht hu hdistinct hsame => ?_)
    obtain ⟨htp, htk, -⟩ := hmade t ht
    obtain ⟨hup, huk, -⟩ := hmade u hu
    apply hdistinct (htp.trans hup.symm)
    rw [htk, huk]
    exact congrArg _ hsame
  · intro r hr
    obtain ⟨t, ht, rfl⟩ := List.mem_map.1 hr
    exact (hmade t ht).2.2
  · rw [List.map_map]
    exact hcovers

/-- The client gets the money back. -/
def returned : PaymentNetwork := (sold.serve [1] 1).run (.processPayment 1 1)

theorem unpaid_periods_are_refunded_at_yookassa_shop : ∃ (o : PaymentOrder)
    (refunds : List (String × ℤ)), returned.shop.db.paymentOrders[0]? = some o ∧
    (refunds.map Prod.fst).Nodup ∧ (∀ r ∈ refunds, RefundedWith hookTexts returned 0 o r.1 r.2) ∧
    (o.amount.minor : ℤ) ≤ (refunds.map Prod.snd).sum := by
  have hr : returned.ShopReachable := .run (.serve sold_reachable)
  obtain ⟨o, ho, hprovider⟩ := (Option.any_eq_true _ _).1
    (show returned.shop.db.paymentOrders[0]?.any (fun o => decide (o.provider = "yookassa")) =
      true by decide +kernel)
  obtain ⟨p, hp, hunpaid⟩ := List.any_eq_true.1
    (show returned.shop.db.subscriptionPeriods.any (fun p => decide (p.isPaid = false ∧
      p.paymentOrderId = some 0)) = true by decide +kernel)
  obtain ⟨hfalse, horder⟩ := of_decide_eq_true hunpaid
  obtain ⟨refunds, hrefunds⟩ := unpaid_periods_are_refunded_at_yookassa hr hp hfalse horder ho
    (of_decide_eq_true hprovider)
  exact ⟨o, refunds, ho, hrefunds⟩

end PaymentNetwork

end ShopBot
