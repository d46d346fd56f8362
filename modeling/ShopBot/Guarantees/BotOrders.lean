import ShopBot.Guarantees.Amounts
import ShopBot.Guarantees.BotButtons
import ShopBot.Refinement.Sales

/-! # One order for an intent

A button that orders holds an intent, and the key of the order is made of it. However often the
button and its retries are pressed, whatever of the answers is lost and whatever the shop does
in between, there is one order for the intent, and it is of the user who has pressed.
-/

namespace ShopBot

namespace TelegramBot

/-! ## Keys -/

theorem toList_toString_int {n : ℤ} : (toString n).toList =
    if 0 ≤ n then Nat.toDigits 10 n.toNat else '-' :: Nat.toDigits 10 (-n).toNat := by
  rw [Int.toString_eq_repr, Int.repr_eq_if]
  split_ifs
  · exact Nat.toList_repr
  · rw [String.toList_append, Nat.toList_repr]
    rfl

theorem toDigits_inj {m n : ℕ} (h : Nat.toDigits 10 m = Nat.toDigits 10 n) : m = n := by
  rw [← Nat.ofDigitChars_ten_toDigits (n := m), h, Nat.ofDigitChars_ten_toDigits]

theorem not_mem_hyphen_toDigits {n : ℕ} : '-' ∉ Nat.toDigits 10 n := by
  intro h
  exact absurd (Nat.isDigit_of_mem_toDigits (by decide) (by decide) h) (by decide)

theorem toString_int_inj {m n : ℤ} (h : (toString m).toList = (toString n).toList) : m = n := by
  rw [toList_toString_int, toList_toString_int] at h
  split_ifs at h with hm hn hn
  · have hdigits := toDigits_inj h
    omega
  · exact absurd (h ▸ List.mem_cons_self) not_mem_hyphen_toDigits
  · exact absurd (h ▸ List.mem_cons_self) not_mem_hyphen_toDigits
  · have hdigits := toDigits_inj (List.cons.inj h).2
    omega

/-- The characters of a number are digits and perhaps a hyphen. -/
theorem mem_toString_int {n : ℤ} {c : Char} (h : c ∈ (toString n).toList) :
    c.isDigit = true ∨ c = '-' := by
  have hdigits : ∀ {m : ℕ}, c ∈ Nat.toDigits 10 m → c.isDigit = true := fun hmem =>
    Nat.isDigit_of_mem_toDigits (by decide) (by decide) hmem
  rw [toList_toString_int] at h
  split_ifs at h
  · exact .inl (hdigits h)
  · rcases List.mem_cons.1 h with rfl | h
    · exact .inr rfl
    · exact .inl (hdigits h)

/-- The parts of the key of an order. -/
def orderParts (telegramId : ℤ) (tariffId : ℕ) (intentId : IntentId) : List (List Char) :=
  ["tg-ui2".toList, (toString telegramId).toList, Nat.toDigits 10 tariffId, intentId.1.toList]

variable {telegramId telegramId' : ℤ} {tariffId tariffId' : ℕ} {intentId intentId' : IntentId}

theorem toList_orderKey : (orderKey telegramId tariffId intentId).toList =
    [':'].intercalate (orderParts telegramId tariffId intentId) := by
  simp [orderKey, orderParts, ToString.toString]

theorem mem_orderParts {part : List Char} {c : Char}
    (hpart : part ∈ orderParts telegramId tariffId intentId) (hc : c ∈ part) :
    isIntentChar c = true := by
  have hdigit : ∀ {c : Char}, c.isDigit = true → isIntentChar c = true := by
    intro c hc
    simp [isIntentChar, Char.isAlphanum, hc]
  simp only [orderParts, List.mem_cons, List.not_mem_nil, or_false] at hpart
  rcases hpart with rfl | rfl | rfl | rfl
  · exact List.all_eq_true.1 (by decide : "tg-ui2".toList.all isIntentChar = true) c hc
  · rcases mem_toString_int hc with hc | rfl
    · exact hdigit hc
    · decide
  · exact hdigit (Nat.isDigit_of_mem_toDigits (by decide) (by decide) hc)
  · exact IntentId.chars intentId hc

theorem isSpace_of_isIntentChar {c : Char} (h : isIntentChar c = true) : isSpace c = false := by
  have hrange : (65 ≤ c.toNat ∧ c.toNat ≤ 90) ∨ (97 ≤ c.toNat ∧ c.toNat ≤ 122) ∨
      (48 ≤ c.toNat ∧ c.toNat ≤ 57) ∨ c = '_' ∨ c = '-' := by
    have hcases := isIntentChar_iff.1 h
    simp only [UInt32.le_iff_toNat_le] at hcases
    exact hcases
  have hnoSpace : (65 ≤ c.toNat ∧ c.toNat ≤ 90) ∨ (97 ≤ c.toNat ∧ c.toNat ≤ 122) ∨
      (48 ≤ c.toNat ∧ c.toNat ≤ 57) → isSpace c = false := by
    intro hrange
    simp only [isSpace, List.mem_cons, List.not_mem_nil, or_false, Bool.or_eq_false_iff,
      decide_eq_false_iff_not, Bool.and_eq_false_iff]
    omega
  rcases hrange with h | h | h | rfl | rfl
  · exact hnoSpace (.inl h)
  · exact hnoSpace (.inr (.inl h))
  · exact hnoSpace (.inr (.inr h))
  · decide
  · decide

/-- A key keeps its characters when it is stripped. -/
theorem stripText_orderKey :
    stripText (orderKey telegramId tariffId intentId) = orderKey telegramId tariffId intentId := by
  have hspace : ∀ c ∈ (orderKey telegramId tariffId intentId).toList, isSpace c = false := by
    intro c hc
    rw [toList_orderKey] at hc
    rcases Separated.mem_intercalate hc with rfl | ⟨part, hpart, hc⟩
    · decide
    · exact isSpace_of_isIntentChar (mem_orderParts hpart hc)
  have hstrip := stripText_eq hspace
  rw [String.ofList_toList] at hstrip
  exact String.toList_inj.1 hstrip

/-- A key tells who orders what, and with which intent. -/
theorem orderKey_inj
    (h : orderKey telegramId tariffId intentId = orderKey telegramId' tariffId' intentId') :
    telegramId = telegramId' ∧ tariffId = tariffId' ∧ intentId = intentId' := by
  have hkeys := congrArg String.toList h
  rw [toList_orderKey, toList_orderKey] at hkeys
  have hfree : ∀ part ∈ orderParts telegramId tariffId intentId, ':' ∉ part := by
    intro part hpart hcolon
    exact absurd (mem_orderParts hpart hcolon) (by decide)
  have hlength : (orderParts telegramId tariffId intentId).length =
      (orderParts telegramId' tariffId' intentId').length := by
    simp [orderParts]
  have hparts := Separated.eq_of_intercalate_eq hfree hlength hkeys
  simp only [orderParts, List.cons.injEq, true_and, and_true] at hparts
  exact ⟨toString_int_inj hparts.1, toDigits_inj hparts.2.1,
    Subtype.ext (String.toList_inj.1 hparts.2.2)⟩

theorem Route.Shows.not_payment {route : Route} (order : BotCreateOrderResponse) :
    ¬ route.Shows (.payment order) := by
  intro h
  generalize hscreen : Screen.payment order = screen at h
  cases h with
  | opening => cases route <;> cases hscreen
  | failure failure =>
    subst hscreen
    unfold Route.failure at failure
    split at failure <;> cases failure
  | dashboard dashboard =>
    subst hscreen
    unfold Route.showDashboard at dashboard
    split at dashboard <;> cases dashboard
  | tariffs tariffs =>
    subst hscreen
    unfold Route.useTariffs renderTariffs at tariffs
    split at tariffs
    · split_ifs at tariffs <;> cases tariffs
    · cases tariffs
    · split_ifs at tariffs <;> cases tariffs
    · split_ifs at tariffs <;> cases tariffs
    · cases tariffs

end TelegramBot

open TelegramBot

/-- The order of a user for a tariff, opened with an intent. -/
structure Database.OrderedWith (db : Database) (provider : String) (telegramId : ℤ) (tariffId : ℕ)
    (intentId : IntentId) (orderId : ℕ) (o : PaymentOrder) : Prop where
  row : db.paymentOrders[orderId]? = some o
  key : o.idempotencyKey = orderKey telegramId tariffId intentId
  tariff : o.tariffId = tariffId
  provider : o.provider = stripText provider
  user : ∃ u, db.users[o.userId]? = some u ∧ u.telegramId = telegramId

/-- Users stay, and an order stays one for the same purchase. -/
structure Database.KeepsSales (db db' : Database) : Prop where
  users : db.users <+: db'.users
  orders : Table.Keeps PaymentOrder.purchase db.paymentOrders db'.paymentOrders

theorem Database.OrderedWith.keep {db db' : Database} {provider : String} {telegramId : ℤ}
    {tariffId orderId : ℕ} {intentId : IntentId} {o : PaymentOrder}
    (h : db.OrderedWith provider telegramId tariffId intentId orderId o) (hkeeps : db.KeepsSales db') :
    ∃ o', db'.OrderedWith provider telegramId tariffId intentId orderId o' ∧
      o'.purchase = o.purchase := by
  obtain ⟨o', ho', hpurchase⟩ := hkeeps.orders orderId o h.row
  have hfields := hpurchase
  simp only [PaymentOrder.purchase, Prod.mk.injEq] at hfields
  obtain ⟨huser, htariff, hprovider, -, -, hkey⟩ := hfields
  obtain ⟨u, hu, htelegram⟩ := h.user
  refine ⟨o', ⟨ho', hkey.trans h.key, htariff.trans h.tariff, hprovider.trans h.provider,
    u, ?_, htelegram⟩, hpurchase⟩
  rw [huser]
  obtain ⟨rest, hrest⟩ := hkeeps.users
  rw [← hrest, List.getElem?_append_left (List.getElem?_eq_some_iff.1 hu).1]
  exact hu

namespace BotSystem

variable {settings : Settings} {botSettings : BotSettings} {addresses : ℕ → EndpointAddress}
  {descriptions : ℕ → Option String} {b b' : BotSystem} {provider : String}

/-- A handler is at work, or was, for the intent of an order. -/
def Placed (b : BotSystem) (provider : String) (orderId : ℕ) (o : PaymentOrder) : Prop :=
  ∃ w ∈ b.handlers, ∃ tariffId intentId, w.route.order = some (tariffId, intentId) ∧
    b.shop.db.OrderedWith provider w.user.id tariffId intentId orderId o

/-- A handler waits for the invoice of the order it is for. -/
def Prepared (b : BotSystem) (provider : String) (w : Handler) : Prop :=
  ∀ p, w.stage = .waiting p → ∃ tariffId intentId o, w.route.order = some (tariffId, intentId) ∧
    b.shop.db.OrderedWith provider w.user.id tariffId intentId p.orderId o ∧
    o.purchase = p.order.purchase

/-- An order is shown to its user as it was placed. -/
def ShownTo (b : BotSystem) (provider : String) (telegramId : ℤ) (order : BotCreateOrderResponse) :
    Prop :=
  ∃ tariffId intentId o,
    b.shop.db.OrderedWith provider telegramId tariffId intentId order.paymentOrderId o ∧
    order.provider = o.provider ∧ order.amountMinor = o.amount.minor ∧
    order.currency = o.amount.currency.code

structure OrderInv (provider : String) (b : BotSystem) : Prop where
  wellFormed : b.shop.db.WellFormed
  placed : ∀ (k : ℕ) (o : PaymentOrder), b.shop.db.paymentOrders[k]? = some o → b.Placed provider k o
  once : ∀ (i j : ℕ) (o p : PaymentOrder), b.shop.db.paymentOrders[i]? = some o →
    b.shop.db.paymentOrders[j]? = some p → o.idempotencyKey = p.idempotencyKey → i = j
  prepared : ∀ w ∈ b.handlers, b.Prepared provider w
  shown : ∀ telegramId order, (telegramId, .payment order) ∈ b.screens →
    b.ShownTo provider telegramId order

theorem Prepared.of_idle {w : Handler} (h : ∀ p, w.stage ≠ .waiting p) : b.Prepared provider w :=
  fun p hp => absurd hp (h p)

theorem Prepared.keep {w : Handler} (h : b.Prepared provider w)
    (hkeeps : b.shop.db.KeepsSales b'.shop.db) : b'.Prepared provider w := by
  intro p hp
  obtain ⟨tariffId, intentId, o, horder, hwith, hpurchase⟩ := h p hp
  obtain ⟨o', hwith', hpurchase'⟩ := hwith.keep hkeeps
  exact ⟨tariffId, intentId, o', horder, hwith', hpurchase'.trans hpurchase⟩

theorem ShownTo.keep {telegramId : ℤ} {order : BotCreateOrderResponse}
    (h : b.ShownTo provider telegramId order) (hkeeps : b.shop.db.KeepsSales b'.shop.db) :
    b'.ShownTo provider telegramId order := by
  obtain ⟨tariffId, intentId, o, hwith, hprovider, hamount, hcurrency⟩ := h
  obtain ⟨o', hwith', hpurchase⟩ := hwith.keep hkeeps
  simp only [PaymentOrder.purchase, Prod.mk.injEq] at hpurchase
  obtain ⟨-, -, hp, ha, -, -⟩ := hpurchase
  exact ⟨tariffId, intentId, o', hwith', hprovider.trans hp.symm, by rw [ha, hamount],
    by rw [ha, hcurrency]⟩

/-! ## One step -/

/-- The handlers of `b` are still there. -/
def Retains (b b' : BotSystem) : Prop :=
  ∀ w ∈ b.handlers, ∃ w' ∈ b'.handlers, w'.user = w.user ∧ w'.route = w.route

theorem GoesOn.retains {k : ℕ} {w : Handler} {stage : Stage} (h : GoesOn b k w stage b') :
    b.Retains b' := by
  intro v hv
  obtain ⟨j, hj⟩ := List.getElem?_of_mem hv
  by_cases hjk : k = j
  · subst hjk
    obtain rfl := Option.some.inj (h.row.symm.trans hj)
    exact ⟨_, h.mem_handlers, rfl, rfl⟩
  · refine ⟨v, ?_, rfl, rfl⟩
    rw [h.handlers]
    exact List.mem_of_getElem? ((List.getElem?_set_ne hjk).trans hj)

theorem Received.retains {user : TelegramUser} {route : Route} {hasMessage isNew : Bool}
    (h : Received b user route hasMessage isNew b') : b.Retains b' := by
  intro w hw
  refine ⟨w, ?_, rfl, rfl⟩
  cases h with
  | known _ shop handlers screens => rwa [handlers]
  | fresh _ stage shop idle handlers screens =>
    rw [handlers]
    exact List.mem_append_left _ hw

theorem Placed.keep {k : ℕ} {o o' : PaymentOrder} (h : b.Placed provider k o)
    (hkeeps : b.shop.db.KeepsSales b'.shop.db) (hretains : b.Retains b')
    (ho' : b'.shop.db.paymentOrders[k]? = some o') : b'.Placed provider k o' := by
  obtain ⟨w, hw, tariffId, intentId, horder, hwith⟩ := h
  obtain ⟨w', hw', huser, hroute⟩ := hretains w hw
  obtain ⟨o'', hwith', -⟩ := hwith.keep hkeeps
  obtain rfl := Option.some.inj (hwith'.row.symm.trans ho')
  exact ⟨w', hw', tariffId, intentId, hroute ▸ horder, huser ▸ hwith'⟩

/-- What is to be shown of a step. An order that is new has a key of its own. -/
theorem OrderInv.step (h : OrderInv provider b) (hw : b'.shop.db.WellFormed)
    (hkeeps : b.shop.db.KeepsSales b'.shop.db) (hretains : b.Retains b')
    (hlength : b'.shop.db.paymentOrders.length ≤ b.shop.db.paymentOrders.length + 1)
    (hnew : ∀ o, b'.shop.db.paymentOrders[b.shop.db.paymentOrders.length]? = some o →
      b'.Placed provider b.shop.db.paymentOrders.length o ∧
        ∀ p ∈ b.shop.db.paymentOrders, p.idempotencyKey ≠ o.idempotencyKey)
    (hprepared : ∀ w ∈ b'.handlers, w ∈ b.handlers ∨ b'.Prepared provider w)
    (hshown : ∀ r ∈ b'.screens, r ∈ b.screens ∨
      ∀ order, r.2 = .payment order → b'.ShownTo provider r.1 order) : OrderInv provider b' := by
  -- a row is an old one, or the one that the step may have added
  have hrow : ∀ {k : ℕ} {o : PaymentOrder}, b'.shop.db.paymentOrders[k]? = some o →
      (∃ o₀ ∈ b.shop.db.paymentOrders, b.shop.db.paymentOrders[k]? = some o₀ ∧
        o.idempotencyKey = o₀.idempotencyKey) ∨ k = b.shop.db.paymentOrders.length := by
    intro k o ho
    obtain ⟨hlt, -⟩ := List.getElem?_eq_some_iff.1 ho
    by_cases hk : k < b.shop.db.paymentOrders.length
    · have ho₀ := List.getElem?_eq_getElem hk
      obtain ⟨o', ho', hpurchase⟩ := hkeeps.orders k _ ho₀
      obtain rfl := Option.some.inj (ho'.symm.trans ho)
      simp only [PaymentOrder.purchase, Prod.mk.injEq] at hpurchase
      exact .inl ⟨_, List.mem_of_getElem? ho₀, ho₀, hpurchase.2.2.2.2.2⟩
    · right
      omega
  constructor
  · exact hw
  · intro k o ho
    rcases hrow ho with ⟨o₀, -, ho₀, -⟩ | rfl
    · exact (h.placed k o₀ ho₀).keep hkeeps hretains ho
    · exact (hnew o ho).1
  · intro i j o p ho hp hkey
    rcases hrow ho with ⟨o₀, hmem, ho₀, hok⟩ | rfl
    · rcases hrow hp with ⟨p₀, -, hp₀, hpk⟩ | rfl
      · exact h.once i j o₀ p₀ ho₀ hp₀ (hok.symm.trans (hkey.trans hpk))
      · exact absurd (hok.symm.trans hkey) ((hnew p hp).2 o₀ hmem)
    · rcases hrow hp with ⟨p₀, hmem, hp₀, hpk⟩ | rfl
      · exact absurd (hpk.symm.trans hkey.symm) ((hnew o ho).2 p₀ hmem)
      · rfl
  · intro w hw'
    rcases hprepared w hw' with hold | hp
    · exact (h.prepared w hold).keep hkeeps
    · exact hp
  · intro telegramId order hr
    rcases hshown _ hr with hold | hs
    · exact (h.shown telegramId order hold).keep hkeeps
    · exact hs order rfl

/-- A step that opens no order. -/
theorem OrderInv.quiet (h : OrderInv provider b) (hw : b'.shop.db.WellFormed)
    (husers : b.shop.db.users <+: b'.shop.db.users)
    (horders : b'.shop.db.paymentOrders.map PaymentOrder.purchase =
      b.shop.db.paymentOrders.map PaymentOrder.purchase) (hretains : b.Retains b')
    (hprepared : ∀ w ∈ b'.handlers, w ∈ b.handlers ∨ b'.Prepared provider w)
    (hshown : ∀ r ∈ b'.screens, r ∈ b.screens ∨
      ∀ order, r.2 = .payment order → b'.ShownTo provider r.1 order) : OrderInv provider b' := by
  have hlength : b'.shop.db.paymentOrders.length = b.shop.db.paymentOrders.length := by
    simpa using congrArg List.length horders
  apply h.step hw ⟨husers, .of_map_eq horders⟩ hretains (by omega) _ hprepared hshown
  intro o ho
  have hlt := (List.getElem?_eq_some_iff.1 ho).1
  omega

/-- A handler that goes on without an order of its own. -/
theorem OrderInv.goesOn {k : ℕ} {w : Handler} {stage : Stage} (h : OrderInv provider b)
    (hw : b'.shop.db.WellFormed) (husers : b.shop.db.users <+: b'.shop.db.users)
    (horders : b'.shop.db.paymentOrders = b.shop.db.paymentOrders)
    (hstage : ∀ p, stage = .waiting p → w.stage = .waiting p) (hgo : GoesOn b k w stage b') :
    OrderInv provider b' := by
  have hkeeps : b.shop.db.KeepsSales b'.shop.db := ⟨husers, by rw [horders]; exact .refl⟩
  have hold := List.mem_of_getElem? hgo.row
  apply h.quiet hw husers (by rw [horders]) hgo.retains
  · intro w' hw'
    rw [hgo.handlers] at hw'
    rcases List.mem_or_eq_of_mem_set hw' with hw' | rfl
    · exact .inl hw'
    · exact .inr fun p hp => (h.prepared w hold).keep hkeeps p (hstage p hp)
  · intro r hr
    rcases hgo.screens_cases hr with hr | ⟨w', -, -, hshows⟩
    · exact .inl hr
    · exact .inr fun order horder => absurd (horder ▸ hshows) (Route.Shows.not_payment _)

theorem OrderInv.received {user : TelegramUser} {route : Route} {hasMessage isNew : Bool}
    (h : OrderInv provider b) (hr : Received b user route hasMessage isNew b') :
    OrderInv provider b' := by
  have hshop : b'.shop = b.shop := by
    cases hr with
    | known => assumption
    | fresh => assumption
  apply h.quiet (hshop ▸ h.wellFormed) (hshop ▸ List.prefix_rfl) (by rw [hshop]) hr.retains
  · intro w hw
    cases hr with
    | known _ shop handlers screens => exact .inl (handlers ▸ hw)
    | fresh _ stage shop idle handlers screens =>
      rw [handlers] at hw
      rcases List.mem_append.1 hw with hw | hw
      · exact .inl hw
      · obtain rfl := List.mem_singleton.1 hw
        exact .inr (.of_idle idle)
  · intro r hr'
    rcases hr.screens_cases hr' with hr' | ⟨w', -, -, hshows⟩
    · exact .inl hr'
    · exact .inr fun order horder => absurd (horder ▸ hshows) (Route.Shows.not_payment _)

theorem registerUser_ok {db db' : Database} {telegramId : ℤ} {nameOrNick : String} {id : ℕ}
    (h : registerUser db telegramId nameOrNick = .ok (id, db')) :
    db' = db ∨ ∃ u : User, db' = { db with users := db.users ++ [u] } := by
  unfold registerUser at h
  split at h
  · cases h
    exact .inl rfl
  · obtain ⟨-, -, h⟩ := bind_eq_ok.1 h
    cases h
    exact .inr ⟨_, rfl⟩

theorem wellFormed_addUser {db : Database} (h : db.WellFormed) (u : User) :
    Database.WellFormed { db with users := db.users ++ [u] } :=
  ⟨h.endpoint, h.subscription, h.clientUuid, h.nodeTasks, h.panelProvisionTasks,
    h.panelRevokeTasks⟩

theorem createPayment_db {s s' : System} {request : PaymentRequest} {now : DateTime}
    {leaseSeconds : ℤ} {token : Uuid} {p : PreparedPaymentOrder} {db : Database}
    (hp : CreatePayment.prepareOrder s.db request now leaseSeconds token = .ok (p, db))
    (h : s.exec settings (.createPayment request now leaseSeconds token) = some s') : s'.db = db := by
  obtain ⟨⟨p', db'⟩, hp', h⟩ := Option.bind_eq_some_iff.1 h
  have heq := (System.toOption_eq_some hp').symm.trans hp
  cases heq
  dsimp only at h
  split_ifs at h <;> cases h <;> rfl

/-- The transaction opens the order of the handler, or finds it. -/
theorem OrderInv.createOrder {k : ℕ} {now : DateTime} {leaseSeconds : ℤ} {token : Uuid}
    (h : OrderInv botSettings.provider b)
    (hcreate : b.createOrder settings botSettings k now leaseSeconds token = some b') :
    OrderInv botSettings.provider b' := by
  obtain ⟨w, tariffId, intentId, p, db, stage, horder, hprepare, hexec, -, -, hstage, hgo⟩ :=
    createOrder_eq_some hcreate
  obtain rfl := createPayment_db hprepare hexec
  obtain ⟨-, -, userId, tariff, husers, huser, hrow, hkey, hidentity, hcases⟩ :=
    CreatePayment.prepareOrder_ok hprepare
  simp only [orderRequest, stripText_orderKey] at hkey hcases huser
  have hmem : { w with stage := stage } ∈ b'.handlers := hgo.mem_handlers
  have hkeeps : b.shop.db.KeepsSales b'.shop.db := by
    refine ⟨husers, ?_⟩
    rcases hcases with hsame | ⟨hnew, -⟩
    · rw [hsame]
      exact .refl
    · rw [hnew]
      exact .append _
  have hordered : b'.shop.db.OrderedWith botSettings.provider w.user.id tariffId intentId
      p.orderId p.order := by
    simp only [PaymentOrder.hasSameCreationIdentity, Bool.and_eq_true, decide_eq_true_eq] at hidentity
    obtain ⟨⟨⟨⟨huserId, htariffId⟩, hprovider⟩, -⟩, -⟩ := hidentity
    obtain ⟨u, hu, htelegram⟩ := huser
    exact ⟨hrow, hkey, htariffId, hprovider, u, by rw [huserId]; exact hu, htelegram⟩
  apply h.step (System.exec_evolves h.wellFormed hexec).wellFormed hkeeps hgo.retains
  · rcases hcases with hsame | ⟨hnew, -⟩
    · rw [hsame]
      omega
    · rw [hnew, List.length_append, List.length_singleton]
  · intro o ho
    rcases hcases with hsame | ⟨hnew, hfresh⟩
    · rw [hsame] at ho
      exact absurd (List.getElem?_eq_some_iff.1 ho).1 (lt_irrefl _)
    · have hlast := ho
      rw [hnew, List.getElem?_concat_length] at hlast
      obtain rfl := Option.some.inj hlast
      refine ⟨⟨_, hmem, tariffId, intentId, horder, ho, ?_, rfl, rfl, huser⟩, fun q hq => ?_⟩
      · exact stripText_orderKey
      · exact fun hkey => hfresh q hq (hkey.trans stripText_orderKey)
  · intro w' hw'
    rw [hgo.handlers] at hw'
    rcases List.mem_or_eq_of_mem_set hw' with hw' | rfl
    · exact .inl hw'
    · refine .inr fun q hq => ⟨tariffId, intentId, p.order, horder, ?_⟩
      rcases hstage with rfl | rfl
      · cases hq
        exact ⟨hordered, rfl⟩
      · cases hq
  · intro r hr
    rcases hgo.screens_cases hr with hr | ⟨w', -, -, hshows⟩
    · exact .inl hr
    · exact .inr fun order hpayment => absurd (hpayment ▸ hshows) (Route.Shows.not_payment _)

/-- The answer is that of the order that was taken. -/
theorem OrderInv.answerOrder {k : ℕ} {attempt : PaymentAttempt} (h : OrderInv provider b)
    (hanswer : b.answerOrder k attempt = some b') : OrderInv provider b' := by
  obtain ⟨w, p, hstage, hrow, hshop, -, -, hhandlers, hscreens⟩ := answerOrder_eq_some hanswer
  have hold := List.mem_of_getElem? hrow
  have hretains : b.Retains b' := by
    have hgo : GoesOn b k w .finished { b' with screens := b.screens } :=
      ⟨hrow, hhandlers, .inl rfl⟩
    exact hgo.retains
  apply h.quiet (hshop ▸ h.wellFormed) (hshop ▸ List.prefix_rfl) (by rw [hshop]) hretains
  · intro w' hw'
    rw [hhandlers] at hw'
    rcases List.mem_or_eq_of_mem_set hw' with hw' | rfl
    · exact .inl hw'
    · exact .inr (.of_idle fun _ => Stage.noConfusion)
  · intro r hr
    rw [hscreens] at hr
    rcases List.mem_append.1 hr with hr | hr
    · exact .inl hr
    · obtain rfl := List.mem_singleton.1 hr
      refine .inr fun order horder => ?_
      obtain rfl := Screen.payment.inj horder
      obtain ⟨tariffId, intentId, o, -, hwith, hpurchase⟩ := h.prepared w hold p hstage
      simp only [PaymentOrder.purchase, Prod.mk.injEq] at hpurchase
      obtain ⟨-, -, hprovider, hamount, -, -⟩ := hpurchase
      refine ⟨tariffId, intentId, o, hshop ▸ hwith, hprovider.symm, ?_, ?_⟩
      · rw [hamount]
        rfl
      · rw [hamount]
        rfl

theorem OrderInv.exec {ev : BotEvent} (h : OrderInv botSettings.provider b)
    (hev : b.exec settings botSettings addresses descriptions ev = some b') :
    OrderInv botSettings.provider b' := by
  cases ev with
  | message m now =>
    obtain ⟨-, -, -, hr⟩ := receive_eq_some hev
    exact h.received hr
  | callback c now =>
    obtain ⟨-, -, -, hr⟩ := receive_eq_some hev
    exact h.received hr
  | takeIntent handler now =>
    obtain ⟨w, stage, hidle, hshop, hgo⟩ := takeIntent_eq_some hev
    exact h.goesOn (hshop ▸ h.wellFormed) (hshop ▸ List.prefix_rfl) (by rw [hshop])
      (fun p hp => absurd hp (hidle p)) hgo
  | registerUser handler =>
    obtain ⟨w, id, db, stage, hdb, hshop, -, -, hstage, hgo⟩ := registerHandlerUser_eq_some hev
    have hkeep : ∀ p, stage = .waiting p → w.stage = .waiting p := by
      intro p hp
      rcases hstage with rfl | rfl
      · exact hp
      · cases hp
    rcases registerUser_ok hdb with rfl | ⟨u, rfl⟩
    · exact h.goesOn (hshop ▸ h.wellFormed) (hshop ▸ List.prefix_rfl) (by rw [hshop]) hkeep hgo
    · exact h.goesOn (hshop ▸ wellFormed_addUser h.wellFormed u)
        (hshop ▸ List.prefix_append _ _) (by rw [hshop]) hkeep hgo
  | readDashboard handler now =>
    obtain ⟨w, hshop, -, -, hgo⟩ := readDashboard_eq_some hev
    exact h.goesOn (hshop ▸ h.wellFormed) (hshop ▸ List.prefix_rfl) (by rw [hshop])
      (fun _ => Stage.noConfusion) hgo
  | readTariffs handler intentIds =>
    obtain ⟨w, stage, hidle, hshop, -, -, hgo⟩ := readTariffs_eq_some hev
    exact h.goesOn (hshop ▸ h.wellFormed) (hshop ▸ List.prefix_rfl) (by rw [hshop])
      (fun p hp => absurd hp (hidle p)) hgo
  | createOrder handler now leaseSeconds token => exact h.createOrder hev
  | answerOrder handler attempt => exact h.answerOrder hev
  | fail handler =>
    obtain ⟨w, stage, hidle, hshop, -, -, hgo⟩ := fail_eq_some hev
    exact h.goesOn (hshop ▸ h.wellFormed) (hshop ▸ List.prefix_rfl) (by rw [hshop])
      (fun p hp => absurd hp (hidle p)) hgo
  | shop cmd =>
    simp only [BotSystem.exec] at hev
    split_ifs at hev with hcmd
    obtain ⟨shop, hexec, rfl⟩ := Option.map_eq_some_iff.1 hev
    have hsales := System.exec_sales h.wellFormed hexec (by simpa using hcmd)
    rw [Database.sales, Database.sales, Prod.mk.injEq] at hsales
    exact h.quiet (System.exec_evolves h.wellFormed hexec).wellFormed
      (hsales.1 ▸ List.prefix_rfl) hsales.2 (fun w hw => ⟨w, hw, rfl, rfl⟩) (fun _ => .inl)
      fun _ => .inl

theorem Reachable.orderInv (h : Reachable settings botSettings addresses descriptions b) :
    OrderInv botSettings.provider b := by
  refine Transition.Reachable.invariant (OrderInv botSettings.provider) ?_ ?_ h
  · rintro b ⟨hshop, -, hhandlers, hscreens⟩
    obtain ⟨hw, -⟩ := System.initial_inv hshop
    have hempty : b.shop.db.paymentOrders = [] := by rw [hshop]
    constructor
    · exact hw
    · simp [hempty]
    · simp [hempty]
    · simp [hhandlers]
    · simp [hscreens]
  · rintro b b' - h ⟨ev, hev⟩
    exact h.exec hev

/-- Every order was opened by a handler of its user with the intent of a button, no other order
was opened with the same intent, and an order that is shown is shown to its user as it was
opened. -/
theorem one_order_for_an_intent
    (h : Reachable settings botSettings addresses descriptions b) :
    (∀ orderId o, b.shop.db.paymentOrders[orderId]? = some o →
      ∃ w ∈ b.handlers, ∃ tariffId intentId, w.route.order = some (tariffId, intentId) ∧
        b.shop.db.OrderedWith botSettings.provider w.user.id tariffId intentId orderId o) ∧
    (∀ telegramId telegramId' tariffId tariffId' intentId intentId' orderId orderId' o o',
      b.shop.db.OrderedWith botSettings.provider telegramId tariffId intentId orderId o →
      b.shop.db.OrderedWith botSettings.provider telegramId' tariffId' intentId' orderId' o' →
      (orderId = orderId' ↔
        telegramId = telegramId' ∧ tariffId = tariffId' ∧ intentId = intentId')) ∧
    ∀ telegramId order, (telegramId, .payment order) ∈ b.screens → ∃ tariffId intentId o,
      b.shop.db.OrderedWith botSettings.provider telegramId tariffId intentId order.paymentOrderId o ∧
      order.provider = o.provider ∧ order.amountMinor = o.amount.minor ∧
      order.currency = o.amount.currency.code := by
  have hinv := h.orderInv
  refine ⟨hinv.placed, ?_, hinv.shown⟩
  intro telegramId telegramId' tariffId tariffId' intentId intentId' i j o p ho hp
  constructor
  · rintro rfl
    obtain rfl := Option.some.inj (ho.row.symm.trans hp.row)
    exact orderKey_inj (ho.key.symm.trans hp.key)
  · rintro ⟨rfl, rfl, rfl⟩
    exact hinv.once i j o p ho.row hp.row (ho.key.trans hp.key.symm)

/-- The client orders; the answer is lost, and the client tries again. -/
def orderTwice : List BotEvent := browse ++
  [.callback { id := "1", fromUser := client, data := some ⟨"ui2:o:0:0123456789", by decide⟩ } 1,
    .takeIntent 1 1, .registerUser 1, .readTariffs 1 fun _ => intent, .createOrder 1 1 60 1, .fail 1,
    .callback { id := "2", fromUser := client, data := some ⟨"ui2:r:0:0123456789", by decide⟩ } 2,
    .registerUser 2, .readTariffs 2 fun _ => intent, .createOrder 2 2 60 2,
    .answerOrder 2 {
      paymentOrderId := 0
      provider := "yookassa"
      status := .pending
      paymentUrl := some "https://pay.example.com" }]

theorem one_order_for_an_intent_shop : ∃ o, (after orderTwice).shop.db.paymentOrders = [o] ∧
    ∃ w ∈ (after orderTwice).handlers, ∃ tariffId intentId,
      w.route.order = some (tariffId, intentId) ∧
      (after orderTwice).shop.db.OrderedWith "yookassa" w.user.id tariffId intentId 0 o := by
  have hr : Reachable _ _ _ _ (after orderTwice) := .after (by decide +kernel)
  obtain ⟨o, ho⟩ := List.length_eq_one_iff.1
    (show (after orderTwice).shop.db.paymentOrders.length = 1 by decide +kernel)
  exact ⟨o, ho, (one_order_for_an_intent hr).1 0 o (by rw [ho]; rfl)⟩

end BotSystem

end ShopBot
