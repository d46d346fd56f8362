import ShopBot.Bot.Queries
import ShopBot.Library.ExpiringMemory
import ShopBot.UseCases.CreatePayment

/-! # Handlers of the bot

Which handler an update is routed to, what the handler shows while it works, and what it shows
once the shop has answered. The parts of the data of a button are divided by colons.
-/

namespace ShopBot

namespace TelegramBot

structure TelegramUser where
  id : ℤ
  firstName : Option String := none
  lastName : Option String := none
  username : Option String := none
deriving DecidableEq, Repr

/-- A message, with the command that it holds for this bot. -/
structure Message where
  chatId : ℤ
  messageId : ℤ
  fromUser : TelegramUser
  command : Option String := none
  text : Option String := none
deriving DecidableEq, Repr

/-- What a button may call back with. -/
abbrev CallbackData := {data : String // data.utf8ByteSize ≤ 64}

/-- A press of a button; the message under which the button stands may be out of reach. -/
structure CallbackQuery where
  id : String
  fromUser : TelegramUser
  data : Option CallbackData := none
  hasMessage : Bool := true
deriving DecidableEq, Repr

def CONNECT_BUTTON : String := "🚀 Подключиться"

def KEYS_BUTTON : String := "🔑 Мои ключи"

def HELP_BUTTON : String := "🆘 Помощь"

def INSTRUCTIONS_BUTTON : String := "📖 Инструкции"

def BACK_BUTTON : String := "⬅️ Назад"

/-! ## Intents -/

def isIntentChar (c : Char) : Bool := c.isAlphanum || c = '_' || c = '-'

def isIntentId (text : String) : Bool := text.toList.length = 10 && text.toList.all isIntentChar

/-- What `_new_intent_id` draws. -/
abbrev IntentId := {text : String // isIntentId text = true}

/-- `_parse_order_callback` -/
def parseOrderCallback (data : String) (head : String) : Option (ℕ × IntentId) := do
  let rest ← data.toList.dropPrefix? head.toList
  match rest.splitOn ':' with
  | [tariffRaw, intentId] =>
    let tariffId ← IpAddress.parseDecimal tariffRaw
    if h : isIntentId (.ofList intentId) = true then some (tariffId, ⟨.ofList intentId, h⟩)
    else none
  | _ => none

/-! ## Routes -/

/-- The handlers, with what the data of a button tells them. -/
inductive Route where
  | home

  | tariffs

  | myVpn

  | help

  | instructions

  | unknownInput

  | stale

  | legacyBuy

  | selectTariff (tariffId : ℕ) (intentId : IntentId)

  | retryOrder (tariffId : ℕ) (intentId : IntentId)
deriving DecidableEq, Repr

/-- The order that a handler is about. -/
def Route.order : Route → Option (ℕ × IntentId)
  | .selectTariff tariffId intentId | .retryOrder tariffId intentId => some (tariffId, intentId)
  | _ => none

/-- The handlers of messages, in the order of their registration. -/
def routeMessage (message : Message) : Route :=
  if message.command = some "start" then .home
  else if message.command = some "menu" ∨ message.text = some BACK_BUTTON then .home
  else if message.command = some "plans" ∨ message.text = some CONNECT_BUTTON then .tariffs
  else if message.command = some "status" ∨ message.text = some KEYS_BUTTON then .myVpn
  else if message.command = some "help" ∨ message.text = some HELP_BUTTON then .help
  else if message.command = some "instructions" ∨ message.text = some INSTRUCTIONS_BUTTON then
    .instructions
  else .unknownInput

/-- `back_callback` -/
def backRoute : List Char → Route
  | ['h'] => .home
  | ['t'] => .tariffs
  | _ => .stale

/-- `retry_context_callback` -/
def retryContextRoute : List Char → Route
  | ['h'] => .home
  | ['t'] => .tariffs
  | ['v'] => .myVpn
  | _ => .stale

/-- The handlers of the buttons that older versions have shown. -/
def legacyRoute (data : String) : Route :=
  if data = "main_menu" then .home
  else if data = "tariffs" then .tariffs
  else if data = "dashboard" then .myVpn
  else if data = "help" then .help
  else if data = "instructions" then .instructions
  else if (data.toList.dropPrefix? "buy:".toList).isSome then .legacyBuy
  else .stale

/-- The handlers of buttons with a part of their own. -/
def prefixedRoute (data : String) : Route :=
  match data.toList.dropPrefix? "ui2:b:".toList, data.toList.dropPrefix? "ui2:retry:".toList with
  | some routeCode, _ => backRoute routeCode
  | none, some contextCode => retryContextRoute contextCode
  | none, none =>
    if (data.toList.dropPrefix? "ui2:o:".toList).isSome then
      ((parseOrderCallback data "ui2:o:").map fun order => .selectTariff order.1 order.2).getD .stale
    else if (data.toList.dropPrefix? "ui2:r:".toList).isSome then
      ((parseOrderCallback data "ui2:r:").map fun order => .retryOrder order.1 order.2).getD .stale
    else legacyRoute data

/-- The handlers of buttons, in the order of their registration. -/
def routeCallback (data : String) : Route :=
  if data = "ui2:h" then .home
  else if data = "ui2:t" then .tariffs
  else if data = "ui2:v" then .myVpn
  else if data = "ui2:i" then .instructions
  else if data = "ui2:help" then .help
  else prefixedRoute data

/-! ## Users and keys -/

/-- `_display_name` -/
def displayName (user : TelegramUser) : String :=
  let joined := stripText (" ".intercalate
    ([user.firstName.getD "", user.lastName.getD ""].filter (· ≠ "")))
  (orText (some joined) (orText user.username none)).getD s!"telegram-{user.id}"

def messageKey (message : Message) : String :=
  s!"telegram:message:{message.chatId}:{message.messageId}"

def callbackKey (callback : CallbackQuery) : String :=
  s!"telegram:callback:{callback.fromUser.id}:{callback.id}"

def intentKey (telegramId : ℤ) (tariffId : ℕ) (intentId : IntentId) : String :=
  s!"telegram:ui2:intent:{telegramId}:{tariffId}:{intentId.1}"

/-- The key under which `OrderFlow` orders. -/
def orderKey (telegramId : ℤ) (tariffId : ℕ) (intentId : IntentId) : String :=
  s!"tg-ui2:{telegramId}:{tariffId}:{intentId.1}"

/-- What `OrderFlow.create_or_retry` asks the shop for. -/
def orderRequest (provider : String) (user : TelegramUser) (tariffId : ℕ) (intentId : IntentId) :
    PaymentRequest where
  telegramId := user.id
  tariffId := tariffId
  provider := provider
  idempotencyKey := orderKey user.id tariffId intentId
  username := user.username
  nameOrNick := some (displayName user)

structure BotCreateOrderResponse where
  paymentOrderId : ℕ
  provider : String
  status : PaymentStatus
  amountMinor : ℕ
  currency : String
  paymentUrl : Option String := none
  providerPaymentId : Option String := none
  tariffName : String
deriving DecidableEq, Repr

/-- `CreatePayment._response`, for the order that was prepared and one of its attempts. -/
def orderResponse (prepared : PreparedPaymentOrder) (attempt : PaymentAttempt) :
    BotCreateOrderResponse where
  paymentOrderId := prepared.orderId
  provider := prepared.order.provider
  status := prepared.order.status
  amountMinor := prepared.order.amount.minor
  currency := prepared.order.amount.currency.code
  paymentUrl := attempt.paymentUrl
  providerPaymentId := attempt.providerPaymentId
  tariffName := prepared.tariffName

/-! ## Screens -/

/-- What the bot shows. -/
inductive Screen where
  | homeLoading

  | tariffsLoading

  | myVpnLoading

  | orderCreating

  | home (dashboard : BotDashboardResponse)

  | myVpn (dashboard : BotDashboardResponse)

  | tariffs (offered : List TariffResponse) (intentIds : ℕ → IntentId)

  | tariffsEmpty

  | tariffStale

  | orderError (tariffId : ℕ) (intentId : IntentId)

  | payment (order : BotCreateOrderResponse)

  | help

  | instructions

  | unknownInput

  | stale

  | backendError (contextCode : String)

/-- The parts of an address that `urlparse` finds. -/
structure ParsedUrl where
  scheme : String
  netloc : String
  hostname : Option String
deriving DecidableEq, Repr

section Keyboards

-- how a price is written, how an address is divided, and whether the bot is in production
variable (formatPrice : ℕ → String → String) (urlparse : String → ParsedUrl) (isProduction : Bool)

def isLocalUrl (url : String) : Bool :=
  (urlparse url).hostname.any (· ∈ ["localhost", "127.0.0.1", "::1"])

def isValidExternalUrl (url : String) : Bool :=
  (urlparse url).scheme ∈ ["http", "https"] && (urlparse url).netloc ≠ "" && !isLocalUrl urlparse url

/-- The keyboard of `_render_payment_artifact`. -/
def paymentKeyboard (order : BotCreateOrderResponse) : Keyboard :=
  match orText order.paymentUrl none with
  | none => paymentUnavailableKeyboard
  | some url =>
    if isLocalUrl urlparse url then
      if isProduction then paymentUnavailableKeyboard else paymentDevLocalKeyboard
    else if !isValidExternalUrl urlparse url then paymentUnavailableKeyboard
    else paymentReadyKeyboard formatPrice url order.amountMinor order.currency

/-- The key is ready to be copied. -/
def hasUri (dashboard : BotDashboardResponse) : Bool :=
  dashboard.vpnConfiguration.any fun vpn => (orText vpn.uri none).isSome

/-- The keyboard of `_home_screen`. -/
def homeKeyboard (dashboard : BotDashboardResponse) : Keyboard :=
  if dashboard.subscription.isNone then homeInactiveKeyboard
  else if hasUri dashboard then homeActiveReadyKeyboard
  else homeActivePendingKeyboard

/-- The keyboard of `_my_vpn_screen`. -/
def myVpnKeyboard (dashboard : BotDashboardResponse) : Keyboard :=
  if dashboard.subscription.isNone then myVpnInactiveKeyboard
  else if hasUri dashboard then myVpnReadyKeyboard
  else myVpnPendingKeyboard

/-- The buttons of a screen; some have none. -/
def Screen.keyboard : Screen → Keyboard
  | .homeLoading | .orderCreating => []
  | .tariffsLoading | .myVpnLoading => routeLoadingKeyboard
  | .home dashboard => homeKeyboard dashboard
  | .myVpn dashboard => myVpnKeyboard dashboard
  | .tariffs offered intentIds => tariffsKeyboard formatPrice offered fun id => (intentIds id).1
  | .tariffsEmpty | .tariffStale => tariffRefreshKeyboard
  | .orderError tariffId intentId => orderErrorKeyboard tariffId intentId.1
  | .payment order => paymentKeyboard formatPrice urlparse isProduction order
  | .help => helpKeyboard
  | .instructions => instructionsKeyboard
  | .unknownInput | .stale => homeOnlyKeyboard
  | .backendError contextCode => backendErrorKeyboard contextCode

end Keyboards

/-! ## Handlers at work -/

/-- What a handler waits for. -/
inductive Stage where
  /-- The intent of a button is taken once. -/
  | choosing

  /-- The shop registers the user. -/
  | registering

  /-- The shop reads the dashboard or the tariffs. -/
  | reading

  /-- The shop takes the order. -/
  | ordering

  /-- The order is taken, and its invoice is created. -/
  | waiting (prepared : PreparedPaymentOrder)

  /-- The handler has given up, and its order may still reach the shop. -/
  | abandoned

  | finished
deriving DecidableEq, Repr

structure Handler where
  user : TelegramUser
  route : Route
  hasMessage : Bool := true
  stage : Stage
deriving DecidableEq, Repr

/-- What a handler shows first, and what it does next. -/
def Route.opening : Route → Screen × Stage
  | .home => (.homeLoading, .registering)
  | .tariffs => (.tariffsLoading, .registering)
  | .myVpn => (.myVpnLoading, .registering)
  | .help => (.help, .finished)
  | .instructions => (.instructions, .finished)
  | .unknownInput => (.unknownInput, .finished)
  | .stale => (.stale, .finished)
  | .legacyBuy => (.tariffsLoading, .reading)
  | .selectTariff _ _ | .retryOrder _ _ => (.orderCreating, .registering)

/-- What a handler shows when the shop can not be asked. -/
def Route.failure : Route → Option Screen
  | .home => some (.backendError "h")
  | .tariffs | .legacyBuy => some (.backendError "t")
  | .myVpn => some (.backendError "v")
  | .selectTariff tariffId intentId | .retryOrder tariffId intentId =>
    some (.orderError tariffId intentId)
  | _ => none

/-- What a handler makes of a dashboard. -/
def Route.showDashboard (dashboard : BotDashboardResponse) : Route → Option Screen
  | .home => some (.home dashboard)
  | .myVpn => some (.myVpn dashboard)
  | _ => none

/-- `_render_tariffs` -/
def renderTariffs (tariffs : List TariffResponse) (intentIds : ℕ → IntentId) : Screen :=
  if tariffs.isEmpty then .tariffsEmpty else .tariffs tariffs intentIds

/-- What a handler makes of the tariffs: a screen, or the order of one of them. -/
def Route.useTariffs (tariffs : List TariffResponse) (intentIds : ℕ → IntentId) :
    Route → Option (Option Screen × Stage)
  | .tariffs => some (renderTariffs (tariffs.filter (·.isEnabled)) intentIds, .finished)
  | .legacyBuy => some (some .tariffStale, .finished)
  | .selectTariff tariffId _ | .retryOrder tariffId _ =>
    if tariffs.any fun tariff => tariff.tariffId = tariffId && tariff.isEnabled then
      some (none, .ordering)
    else some (some .tariffStale, .finished)
  | _ => none

/-- The screens that a handler may show, apart from that of an order. -/
inductive Route.Shows : Route → Screen → Prop where
  | opening {route : Route} : Shows route route.opening.1

  | failure {route : Route} {screen : Screen} (failure : route.failure = some screen) :
      Shows route screen

  | dashboard {route : Route} {dashboard : BotDashboardResponse} {screen : Screen}
      (dashboard : route.showDashboard dashboard = some screen) : Shows route screen

  | tariffs {route : Route} {offered : List TariffResponse} {intentIds : ℕ → IntentId}
      {screen : Screen} {stage : Stage}
      (tariffs : route.useTariffs offered intentIds = some (some screen, stage)) :
      Shows route screen

end TelegramBot

end ShopBot
