import ShopBot.Bot.Handlers
import ShopBot.System.Command

/-! # The bot and the shop

The bot hands every update to a handler of its own, and the handlers work at the same time. Each
event is one step of a handler, or one transaction of the shop; a handler that stops between its
steps simply takes no further step. What a handler asks the shop for may happen after it has
given up.
-/

namespace ShopBot

open TelegramBot

structure BotSettings where
  provider : String
  dedupTtlSeconds : ℤ
  dedupTtlSeconds_pos : 0 < dedupTtlSeconds

structure BotSystem where
  shop : System
  /-- The keys that `RedisDeduplicator` remembers. -/
  memory : ExpiringMemory.Entries String DateTime
  clock : DateTime
  handlers : List Handler
  /-- Everything that was shown, with the user it was shown to. -/
  screens : List (ℤ × Screen)

inductive BotEvent where
  | message (message : Message) (now : DateTime)

  | callback (callback : CallbackQuery) (now : DateTime)

  /-- `select_tariff_callback` takes the intent of its button. -/
  | takeIntent (handler : ℕ) (now : DateTime)

  | registerUser (handler : ℕ)

  | readDashboard (handler : ℕ) (now : DateTime)

  | readTariffs (handler : ℕ) (intentIds : ℕ → IntentId)

  | createOrder (handler : ℕ) (now : DateTime) (leaseSeconds : ℤ) (token : Uuid)

  /-- The shop answers with one of the attempts to create an invoice. -/
  | answerOrder (handler : ℕ) (attempt : PaymentAttempt)

  /-- The shop can not be asked, or its answer is lost. -/
  | fail (handler : ℕ)

  /-- A transaction of the shop that the bot has no part in. -/
  | shop (cmd : Command)

/-- An update that starts a handler. -/
def BotEvent.Starts : BotEvent → TelegramUser → Route → Prop
  | .message m _, user, route => user = m.fromUser ∧ route = routeMessage m
  | .callback c _, user, route =>
    user = c.fromUser ∧ route = (c.data.map fun data => routeCallback data.1).getD .stale
  | _, _, _ => False

/-- A command that only the bot gives. -/
def Command.isOrder : Command → Bool
  | .createPayment .. => true
  | _ => false

/-- `RegisterBotUser.execute`: the user who is registered, or a new one. -/
def registerUser (db : Database) (telegramId : ℤ) (nameOrNick : String) :
    Except Error (ℕ × Database) :=
  match db.getUserByTelegramId telegramId with
  | some (_, id) => .ok (id, db)
  | none => do
    require (stripText nameOrNick ≠ "") (.domainValidation "User name cannot be blank")
    return db.addUser { telegramId := telegramId, nameOrNick := nameOrNick }

namespace BotSystem

section Exec

variable (settings : Settings) (botSettings : BotSettings) (addresses : ℕ → EndpointAddress)
  (descriptions : ℕ → Option String)

def display (b : BotSystem) (user : TelegramUser) (screen : Screen) : BotSystem :=
  { b with screens := b.screens ++ [(user.id, screen)] }

def addHandler (b : BotSystem) (w : Handler) : BotSystem :=
  { b with handlers := b.handlers ++ [w] }

def setStage (b : BotSystem) (handler : ℕ) (w : Handler) (stage : Stage) : BotSystem :=
  { b with handlers := b.handlers.set handler { w with stage := stage } }

/-- `ensure_once`: whether the key is new. -/
def ensureOnce (b : BotSystem) (key : String) (now : DateTime) : Bool × BotSystem :=
  let seen := ExpiringMemory.remember (seconds botSettings.dedupTtlSeconds) b.memory key now
  (seen.1, { b with memory := seen.2, clock := now })

/-- A handler that shows its first screen, if it can. -/
def openHandler (b : BotSystem) (user : TelegramUser) (route : Route) (hasMessage : Bool) :
    BotSystem :=
  if hasMessage then
    (b.addHandler ⟨user, route, hasMessage, route.opening.2⟩).display user route.opening.1
  else b.addHandler ⟨user, route, hasMessage, .finished⟩

/-- A handler of an update that is new. -/
def start (b : BotSystem) (user : TelegramUser) (route : Route) (hasMessage : Bool) : BotSystem :=
  match route with
  | .selectTariff _ _ => b.addHandler ⟨user, route, hasMessage, .choosing⟩
  | _ => b.openHandler user route hasMessage

/-- An update that is received for the first time starts a handler. -/
def receive (b : BotSystem) (key : String) (user : TelegramUser) (route : Route)
    (hasMessage : Bool) (now : DateTime) : Option BotSystem :=
  if now < b.clock then none
  else
    let seen := b.ensureOnce botSettings key now
    some (if seen.1 then seen.2.start user route hasMessage else seen.2)

/-- The handler of a button goes on if nothing was ordered with its intent. -/
def takeIntent (b : BotSystem) (handler : ℕ) (now : DateTime) : Option BotSystem := do
  let w ← b.handlers[handler]?
  let (tariffId, intentId) ← w.route.order
  if w.stage ≠ .choosing ∨ now < b.clock then none
  else
    let seen := b.ensureOnce botSettings (intentKey w.user.id tariffId intentId) now
    if seen.1 && w.hasMessage then
      return (seen.2.setStage handler w w.route.opening.2).display w.user w.route.opening.1
    else return seen.2.setStage handler w .finished

/-- The shop registers the user of a handler, which then goes on. -/
def registerHandlerUser (b : BotSystem) (handler : ℕ) : Option BotSystem := do
  let w ← b.handlers[handler]?
  let (_, db) ← (registerUser b.shop.db w.user.id (displayName w.user)).toOption
  let b := { b with shop := { b.shop with db := db } }
  if w.stage = .registering then return b.setStage handler w .reading
  else return b

def readDashboard (b : BotSystem) (handler : ℕ) (now : DateTime) : Option BotSystem := do
  let w ← b.handlers[handler]?
  if w.stage ≠ .reading then none
  else
    let screen ← w.route.showDashboard
      (BotQueryService.getDashboard addresses b.shop.db w.user.id now)
    return (b.setStage handler w .finished).display w.user screen

def readTariffs (b : BotSystem) (handler : ℕ) (intentIds : ℕ → IntentId) : Option BotSystem := do
  let w ← b.handlers[handler]?
  if w.stage ≠ .reading then none
  else
    let (screen, stage) ← w.route.useTariffs
      (BotQueryService.listTariffs descriptions b.shop.db) intentIds
    let b := b.setStage handler w stage
    return match screen with
      | some screen => b.display w.user screen
      | none => b

/-- The shop takes the order of a handler, which may have given up. -/
def createOrder (b : BotSystem) (handler : ℕ) (now : DateTime) (leaseSeconds : ℤ) (token : Uuid) :
    Option BotSystem := do
  let w ← b.handlers[handler]?
  let (tariffId, intentId) ← w.route.order
  let request := orderRequest botSettings.provider w.user tariffId intentId
  let (prepared, _) ←
    (CreatePayment.prepareOrder b.shop.db request now leaseSeconds token).toOption
  let shop ← b.shop.exec settings (.createPayment request now leaseSeconds token)
  let b := { b with shop := shop }
  match w.stage with
  | .ordering => return b.setStage handler w (.waiting prepared)
  | .abandoned => return b.setStage handler w .finished
  | _ => none

def answerOrder (b : BotSystem) (handler : ℕ) (attempt : PaymentAttempt) : Option BotSystem := do
  let w ← b.handlers[handler]?
  match w.stage with
  | .waiting prepared =>
    return (b.setStage handler w .finished).display w.user (.payment (orderResponse prepared attempt))
  | _ => none

/-- Where a handler is left when it gives up. -/
def stageAfterFailure : Stage → Option Stage
  | .registering | .reading | .waiting _ => some .finished
  | .ordering => some .abandoned
  | _ => none

def fail (b : BotSystem) (handler : ℕ) : Option BotSystem := do
  let w ← b.handlers[handler]?
  let stage ← stageAfterFailure w.stage
  let screen ← w.route.failure
  return (b.setStage handler w stage).display w.user screen

def exec (b : BotSystem) : BotEvent → Option BotSystem
  | .message m now => b.receive botSettings (messageKey m) m.fromUser (routeMessage m) true now
  | .callback c now =>
    b.receive botSettings (callbackKey c) c.fromUser
      ((c.data.map fun data => routeCallback data.1).getD .stale) c.hasMessage now
  | .takeIntent handler now => b.takeIntent botSettings handler now
  | .registerUser handler => b.registerHandlerUser handler
  | .readDashboard handler now => b.readDashboard addresses handler now
  | .readTariffs handler intentIds => b.readTariffs descriptions handler intentIds
  | .createOrder handler now leaseSeconds token =>
    b.createOrder settings botSettings handler now leaseSeconds token
  | .answerOrder handler attempt => b.answerOrder handler attempt
  | .fail handler => b.fail handler
  | .shop cmd =>
    if cmd.isOrder then none else (b.shop.exec settings cmd).map fun shop => { b with shop := shop }

def Step : BotSystem → BotSystem → Prop :=
  Transition.Labelled (exec settings botSettings addresses descriptions)

/-- The shop has sold nothing yet, and nobody has written to the bot. -/
def Initial (b : BotSystem) : Prop :=
  b.shop.Initial ∧ b.memory = (fun _ => none) ∧ b.handlers = [] ∧ b.screens = []

def Reachable : BotSystem → Prop :=
  Transition.Reachable Initial (Step settings botSettings addresses descriptions)

end Exec

end BotSystem

end ShopBot
