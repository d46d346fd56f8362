import ShopBot.Bot.Keyboards
import ShopBot.Domain.VlessUri
import ShopBot.Persistence.PaymentRepository
import ShopBot.Persistence.VpnRepository

/-! # What the bot asks the shop

The tariffs on sale, and the dashboard of a Telegram account: its subscription, and the address
with which a client connects.
-/

namespace ShopBot

open TelegramBot

/-- The columns of an endpoint, and of its server, that only an address needs. -/
structure EndpointAddress where
  serverName : String
  host : String
  port : ℤ
  transportType : Option String := none
  encryption : Option String := none
deriving DecidableEq, Repr

/-- A row of `get_current_access_for_user`. -/
structure CurrentAccess where
  subscriptionId : ℕ
  subscription : Subscription
  tariff : Tariff
  period : SubscriptionPeriod
deriving DecidableEq, Repr

structure BotUserResponse where
  userId : ℕ
  nameOrNick : String
deriving DecidableEq, Repr

structure DashboardSubscriptionResponse where
  subscriptionId : ℕ
  tariffId : ℕ
  tariffName : String
  status : String
  startsAt : DateTime
  expiresAt : DateTime
deriving DecidableEq, Repr

structure DashboardVpnConfigurationResponse where
  vpnConfigurationId : ℕ
  status : String
  displayName : String
  clientUuid : String
  serverName : String
  host : String
  port : ℤ
  uri : Option String := none
deriving DecidableEq, Repr

structure BotDashboardResponse where
  user : Option BotUserResponse := none
  subscription : Option DashboardSubscriptionResponse := none
  vpnConfiguration : Option DashboardVpnConfigurationResponse := none
deriving DecidableEq, Repr

namespace Database

variable (db : Database)

def accessRows (userId : ℕ) (now : DateTime) : List CurrentAccess :=
  (Table.select (fun s => s.userId = userId && s.status = .active) db.subscriptions).flatMap
    fun row => (db.subscriptionPeriods.filter fun p =>
      p.subscriptionId = some row.2 && p.contains now).filterMap fun p =>
        (db.tariffs[row.1.tariffId]?).map fun tariff => ⟨row.2, row.1, tariff, p⟩

def getCurrentAccessForUser (userId : ℕ) (now : DateTime) : Option CurrentAccess :=
  latestBy (·.period.expiresAt) (db.accessRows userId now)

/-- The conditions of `get_active_configuration_for_user`; the period and the endpoint are
joined, so a configuration without one of them is no row. -/
def isActiveForUser (userId : ℕ) (now : DateTime) (c : VpnConfiguration) : Bool :=
  (db.subscriptions[c.subscriptionId]?).any (fun s => s.userId = userId && s.status = .active) &&
    db.subscriptionPeriods.any (fun p =>
      p.subscriptionId = some c.subscriptionId && p.contains now) &&
    c.status = .active && (db.serverEndpoints[c.serverEndpointId]?).isSome

/-- `get_active_configuration_for_user`: the newest row. -/
def getActiveConfigurationForUser (userId : ℕ) (now : DateTime) :
    Option (VpnConfiguration × ℕ × ServerEndpoint) := do
  let (c, id) ← Table.lastWhere (db.isActiveForUser userId now) db.vpnConfigurations
  let endpoint ← db.serverEndpoints[c.serverEndpointId]?
  return (c, id, endpoint)

end Database

namespace BotQueryService

def subscriptionPayload (subscription : CurrentAccess) : DashboardSubscriptionResponse where
  subscriptionId := subscription.subscriptionId
  tariffId := subscription.subscription.tariffId
  tariffName := subscription.tariff.name
  status := subscription.subscription.status.text
  startsAt := subscription.period.startsAt
  expiresAt := subscription.period.expiresAt

def speaksVless (endpoint : ServerEndpoint) : Bool :=
  lowerText (stripText endpoint.protocol) = "vless"

/-- The last digits of a number to base 16, as many as are asked for. -/
def hexDigits : ℕ → ℕ → List Char
  | 0, _ => []
  | count + 1, n => hexDigits count (n / 16) ++ [Nat.digitChar (n % 16)]

theorem isHexDigit_of_mem_hexDigits {c : Char} :
    ∀ {count n : ℕ}, c ∈ hexDigits count n → IpAddress.isHexDigit c = true
  | 0, _, h => by simp [hexDigits] at h
  | count + 1, n, h => by
      have hdigit : ∀ k < 16, IpAddress.isHexDigit (Nat.digitChar k) = true := by decide
      rcases List.mem_append.1 h with h | h
      · exact isHexDigit_of_mem_hexDigits h
      · rw [List.mem_singleton.1 h]
        exact hdigit _ (Nat.mod_lt _ (by decide))

/-- A UUID as it is written: 32 digits in five groups. -/
def uuidText (uuid : Uuid) : String :=
  let digits := hexDigits 32 uuid
  .ofList (digits.take 8 ++ '-' :: (digits.drop 8).take 4 ++ '-' :: (digits.drop 12).take 4 ++
    '-' :: (digits.drop 16).take 4 ++ '-' :: digits.drop 20)

theorem uuidText_chars {uuid : Uuid} {c : Char} (h : c ∈ (uuidText uuid).toList) :
    IpAddress.isHexDigit c = true ∨ c = '-' := by
  simp only [uuidText, String.toList_ofList, List.mem_append, List.mem_cons] at h
  rcases h with (((h | rfl | h) | rfl | h) | rfl | h) | rfl | h
  · exact .inl (isHexDigit_of_mem_hexDigits (List.mem_of_mem_take h))
  · exact .inr rfl
  · exact .inl (isHexDigit_of_mem_hexDigits (List.mem_of_mem_drop (List.mem_of_mem_take h)))
  · exact .inr rfl
  · exact .inl (isHexDigit_of_mem_hexDigits (List.mem_of_mem_drop (List.mem_of_mem_take h)))
  · exact .inr rfl
  · exact .inl (isHexDigit_of_mem_hexDigits (List.mem_of_mem_drop (List.mem_of_mem_take h)))
  · exact .inr rfl
  · exact .inl (isHexDigit_of_mem_hexDigits (List.mem_of_mem_drop h))

section Addresses

-- where the endpoints are reached
variable (addresses : ℕ → EndpointAddress)

def vlessBuildInput (c : VpnConfiguration) (endpoint : ServerEndpoint) : VlessBuildInput where
  clientUuid := uuidText c.clientUuid
  host := (addresses c.serverEndpointId).host
  port := (addresses c.serverEndpointId).port
  displayName := c.displayName
  security := endpoint.security
  sni := endpoint.sni
  fingerprint := endpoint.fingerprint
  publicKey := endpoint.publicKey
  shortId := endpoint.shortId
  transportType := (addresses c.serverEndpointId).transportType
  flow := endpoint.flow
  encryption := (addresses c.serverEndpointId).encryption

/-- The part of the dashboard that shows a configuration. -/
def vpnResponse (c : VpnConfiguration) (id : ℕ) (endpoint : ServerEndpoint) :
    DashboardVpnConfigurationResponse where
  vpnConfigurationId := id
  status := c.status.text
  displayName := c.displayName
  clientUuid := uuidText c.clientUuid
  serverName := (addresses c.serverEndpointId).serverName
  host := (addresses c.serverEndpointId).host
  port := (addresses c.serverEndpointId).port
  uri := some (vlessBuildInput addresses c endpoint).build

def vpnPayload : VpnConfiguration × ℕ × ServerEndpoint → Option DashboardVpnConfigurationResponse
  | (c, id, endpoint) =>
    if speaksVless endpoint then some (vpnResponse addresses c id endpoint) else none

theorem vpnPayload_eq_some {c : VpnConfiguration} {id : ℕ} {endpoint : ServerEndpoint}
    {v : DashboardVpnConfigurationResponse} :
    vpnPayload addresses (c, id, endpoint) = some v ↔
      speaksVless endpoint = true ∧ v = vpnResponse addresses c id endpoint := by
  simp only [vpnPayload, Option.ite_none_right_eq_some, Option.some.injEq]
  exact and_congr_right fun _ => eq_comm

def getDashboard (db : Database) (telegramId : ℤ) (now : DateTime) : BotDashboardResponse :=
  match db.getUserByTelegramId telegramId with
  | none => {}
  | some (user, userId) => {
      user := some ⟨userId, user.nameOrNick⟩
      subscription := (db.getCurrentAccessForUser userId now).map subscriptionPayload
      vpnConfiguration := (db.getActiveConfigurationForUser userId now).bind
        (vpnPayload addresses) }

end Addresses

-- the descriptions of the tariffs
variable (descriptions : ℕ → Option String)

/-- The tariffs that are enabled, in the order of their identifiers. -/
def listTariffs (db : Database) : List TariffResponse :=
  (Table.select (·.isEnabled) db.tariffs).map fun row => {
    tariffId := row.2
    tariffName := row.1.name
    priceMinor := row.1.price.minor
    currency := row.1.price.currency.code
    periodDays := row.1.periodDays
    description := descriptions row.2
    isEnabled := row.1.isEnabled }

end BotQueryService

end ShopBot
