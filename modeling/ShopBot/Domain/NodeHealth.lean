import ShopBot.Domain.Node

/-! # Health snapshots of nodes

The report of a node agent, read from a decoded JSON document. A count that the metrics do
not mention is taken from the status document.
-/

namespace ShopBot

/-- A decoded JSON document; a number that is no integer is kept as Python prints it. -/
inductive Json where
  | null

  | bool (value : Bool)

  | int (value : ℤ)

  | float (text : String)

  | str (value : String)

  | array (items : List Json)

  | object (entries : List (String × Json))

abbrev JsonObject := List (String × Json)

namespace Json

/-- The value counts as true in a condition. -/
def truthy : Json → Bool
  | null => false
  | bool value => value
  | int value => value ≠ 0
  | float text => text ≠ "0.0" && text ≠ "-0.0"
  | str value => value ≠ ""
  | array items => !items.isEmpty
  | object entries => !entries.isEmpty

/-- `value.get(key)` -/
def get (entries : JsonObject) (key : String) : Json := (entries.lookup key).getD null

/-- `first or second` -/
def or (first second : Json) : Json := if first.truthy then first else second

end Json

/-- What is left to the standard library: `str` of a document, and its text in a column. -/
structure JsonTexts where
  str : Json → String
  dumps : Json → String

def NodeStatus.text : NodeStatus → String
  | .unknown => "unknown"
  | .online => "online"
  | .offline => "offline"
  | .degraded => "degraded"

def objectMapping (value : Json) (fieldName : String) : Except Error JsonObject :=
  match value with
  | .null => .ok []
  | .object entries => .ok entries
  | _ => .error (.valueError s!"{fieldName} must be an object")

def optionalInt (value : Json) (fieldName : String) : Except Error (Option ℤ) :=
  match value with
  | .null => .ok none
  | .int n => .ok (some n)
  | _ => .error (.valueError s!"{fieldName} must be an integer or null")

structure NodeCapacitySnapshot where
  activeClients : Option ℤ
  maxClients : Option ℤ
  load : JsonObject
  traffic : JsonObject

structure NodeHealthSnapshot where
  healthStatus : NodeStatus
  agentVersion : Option String
  capacity : NodeCapacitySnapshot
  capabilities : JsonObject
  statusPayload : JsonObject
  inbounds : List JsonObject

/-- `metrics.get(key, status_payload.get(key))`: a null in the metrics is not replaced. -/
def reportedValue (metrics statusPayload : JsonObject) (key : String) : Json :=
  (metrics.lookup key).getD (Json.get statusPayload key)

namespace NodeHealthSnapshot

variable (texts : JsonTexts)

def healthStatusOf (statusPayload : JsonObject) : NodeStatus :=
  let rawStatus := (Json.get statusPayload "status").or (.str NodeStatus.online.text)
  let text := match rawStatus with
    | .str value => value
    | value => texts.str value
  match enumFromText [.unknown, .online, .offline, .degraded] NodeStatus.text "NodeStatus"
      (lowerText text) with
  | .ok status => status
  | .error _ => .unknown

def agentVersionOf (payload health : JsonObject) : Option String :=
  match (Json.get payload "agent_version").or (Json.get health "agent_version") with
  | .str value => if value = "" then none else some value
  | value => if value.truthy then some (texts.str value) else none

def inboundsOf (payload statusPayload : JsonObject) : Except Error (List JsonObject) :=
  match (Json.get payload "inbounds").or ((statusPayload.lookup "inbounds").getD (.array [])) with
  | .array items => items.mapM (objectMapping · "inbounds item")
  | _ => .error (.valueError "inbounds must be an array")

def fromPayload (payload : JsonObject) : Except Error NodeHealthSnapshot := do
  let health ← objectMapping (Json.get payload "health") "health"
  let capabilities ← objectMapping (Json.get payload "capabilities") "capabilities"
  let statusPayload ← objectMapping (Json.get payload "status") "status"
  let metrics ← objectMapping (Json.get payload "metrics") "metrics"
  let load ← objectMapping (reportedValue metrics statusPayload "load") "metrics.load"
  let traffic ← objectMapping (reportedValue metrics statusPayload "traffic") "metrics.traffic"
  let inbounds ← inboundsOf payload statusPayload
  let activeClients ← optionalInt (reportedValue metrics statusPayload "active_clients")
    "metrics.active_clients"
  let maxClients ← optionalInt (reportedValue metrics statusPayload "max_clients")
    "metrics.max_clients"
  return {
    healthStatus := healthStatusOf texts statusPayload
    agentVersion := agentVersionOf texts payload health
    capacity := { activeClients, maxClients, load, traffic }
    capabilities, statusPayload, inbounds }

end NodeHealthSnapshot

/-- The payload that `get_snapshot` puts together for an agent without a snapshot route. -/
def assembledPayload (health capabilities statusPayload : JsonObject) : JsonObject :=
  [("health", .object health), ("capabilities", .object capabilities),
    ("status", .object statusPayload), ("agent_version", Json.get health "agent_version"),
    ("metrics", .object [
      ("active_clients", (statusPayload.lookup "active_clients").getD (.int 0)),
      ("max_clients", (statusPayload.lookup "max_clients").getD (.int 0)),
      ("load", (statusPayload.lookup "load").getD (.object [])),
      ("traffic", (statusPayload.lookup "traffic").getD (.object []))]),
    ("inbounds", (statusPayload.lookup "inbounds").getD (.array []))]

/-! ## Reported counts -/

/-- The entries of a document, none unless it is an object. -/
def Json.entries : Json → JsonObject
  | .object entries => entries
  | _ => []

def Json.toInt? : Json → Option ℤ
  | .int n => some n
  | _ => none

/-- The count that a payload reports under a key. -/
def reportedCount (payload : JsonObject) (key : String) : Option ℤ :=
  (reportedValue (Json.get payload "metrics").entries (Json.get payload "status").entries
    key).toInt?

variable {texts : JsonTexts} {payload entries : JsonObject} {value : Json} {fieldName : String}
  {count : Option ℤ} {snapshot : NodeHealthSnapshot}

theorem objectMapping_eq_ok (h : objectMapping value fieldName = .ok entries) :
    entries = value.entries := by
  cases value with
  | null | object =>
    cases h
    rfl
  | _ => cases h

theorem optionalInt_eq_ok (h : optionalInt value fieldName = .ok count) :
    count = value.toInt? := by
  cases value with
  | null | int =>
    cases h
    rfl
  | _ => cases h

/-- The counts of an accepted payload are the ones it reports. -/
theorem NodeHealthSnapshot.fromPayload_counts (h : fromPayload texts payload = .ok snapshot) :
    snapshot.capacity.activeClients = reportedCount payload "active_clients" ∧
      snapshot.capacity.maxClients = reportedCount payload "max_clients" := by
  obtain ⟨health, -, h⟩ := bind_eq_ok.1 h
  obtain ⟨capabilities, -, h⟩ := bind_eq_ok.1 h
  obtain ⟨statusPayload, hstatus, h⟩ := bind_eq_ok.1 h
  obtain ⟨metrics, hmetrics, h⟩ := bind_eq_ok.1 h
  obtain ⟨load, -, h⟩ := bind_eq_ok.1 h
  obtain ⟨traffic, -, h⟩ := bind_eq_ok.1 h
  obtain ⟨inbounds, -, h⟩ := bind_eq_ok.1 h
  obtain ⟨activeClients, hactive, h⟩ := bind_eq_ok.1 h
  obtain ⟨maxClients, hmax, h⟩ := bind_eq_ok.1 h
  cases h
  obtain rfl := objectMapping_eq_ok hstatus
  obtain rfl := objectMapping_eq_ok hmetrics
  exact ⟨optionalInt_eq_ok hactive, optionalInt_eq_ok hmax⟩

end ShopBot
