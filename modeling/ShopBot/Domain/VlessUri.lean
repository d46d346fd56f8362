import ShopBot.Domain.Common
import ShopBot.Library.IpAddress
import ShopBot.Library.PercentEncoding

/-! # Client addresses

The address of a configuration, as a client imports it: who connects, where, with which
options, and under which name it is shown.
-/

namespace ShopBot

structure VlessBuildInput where
  clientUuid : String
  host : String
  port : ℤ
  displayName : String
  security : Option String := none
  sni : Option String := none
  fingerprint : Option String := none
  publicKey : Option String := none
  shortId : Option String := none
  transportType : Option String := none
  flow : Option String := none
  encryption : Option String := none
deriving DecidableEq, Repr

/-- An empty text is no value. -/
def present (value : Option String) : Option String := value.filter (· ≠ "")

namespace VlessBuildInput

variable (payload : VlessBuildInput)

/-- The options with a value, after the three that have a default. -/
def query : List (String × String) :=
  [("type", some ((present payload.transportType).getD "tcp")),
    ("security", some ((present payload.security).getD "none")),
    ("sni", payload.sni), ("fp", payload.fingerprint), ("pbk", payload.publicKey),
    ("sid", payload.shortId), ("flow", payload.flow),
    ("encryption", some ((present payload.encryption).getD "none"))].filterMap
      fun field => (present field.2).map (field.1, ·)

/-- A long address stands in brackets. -/
def bracketedHost : List Char :=
  if (IpAddress.parse payload.host.toList).any (·.version = .v6) then
    '[' :: payload.host.toList ++ [']']
  else payload.host.toList

/-- `VlessUriBuilder.build` -/
def build : String :=
  .ofList ("vless://".toList ++ (payload.clientUuid.toList ++
    '@' :: (payload.bracketedHost ++ ':' :: (toString payload.port).toList) ++
    '?' :: PercentEncoding.urlencode payload.query ++
    '#' :: PercentEncoding.quote payload.displayName))

/-- The payload with the defaults in place, and nothing empty. -/
def withDefaults : VlessBuildInput where
  clientUuid := payload.clientUuid
  host := payload.host
  port := payload.port
  displayName := payload.displayName
  security := some ((present payload.security).getD "none")
  sni := present payload.sni
  fingerprint := present payload.fingerprint
  publicKey := present payload.publicKey
  shortId := present payload.shortId
  transportType := some ((present payload.transportType).getD "tcp")
  flow := present payload.flow
  encryption := some ((present payload.encryption).getD "none")

end VlessBuildInput

/-! ## Reading -/

/-- The parts of an address. -/
structure VlessUri where
  userinfo : String
  host : String
  port : ℤ
  query : List (String × String)
  fragment : String
deriving DecidableEq, Repr

namespace VlessUri

open PercentEncoding

def parsePort (text : List Char) : Option ℤ := (IpAddress.parseDecimal text).map Int.ofNat

/-- The host and the port; a host with colons stands in brackets. -/
def parseHostPort : List Char → Option (String × ℤ)
  | '[' :: text => do
      match ← cut ']' text with
      | (host, ':' :: port) => return (.ofList host, ← parsePort port)
      | _ => none
  | text => do
      let (host, port) ← cut ':' text
      return (.ofList host, ← parsePort port)

def parse (uri : String) : Option VlessUri := do
  let text ← uri.toList.dropPrefix? "vless://".toList
  let (text, fragment) ← cut '#' text
  let (text, query) ← cut '?' text
  let (userinfo, text) ← cut '@' text
  let (host, port) ← parseHostPort text
  return {
    userinfo := .ofList userinfo
    host := host
    port := port
    query := ← parseQuery query
    fragment := ← unquote fragment }

/-- The payload that an address tells of. -/
def input (uri : VlessUri) : VlessBuildInput where
  clientUuid := uri.userinfo
  host := uri.host
  port := uri.port
  displayName := uri.fragment
  security := uri.query.lookup "security"
  sni := uri.query.lookup "sni"
  fingerprint := uri.query.lookup "fp"
  publicKey := uri.query.lookup "pbk"
  shortId := uri.query.lookup "sid"
  transportType := uri.query.lookup "type"
  flow := uri.query.lookup "flow"
  encryption := uri.query.lookup "encryption"

end VlessUri

end ShopBot
