import Mathlib.Algebra.Order.Group.Abs
import Mathlib.Algebra.Order.Group.Int
import ShopBot.Domain.Common
import ShopBot.Library.ExpiringMemory
import ShopBot.Library.Transition

/-! # Signed node requests

A request carries the instant at which it was signed and a nonce. The agent accepts it
within a tolerance around that instant, and refuses a nonce that it remembers. The
digests and the reading of ISO timestamps are parameters.
-/

namespace ShopBot

abbrev Bytes := List UInt8

/-- `datetime.fromisoformat`: the wall clock and, unless it is naive, the offset from UTC. -/
structure ParsedTimestamp where
  wall : DateTime
  utcoffset : Option ℤ
deriving DecidableEq, Repr

/-- What the agent takes from the standard library. -/
structure Primitives where
  sha256 : Bytes → String
  hmacSha256 : String → String → String
  /-- `str.upper` -/
  upper : String → String
  fromIsoFormat : String → Option ParsedTimestamp
  /-- `datetime.isoformat`, of an instant in UTC. -/
  isoFormat : DateTime → String

inductive AuthError where
  | nodeAuth (message : String)

  | typeError (message : String)
deriving DecidableEq, Repr

structure VerifiedNodeRequest where
  nodeId : String
  keyId : String
  timestamp : DateTime
  nonce : String
  idempotencyKey : String
deriving DecidableEq, Repr

/-- One call of the verification, with the configuration of the agent and its clock. -/
structure SignedRequest where
  method : String
  path : String
  body : Bytes
  headers : List (String × String)
  expectedNodeId : String
  expectedKeyId : String
  sharedSecret : String
  now : DateTime
deriving DecidableEq, Repr

namespace Auth

def nodeIdHeader : String := "X-Node-Id"

def keyIdHeader : String := "X-Key-Id"

def timestampHeader : String := "X-Timestamp"

def nonceHeader : String := "X-Nonce"

def idempotencyHeader : String := "X-Idempotency-Key"

def signatureHeader : String := "X-Signature"

/-- `_header`: the first value under the name, whatever its case. -/
def header (headers : List (String × String)) (name : String) : String :=
  ((headers.find? fun h => lowerText h.1 = lowerText name).map Prod.snd).getD ""

/-- `text.replace("Z", "+00:00")`. -/
def replaceZ (text : String) : String :=
  .ofList (text.toList.flatMap fun c => if c = 'Z' then "+00:00".toList else [c])

/-- `text.replace("+00:00", "Z")`, on the characters of the text. -/
def replaceOffset : List Char → List Char
  | '+' :: '0' :: '0' :: ':' :: '0' :: '0' :: rest => 'Z' :: replaceOffset rest
  | c :: rest => c :: replaceOffset rest
  | [] => []

variable (lib : Primitives)

def canonicalString (method path timestamp nonce idempotencyKey bodyHash : String) : String :=
  String.intercalate "\n" [lib.upper method, path, timestamp, nonce, idempotencyKey, bodyHash]

def computeSignature (secret canonical : String) : String := lib.hmacSha256 secret canonical

/-- `build_signed_headers`, given the timestamp and the nonce. -/
def buildSignedHeaders (nodeId keyId secret method path : String) (body : Bytes)
    (idempotencyKey timestamp nonce : String) : List (String × String) :=
  let canonical := canonicalString lib method path timestamp nonce idempotencyKey (lib.sha256 body)
  [(nodeIdHeader, nodeId), (keyIdHeader, keyId), (timestampHeader, timestamp),
    (nonceHeader, nonce), (idempotencyHeader, idempotencyKey),
    (signatureHeader, computeSignature lib secret canonical)]

/-- The timestamp of a request that is signed without one, at `now`. -/
def currentTimestamp (now : DateTime) : String :=
  .ofList (replaceOffset (lib.isoFormat (now - now % seconds 1)).toList)

/-- `text or default` -/
def orDefault (text : Option String) (default : String) : String :=
  match text with
  | some text => if text = "" then default else text
  | none => default

/-- One call of the signing, with the clock and the nonce that stand in for missing ones. -/
structure SigningCall where
  nodeId : String
  keyId : String
  secret : String
  method : String
  path : String
  body : Bytes
  idempotencyKey : String
  timestamp : Option String
  nonce : Option String
  now : DateTime
  freshNonce : String
deriving DecidableEq, Repr

namespace SigningCall

def ts (call : SigningCall) : String := orDefault call.timestamp (currentTimestamp lib call.now)

def nonceValue (call : SigningCall) : String := orDefault call.nonce call.freshNonce

/-- `build_signed_headers` -/
def headers (call : SigningCall) : List (String × String) :=
  buildSignedHeaders lib call.nodeId call.keyId call.secret call.method call.path call.body
    call.idempotencyKey (call.ts lib) call.nonceValue

end SigningCall

/-- The signed instant in UTC. -/
def parseTimestamp (timestampRaw : String) : Except AuthError DateTime :=
  match lib.fromIsoFormat (replaceZ timestampRaw) with
  | none => .error (.nodeAuth "Invalid timestamp")
  | some t =>
    match t.utcoffset with
    | none => .error (.nodeAuth "Timestamp must include timezone")
    | some offset => .ok (t.wall - offset)

/-- The checks that follow the reading of the timestamp, up to the nonce. -/
def authenticateAt (toleranceSeconds : ℤ) (r : SignedRequest) (timestamp : DateTime) :
    Except AuthError VerifiedNodeRequest :=
  let nonce := header r.headers nonceHeader
  let idempotencyKey := header r.headers idempotencyHeader
  let suppliedSignature := header r.headers signatureHeader
  if |r.now - timestamp| > seconds toleranceSeconds then
    .error (.nodeAuth "Timestamp outside allowed skew")
  -- the comparison of digests refuses texts that are not ASCII
  else if suppliedSignature.toList.any (128 ≤ ·.toNat) then
    .error (.typeError "comparing strings with non-ASCII characters is not supported")
  else if suppliedSignature ≠ computeSignature lib r.sharedSecret
      (canonicalString lib r.method r.path (header r.headers timestampHeader) nonce idempotencyKey
        (lib.sha256 r.body)) then
    .error (.nodeAuth "Invalid signature")
  else .ok {
    nodeId := header r.headers nodeIdHeader
    keyId := header r.headers keyIdHeader
    timestamp := timestamp
    nonce := nonce
    idempotencyKey := idempotencyKey }

/-- The verification before the nonce. -/
def authenticate (toleranceSeconds : ℤ) (r : SignedRequest) :
    Except AuthError VerifiedNodeRequest :=
  let timestampRaw := header r.headers timestampHeader
  if header r.headers nodeIdHeader ≠ r.expectedNodeId then
    .error (.nodeAuth "Unexpected node id")
  else if header r.headers keyIdHeader ≠ r.expectedKeyId then
    .error (.nodeAuth "Unexpected key id")
  else if timestampRaw = "" ∨ header r.headers nonceHeader = "" ∨
      header r.headers idempotencyHeader = "" ∨ header r.headers signatureHeader = "" then
    .error (.nodeAuth "Missing authentication headers")
  else parseTimestamp lib timestampRaw >>= authenticateAt lib toleranceSeconds r

def nonceKey (nodeId nonce : String) : String := nodeId ++ ":" ++ nonce

abbrev NonceStore := ExpiringMemory.Entries String DateTime

/-- `verify_signed_request`, with a store whose time to live is `ttlSeconds`. -/
def verifySignedRequest (toleranceSeconds ttlSeconds : ℤ) (store : NonceStore)
    (r : SignedRequest) : Except AuthError VerifiedNodeRequest × NonceStore :=
  match authenticate lib toleranceSeconds r with
  | .error e => (.error e, store)
  | .ok v =>
    match ExpiringMemory.remember (seconds ttlSeconds) store (nonceKey v.nodeId v.nonce) r.now with
    | (true, store) => (.ok v, store)
    | (false, store) => (.error (.nodeAuth "Replay detected"), store)

end Auth

/-- An agent between two requests: what it remembers, and its last clock reading. -/
structure AuthAgent where
  store : Auth.NonceStore
  clock : DateTime

namespace AuthAgent

variable (lib : Primitives) (toleranceSeconds : ℤ)

/-- The agent keeps nonces for as long as it tolerates skew. -/
def verify (a : AuthAgent) (r : SignedRequest) :
    Except AuthError VerifiedNodeRequest × Auth.NonceStore :=
  Auth.verifySignedRequest lib toleranceSeconds toleranceSeconds a.store r

/-- Verify a request, if its clock reading is not earlier than the last one. -/
def exec (a : AuthAgent) (r : SignedRequest) : Option AuthAgent :=
  if r.now < a.clock then none
  else some { store := (a.verify lib toleranceSeconds r).2, clock := r.now }

def Initial (a : AuthAgent) : Prop := a.store = fun _ => none

def Step : AuthAgent → AuthAgent → Prop := Transition.Labelled (exec lib toleranceSeconds)

def Reachable : AuthAgent → Prop := Transition.Reachable Initial (Step lib toleranceSeconds)

/-- The request is accepted, with the verified fields `v`. -/
def Accepts (a : AuthAgent) (r : SignedRequest) (v : VerifiedNodeRequest) : Prop :=
  a.clock ≤ r.now ∧ (a.verify lib toleranceSeconds r).1 = .ok v

end AuthAgent

end ShopBot
