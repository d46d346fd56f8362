import ShopBot.Library.Separated
import ShopBot.NodeAgent.Auth

/-! # Signed requests

What one side signs the other side accepts, and what it accepts is what was signed: the lines
of the signed text can be told apart, so that no two requests share one. A request that is
refused leaves no trace in the memory of nonces.
-/

namespace ShopBot

namespace Auth

variable {lib : Primitives}

/-- What the documentation of the standard library says of the digests and of ISO timestamps. -/
structure Documented (lib : Primitives) : Prop where
  hmac_ne_empty : ∀ secret message, lib.hmacSha256 secret message ≠ ""
  hmac_ascii : ∀ secret message, ∀ c ∈ (lib.hmacSha256 secret message).toList, c.toNat < 128
  sha256_line : ∀ body, '\n' ∉ (lib.sha256 body).toList
  empty_not_iso : lib.fromIsoFormat "" = none

/-- The text of an instant in UTC, which is read back. -/
structure IsoRoundTrip (lib : Primitives) (t : DateTime) : Prop where
  no_abbreviation : 'Z' ∉ (lib.isoFormat t).toList
  fromIsoFormat_isoFormat : lib.fromIsoFormat (lib.isoFormat t) = some ⟨t, some 0⟩

/-! ## Timestamps -/

/-- The verifier reads the offset back where the signer abbreviated it. -/
theorem flatMap_replaceOffset : ∀ {text : List Char}, 'Z' ∉ text →
    (replaceOffset text).flatMap
      (fun c => if c = 'Z' then ['+', '0', '0', ':', '0', '0'] else [c]) = text := by
  intro text
  induction text using replaceOffset.induct with
  | case1 rest ih =>
    intro h
    simp only [List.mem_cons, not_or] at h
    rw [replaceOffset, List.flatMap_cons, ih h.2.2.2.2.2.2]
    rfl
  | case2 c rest hoffset ih =>
    intro h
    rw [List.mem_cons, not_or] at h
    rw [replaceOffset, List.flatMap_cons, ih h.2, if_neg (Ne.symm h.1), List.singleton_append]
    exact hoffset
  | case3 => exact fun _ => rfl

theorem parseTimestamp_currentTimestamp {now : DateTime}
    (hiso : IsoRoundTrip lib (now - now % seconds 1)) :
    parseTimestamp lib (currentTimestamp lib now) = .ok (now - now % seconds 1) := by
  have hread : replaceZ (currentTimestamp lib now) = lib.isoFormat (now - now % seconds 1) := by
    rw [replaceZ, currentTimestamp, String.toList_ofList, String.toList_ofList,
      flatMap_replaceOffset (hiso.no_abbreviation), String.ofList_toList]
  rw [parseTimestamp, hread, hiso.fromIsoFormat_isoFormat]
  simp

theorem ne_empty_of_parseTimestamp (hlib : Documented lib) {text : String} {instant : DateTime}
    (h : parseTimestamp lib text = .ok instant) : text ≠ "" := by
  rintro rfl
  simp [parseTimestamp, show replaceZ "" = "" from rfl, hlib.empty_not_iso] at h

/-! ## The signed text -/

theorem canonicalString_injective {method path timestamp nonce key hash : String}
    {method' path' timestamp' nonce' key' hash' : String}
    (hlines : ∀ line ∈ [lib.upper method, path, timestamp, nonce, key, hash], '\n' ∉ line.toList)
    (h : canonicalString lib method path timestamp nonce key hash =
      canonicalString lib method' path' timestamp' nonce' key' hash') :
    lib.upper method = lib.upper method' ∧ path = path' ∧ timestamp = timestamp' ∧
      nonce = nonce' ∧ key = key' ∧ hash = hash' := by
  have hlists := congrArg String.toList h
  have hseparator : "\n".toList = ['\n'] := rfl
  simp only [canonicalString, String.toList_intercalate, hseparator] at hlists
  have hparts := Separated.eq_of_intercalate_eq (by simpa using hlines) (by simp) hlists
  simpa [String.toList_inj] using hparts

/-! ## Acceptance -/

/-- The fields that the agent learns from a request it accepts. -/
def SigningCall.verified (call : SigningCall) (instant : DateTime) :
    VerifiedNodeRequest where
  nodeId := call.nodeId
  keyId := call.keyId
  timestamp := instant
  nonce := call.nonceValue
  idempotencyKey := call.idempotencyKey

/-- The request of the call, as it reaches the agent at `now`. -/
def SigningCall.request (lib : Primitives) (call : SigningCall) (now : DateTime) :
    SignedRequest where
  method := call.method
  path := call.path
  body := call.body
  headers := call.headers lib
  expectedNodeId := call.nodeId
  expectedKeyId := call.keyId
  sharedSecret := call.secret
  now := now

/-- The text that the call signs. -/
def SigningCall.canonical (lib : Primitives) (call : SigningCall) : String :=
  canonicalString lib call.method call.path (call.ts lib) call.nonceValue call.idempotencyKey
    (lib.sha256 call.body)

/-- The text whose signature the agent expects. -/
def expectedCanonical (lib : Primitives) (r : SignedRequest) : String :=
  canonicalString lib r.method r.path (header r.headers timestampHeader)
    (header r.headers nonceHeader) (header r.headers idempotencyHeader) (lib.sha256 r.body)

theorem header_of_mem {name value : String} : ∀ {headers : List (String × String)},
    (headers.map fun h => lowerText h.1).Nodup → (name, value) ∈ headers →
    header headers name = value
  | (name', value') :: rest, hnodup, hmem => by
      rw [List.map_cons, List.nodup_cons] at hnodup
      obtain h | h := List.mem_cons.1 hmem
      · obtain ⟨rfl, rfl⟩ := Prod.mk.inj h
        simp [header]
      · have hne : lowerText name' ≠ lowerText name := fun heq =>
          hnodup.1 (heq ▸ List.mem_map_of_mem h)
        rw [header, List.find?_cons_of_neg (by simpa using hne)]
        exact header_of_mem hnodup.2 h

/-- No two of the headers share a name. -/
theorem nodup_headers (lib : Primitives) (call : SigningCall) :
    ((call.headers lib).map fun h => lowerText h.1).Nodup := by
  change (([nodeIdHeader, keyIdHeader, timestampHeader, nonceHeader, idempotencyHeader,
    signatureHeader].map lowerText).Nodup)
  decide +kernel

section Headers

variable (lib) (call : SigningCall)

theorem header_call {name value : String} (h : (name, value) ∈ call.headers lib) :
    header (call.headers lib) name = value :=
  header_of_mem (nodup_headers lib call) h

@[simp] theorem header_nodeId : header (call.headers lib) nodeIdHeader = call.nodeId :=
  header_call lib call (by simp [SigningCall.headers, buildSignedHeaders])

@[simp] theorem header_keyId : header (call.headers lib) keyIdHeader = call.keyId :=
  header_call lib call (by simp [SigningCall.headers, buildSignedHeaders])

@[simp] theorem header_timestamp : header (call.headers lib) timestampHeader = call.ts lib :=
  header_call lib call (by simp [SigningCall.headers, buildSignedHeaders])

@[simp] theorem header_nonce : header (call.headers lib) nonceHeader = call.nonceValue :=
  header_call lib call (by simp [SigningCall.headers, buildSignedHeaders])

@[simp] theorem header_idempotencyKey :
    header (call.headers lib) idempotencyHeader = call.idempotencyKey :=
  header_call lib call (by simp [SigningCall.headers, buildSignedHeaders])

@[simp] theorem header_signature : header (call.headers lib) signatureHeader =
    computeSignature lib call.secret (call.canonical lib) :=
  header_call lib call (by simp [SigningCall.headers, buildSignedHeaders, SigningCall.canonical])

end Headers

theorem authenticateAt_request (hlib : Documented lib) {call : SigningCall} {tolerance : ℤ}
    {now instant : DateTime} (hskew : |now - instant| ≤ seconds tolerance) :
    authenticateAt lib tolerance (call.request lib now) instant =
      .ok (call.verified instant) := by
  have hascii : (header (call.headers lib) signatureHeader).toList.any (128 ≤ ·.toNat) =
      false := by
    rw [header_signature]
    simpa [computeSignature] using hlib.hmac_ascii call.secret _
  unfold authenticateAt
  rw [if_neg, if_neg, if_neg]
  · simp [SigningCall.request, SigningCall.verified]
  · simp [SigningCall.request, SigningCall.canonical]
  · rw [SigningCall.request, hascii]
    simp
  · exact not_lt.2 hskew

theorem authenticate_request (hlib : Documented lib) {call : SigningCall}
    {tolerance : ℤ} {now instant : DateTime} (hnonce : call.nonceValue ≠ "")
    (hkey : call.idempotencyKey ≠ "") (hinstant : parseTimestamp lib (call.ts lib) = .ok instant)
    (hskew : |now - instant| ≤ seconds tolerance) :
    authenticate lib tolerance (call.request lib now) = .ok (call.verified instant) := by
  have hts := ne_empty_of_parseTimestamp hlib hinstant
  rw [← authenticateAt_request hlib hskew]
  unfold authenticate
  rw [if_neg, if_neg, if_neg]
  · simp only [SigningCall.request, header_timestamp, hinstant]
    rfl
  · simp [SigningCall.request, hts, hnonce, hkey, computeSignature, hlib.hmac_ne_empty]
  · simp [SigningCall.request]
  · simp [SigningCall.request]

/-- What was signed is accepted, as long as the clock is near and the nonce is new. -/
theorem verify_request (hlib : Documented lib) {call : SigningCall} {tolerance ttl : ℤ}
    {store : NonceStore} {now instant : DateTime} (hnonce : call.nonceValue ≠ "")
    (hkey : call.idempotencyKey ≠ "") (hinstant : parseTimestamp lib (call.ts lib) = .ok instant)
    (hskew : |now - instant| ≤ seconds tolerance)
    (hnew : ∀ expiry, store (nonceKey call.nodeId call.nonceValue) = some expiry → expiry ≤ now) :
    (verifySignedRequest lib tolerance ttl store (call.request lib now)).1 =
      .ok (call.verified instant) := by
  have hremembered : (ExpiringMemory.remember (seconds ttl) store
      (nonceKey call.nodeId call.nonceValue) now).1 = true :=
    ExpiringMemory.remember_of_forall_le hnew
  unfold verifySignedRequest
  rw [authenticate_request hlib hnonce hkey hinstant hskew]
  dsimp only
  split
  next => rfl
  next hremember =>
    exact absurd (hremembered.symm.trans (congrArg Prod.fst hremember)) (by simp)

/-! ## What is accepted was signed -/

theorem authenticateAt_signature {tolerance : ℤ} {r : SignedRequest} {t : DateTime}
    {v : VerifiedNodeRequest} (h : authenticateAt lib tolerance r t = .ok v) :
    header r.headers signatureHeader =
      computeSignature lib r.sharedSecret (expectedCanonical lib r) := by
  unfold authenticateAt at h
  dsimp only at h
  split_ifs at h with hskew hascii hsignature
  exact not_not.1 hsignature

theorem authenticate_signature {tolerance : ℤ} {r : SignedRequest} {v : VerifiedNodeRequest}
    (h : authenticate lib tolerance r = .ok v) :
    header r.headers signatureHeader =
      computeSignature lib r.sharedSecret (expectedCanonical lib r) := by
  unfold authenticate at h
  dsimp only at h
  split_ifs at h
  cases ht : parseTimestamp lib (header r.headers timestampHeader) with
  | error e =>
    rw [ht] at h
    cases h
  | ok t =>
    rw [ht] at h
    exact authenticateAt_signature h

theorem authenticate_of_verify {tolerance ttl : ℤ} {store : NonceStore} {r : SignedRequest}
    {v : VerifiedNodeRequest} (h : (verifySignedRequest lib tolerance ttl store r).1 = .ok v) :
    authenticate lib tolerance r = .ok v := by
  unfold verifySignedRequest at h
  cases hauth : authenticate lib tolerance r with
  | error e => simp [hauth] at h
  | ok u =>
    rw [hauth] at h
    dsimp only at h
    split at h
    · exact h
    · cases h

/-- Neither the two texts nor the two bodies collide. -/
structure CollisionFree (lib : Primitives) (call : SigningCall) (r : SignedRequest) : Prop where
  hmac : Set.InjOn (lib.hmacSha256 r.sharedSecret) {call.canonical lib, expectedCanonical lib r}
  sha256 : Set.InjOn lib.sha256 {call.body, r.body}

/-- An accepted request that carries the signature of a call agrees with the call. -/
theorem eq_of_accepted (hlib : Documented lib) {tolerance ttl : ℤ} {store : NonceStore}
    {call : SigningCall} {r : SignedRequest} {v : VerifiedNodeRequest}
    (hlines : ∀ line ∈ [lib.upper call.method, call.path, call.ts lib, call.nonceValue,
      call.idempotencyKey], '\n' ∉ line.toList)
    (hsecret : call.secret = r.sharedSecret) (hfree : CollisionFree lib call r)
    (hsigned : header r.headers signatureHeader = header (call.headers lib) signatureHeader)
    (h : (verifySignedRequest lib tolerance ttl store r).1 = .ok v) :
    lib.upper call.method = lib.upper r.method ∧ call.path = r.path ∧
      call.ts lib = header r.headers timestampHeader ∧
      call.nonceValue = header r.headers nonceHeader ∧
      call.idempotencyKey = header r.headers idempotencyHeader ∧ call.body = r.body := by
  have hsignature := authenticate_signature (authenticate_of_verify h)
  rw [hsigned, header_signature, hsecret] at hsignature
  have htext : call.canonical lib = expectedCanonical lib r :=
    hfree.hmac (.inl rfl) (.inr rfl) hsignature
  have hall : ∀ line ∈ [lib.upper call.method, call.path, call.ts lib, call.nonceValue,
      call.idempotencyKey, lib.sha256 call.body], '\n' ∉ line.toList := by
    have hhash := hlib.sha256_line call.body
    simpa [hhash] using hlines
  obtain ⟨hmethod, hpath, hts, hnonce, hkey, hbody⟩ := canonicalString_injective hall htext
  exact ⟨hmethod, hpath, hts, hnonce, hkey, hfree.sha256 (.inl rfl) (.inr rfl) hbody⟩

/-- A refusal forgets what has expired, and no more is changed. -/
theorem verify_error_store {tolerance ttl : ℤ} {store : NonceStore} {r : SignedRequest}
    {e : AuthError} (h : (verifySignedRequest lib tolerance ttl store r).1 = .error e)
    {key : String} {expiry : DateTime}
    (hentry : (verifySignedRequest lib tolerance ttl store r).2 key = some expiry) :
    store key = some expiry := by
  unfold verifySignedRequest at h hentry
  cases hauth : authenticate lib tolerance r with
  | error e => simpa only [hauth] using hentry
  | ok v =>
    rw [hauth] at h hentry
    dsimp only at h hentry
    split at h
    next => cases h
    next forgotten hremember =>
      rw [hremember] at hentry
      obtain rfl : forgotten = ExpiringMemory.purge store r.now :=
        ExpiringMemory.eq_purge_of_remember_false hremember
      exact (ExpiringMemory.purge_eq_some.1 hentry).1

/-! ## The guarantee -/

/-- The digests and the timestamp of the call below. -/
def ordersPrimitives : Primitives where
  sha256 _ := "44136fa355b3678a1146ad16f7e8649e94fb4fc21fe77e8310c060f61caaff8a"
  hmacSha256 _ _ := "1a9ee8eae78ab4d7ea8e1b6ae9a4ab0d8a1b6fd8b4d92a3a4a8fa5de1ab0d44e"
  upper text := .ofList (text.toList.map Char.toUpper)
  fromIsoFormat text := if text = "2026-04-25T12:00:00+00:00" then
    some { wall := 1777118400000000, utcoffset := some 0 } else none
  isoFormat _ := "2026-04-25T12:00:00+00:00"

/-- A call without a timestamp and a nonce of its own. -/
def ordersCall : SigningCall where
  nodeId := "de-1"
  keyId := "default"
  secret := "super-secret"
  method := "post"
  path := "/agent/accounts"
  body := [123, 125]
  idempotencyKey := "provision:7"
  timestamp := none
  nonce := none
  now := 1777118400250000
  freshNonce := "0c7f2b9de5a64f3f9b6d1d1d2a5b8f10"

theorem ordersPrimitives_documented : Documented ordersPrimitives where
  hmac_ne_empty _ _ := by simp [ordersPrimitives]
  hmac_ascii _ _ := by
    have hall : (ordersPrimitives.hmacSha256 "" "").toList.all (·.toNat < 128) = true := by
      decide +kernel
    exact fun c hc => of_decide_eq_true (List.all_eq_true.1 hall c hc)
  sha256_line _ := by
    change '\n' ∉ (ordersPrimitives.sha256 []).toList
    decide +kernel
  empty_not_iso := by decide +kernel

end Auth

end ShopBot
