import ShopBot.Domain.VlessUri

/-! # Client addresses are read as they were built

No text that a payload brings reaches a place where it would be read as something else: names
and options are quoted, and the other parts are written in characters that divide nothing.
-/

namespace ShopBot

open PercentEncoding

namespace VlessBuildInput

/-- A name in which no character has a meaning of its own. -/
def IsDnsName (host : String) : Prop :=
  host ≠ "" ∧ ∀ c ∈ host.toList, c ∉ [':', '/', '?', '#', '[', ']', '@', '%']

/-- The payloads for which there is an address: a UUID, a host that is a name or an address
without a zone, and the number of a port. -/
structure Valid (payload : VlessBuildInput) : Prop where
  uuid : ∀ c ∈ payload.clientUuid.toList, IpAddress.isHexDigit c = true ∨ c = '-'
  host : IsDnsName payload.host ∨
    (IpAddress.parse payload.host.toList).isSome = true ∧ '%' ∉ payload.host.toList
  port : 1 ≤ payload.port ∧ payload.port ≤ 65535

variable {payload : VlessBuildInput}

/-! ## The parts -/

theorem Valid.not_mem_uuid (h : payload.Valid) {c : Char}
    (hc : (IpAddress.isHexDigit c || c = '-') = false) : c ∉ payload.clientUuid.toList := by
  intro hmem
  rw [Bool.or_eq_false_iff, decide_eq_false_iff_not] at hc
  obtain hhex | hhyphen := h.uuid c hmem
  · exact absurd hhex (by simp [hc.1])
  · exact hc.2 hhyphen

/-- A host that is no long address has no colon; no host has another character that divides. -/
theorem Valid.host_chars (h : payload.Valid) :
    payload.host.toList ≠ [] ∧
      (∀ c ∈ payload.host.toList, c ∉ ['#', '?', '@', '[', ']']) ∧
      ((IpAddress.parse payload.host.toList).any (·.version = .v6) = false →
        ':' ∉ payload.host.toList) := by
  obtain ⟨hne, hname⟩ | ⟨hsome, hzone⟩ := h.host
  · refine ⟨fun hnil => hne (String.toList_eq_nil_iff.1 hnil), fun c hc hmem => ?_, fun _ hc => ?_⟩
    · exact hname c hc (by simp at hmem ⊢; tauto)
    · exact hname ':' hc (by simp)
  · obtain ⟨address, haddress⟩ := Option.isSome_iff_exists.1 hsome
    obtain ⟨hchars, hversion, hne⟩ := IpAddress.mem_of_parse haddress hzone
    refine ⟨hne, fun c hc hmem => ?_, fun hshort hc => ?_⟩
    · simp only [List.mem_cons, List.not_mem_nil, or_false] at hmem
      obtain rfl | rfl | rfl | rfl | rfl := hmem <;> exact absurd (hchars _ hc) (by decide)
    · simp [haddress, hversion.2 hc] at hshort

theorem Valid.not_mem_bracketedHost (h : payload.Valid) {c : Char} (hc : c ∈ ['#', '?', '@']) :
    c ∉ payload.bracketedHost := by
  obtain ⟨-, hchars, -⟩ := h.host_chars
  have hhost : c ∉ payload.host.toList := fun hmem => hchars c hmem (by simp at hc ⊢; tauto)
  unfold bracketedHost
  split_ifs
  · simp only [List.cons_append, List.mem_cons, List.mem_append, List.not_mem_nil, or_false]
    rintro (rfl | hmem | rfl)
    · exact absurd hc (by decide)
    · exact hhost hmem
    · exact absurd hc (by decide)
  · exact hhost

theorem Valid.toList_port (h : payload.Valid) :
    (toString payload.port).toList = Nat.toDigits 10 payload.port.toNat := by
  have hport : payload.port = (payload.port.toNat : ℤ) := by
    have hpos := h.port.1
    omega
  rw [hport]
  exact Nat.toList_repr

theorem Valid.parsePort_port (h : payload.Valid) :
    VlessUri.parsePort (toString payload.port).toList = some payload.port := by
  have hpos := h.port.1
  rw [h.toList_port, VlessUri.parsePort, IpAddress.parseDecimal, if_pos]
  · rw [Nat.ofDigitChars_ten_toDigits, Option.map_some]
    exact congrArg some (Int.toNat_of_nonneg (by omega))
  · exact ⟨Nat.toDigits_ne_nil, List.all_eq_true.2 fun c hc =>
      Nat.isDigit_of_mem_toDigits (by decide) (by decide) hc⟩

theorem Valid.not_mem_port (h : payload.Valid) {c : Char} (hc : c.isDigit = false) :
    c ∉ (toString payload.port).toList := by
  rw [h.toList_port]
  intro hmem
  have hdigit := Nat.isDigit_of_mem_toDigits (by decide) (by decide) hmem
  simp [hc] at hdigit

theorem parseHostPort_of_bracketed {host digits : List Char} {port : ℤ} (hbracket : ']' ∉ host)
    (hport : VlessUri.parsePort digits = some port) :
    VlessUri.parseHostPort ('[' :: host ++ [']'] ++ ':' :: digits) = some (.ofList host, port) := by
  have hcut := cut_append (':' :: digits) hbracket
  simp [VlessUri.parseHostPort, hcut, hport]

theorem parseHostPort_of_plain {host digits : List Char} {port : ℤ} (hbracket : '[' ∉ host)
    (hcolon : ':' ∉ host) (hport : VlessUri.parsePort digits = some port) :
    VlessUri.parseHostPort (host ++ ':' :: digits) = some (.ofList host, port) := by
  have hcut := cut_append digits hcolon
  unfold VlessUri.parseHostPort
  split
  · next rest hrest =>
    cases host with
    | nil => simp at hrest
    | cons first host => simp [(List.cons.inj hrest).1] at hbracket
  · simp [hcut, hport]

theorem Valid.parseHostPort_bracketedHost (h : payload.Valid) :
    VlessUri.parseHostPort (payload.bracketedHost ++ ':' :: (toString payload.port).toList) =
      some (payload.host, payload.port) := by
  obtain ⟨-, hchars, hcolon⟩ := h.host_chars
  unfold bracketedHost
  split_ifs with hlong
  · rw [parseHostPort_of_bracketed (fun hmem => hchars _ hmem (by simp)) h.parsePort_port,
      String.ofList_toList]
  · rw [parseHostPort_of_plain (fun hmem => hchars _ hmem (by simp))
      (hcolon (by simpa using hlong)) h.parsePort_port, String.ofList_toList]

/-! ## The options -/

/-- Where every option is named once, those with a value are found under their names. -/
theorem lookup_present {name : String} : ∀ {fields : List (String × Option String)},
    (fields.map Prod.fst).Nodup →
    (fields.filterMap fun field => (present field.2).map (field.1, ·)).lookup name =
      (fields.lookup name).bind present
  | [], _ => rfl
  | (name', value) :: fields, hnodup => by
      rw [List.map_cons, List.nodup_cons] at hnodup
      have ih := @lookup_present name fields hnodup.2
      obtain rfl | hname := eq_or_ne name name'
      · have hmissing : fields.lookup name = none := by
          rw [List.lookup_eq_none_iff]
          intro field hfield
          have hne : name ≠ field.1 := fun heq =>
            hnodup.1 (List.mem_map.2 ⟨field, hfield, heq.symm⟩)
          simpa using hne
        rw [hmissing] at ih
        cases hvalue : present value with
        | none => simp [hvalue, ih]
        | some text => simp [hvalue]
      · have hbeq : (name == name') = false := by simpa using hname
        cases hvalue : present value with
        | none => simp [hvalue, ih, List.lookup_cons, hbeq]
        | some text => simp [hvalue, ih, List.lookup_cons, hbeq]

/-- What the address of the payload is read as. -/
def uri (payload : VlessBuildInput) : VlessUri where
  userinfo := payload.clientUuid
  host := payload.host
  port := payload.port
  query := payload.query
  fragment := payload.displayName

theorem input_uri (payload : VlessBuildInput) : payload.uri.input = payload.withDefaults := by
  have hlookup : ∀ name, payload.query.lookup name = _ := fun name =>
    lookup_present (by simp)
  have hdefault : ∀ (value : Option String) (default : String), default ≠ "" →
      present (some ((present value).getD default)) = some ((present value).getD default) := by
    intro value default hne
    cases hvalue : present value with
    | none => simp [present, hne]
    | some text => simpa [present] using (Option.filter_eq_some_iff.1 hvalue).2
  simp only [uri, VlessUri.input, withDefaults, hlookup]
  simp [List.lookup_cons, hdefault]

/-! ## The whole address -/

theorem not_mem_urlencode {query : List (String × String)} : '#' ∉ urlencode query := by
  intro h
  exact absurd (mem_urlencode h) (by decide)

theorem dropPrefix?_append_self (scheme rest : List Char) :
    (scheme ++ rest).dropPrefix? scheme = some rest :=
  List.dropPrefix?_append_of_beq rest (beq_self_eq_true scheme)

theorem Valid.parse_build (h : payload.Valid) : VlessUri.parse payload.build = some payload.uri := by
  have hat : '@' ∉ payload.clientUuid.toList := h.not_mem_uuid (by decide)
  have hquestion : '?' ∉ payload.clientUuid.toList ++
      '@' :: (payload.bracketedHost ++ ':' :: (toString payload.port).toList) := by
    simp only [List.mem_append, List.mem_cons, not_or]
    exact ⟨h.not_mem_uuid (by decide), by decide, h.not_mem_bracketedHost (by decide),
      by decide, h.not_mem_port (by decide)⟩
  have hhash : '#' ∉ payload.clientUuid.toList ++
      '@' :: (payload.bracketedHost ++ ':' :: (toString payload.port).toList) ++
      '?' :: urlencode payload.query := by
    simp only [List.mem_append, List.mem_cons, not_or]
    exact ⟨⟨h.not_mem_uuid (by decide), by decide, h.not_mem_bracketedHost (by decide),
      by decide, h.not_mem_port (by decide)⟩, by decide, not_mem_urlencode⟩
  have htext : payload.build.toList = _ := String.toList_ofList
  rw [VlessUri.parse, htext, dropPrefix?_append_self]
  simp only [Option.bind_eq_bind, Option.bind_some]
  rw [cut_append _ hhash]
  simp only [Option.bind_some]
  rw [cut_append _ hquestion]
  simp only [Option.bind_some]
  rw [cut_append _ hat]
  simp only [Option.bind_some, h.parseHostPort_bracketedHost, parseQuery_urlencode, unquote_quote,
    String.ofList_toList]
  rfl

/-- The address is read as what it was built from, with the defaults in place; so no other
payload has it. -/
theorem vless_round_trip (h : payload.Valid) :
    VlessUri.parse payload.build = some payload.uri ∧
      payload.uri.input = payload.withDefaults ∧
      ∀ other : VlessBuildInput, other.Valid → other.build = payload.build →
        other.withDefaults = payload.withDefaults := by
  refine ⟨h.parse_build, payload.input_uri, fun other hother hbuild => ?_⟩
  have hparse := hother.parse_build
  rw [hbuild, h.parse_build] at hparse
  rw [← input_uri, ← input_uri, Option.some.inj hparse]

/-- A payload with a long address and a name that has to be quoted. -/
def premium : VlessBuildInput where
  clientUuid := "123e4567-e89b-12d3-a456-426614174000"
  host := "2001:db8::1"
  port := 443
  displayName := "name #?/ Привет"
  sni := some "a&b=c@d"
  flow := some ""

theorem premium_round_trip : (VlessUri.parse premium.build).map VlessUri.input =
    some premium.withDefaults := by
  have huuid : premium.clientUuid.toList.all
      (fun c => IpAddress.isHexDigit c = true ∨ c = '-') = true := by decide +kernel
  obtain ⟨hparse, hinput, -⟩ := vless_round_trip (show premium.Valid from {
    uuid := fun c hc => of_decide_eq_true (List.all_eq_true.1 huuid c hc)
    host := .inr (by decide +kernel)
    port := by decide })
  rw [hparse, Option.map_some, hinput]

end VlessBuildInput

end ShopBot
