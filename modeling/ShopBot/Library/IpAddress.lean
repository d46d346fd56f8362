import Mathlib.Algebra.Group.Nat.Defs
import ShopBot.Library.Separated

/-! # Addresses and networks

Internet addresses of both versions and their networks, read from text as address libraries
read them: octets have no leading zeros, one run of zero groups may be left out, and the last
two groups of a long address may be written as a short one.
-/

namespace IpAddress

inductive Version where
  | v4

  | v6
deriving DecidableEq, Repr

def Version.width : Version → ℕ
  | .v4 => 32
  | .v6 => 128

structure Address where
  version : Version
  value : ℕ
deriving DecidableEq, Repr

structure Network where
  address : Address
  prefixLength : ℕ
deriving DecidableEq, Repr

/-- The leading bits of the address are those of the network. -/
def Network.contains (n : Network) (a : Address) : Bool :=
  a.version = n.address.version &&
    a.value / 2 ^ (n.address.version.width - n.prefixLength) =
      n.address.value / 2 ^ (n.address.version.width - n.prefixLength)

/-- A number written in decimal digits. -/
def parseDecimal (text : List Char) : Option ℕ :=
  if text ≠ [] ∧ text.all Char.isDigit then some (Nat.ofDigitChars 10 text 0) else none

/-! ## Short addresses -/

def parseOctet (text : List Char) : Option ℕ := do
  let n ← parseDecimal text
  if text.length ≤ 3 ∧ (text = ['0'] ∨ text.head? ≠ some '0') ∧ n ≤ 255 then some n else none

def parseV4 (text : List Char) : Option ℕ := do
  let octets ← (text.splitOn '.').mapM parseOctet
  match octets with
  | [a, b, c, d] => some (((a * 256 + b) * 256 + c) * 256 + d)
  | _ => none

/-! ## Long addresses -/

def isHexDigit (c : Char) : Bool :=
  c.isDigit || ('a' ≤ c && c ≤ 'f') || ('A' ≤ c && c ≤ 'F')

def hexDigitValue (c : Char) : ℕ :=
  if c.isDigit then c.toNat - '0'.toNat
  else if 'a' ≤ c then c.toNat - 'a'.toNat + 10
  else c.toNat - 'A'.toNat + 10

def parseHextet (text : List Char) : Option ℕ :=
  if text ≠ [] ∧ text.all isHexDigit ∧ text.length ≤ 4 then
    some (text.foldl (fun n c => n * 16 + hexDigitValue c) 0)
  else none

/-- A short address at the end stands for two groups. -/
def expandLast (parts : List (List Char)) : Option (List (List Char)) :=
  match parts.getLast? with
  | none => some parts
  | some last =>
    if '.' ∈ last then (parseV4 last).map fun n =>
      parts.dropLast ++ [Nat.toDigits 16 (n / 65536 % 65536), Nat.toDigits 16 (n % 65536)]
    else some parts

/-- The groups on one side of the gap; a gap at the end of the text leaves an empty part. -/
def parseSide (parts : List (List Char)) (outer : Option (List Char)) : Option (List ℕ) :=
  if outer = some [] then
    if parts.length = 1 then some [] else none
  else parts.mapM parseHextet

def ofGroups (groups : List ℕ) : ℕ := groups.foldl (fun n g => n * 65536 + g) 0

def parseV6 (text : List Char) : Option ℕ := do
  let parts ← expandLast (text.splitOn ':')
  if (text.splitOn ':').length < 3 ∨ 9 < parts.length then none
  else
    match parts.tail.dropLast.idxOf? [] with
    | none =>
      if parts.length = 8 then (parts.mapM parseHextet).map ofGroups else none
    | some i => do
      let high ← parseSide (parts.take (i + 1)) parts.head?
      let low ← parseSide (parts.drop (i + 2)) parts.getLast?
      if high.length + low.length < 8 then
        some (ofGroups (high ++ List.replicate (8 - (high.length + low.length)) 0 ++ low))
      else none

/-- A long address may name a zone. -/
def parseScoped (text : List Char) : Option ℕ :=
  match text.splitOn '%' with
  | [address] => parseV6 address
  | [address, scope] => if scope ≠ [] then parseV6 address else none
  | _ => none

def parse (text : List Char) : Option Address :=
  if '/' ∈ text then none
  else ((parseV4 text).map (⟨.v4, ·⟩)).or ((parseScoped text).map (⟨.v6, ·⟩))

/-! ## Networks -/

def splitPrefix (text : List Char) : Option (List Char × Option (List Char)) :=
  match text.splitOn '/' with
  | [address] => some (address, none)
  | [address, mask] => some (address, some mask)
  | _ => none

def prefixOfDigits (width : ℕ) (text : List Char) : Option ℕ :=
  (parseDecimal text).filter (· ≤ width)

/-- The length of a mask whose leading bits are ones. -/
def prefixOfMask (mask : ℕ) : Option ℕ :=
  (List.range 33).find? fun p => mask = (2 ^ p - 1) * 2 ^ (32 - p)

def parsePrefixV4 (text : List Char) : Option ℕ :=
  (prefixOfDigits 32 text).or ((parseV4 text).bind fun mask =>
    (prefixOfMask mask).or (prefixOfMask (2 ^ 32 - 1 - mask)))

def parseNetworkV4 (text : List Char) : Option Network := do
  let (address, mask) ← splitPrefix text
  let value ← parseV4 address
  let prefixLength ← (mask.map parsePrefixV4).getD (some 32)
  some ⟨⟨.v4, value⟩, prefixLength⟩

def parseNetworkV6 (text : List Char) : Option Network := do
  let (address, mask) ← splitPrefix text
  let value ← parseScoped address
  let prefixLength ← (mask.map (prefixOfDigits 128)).getD (some 128)
  some ⟨⟨.v6, value⟩, prefixLength⟩

def parseNetwork (text : List Char) : Option Network :=
  (parseNetworkV4 text).or (parseNetworkV6 text)

/-! ## The characters of an address -/

theorem exists_of_mapM_eq_some {α β : Type*} {f : α → Option β} :
    ∀ {l : List α} {l' : List β}, l.mapM f = some l' → ∀ a ∈ l, ∃ b, f a = some b
  | [], _, _ => by simp
  | a :: l, l', h => by
      rw [List.mapM_cons] at h
      obtain ⟨b, hb, h⟩ := Option.bind_eq_some_iff.1 h
      obtain ⟨rest, hrest, -⟩ := Option.bind_eq_some_iff.1 h
      intro a' ha'
      obtain rfl | ha' := List.mem_cons.1 ha'
      · exact ⟨b, hb⟩
      · exact exists_of_mapM_eq_some hrest a' ha'

theorem mem_parseDecimal {text : List Char} {n : ℕ} (h : parseDecimal text = some n) :
    ∀ c ∈ text, c.isDigit = true := by
  unfold parseDecimal at h
  split_ifs at h with hdigits
  exact List.all_eq_true.1 hdigits.2

theorem mem_parseOctet {text : List Char} {n : ℕ} (h : parseOctet text = some n) :
    ∀ c ∈ text, c.isDigit = true := by
  obtain ⟨m, hm, -⟩ := Option.bind_eq_some_iff.1 h
  exact mem_parseDecimal hm

theorem mem_parseV4 {text : List Char} {n : ℕ} (h : parseV4 text = some n) :
    ∀ c ∈ text, c.isDigit = true ∨ c = '.' := by
  intro c hc
  obtain ⟨octets, hoctets, -⟩ := Option.bind_eq_some_iff.1 h
  obtain rfl | ⟨part, hpart, hc⟩ := Separated.mem_splitOn '.' hc
  · exact .inr rfl
  · obtain ⟨octet, hoctet⟩ := exists_of_mapM_eq_some hoctets part hpart
    exact .inl (mem_parseOctet hoctet c hc)

theorem mem_parseHextet {text : List Char} {n : ℕ} (h : parseHextet text = some n) :
    ∀ c ∈ text, isHexDigit c = true := by
  unfold parseHextet at h
  split_ifs at h with hdigits
  exact List.all_eq_true.1 hdigits.2.1

theorem mem_parseSide {parts : List (List Char)} {outer : Option (List Char)} {groups : List ℕ}
    (houter : ∀ part, parts = [part] → outer = some part)
    (h : parseSide parts outer = some groups) :
    ∀ part ∈ parts, ∀ c ∈ part, isHexDigit c = true := by
  intro part hpart
  unfold parseSide at h
  split_ifs at h with hempty hlength
  · obtain ⟨only, rfl⟩ := List.length_eq_one_iff.1 hlength
    obtain rfl := Option.some.inj (hempty.symm.trans (houter only rfl))
    obtain rfl := List.mem_singleton.1 hpart
    simp
  · obtain ⟨group, hgroup⟩ := exists_of_mapM_eq_some h part hpart
    exact mem_parseHextet hgroup

/-- Every part that is read as a group has hexadecimal digits only. -/
theorem mem_parts {parts : List (List Char)} {i : ℕ} {high low : List ℕ}
    (hgap : parts.tail.dropLast.idxOf? [] = some i)
    (hhigh : parseSide (parts.take (i + 1)) parts.head? = some high)
    (hlow : parseSide (parts.drop (i + 2)) parts.getLast? = some low) :
    ∀ part ∈ parts, ∀ c ∈ part, isHexDigit c = true := by
  obtain ⟨hi, hempty, -⟩ := List.idxOf?_eq_some_iff.1 hgap
  rw [List.length_dropLast, List.length_tail] at hi
  rw [List.getElem_dropLast, List.getElem_tail] at hempty
  have hsplit : parts = parts.take (i + 1) ++ [] :: parts.drop (i + 2) := by
    rw [← hempty, ← List.drop_eq_getElem_cons, List.take_append_drop]
  intro part hpart
  rw [hsplit, List.mem_append, List.mem_cons] at hpart
  obtain hpart | rfl | hpart := hpart
  · refine mem_parseSide (fun only honly => ?_) hhigh part hpart
    have hhead := List.head?_take (l := parts) (i := i + 1)
    rw [honly, if_neg (by omega)] at hhead
    exact hhead.symm
  · simp
  · refine mem_parseSide (fun only honly => ?_) hlow part hpart
    have hlast := List.getLast?_drop (l := parts) (i := i + 2)
    rw [honly, if_neg (by omega)] at hlast
    exact hlast.symm

/-- Every group has hexadecimal digits only, but the last may be a short address. -/
theorem mem_expandLast {parts parts' : List (List Char)} (h : expandLast parts = some parts')
    {P : List Char → Prop} (hparts : ∀ part ∈ parts', P part) :
    ∀ part ∈ parts, P part ∨ ∃ n, parseV4 part = some n := by
  unfold expandLast at h
  split at h
  · obtain rfl := Option.some.inj h
    exact fun part hpart => .inl (hparts part hpart)
  · next last hlast =>
    split_ifs at h
    · obtain ⟨n, hn, rfl⟩ := Option.map_eq_some_iff.1 h
      intro part hpart
      rw [← List.dropLast_append_getLast? last hlast] at hpart
      obtain hpart | hpart := List.mem_append.1 hpart
      · exact .inl (hparts part (List.mem_append_left _ hpart))
      · exact .inr ⟨n, List.mem_singleton.1 hpart ▸ hn⟩
    · obtain rfl := Option.some.inj h
      exact fun part hpart => .inl (hparts part hpart)

theorem isHexDigit_of_isDigit {c : Char} (h : c.isDigit = true) : isHexDigit c = true := by
  simp [isHexDigit, h]

theorem mem_parseV6 {text : List Char} {n : ℕ} (h : parseV6 text = some n) :
    ':' ∈ text ∧ ∀ c ∈ text, isHexDigit c = true ∨ c = ':' ∨ c = '.' := by
  obtain ⟨parts, hparts, h⟩ := Option.bind_eq_some_iff.1 h
  split at h
  · cases h
  next hlength =>
  have hcolon : ':' ∈ text := by
    by_contra hcolon
    rw [List.splitOn_eq_singleton hcolon] at hlength
    simp at hlength
  refine ⟨hcolon, fun c hc => ?_⟩
  have hgroups : ∀ part ∈ parts, ∀ c ∈ part, isHexDigit c = true := by
    split at h
    · split_ifs at h
      obtain ⟨groups, hgroups, -⟩ := Option.map_eq_some_iff.1 h
      intro part hpart
      obtain ⟨group, hgroup⟩ := exists_of_mapM_eq_some hgroups part hpart
      exact mem_parseHextet hgroup
    · next i hgap =>
      obtain ⟨high, hhigh, h⟩ := Option.bind_eq_some_iff.1 h
      obtain ⟨low, hlow, -⟩ := Option.bind_eq_some_iff.1 h
      exact mem_parts hgap hhigh hlow
  obtain hc | ⟨part, hpart, hc⟩ := Separated.mem_splitOn ':' hc
  · exact .inr (.inl hc)
  obtain hhex | ⟨n, hn⟩ := mem_expandLast hparts hgroups part hpart
  · exact .inl (hhex c hc)
  · exact (mem_parseV4 hn c hc).imp isHexDigit_of_isDigit .inr

/-- The characters of an address that names no zone; a long one has a colon, a short one none. -/
theorem mem_of_parse {text : List Char} {address : Address} (h : parse text = some address)
    (hzone : '%' ∉ text) :
    (∀ c ∈ text, isHexDigit c = true ∨ c = ':' ∨ c = '.') ∧
      (address.version = .v6 ↔ ':' ∈ text) ∧ text ≠ [] := by
  unfold parse at h
  split_ifs at h
  obtain h | ⟨-, h⟩ := Option.or_eq_some_iff.1 h
  · obtain ⟨value, hvalue, rfl⟩ := Option.map_eq_some_iff.1 h
    have hchars := mem_parseV4 hvalue
    refine ⟨fun c hc => (hchars c hc).imp isHexDigit_of_isDigit .inr, ?_, ?_⟩
    · refine iff_of_false (by simp) fun hcolon => ?_
      exact absurd (hchars ':' hcolon) (by decide)
    · rintro rfl
      cases hvalue
  · obtain ⟨value, hvalue, rfl⟩ := Option.map_eq_some_iff.1 h
    rw [parseScoped, List.splitOn_eq_singleton hzone] at hvalue
    obtain ⟨hcolon, hchars⟩ := mem_parseV6 hvalue
    exact ⟨hchars, iff_of_true rfl hcolon, List.ne_nil_of_mem hcolon⟩

example : (parseNetwork "10.0.0.0/8".toList).any (fun n =>
    (parse "10.1.2.3".toList).any n.contains) = true := by decide +kernel

example : (parse "2001:db8::7".toList).map Address.version = some .v6 ∧
    parse "1::2::3".toList = none ∧ parse "010.1.2.3".toList = none := by decide +kernel

end IpAddress
