import ShopBot.Library.Separated

/-! # Percent encoding

Text is written in unreserved characters only, every other byte of its encoding as two
hexadecimal digits. In forms a blank is a plus sign, and pairs are joined by two more signs.
-/

namespace PercentEncoding

def isUnreserved (c : Char) : Bool :=
  c.isAlphanum || c = '_' || c = '.' || c = '-' || c = '~'

def hexDigit (n : ℕ) : Char := (Nat.digitChar n).toUpper

def hexValue (c : Char) : Option ℕ :=
  if c.isDigit then some (c.toNat - '0'.toNat)
  else if 'A' ≤ c ∧ c ≤ 'F' then some (c.toNat - 'A'.toNat + 10)
  else if 'a' ≤ c ∧ c ≤ 'f' then some (c.toNat - 'a'.toNat + 10)
  else none

def utf8 (text : String) : List UInt8 := text.toByteArray.data.toList

def ofUtf8 (bytes : List UInt8) : Option String := String.fromUTF8? ⟨bytes.toArray⟩

def quoteByte (b : UInt8) : List Char :=
  if isUnreserved (Char.ofNat b.toNat) then [Char.ofNat b.toNat]
  else ['%', hexDigit (b.toNat / 16), hexDigit (b.toNat % 16)]

def quotePlusByte (b : UInt8) : List Char := if b = 32 then ['+'] else quoteByte b

def quote (text : String) : List Char := (utf8 text).flatMap quoteByte

def quotePlus (text : String) : List Char := (utf8 text).flatMap quotePlusByte

def urlencode (query : List (String × String)) : List Char :=
  ['&'].intercalate (query.map fun field => quotePlus field.1 ++ '=' :: quotePlus field.2)

/-! ## Reading -/

def unquoteBytes : List Char → Option (List UInt8)
  | [] => some []
  | '%' :: high :: low :: rest => do
      let h ← hexValue high
      let l ← hexValue low
      return UInt8.ofNat (16 * h + l) :: (← unquoteBytes rest)
  | c :: rest =>
      if c = '%' ∨ 128 ≤ c.toNat then none
      else (unquoteBytes rest).map (UInt8.ofNat c.toNat :: ·)

def unquote (text : List Char) : Option String := (unquoteBytes text).bind ofUtf8

def unquotePlus (text : List Char) : Option String :=
  unquote (text.map fun c => if c = '+' then ' ' else c)

/-- What stands before and after the first separator. -/
def cut (separator : Char) : List Char → Option (List Char × List Char)
  | [] => none
  | c :: rest =>
      if c = separator then some ([], rest)
      else (cut separator rest).map fun parts => (c :: parts.1, parts.2)

def parseField (text : List Char) : Option (String × String) := do
  let (name, value) ← cut '=' text
  return (← unquotePlus name, ← unquotePlus value)

def parseQuery (text : List Char) : Option (List (String × String)) :=
  if text = [] then some [] else (text.splitOn '&').mapM parseField

/-! ## Bytes -/

theorem hexValue_hexDigit : ∀ n < 16, hexValue (hexDigit n) = some n := by decide

theorem hexDigit_unreserved : ∀ n < 16, isUnreserved (hexDigit n) = true := by decide

/-- An unreserved byte is a character of its own, and none that the reading gives a meaning. -/
theorem unreserved_byte : ∀ n < 256, isUnreserved (Char.ofNat n) = true →
    (Char.ofNat n).toNat = n ∧ n < 128 ∧ Char.ofNat n ≠ '%' ∧ Char.ofNat n ≠ '+' := by
  decide +kernel

theorem ofUtf8_utf8 (text : String) : ofUtf8 (utf8 text) = some text := by
  have hbytes : (⟨(utf8 text).toArray⟩ : ByteArray) = text.toByteArray := rfl
  rw [ofUtf8, hbytes, String.fromUTF8?, dif_pos text.isValidUTF8]
  rfl

theorem utf8_ne_nil {text : String} (h : text ≠ "") : utf8 text ≠ [] := by
  intro hnil
  have htext := ofUtf8_utf8 text
  rw [hnil, ← show utf8 "" = [] from rfl, ofUtf8_utf8] at htext
  exact h (Option.some.inj htext).symm

theorem unquoteBytes_cons {c : Char} {rest : List Char} (h : c ≠ '%') (hc : c.toNat < 128) :
    unquoteBytes (c :: rest) = (unquoteBytes rest).map (UInt8.ofNat c.toNat :: ·) := by
  rw [unquoteBytes, if_neg (by simp [h, hc])]
  simp [h]

theorem unquoteBytes_quoteByte (b : UInt8) (rest : List Char) :
    unquoteBytes (quoteByte b ++ rest) = (unquoteBytes rest).map (b :: ·) := by
  have hb : b.toNat < 256 := UInt8.toNat_lt b
  unfold quoteByte
  split_ifs with hunreserved
  · obtain ⟨hvalue, hascii, hpercent, -⟩ := unreserved_byte b.toNat hb hunreserved
    rw [List.singleton_append, unquoteBytes_cons hpercent (by omega), hvalue, UInt8.ofNat_toNat]
  · have hhigh := hexValue_hexDigit (b.toNat / 16) (by omega)
    have hlow := hexValue_hexDigit (b.toNat % 16) (by omega)
    have hjoin : UInt8.ofNat (16 * (b.toNat / 16) + b.toNat % 16) = b := by
      rw [Nat.div_add_mod, UInt8.ofNat_toNat]
    simp only [List.cons_append, List.nil_append, unquoteBytes, hhigh, hlow, Option.bind_eq_bind,
      Option.bind_some, hjoin]
    cases unquoteBytes rest <;> rfl

theorem unquoteBytes_flatMap : ∀ bytes : List UInt8,
    unquoteBytes (bytes.flatMap quoteByte) = some bytes
  | [] => rfl
  | b :: bytes => by
      rw [List.flatMap_cons, unquoteBytes_quoteByte, unquoteBytes_flatMap bytes]
      rfl

theorem unquote_quote (text : String) : unquote (quote text) = some text := by
  rw [unquote, quote, unquoteBytes_flatMap, Option.bind_some, ofUtf8_utf8]

theorem mem_quoteByte {b : UInt8} {c : Char} (h : c ∈ quoteByte b) :
    isUnreserved c = true ∨ c = '%' := by
  have hb : b.toNat < 256 := UInt8.toNat_lt b
  unfold quoteByte at h
  split_ifs at h with hunreserved
  · obtain rfl := List.mem_singleton.1 h
    exact .inl hunreserved
  · simp only [List.mem_cons, List.not_mem_nil, or_false] at h
    obtain rfl | rfl | rfl := h
    · exact .inr rfl
    · exact .inl (hexDigit_unreserved _ (by omega))
    · exact .inl (hexDigit_unreserved _ (by omega))

theorem mem_quote {text : String} {c : Char} (h : c ∈ quote text) :
    isUnreserved c = true ∨ c = '%' := by
  obtain ⟨b, -, hb⟩ := List.mem_flatMap.1 h
  exact mem_quoteByte hb

/-! ## Forms -/

theorem mem_quotePlus {text : String} {c : Char} (h : c ∈ quotePlus text) :
    isUnreserved c = true ∨ c = '%' ∨ c = '+' := by
  obtain ⟨b, -, hb⟩ := List.mem_flatMap.1 h
  unfold quotePlusByte at hb
  split_ifs at hb
  · exact .inr (.inr (List.mem_singleton.1 hb))
  · exact (mem_quoteByte hb).imp_right .inl

/-- What the plus signs stand for is read as it was quoted. -/
theorem map_quotePlusByte (b : UInt8) : (quotePlusByte b).map (fun c => if c = '+' then ' ' else c) =
    if b = 32 then [' '] else quoteByte b := by
  unfold quotePlusByte
  split_ifs
  · rfl
  · refine (List.map_congr_left fun c hc => ?_).trans (List.map_id _)
    rw [if_neg, id]
    rintro rfl
    exact absurd (mem_quoteByte hc) (by decide)

theorem unquoteBytes_blank (rest : List Char) :
    unquoteBytes (' ' :: rest) = (unquoteBytes rest).map (32 :: ·) := by
  rw [unquoteBytes_cons (by decide) (by decide)]
  rfl

theorem unquoteBytes_quotePlus : ∀ bytes : List UInt8,
    unquoteBytes ((bytes.flatMap quotePlusByte).map fun c => if c = '+' then ' ' else c) =
      some bytes
  | [] => rfl
  | b :: bytes => by
      rw [List.flatMap_cons, List.map_append, map_quotePlusByte]
      split_ifs with hblank
      · rw [List.singleton_append, unquoteBytes_blank, unquoteBytes_quotePlus bytes, hblank]
        rfl
      · rw [unquoteBytes_quoteByte, unquoteBytes_quotePlus bytes]
        rfl

theorem unquotePlus_quotePlus (text : String) : unquotePlus (quotePlus text) = some text := by
  rw [unquotePlus, unquote, quotePlus, unquoteBytes_quotePlus, Option.bind_some, ofUtf8_utf8]

theorem cut_append {separator : Char} : ∀ {before : List Char} (after : List Char),
    separator ∉ before → cut separator (before ++ separator :: after) = some (before, after)
  | [], after, _ => by simp [cut]
  | c :: before, after, h => by
      rw [List.mem_cons, not_or] at h
      rw [List.cons_append, cut, if_neg (Ne.symm h.1), cut_append after h.2]
      rfl

theorem not_mem_quotePlus {text : String} {c : Char}
    (hc : (isUnreserved c || c = '%' || c = '+') = false) : c ∉ quotePlus text := by
  intro h
  have hcases := mem_quotePlus h
  simp only [Bool.or_eq_false_iff, decide_eq_false_iff_not] at hc
  simp [hc.1.1, hc.1.2, hc.2] at hcases

theorem parseField_eq (field : String × String) :
    parseField (quotePlus field.1 ++ '=' :: quotePlus field.2) = some field := by
  have hname : '=' ∉ quotePlus field.1 := not_mem_quotePlus (by decide)
  simp [parseField, cut_append _ hname, unquotePlus_quotePlus]

theorem not_mem_field (field : String × String) :
    '&' ∉ quotePlus field.1 ++ '=' :: quotePlus field.2 := by
  rw [List.mem_append, List.mem_cons, not_or, not_or]
  exact ⟨not_mem_quotePlus (by decide), by decide, not_mem_quotePlus (by decide)⟩

theorem mapM_parseField : ∀ query : List (String × String),
    (query.map fun field => quotePlus field.1 ++ '=' :: quotePlus field.2).mapM parseField =
      some query
  | [] => rfl
  | field :: query => by
      rw [List.map_cons, List.mapM_cons, parseField_eq, mapM_parseField query]
      rfl

theorem mem_urlencode {query : List (String × String)} {c : Char} (h : c ∈ urlencode query) :
    isUnreserved c = true ∨ c = '%' ∨ c = '+' ∨ c = '=' ∨ c = '&' := by
  obtain rfl | ⟨part, hpart, hc⟩ := Separated.mem_intercalate h
  · simp
  · obtain ⟨field, -, rfl⟩ := List.mem_map.1 hpart
    rw [List.mem_append, List.mem_cons] at hc
    obtain hc | rfl | hc := hc
    · exact (mem_quotePlus hc).imp_right (Or.imp_right .inl)
    · simp
    · exact (mem_quotePlus hc).imp_right (Or.imp_right .inl)

/-- A form is read as it was written. -/
theorem parseQuery_urlencode (query : List (String × String)) :
    parseQuery (urlencode query) = some query := by
  cases query with
  | nil => rfl
  | cons field query =>
    have hsplit : (urlencode (field :: query)).splitOn '&' =
        (field :: query).map fun field => quotePlus field.1 ++ '=' :: quotePlus field.2 := by
      refine List.splitOn_intercalate _ (fun part hpart => ?_) (by simp)
      obtain ⟨field, -, rfl⟩ := List.mem_map.1 hpart
      exact not_mem_field field
    have hne : urlencode (field :: query) ≠ [] := by
      intro hnil
      rw [hnil, List.splitOn_nil] at hsplit
      have hhead := (List.cons.inj hsplit).1
      simp at hhead
    rw [parseQuery, if_neg hne, hsplit, mapM_parseField]

example : (quotePlus "a b&ü" = "a+b%26%C3%BC".toList) ∧
    unquotePlus "a+b%26%C3%BC".toList = some "a b&ü" := by decide +kernel

end PercentEncoding
