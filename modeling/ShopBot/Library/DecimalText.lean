import ShopBot.Library.DecimalRounding
import ShopBot.Library.IpAddress

/-! # Texts of decimal numbers

The grammar of decimal numbers and their conversion to a text. A text is converted exactly
or not at all: a number that does not fit the largest context is an invalid operation. The
text of a number without a positive exponent is read back as the same number.
-/

namespace Decimal

/-- The zeros of the decimal digits of Unicode. -/
def zeros : List ℕ :=
  [0x30, 0x660, 0x6f0, 0x7c0, 0x966, 0x9e6, 0xa66, 0xae6, 0xb66, 0xbe6, 0xc66, 0xce6, 0xd66,
    0xde6, 0xe50, 0xed0, 0xf20, 0x1040, 0x1090, 0x17e0, 0x1810, 0x1946, 0x19d0, 0x1a80, 0x1a90,
    0x1b50, 0x1bb0, 0x1c40, 0x1c50, 0xa620, 0xa8d0, 0xa900, 0xa9d0, 0xa9f0, 0xaa50, 0xabf0,
    0xff10, 0x104a0, 0x10d30, 0x11066, 0x110f0, 0x11136, 0x111d0, 0x112f0, 0x11450, 0x114d0,
    0x11650, 0x116c0, 0x11730, 0x118e0, 0x11950, 0x11c50, 0x11d50, 0x11da0, 0x11f50, 0x16a60,
    0x16ac0, 0x16b50, 0x1d7ce, 0x1d7d8, 0x1d7e2, 0x1d7ec, 0x1d7f6, 0x1e140, 0x1e2f0, 0x1e4f0,
    0x1e950, 0x1fbf0]

def asciiDigit (c : Char) : Char :=
  match zeros.find? fun n => n ≤ c.toNat && c.toNat < n + 10 with
  | some n => Nat.digitChar (c.toNat - n)
  | none => c

/-- The context of the exact conversions. -/
def Context.largest : Context where
  prec := 999999999999999999
  emax := 999999999999999999
  emin := -999999999999999999
  prec_pos := by decide
  emin_le_emax := by decide

namespace Finite

/-- The number needs no rounding in the context. -/
def Fits (ctx : Context) (x : Finite) : Prop :=
  digitCount x.coefficient ≤ ctx.prec ∧ ctx.etiny ≤ x.exponent ∧ x.adjusted ≤ ctx.emax

instance {ctx : Context} {x : Finite} : Decidable (x.Fits ctx) := inferInstanceAs (Decidable (_ ∧ _))

def signText (negative : Bool) : List Char := if negative then ['-'] else []

/-- The digits with a zero in front of the point at least. -/
def padded (x : Finite) : List Char :=
  List.replicate ((-x.exponent).toNat + 1 - digitCount x.coefficient) '0' ++
    Nat.toDigits 10 x.coefficient

/-- The text without an exponent. -/
def plain (x : Finite) : List Char :=
  let digits := x.padded
  let places := (-x.exponent).toNat
  let point := digits.length - places
  signText x.negative ++
    (if places = 0 then digits else digits.take point ++ '.' :: digits.drop point)

/-- `str(x)`. -/
def str (x : Finite) : List Char :=
  if x.exponent ≤ 0 ∧ -6 < x.exponent + digitCount x.coefficient then x.plain
  else
    let digits := Nat.toDigits 10 x.coefficient
    let fraction := if digits.length = 1 then [] else '.' :: digits.drop 1
    let exponent := Nat.toDigits 10 x.adjusted.natAbs
    signText x.negative ++ digits.take 1 ++ fraction ++
      'E' :: (if x.adjusted < 0 then '-' else '+') :: exponent

/-- `f"{x:.2f}"`, with so many places. -/
def formatFixed (places : ℕ) (x : Finite) : List Char :=
  (x.rescale .halfEven (-places)).plain

end Finite

def Number.str : Number → List Char
  | finite x => x.str
  | infinity negative => Finite.signText negative ++ "Infinity".toList
  | nan signaling negative payload => Finite.signText negative ++
      (if signaling then "sNaN" else "NaN").toList ++
      (if payload = 0 then [] else Nat.toDigits 10 payload)

def parseExponent : List Char → Option ℤ
  | '-' :: digits => (IpAddress.parseDecimal digits).map fun n => -n
  | '+' :: digits => (IpAddress.parseDecimal digits).map fun n => n
  | digits => (IpAddress.parseDecimal digits).map fun n => n

/-- The fraction, and what follows it. -/
def parseFraction : List Char → List Char × List Char
  | '.' :: text => (text.takeWhile Char.isDigit, text.dropWhile Char.isDigit)
  | text => ([], text)

def parseFinite (negative : Bool) (text : List Char) : Option Number :=
  let digits := text.takeWhile Char.isDigit
  let fraction := parseFraction (text.dropWhile Char.isDigit)
  if digits ++ fraction.1 = [] then none
  else
    let exponent : Option ℤ := match fraction.2 with
      | [] => some 0
      | c :: rest => if c.toLower = 'e' then parseExponent rest else none
    exponent.bind fun exponent =>
      let x : Finite := {
        negative := negative
        coefficient := Nat.ofDigitChars 10 (digits ++ fraction.1) 0
        exponent := exponent - fraction.1.length }
      if x.Fits .largest then some (.finite x) else none

def parseNan (signaling negative : Bool) (digits : List Char) : Option Number :=
  if digits.all Char.isDigit = true then
    let payload := Nat.ofDigitChars 10 digits 0
    if digitCount payload ≤ Context.largest.prec then some (.nan signaling negative payload)
    else none
  else none

def parseSpecial (negative : Bool) (text : List Char) : Option Number :=
  let text := text.map Char.toLower
  if text = "inf".toList ∨ text = "infinity".toList then some (.infinity negative)
  else if "nan".toList.isPrefixOf text then parseNan false negative (text.drop 3)
  else if "snan".toList.isPrefixOf text then parseNan true negative (text.drop 4)
  else none

def parseUnsigned (negative : Bool) (text : List Char) : Option Number :=
  (parseFinite negative text).or (parseSpecial negative text)

def parseSigned : List Char → Option Number
  | '-' :: text => parseUnsigned true text
  | '+' :: text => parseUnsigned false text
  | text => parseUnsigned false text

/-- `Decimal(text)` of a text without surrounding blanks. -/
def parse (text : List Char) : Option Number :=
  parseSigned ((text.filter (· ≠ '_')).map asciiDigit)

/-! ## Plain texts are read back -/

theorem asciiDigit_of_isDigit {c : Char} (h : c.isDigit = true) : asciiDigit c = c := by
  obtain ⟨hle, hge⟩ : 48 ≤ c.toNat ∧ c.toNat ≤ 57 := Char.isDigit_iff_toNat.1 h
  have hfirst : zeros.find? (fun n => n ≤ c.toNat && c.toNat < n + 10) = some 0x30 := by
    have hin : (decide (0x30 ≤ c.toNat) && decide (c.toNat < 0x30 + 10)) = true := by
      simp only [Bool.and_eq_true, decide_eq_true_eq]
      omega
    have hzeros : zeros = 0x30 :: zeros.tail := rfl
    rw [hzeros]
    exact List.find?_cons_of_pos hin
  rw [asciiDigit, hfirst]
  refine Char.toNat_inj.1 ?_
  dsimp only
  rw [Nat.toNat_digitChar_of_lt_ten (by omega)]
  omega

/-- A text of digits, points and a sign is not changed by the normalization. -/
theorem normalize_eq {text : List Char}
    (h : ∀ c ∈ text, c.isDigit = true ∨ c = '.' ∨ c = '-') :
    (text.filter (· ≠ '_')).map asciiDigit = text := by
  have hfilter : text.filter (· ≠ '_') = text := by
    rw [List.filter_eq_self]
    intro c hc
    rcases h c hc with hd | rfl | rfl
    · refine decide_eq_true fun he => ?_
      rw [he] at hd
      exact absurd hd (by decide)
    · decide
    · decide
  rw [hfilter]
  refine (List.map_congr_left fun c hc => ?_).trans (List.map_id text)
  rcases h c hc with hd | rfl | rfl
  · exact asciiDigit_of_isDigit hd
  · decide
  · decide

section Plain

variable {x : Finite}

theorem digits_padded : ∀ c ∈ x.padded, c.isDigit = true := by
  intro c hc
  rcases List.mem_append.1 hc with hc | hc
  · rw [List.eq_of_mem_replicate hc]
    rfl
  · exact Nat.isDigit_of_mem_toDigits (by decide) (by decide) hc

theorem ofDigitChars_padded : Nat.ofDigitChars 10 x.padded 0 = x.coefficient := by
  rw [Finite.padded, Nat.ofDigitChars_append, Nat.ofDigitChars_replicate_zero, Nat.mul_zero,
    Nat.ofDigitChars_ten_toDigits]

theorem length_padded : (-x.exponent).toNat < x.padded.length := by
  rw [Finite.padded, List.length_append, List.length_replicate, ← digitCount]
  omega

theorem takeWhile_digits {digits : List Char} (rest : List Char)
    (h : ∀ c ∈ digits, c.isDigit = true)
    (hrest : rest.takeWhile Char.isDigit = []) :
    (digits ++ rest).takeWhile Char.isDigit = digits ∧
      (digits ++ rest).dropWhile Char.isDigit = rest := by
  have htake : (digits ++ rest).takeWhile Char.isDigit = digits ++ rest.takeWhile Char.isDigit :=
    List.takeWhile_append_of_pos h
  have hdrop : (digits ++ rest).dropWhile Char.isDigit = rest.dropWhile Char.isDigit :=
    List.dropWhile_append_of_pos h
  have hsplit : rest.dropWhile Char.isDigit = rest := by
    have := List.takeWhile_append_dropWhile (p := Char.isDigit) (l := rest)
    rwa [hrest, List.nil_append] at this
  rw [htake, hdrop, hrest, List.append_nil]
  exact ⟨rfl, hsplit⟩

theorem parseFinite_of_fraction {negative : Bool} {digits fraction : List Char}
    (hd : ∀ c ∈ digits, c.isDigit = true) (hne : digits ≠ [])
    (hf : ∀ c ∈ fraction, c.isDigit = true) :
    parseFinite negative (digits ++ '.' :: fraction) =
      let x : Finite := ⟨negative, Nat.ofDigitChars 10 (digits ++ fraction) 0, -fraction.length⟩
      if x.Fits .largest then some (.finite x) else none := by
  obtain ⟨htake, hdrop⟩ := takeWhile_digits ('.' :: fraction) hd rfl
  obtain ⟨hftake, hfdrop⟩ := takeWhile_digits [] hf rfl
  rw [List.append_nil] at hftake hfdrop
  unfold parseFinite
  rw [htake, hdrop, parseFraction, hftake, hfdrop, if_neg (by simp [hne])]
  simp only [Option.bind_some, zero_sub]

theorem parseFinite_of_digits {negative : Bool} {digits : List Char}
    (hd : ∀ c ∈ digits, c.isDigit = true) (hne : digits ≠ []) :
    parseFinite negative digits =
      let x : Finite := ⟨negative, Nat.ofDigitChars 10 digits 0, 0⟩
      if x.Fits .largest then some (.finite x) else none := by
  obtain ⟨htake, hdrop⟩ := takeWhile_digits [] hd rfl
  rw [List.append_nil] at htake hdrop
  have hfraction : parseFraction [] = ([], []) := rfl
  unfold parseFinite
  rw [htake, hdrop, hfraction, if_neg (by simp [hne])]
  simp

theorem mem_signText {negative : Bool} {c : Char} (h : c ∈ Finite.signText negative) : c = '-' := by
  unfold Finite.signText at h
  split_ifs at h
  · exact List.mem_singleton.1 h
  · cases h

theorem cons_of_digits {digits : List Char} (hd : ∀ c ∈ digits, c.isDigit = true)
    (hlen : 0 < digits.length) (text : List Char) :
    ∃ c rest, c.isDigit = true ∧ digits ++ text = c :: rest := by
  cases digits with
  | nil => simp at hlen
  | cons c digits => exact ⟨c, digits ++ text, hd c (List.mem_cons_self), rfl⟩

theorem parseSigned_of_digit {negative : Bool} {c : Char} {rest : List Char}
    (hc : c.isDigit = true) :
    parseSigned (Finite.signText negative ++ c :: rest) = parseUnsigned negative (c :: rest) := by
  cases negative with
  | true => rfl
  | false =>
    have hminus : c ≠ '-' := by
      rintro rfl
      exact absurd hc (by decide)
    have hplus : c ≠ '+' := by
      rintro rfl
      exact absurd hc (by decide)
    simp [Finite.signText, parseSigned, hminus, hplus]

theorem mem_plain {c : Char} (h : c ∈ x.plain) : c.isDigit = true ∨ c = '.' ∨ c = '-' := by
  unfold Finite.plain at h
  dsimp only at h
  rcases List.mem_append.1 h with hc | hc
  · exact .inr (.inr (mem_signText hc))
  · split_ifs at hc
    · exact .inl (digits_padded c hc)
    · rcases List.mem_append.1 hc with hc | hc
      · exact .inl (digits_padded c (List.mem_of_mem_take hc))
      · rcases List.mem_cons.1 hc with rfl | hc
        · exact .inr (.inl rfl)
        · exact .inl (digits_padded c (List.mem_of_mem_drop hc))

/-- The text without an exponent is read back, if the exponent is not positive. -/
theorem parse_plain (hx : x.exponent ≤ 0) (hfits : x.Fits .largest) :
    parse x.plain = some (.finite x) := by
  have hpadded := digits_padded (x := x)
  have hlen := length_padded (x := x)
  set point := x.padded.length - (-x.exponent).toNat with hpoint
  -- the text after the sign
  set body := if (-x.exponent).toNat = 0 then x.padded
    else x.padded.take point ++ '.' :: x.padded.drop point with hbody
  have htake : ∀ c ∈ x.padded.take point, c.isDigit = true := fun c hc =>
    hpadded c (List.mem_of_mem_take hc)
  have hdrop : ∀ c ∈ x.padded.drop point, c.isDigit = true := fun c hc =>
    hpadded c (List.mem_of_mem_drop hc)
  have hparse : parseFinite x.negative body = some (.finite x) := by
    rw [hbody]
    split_ifs with hzero
    · rw [parseFinite_of_digits hpadded (List.ne_nil_of_length_pos (by omega)), ofDigitChars_padded]
      have he : x.exponent = 0 := by omega
      have hx' : (⟨x.negative, x.coefficient, 0⟩ : Finite) = x := by rw [← he]
      rw [hx']
      exact if_pos hfits
    · rw [parseFinite_of_fraction htake (List.ne_nil_of_length_pos (by simp; omega)) hdrop,
        List.take_append_drop, ofDigitChars_padded]
      have he : -((x.padded.drop point).length : ℤ) = x.exponent := by
        rw [List.length_drop]
        omega
      have hx' : (⟨x.negative, x.coefficient, -((x.padded.drop point).length : ℤ)⟩ : Finite) = x := by
        rw [he]
      rw [hx']
      exact if_pos hfits
  have hplain : x.plain = Finite.signText x.negative ++ body := rfl
  have hnormal : ((x.plain).filter (· ≠ '_')).map asciiDigit = x.plain :=
    normalize_eq fun c hc => mem_plain hc
  obtain ⟨c, rest, hc, hbodyc⟩ : ∃ c rest, c.isDigit = true ∧ body = c :: rest := by
    rw [hbody]
    split_ifs
    · rw [← List.append_nil x.padded]
      exact cons_of_digits hpadded (by omega) []
    · exact cons_of_digits htake (by simp; omega) _
  rw [parse, hnormal, hplain, hbodyc, parseSigned_of_digit hc, parseUnsigned, ← hbodyc, hparse]
  rfl

end Plain

end Decimal
