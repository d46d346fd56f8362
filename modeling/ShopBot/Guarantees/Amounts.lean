import Mathlib.Data.List.TakeWhile
import ShopBot.Domain.Amounts

/-! # Amounts there and back

An amount in minor units survives the request to the provider and its webhook, and the
conversion to major units and back. A text of a webhook is read exactly as long as the
product with one hundred does not overflow and its rounding to the precision of the context
neither loses nor invents an integer.
-/

namespace ShopBot

open Decimal

variable {x : Number} {y z : Finite} {text : String} {n : ℕ}

/-! ## Exact products -/

/-- One hundred times the number, before it is rounded. -/
def hundredfold (y : Finite) : Finite := ⟨y.negative, y.coefficient * 100, y.exponent⟩

theorem hundredfold_toRat : (hundredfold y).toRat = 100 * y.toRat := by
  have hsign : (hundredfold y).sign = y.sign := rfl
  have hmagnitude : (hundredfold y).magnitude = 100 * y.magnitude := by
    simp only [hundredfold, Finite.magnitude]
    push_cast
    ring
  rw [Finite.toRat, Finite.toRat, hsign, hmagnitude]
  ring

theorem mul_hundred : (Number.finite y).mul .default (.finite (.ofInt 100)) =
    ((hundredfold y).fix .default).map .finite := by
  have hsign : (y.negative ^^ (Finite.ofInt 100).negative) = y.negative := Bool.xor_false _
  have hexp : y.exponent + (Finite.ofInt 100).exponent = y.exponent := Int.add_zero _
  rw [Number.mul, hsign, hexp]
  rfl

/-- The value of the amount, if it is an integer. -/
theorem integralAmount_finite (z : Finite) :
    (∃ n : ℤ, z.toRat = n ∧ YooKassaAdapter.integralAmount (.finite z) = .ok (some n)) ∨
      (∀ n : ℤ, z.toRat ≠ n) ∧ YooKassaAdapter.integralAmount (.finite z) = .ok none := by
  have hunfold : YooKassaAdapter.integralAmount (.finite z) =
      if !z.sameValue z.integral then .ok none
      else (Number.finite z.integral).toInt.map some := by
    rfl
  rw [hunfold]
  rcases z.integral_spec with ⟨n, hn, hsame, hint⟩ | ⟨hn, hsame⟩
  · refine .inl ⟨n, hn, ?_⟩
    rw [hsame, hint]
    rfl
  · refine .inr ⟨hn, ?_⟩
    rw [hsame]
    rfl

theorem toRat_of_zero (h : z.coefficient = 0) : z.toRat = 0 := by
  rw [Finite.toRat, Finite.magnitude, h, Nat.cast_zero, zero_mul, mul_zero]

theorem limit_pos : 0 < Finite.limit .default :=
  mul_pos (by norm_num [Context.default]) (Finite.ten_zpow_pos _)

/-! ## Amounts of webhooks -/

/-- The amount in minor units, if it is an integer. -/
def HasMinor (x : Number) (n : ℤ) : Prop := ∃ y : Finite, x = .finite y ∧ 100 * y.toRat = n

/-- An integral amount is read exactly, and any other is refused as a part of the payload. -/
def ReadsExactly (text : String) (x : Number) : Prop :=
  (∀ n : ℤ, YooKassaAdapter.moneyToMinor (some text) = .ok (some n) ↔ HasMinor x n) ∧
    ((∀ n : ℤ, ¬ HasMinor x n) → ∃ message,
      YooKassaAdapter.moneyToMinor (some text) = .error (.webhookPayload message))

/-- The last place of one hundred times the number in the default context. -/
def minorPlace (y : Finite) : ℤ := max (digitCount (y.coefficient * 100) + y.exponent - 28) (-1000026)

/-- One hundred times the number does not overflow, and it is a multiple of its last place or
further than half a unit of this place from every integer. -/
def RoundsHarmlessly : Number → Prop
  | .nan _ _ _ => True
  | .infinity _ => False
  | .finite y => |100 * y.toRat| < Finite.limit .default ∧
      ((∃ m : ℤ, 100 * y.toRat = m * 10 ^ minorPlace y) ∨
        ∀ n : ℤ, 10 ^ minorPlace y < 2 * |100 * y.toRat - n|)

theorem decimalOf_empty : decimalOf "" = .error .invalidOperation := by decide

/-- How a text is read that the decimal module accepts. -/
theorem moneyToMinor_eq (h : decimalOf text = .ok x) :
    YooKassaAdapter.moneyToMinor (some text) =
      match x.mul .default (.finite (.ofInt 100)) with
      | .error .invalidOperation => .error (.webhookPayload "YooKassa amount is invalid")
      | .error (.valueError _) => .error (.webhookPayload "YooKassa amount is invalid")
      | .error e => .error (.other e)
      | .ok amount =>
        match YooKassaAdapter.integralAmount amount with
        | .error e => .error (.other e)
        | .ok none => .error (.webhookPayload "YooKassa amount has unsupported precision")
        | .ok (some n) => .ok (some n) := by
  have hne : text ≠ "" := by
    rintro rfl
    rw [decimalOf_empty] at h
    cases h
  unfold YooKassaAdapter.moneyToMinor
  dsimp only
  rw [if_neg hne, h]
  rfl

theorem not_readsExactly_of_other {e : Exception}
    (h : YooKassaAdapter.moneyToMinor (some text) = .error (.other e)) :
    ¬ ReadsExactly text x := by
  rintro ⟨hiff, hrefused⟩
  by_cases hn : ∃ n : ℤ, HasMinor x n
  · obtain ⟨n, hn⟩ := hn
    rw [(hiff n).2 hn] at h
    cases h
  · obtain ⟨message, hm⟩ := hrefused fun n hx => hn ⟨n, hx⟩
    rw [hm] at h
    cases h

theorem readsExactly_of_refused (hx : ∀ n : ℤ, ¬ HasMinor x n) (message : String)
    (h : YooKassaAdapter.moneyToMinor (some text) = .error (.webhookPayload message)) :
    ReadsExactly text x := by
  refine ⟨fun n => ⟨fun hn => ?_, fun hn => absurd hn (hx n)⟩, fun _ => ⟨message, h⟩⟩
  rw [h] at hn
  cases hn

theorem not_hasMinor_of_special (h : ∀ y, x ≠ .finite y) (n : ℤ) : ¬ HasMinor x n := by
  rintro ⟨y, hy, -⟩
  exact h y hy

theorem hasMinor_finite {n : ℤ} : HasMinor (.finite y) n ↔ 100 * y.toRat = n := by
  constructor
  · rintro ⟨y', hy, hn⟩
    cases hy
    exact hn
  · exact fun hn => ⟨y, rfl, hn⟩

/-- A finite product is read exactly if it is an integer where the exact product is one. -/
theorem readsExactly_finite (h : decimalOf text = .ok (.finite y))
    (hz : (hundredfold y).fix .default = .ok z) :
    ReadsExactly text (.finite y) ↔ ∀ n : ℤ, z.toRat = n ↔ 100 * y.toRat = n := by
  have heq := moneyToMinor_eq h
  rw [mul_hundred, hz] at heq
  rcases integralAmount_finite z with ⟨m, hm, hint⟩ | ⟨hm, hint⟩
  · have hread : YooKassaAdapter.moneyToMinor (some text) = .ok (some m) := by
      rw [heq]
      dsimp only [Except.map]
      rw [hint]
    constructor
    · rintro ⟨hiff, -⟩ n
      rw [← hasMinor_finite, ← hiff n, hread, hm, Except.ok.injEq, Option.some.injEq, Int.cast_inj]
    · intro hiff
      refine ⟨fun n => ?_, fun hnone => absurd (hasMinor_finite.2 ((hiff m).1 hm)) (hnone m)⟩
      rw [hasMinor_finite, ← hiff n, hread, hm, Except.ok.injEq, Option.some.injEq, Int.cast_inj]
  · have hread : YooKassaAdapter.moneyToMinor (some text) =
        .error (.webhookPayload "YooKassa amount has unsupported precision") := by
      rw [heq]
      dsimp only [Except.map]
      rw [hint]
    constructor
    · rintro ⟨hiff, -⟩ n
      refine ⟨fun hn => absurd hn (hm n), fun hn => ?_⟩
      have := (hiff n).2 (hasMinor_finite.2 hn)
      rw [hread] at this
      cases this
    · refine fun hiff => readsExactly_of_refused (fun n hn => ?_) _ hread
      exact hm n ((hiff n).2 (hasMinor_finite.1 hn))

theorem readsExactly_iff_finite (h : decimalOf text = .ok (.finite y)) :
    ReadsExactly text (.finite y) ↔ RoundsHarmlessly (.finite y) := by
  have hplace : (hundredfold y).place .default = minorPlace y := rfl
  have habs : |100 * y.toRat| = (hundredfold y).magnitude := by
    rw [← hundredfold_toRat, Finite.abs_toRat]
  by_cases hc : (hundredfold y).coefficient = 0
  · have hzero : y.toRat = 0 := by
      have := toRat_of_zero hc
      rw [hundredfold_toRat] at this
      linarith
    have hz : (hundredfold y).fix .default = .ok _ := if_pos hc
    rw [readsExactly_finite h hz]
    refine iff_of_true (fun n => ?_) ⟨?_, .inl ⟨0, ?_⟩⟩
    · rw [toRat_of_zero (by exact hc), hzero, mul_zero]
    · rw [hzero, mul_zero, abs_zero]
      exact limit_pos
    · rw [hzero, mul_zero, Int.cast_zero, zero_mul]
  · rcases @Finite.fix_spec .default (hundredfold y) hc with ⟨hover, hle⟩ | ⟨hlt, z, q, hz, hround⟩
    · refine iff_of_false (not_readsExactly_of_other (e := .overflow) ?_) fun hharmless => ?_
      · rw [moneyToMinor_eq h, mul_hundred, hover]
        rfl
      · exact absurd (habs ▸ hharmless.1) (not_lt.2 hle)
    · have hiff := hround.integers_iff
      rw [hundredfold_toRat, hplace] at hiff
      rw [readsExactly_finite h hz, hiff, RoundsHarmlessly, habs]
      exact (and_iff_right hlt).symm

/-- A webhook amount is read exactly, or refused as it should be, exactly if its rounding is
harmless. -/
theorem readsExactly_iff (h : decimalOf text = .ok x) :
    ReadsExactly text x ↔ RoundsHarmlessly x := by
  cases x with
  | finite y => exact readsExactly_iff_finite h
  | infinity negative =>
    refine iff_of_false (not_readsExactly_of_other (e := .overflowError
      "cannot convert Infinity to integer") ?_) fun hf => hf
    rw [moneyToMinor_eq h]
    cases negative <;> rfl
  | nan signaling negative payload =>
    refine iff_of_true ?_ trivial
    have hx := not_hasMinor_of_special (x := .nan signaling negative payload) fun y => by simp
    cases signaling with
    | false =>
      refine readsExactly_of_refused hx "YooKassa amount has unsupported precision" ?_
      rw [moneyToMinor_eq h]
      rfl
    | true =>
      refine readsExactly_of_refused hx "YooKassa amount is invalid" ?_
      rw [moneyToMinor_eq h]
      rfl

/-! ## Amounts there and back -/

theorem stripText_eq {chars : List Char} (h : ∀ c ∈ chars, isSpace c = false) :
    (stripText (.ofList chars)).toList = chars := by
  have hdrop : ∀ cs : List Char, (∀ c ∈ cs, isSpace c = false) → cs.dropWhile isSpace = cs := by
    intro cs hcs
    refine List.dropWhile_eq_self_iff.2 fun hl => ?_
    rw [hcs _ (List.getElem_mem hl)]
    simp
  rw [stripText, String.toList_ofList, String.toList_ofList, hdrop chars h,
    hdrop chars.reverse fun c hc => h c (List.mem_reverse.1 hc), List.reverse_reverse]

/-- The number of major units, with its two places. -/
def majorUnits (n : ℕ) : Finite := ⟨false, n, -2⟩

theorem isSpace_of_isDigit {c : Char} (h : c.isDigit = true) : isSpace c = false := by
  obtain ⟨hle, hge⟩ : 48 ≤ c.toNat ∧ c.toNat ≤ 57 := Char.isDigit_iff_toNat.1 h
  simp only [isSpace, List.mem_cons, List.not_mem_nil, or_false, Bool.or_eq_false_iff,
    decide_eq_false_iff_not, Bool.and_eq_false_iff]
  omega

theorem decimalOf_majorUnits (hn : digitCount n ≤ 26) :
    decimalOf (.ofList (majorUnits n).plain) = .ok (.finite (majorUnits n)) := by
  have hplain : ∀ c ∈ (majorUnits n).plain, isSpace c = false := by
    intro c hc
    rcases mem_plain hc with hd | rfl | rfl
    · exact isSpace_of_isDigit hd
    · decide
    · decide
  have hfits : (majorUnits n).Fits .largest := by
    have hpos := digitCount_pos n
    refine ⟨?_, ?_, ?_⟩
    · simp only [majorUnits, Context.largest]
      omega
    · simp only [majorUnits, Context.largest, Context.etiny]
      omega
    · simp only [majorUnits, Context.largest, Finite.adjusted]
      omega
  have hexponent : (majorUnits n).exponent ≤ 0 := by
    simp only [majorUnits]
    omega
  rw [decimalOf, stripText_eq hplain, parse_plain hexponent hfits]

/-- The quotient by one hundred has at most two places. -/
theorem truediv_hundred (hn : n ≠ 0) (hd : digitCount n ≤ 26) :
    ∃ c j : ℕ, (Finite.ofInt n).truediv .default (.ofInt 100) = .ok ⟨false, c, j - 2⟩ ∧
      j ≤ 2 ∧ c * 10 ^ j = n := by
  have hcoefficient : (Finite.ofInt n).coefficient = n := Int.natAbs_natCast n
  have hnegative : (Finite.ofInt n).negative = false := by
    simp [Finite.ofInt]
  have hpos := digitCount_pos n
  obtain ⟨S, hS⟩ : ∃ S : ℕ, (digitCount (Finite.ofInt 100).coefficient : ℤ) -
      digitCount (Finite.ofInt n).coefficient + Context.default.prec + 1 = (S + 2 : ℕ) := by
    have h100 : digitCount (Finite.ofInt 100).coefficient = 3 := by decide
    refine ⟨30 - digitCount n, ?_⟩
    rw [h100, hcoefficient]
    simp only [Context.default]
    omega
  have hquotient : (Finite.ofInt n).truediv .default (.ofInt 100) =
      (Finite.strip 0 false (S + 2) (n * 10 ^ S) (-(S + 2 : ℕ))).fix .default := by
    have hshift : (-((S + 2 : ℕ) : ℤ)).toNat = 0 := by omega
    have hdividend : n * 10 ^ (S + 2) = n * 10 ^ S * 100 := by ring
    have hhundred : (Finite.ofInt 100).coefficient = 100 := rfl
    unfold Finite.truediv
    dsimp only
    rw [hS, hcoefficient, hnegative, hhundred, hshift, Int.toNat_natCast, hdividend, pow_zero,
      mul_one, Nat.mul_mod_left, Nat.mul_div_cancel _ (by decide), if_neg (by decide), if_neg hn,
      if_pos rfl]
    rfl
  obtain ⟨hrat, hsign, -, hle, hlast⟩ :=
    @Finite.strip_spec 0 false (S + 2) (n * 10 ^ S) (-(S + 2 : ℕ)) (by omega)
  set r := Finite.strip 0 false (S + 2) (n * 10 ^ S) (-(S + 2 : ℕ)) with hr
  have hvalue : (r.coefficient : ℚ) * 10 ^ r.exponent = n * 10 ^ (-2 : ℤ) := by
    have hpow : (10 : ℚ) ^ (-2 : ℤ) = (10 ^ S : ℕ) * 10 ^ (-((S + 2 : ℕ) : ℤ)) := by
      rw [Nat.cast_pow, Nat.cast_ofNat, ← zpow_natCast, ← Finite.ten_zpow_add]
      congr 1
      push_cast
      ring
    simp only [Finite.toRat, Finite.sign, Finite.magnitude, hsign, Bool.false_eq_true, if_false,
      one_mul] at hrat
    rw [hrat, hpow]
    push_cast
    ring
  have hplaces : -2 ≤ r.exponent := by
    by_contra hlt
    have hc : r.coefficient = n * 10 ^ (-2 - r.exponent).toNat := by
      rw [Finite.ten_zpow_split (not_le.1 hlt).le, ← mul_assoc] at hvalue
      exact_mod_cast mul_right_cancel₀ (Finite.ten_zpow_pos _).ne' hvalue
    rcases hlast with h0 | hmod
    · omega
    · exact hmod (Nat.mod_eq_zero_of_dvd (hc ▸ dvd_mul_of_dvd_right (dvd_pow_self 10 (by omega)) n))
  have hc : r.coefficient * 10 ^ (r.exponent + 2).toNat = n := by
    rw [Finite.ten_zpow_split hplaces, ← mul_assoc] at hvalue
    have hcast := mul_right_cancel₀ (Finite.ten_zpow_pos _).ne' hvalue
    rw [sub_neg_eq_add] at hcast
    exact_mod_cast hcast
  refine ⟨r.coefficient, (r.exponent + 2).toNat, ?_, by omega, hc⟩
  have hexact : r = ⟨false, r.coefficient, ((r.exponent + 2).toNat : ℤ) - 2⟩ := by
    have he : ((r.exponent + 2).toNat : ℤ) - 2 = r.exponent := by omega
    rw [he, ← hsign]
  have hsmall : digitCount r.coefficient ≤ 26 := by
    rw [digitCount_le_iff (by decide)] at hd ⊢
    refine lt_of_le_of_lt ?_ hd
    calc r.coefficient ≤ r.coefficient * 10 ^ (r.exponent + 2).toNat :=
          Nat.le_mul_of_pos_right _ (Nat.pow_pos (by decide))
      _ = n := hc
  rw [hquotient, ← hexact]
  refine Finite.fix_of_fits ?_ ?_ ?_
  · simp only [Context.default]
    omega
  · simp only [Context.default, Context.etiny]
    omega
  · simp only [Context.default, Context.etop]
    omega

theorem rescale_quotient {c j : ℕ} (hc : c * 10 ^ j = n) (rounding : Rounding) :
    Finite.rescale rounding (-2) ⟨false, c, (j : ℤ) - 2⟩ = majorUnits n := by
  have hle : (-2 : ℤ) ≤ j - 2 := by omega
  have hplaces : ((j : ℤ) - 2 - -2).toNat = j := by omega
  simp only [Finite.rescale, if_pos hle, hplaces, hc, majorUnits]

/-- The product with one hundred is exact for amounts of so many digits. -/
theorem fix_hundredfold (hd : digitCount n ≤ 26) :
    (hundredfold (majorUnits n)).fix .default = .ok (hundredfold (majorUnits n)) := by
  have hdigits : digitCount (n * 100) ≤ 28 := by
    rw [digitCount_le_iff (by decide)] at hd ⊢
    omega
  refine Finite.fix_of_fits ?_ ?_ ?_
  · exact hdigits
  · simp only [hundredfold, majorUnits, Context.default, Context.etiny]
    omega
  · simp only [hundredfold, majorUnits, Context.default, Context.etop]
    omega

theorem quantize_quotient {c j : ℕ} (hc : c * 10 ^ j = n) (hn : n ≠ 0) (hd : digitCount n ≤ 26)
    (hj : j ≤ 2) (rounding : Rounding) :
    Number.quantize .default rounding (-2) (.finite ⟨false, c, (j : ℤ) - 2⟩) =
      .ok (.finite (majorUnits n)) := by
  have hzero : c ≠ 0 := by
    rintro rfl
    exact hn (hc ▸ Nat.zero_mul _)
  have hpos := digitCount_pos n
  have hsmall : digitCount c ≤ 26 := by
    rw [digitCount_le_iff (by decide)] at hd ⊢
    calc c ≤ c * 10 ^ j := Nat.le_mul_of_pos_right _ (Nat.pow_pos (by decide))
      _ = n := hc
      _ < 10 ^ 26 := hd
  have hrange : ¬ ((-2 : ℤ) < Context.default.etiny ∨ Context.default.emax < -2) := by decide
  have hadjusted : ¬ (Context.default.emax < Finite.adjusted ⟨false, c, (j : ℤ) - 2⟩ ∨
      (Context.default.prec : ℤ) < Finite.adjusted ⟨false, c, (j : ℤ) - 2⟩ - -2 + 1) := by
    simp only [Context.default, Finite.adjusted]
    omega
  have hrounded : ¬ (Context.default.emax < (majorUnits n).adjusted ∨
      Context.default.prec < digitCount (majorUnits n).coefficient) := by
    simp only [Context.default, Finite.adjusted, majorUnits]
    omega
  have hfix : (majorUnits n).fix .default = .ok (majorUnits n) := by
    refine Finite.fix_of_fits ?_ ?_ ?_
    · simp only [majorUnits, Context.default]
      omega
    · simp only [majorUnits, Context.default, Context.etiny]
      omega
    · simp only [majorUnits, Context.default, Context.etop]
      omega
  unfold Number.quantize
  dsimp only
  rw [if_neg hrange, if_neg hzero, if_neg hadjusted, rescale_quotient hc, if_neg hrounded, hfix]
  rfl

/-- The amount of a request is read back from a webhook. -/
theorem moneyToMinor_amountValue (hn : n ≠ 0) (hd : digitCount n ≤ 26) :
    ∃ text, YooKassaAdapter.amountValue n = .ok text ∧
      YooKassaAdapter.moneyToMinor (some text) = .ok (some (n : ℤ)) := by
  obtain ⟨c, j, hdiv, -, hc⟩ := truediv_hundred hn hd
  refine ⟨.ofList (majorUnits n).plain, ?_, ?_⟩
  · rw [YooKassaAdapter.amountValue, hdiv, ← rescale_quotient hc .halfEven]
    rfl
  · have hexact : ReadsExactly (.ofList (majorUnits n).plain) (.finite (majorUnits n)) :=
      (readsExactly_finite (decimalOf_majorUnits hd) (fix_hundredfold hd)).2 fun m => by
        rw [hundredfold_toRat]
    refine (hexact.1 n).2 (hasMinor_finite.2 ?_)
    simp only [majorUnits, Finite.toRat, Finite.sign, Finite.magnitude]
    norm_num
    ring

theorem fromMajor_major (m : Money) (hn : m.minor ≠ 0) (hd : digitCount m.minor ≤ 26) :
    ∃ x, m.major = .ok x ∧ Money.fromMajor (.ofList x.str) m.currency = .ok m := by
  obtain ⟨c, j, hdiv, hj, hc⟩ := truediv_hundred hn hd
  refine ⟨.finite (majorUnits m.minor), ?_, ?_⟩
  · rw [Money.major, hdiv]
    exact quantize_quotient hc hn hd hj .halfEven
  · have hstr : (Number.finite (majorUnits m.minor)).str = (majorUnits m.minor).plain := by
      have hpos := digitCount_pos m.minor
      refine if_pos ⟨?_, ?_⟩
      · simp only [majorUnits]
        omega
      · simp only [majorUnits]
        omega
    have hquantize : Number.quantize .default .halfUp (-2) (.finite (majorUnits m.minor)) =
        .ok (.finite (majorUnits m.minor)) :=
      quantize_quotient (j := 0) (Nat.mul_one m.minor) hn hd (by decide) .halfUp
    have hint : (Number.finite (hundredfold (majorUnits m.minor))).toInt = .ok m.minor := by
      have hdiv : m.minor * 100 / 10 ^ 2 = m.minor := Nat.mul_div_cancel _ (by decide)
      have htwo : (-(-2 : ℤ)).toNat = 2 := rfl
      simp only [Number.toInt, hundredfold, majorUnits, htwo, hdiv]
      rfl
    have hminor : (do
        let x ← decimalOf (.ofList (Number.finite (majorUnits m.minor)).str)
        let x ← x.quantize .default .halfUp (-2)
        let x ← x.mul .default (.finite (.ofInt 100))
        x.toInt) = .ok (m.minor : ℤ) := by
      simp only [hstr, decimalOf_majorUnits hd, hquantize, mul_hundred, fix_hundredfold hd,
        bind, Except.bind, Except.map, hint]
    rw [Money.fromMajor, hminor]
    dsimp only
    rw [if_neg (by omega), Int.toNat_natCast]

theorem digitCount_of_int64 (h : n < 2 ^ 63) : digitCount n ≤ 26 :=
  (digitCount_le_iff (by decide)).2 (h.trans (by decide))

/-- Positive amounts of 64 bits survive the provider and the major units, and a text that the
decimal module accepts is read exactly, or refused as it should be, exactly if the rounding of
one hundred times its number is harmless. -/
theorem amounts_read_exactly_iff (n : ℤ) (hn : 0 < n) (hn64 : n < 2 ^ 63) (m : Money)
    (hm : 0 < m.minor) (hm64 : m.minor < 2 ^ 63) (text : String) (x : Number)
    (hx : decimalOf text = .ok x) :
    (∃ value, YooKassaAdapter.amountValue n = .ok value ∧
      YooKassaAdapter.moneyToMinor (some value) = .ok (some n)) ∧
    (∃ major, m.major = .ok major ∧
      Money.fromMajor (.ofList major.str) m.currency = .ok m) ∧
    (ReadsExactly text x ↔ RoundsHarmlessly x) := by
  refine ⟨?_, fromMajor_major m hm.ne' (digitCount_of_int64 hm64), readsExactly_iff hx⟩
  lift n to ℕ using hn.le
  exact moneyToMinor_amountValue (by omega) (digitCount_of_int64 (by omega))

theorem amounts_read_exactly_iff_price :
    (∃ value, YooKassaAdapter.amountValue 29900 = .ok value ∧
      YooKassaAdapter.moneyToMinor (some value) = .ok (some 29900)) ∧
    (∃ major, Money.major ⟨29900, ⟨"RUB"⟩⟩ = .ok major ∧
      Money.fromMajor (.ofList major.str) ⟨"RUB"⟩ = .ok ⟨29900, ⟨"RUB"⟩⟩) ∧
    (ReadsExactly "299.00" (.finite ⟨false, 29900, -2⟩) ↔
      RoundsHarmlessly (.finite ⟨false, 29900, -2⟩)) :=
  amounts_read_exactly_iff 29900 (by decide) (by decide) ⟨29900, ⟨"RUB"⟩⟩ (by decide)
    (by decide) "299.00" _ (by decide +kernel)

/-- An infinite amount raises an exception of `int`, and a long one loses its last digit. -/
theorem infinity_not_refused :
    (∃ x, decimalOf "Infinity" = .ok x ∧
      YooKassaAdapter.moneyToMinor (some "Infinity") =
        .error (.other (.overflowError "cannot convert Infinity to integer")) ∧
      ¬ ReadsExactly "Infinity" x) ∧
    decimalOf "12345678901234567890123456789" =
      .ok (.finite ⟨false, 12345678901234567890123456789, 0⟩) ∧
    YooKassaAdapter.moneyToMinor (some "12345678901234567890123456789") =
      .ok (some 1234567890123456789012345679000) := by
  have hread : YooKassaAdapter.moneyToMinor (some "Infinity") =
      .error (.other (.overflowError "cannot convert Infinity to integer")) := by decide +kernel
  refine ⟨⟨.infinity false, by decide +kernel, hread, not_readsExactly_of_other hread⟩, ?_, ?_⟩
  · decide +kernel
  · decide +kernel

end ShopBot
