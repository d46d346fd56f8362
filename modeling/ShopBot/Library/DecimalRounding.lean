import ShopBot.Library.Decimal

/-! # Rounding of decimal numbers

A number that does not overflow is rounded to a multiple of the power of ten at its last
place, by half a unit of this place at most, and by exactly half a unit only to an even
multiple. It overflows from half a unit below the first power of ten out of range.
-/

namespace Decimal

section Rounding

variable {rounding : Rounding} {c d : ℕ}

/-- The error is the smaller of the remainder and its complement. -/
theorem Rounding.divide_cases : ∃ r : ℕ, 2 * r ≤ 10 ^ d ∧
    |(rounding.divide c d : ℤ) * 10 ^ d - c| = r ∧
    (2 * r = 10 ^ d → rounding = .halfEven → rounding.divide c d % 2 = 0) := by
  have hdiv : (c : ℤ) = 10 ^ d * (c / 10 ^ d : ℕ) + (c % 10 ^ d : ℕ) := by
    exact_mod_cast (Nat.div_add_mod c (10 ^ d)).symm
  have hlt : c % 10 ^ d < 10 ^ d := Nat.mod_lt c (Nat.pow_pos (by decide))
  by_cases hup : 10 ^ d < 2 * (c % 10 ^ d) ∨
      2 * (c % 10 ^ d) = 10 ^ d ∧ (rounding = .halfUp ∨ c / 10 ^ d % 2 = 1)
  · have hq : rounding.divide c d = c / 10 ^ d + 1 := if_pos hup
    have hcast : ((10 ^ d - c % 10 ^ d : ℕ) : ℤ) = 10 ^ d - (c % 10 ^ d : ℕ) := by
      rw [Nat.cast_sub hlt.le]
      push_cast
      rfl
    refine ⟨10 ^ d - c % 10 ^ d, by omega, ?_, fun htie heven => ?_⟩
    · rw [hq, ← abs_of_nonneg (Int.natCast_nonneg (10 ^ d - c % 10 ^ d)), hcast]
      congr 1
      push_cast at hdiv ⊢
      linarith
    · rw [hq]
      rcases hup with h | ⟨-, h | h⟩
      · omega
      · rw [heven] at h
        cases h
      · omega
  · have hq : rounding.divide c d = c / 10 ^ d := if_neg hup
    rw [not_or, not_and, not_or] at hup
    obtain ⟨hle, htie⟩ := hup
    refine ⟨c % 10 ^ d, by omega, ?_, fun h _ => ?_⟩
    · rw [hq, ← abs_of_nonneg (Int.natCast_nonneg (c % 10 ^ d)), ← abs_neg]
      congr 1
      linarith
    · rw [hq]
      have := (htie h).2
      omega

end Rounding

namespace Finite

variable {ctx : Context} {x y : Finite}

theorem magnitude_nonneg : 0 ≤ x.magnitude := by
  unfold magnitude
  positivity

theorem abs_toRat : |x.toRat| = x.magnitude := by
  unfold toRat sign
  split_ifs
  · rw [neg_one_mul, abs_neg, abs_of_nonneg magnitude_nonneg]
  · rw [one_mul, abs_of_nonneg magnitude_nonneg]

theorem ten_zpow_pos (n : ℤ) : (0 : ℚ) < 10 ^ n := zpow_pos (by norm_num) n

theorem ten_zpow_le {m n : ℤ} (h : m ≤ n) : (10 : ℚ) ^ m ≤ 10 ^ n :=
  zpow_le_zpow_right₀ (by norm_num) h

theorem ten_zpow_add (m n : ℤ) : (10 : ℚ) ^ (m + n) = 10 ^ m * 10 ^ n :=
  zpow_add₀ (by norm_num) m n

/-- A power of ten that is a multiple of another. -/
theorem ten_zpow_split {m n : ℤ} (h : m ≤ n) :
    (10 : ℚ) ^ n = ((10 ^ (n - m).toNat : ℕ) : ℚ) * 10 ^ m := by
  rw [Nat.cast_pow, Nat.cast_ofNat, ← zpow_natCast, Int.toNat_of_nonneg (by omega),
    ← ten_zpow_add]
  congr 1
  omega

/-- The first magnitude that overflows. -/
def limit (ctx : Context) : ℚ := (10 ^ ctx.prec - 1 / 2) * 10 ^ ctx.etop

/-- What rounding makes of the magnitude of a number that does not overflow. -/
structure Rounded (ctx : Context) (x y : Finite) (q : ℕ) : Prop where
  negative : y.negative = x.negative
  multiple : y.magnitude = q * 10 ^ x.place ctx
  near : 2 * |y.magnitude - x.magnitude| ≤ 10 ^ x.place ctx
  even : 2 * |y.magnitude - x.magnitude| = 10 ^ x.place ctx → q % 2 = 0

section Fix

variable (hx : x.coefficient ≠ 0)

theorem place_le_etop (h : digitCount x.coefficient + x.exponent - ctx.prec ≤ ctx.etop) :
    x.place ctx ≤ ctx.etop := max_le h ctx.etiny_le_etop

include hx in
/-- Too many digits before the last place of the context. -/
theorem limit_le_of_digits (h : ctx.etop < digitCount x.coefficient + x.exponent - ctx.prec) :
    limit ctx ≤ x.magnitude := by
  have hpos := digitCount_pos x.coefficient
  have hle : 10 ^ (digitCount x.coefficient - 1) ≤ x.coefficient :=
    pow_le_of_digitCount hx (by omega)
  have hcast : ((10 : ℚ) ^ (digitCount x.coefficient - 1)) ≤ x.coefficient := by
    exact_mod_cast hle
  have hT : (0 : ℚ) < 10 ^ ctx.etop := ten_zpow_pos _
  calc limit ctx ≤ 10 ^ ctx.prec * 10 ^ ctx.etop := by
        unfold limit
        nlinarith
    _ = 10 ^ ((ctx.prec : ℤ) + ctx.etop) := by rw [ten_zpow_add, zpow_natCast]
    _ ≤ 10 ^ (((digitCount x.coefficient - 1 : ℕ) : ℤ) + x.exponent) :=
        ten_zpow_le (by omega)
    _ = 10 ^ (digitCount x.coefficient - 1) * 10 ^ x.exponent := by
        rw [ten_zpow_add, zpow_natCast]
    _ ≤ x.magnitude := by
        unfold magnitude
        exact mul_le_mul_of_nonneg_right hcast (ten_zpow_pos _).le

/-- Multiples of the last place below the limit. -/
theorem lt_limit_of_multiple {m : ℚ} {k : ℤ} (hk : k ≤ ctx.etop)
    (hm : m < (10 ^ ctx.prec - 1 / 2) * 10 ^ k) : m < limit ctx := by
  have hbase : (0 : ℚ) ≤ 10 ^ ctx.prec - 1 / 2 := by
    have : (1 : ℚ) ≤ 10 ^ ctx.prec := one_le_pow₀ (by norm_num)
    linarith
  exact hm.trans_le (mul_le_mul_of_nonneg_left (ten_zpow_le hk) hbase)

/-- A number whose digits all fit is a multiple of the last place below the limit. -/
theorem exact_of_place_le (h : x.place ctx ≤ x.exponent) :
    ∃ q : ℕ, q < 10 ^ ctx.prec ∧ x.magnitude = q * 10 ^ x.place ctx := by
  have hplace : digitCount x.coefficient + x.exponent - ctx.prec ≤ x.place ctx := le_max_left _ _
  refine ⟨x.coefficient * 10 ^ (x.exponent - x.place ctx).toNat, ?_, ?_⟩
  · calc x.coefficient * 10 ^ (x.exponent - x.place ctx).toNat
        < 10 ^ digitCount x.coefficient * 10 ^ (x.exponent - x.place ctx).toNat :=
          Nat.mul_lt_mul_of_pos_right (lt_pow_digitCount _) (Nat.pow_pos (by decide))
      _ = 10 ^ (digitCount x.coefficient + (x.exponent - x.place ctx).toNat) :=
          (Nat.pow_add _ _ _).symm
      _ ≤ 10 ^ ctx.prec := Nat.pow_le_pow_right (by decide) (by omega)
  · rw [magnitude, ten_zpow_split h]
    push_cast
    ring

/-- The multiple of a power of ten that the coefficient is rounded to. -/
theorem divide_near {rounding : Rounding} {k : ℤ} {q : ℕ} (h : x.exponent ≤ k)
    (hq : q = rounding.divide x.coefficient (k - x.exponent).toNat) :
    2 * |(q : ℚ) * 10 ^ k - x.magnitude| ≤ 10 ^ k ∧
      (2 * |(q : ℚ) * 10 ^ k - x.magnitude| = 10 ^ k → rounding = .halfEven → q % 2 = 0) := by
  set d := (k - x.exponent).toNat with hd
  obtain ⟨r, hr, herr, heven⟩ := @Rounding.divide_cases rounding x.coefficient d
  rw [← hq] at herr heven
  have hpos : (0 : ℚ) < 10 ^ x.exponent := ten_zpow_pos _
  have hk : (10 : ℚ) ^ k = ((10 ^ d : ℕ) : ℚ) * 10 ^ x.exponent := ten_zpow_split h
  have hdist : |(q : ℚ) * 10 ^ k - x.magnitude| = r * 10 ^ x.exponent := by
    have hcast : |(q : ℚ) * ((10 ^ d : ℕ) : ℚ) - x.coefficient| = r := by exact_mod_cast herr
    rw [← hcast, hk, magnitude, ← mul_assoc, ← sub_mul, abs_mul, abs_of_pos hpos]
  rw [hdist, hk, ← mul_assoc]
  constructor
  · have hcast : (2 : ℚ) * r ≤ ((10 ^ d : ℕ) : ℚ) := by exact_mod_cast hr
    exact mul_le_mul_of_nonneg_right hcast hpos.le
  · intro htie
    have hcast := mul_right_cancel₀ hpos.ne' htie
    exact heven (by exact_mod_cast hcast)

/-- Rounding gives one digit more at most, and then the next power of ten. -/
theorem divide_le {rounding : Rounding} {c p d : ℕ} (h : c < 10 ^ (p + d)) :
    rounding.divide c d ≤ 10 ^ p := by
  have hquotient : c / 10 ^ d < 10 ^ p := by
    rw [Nat.div_lt_iff_lt_mul (Nat.pow_pos (by decide)), ← Nat.pow_add]
    exact h
  unfold Rounding.divide
  dsimp only
  split_ifs
  · exact hquotient
  · exact hquotient.le

/-- Half a unit above the largest coefficient is even no more. -/
theorem lt_half_of_near {q : ℕ} {m P : ℚ} (hq : q < 10 ^ ctx.prec) (hP : 0 < P)
    (hnear : 2 * |(q : ℚ) * P - m| ≤ P) (heven : 2 * |(q : ℚ) * P - m| = P → q % 2 = 0) :
    m < (10 ^ ctx.prec - 1 / 2) * P := by
  have hcast : (q : ℚ) + 1 ≤ 10 ^ ctx.prec := by exact_mod_cast hq
  have habs := neg_le_abs ((q : ℚ) * P - m)
  have hle : ((q : ℚ) + 1) * P ≤ 10 ^ ctx.prec * P := mul_le_mul_of_nonneg_right hcast hP.le
  rcases hnear.lt_or_eq with hlt | htie
  · linarith
  · -- the largest coefficient is odd
    have hne : q + 1 ≠ 10 ^ ctx.prec := by
      have hpow : 10 ^ ctx.prec % 2 = 0 :=
        Nat.mod_eq_zero_of_dvd (dvd_pow (by decide : 2 ∣ 10) ctx.prec_pos.ne')
      have := heven htie
      omega
    have hlt : q + 1 < 10 ^ ctx.prec := lt_of_le_of_ne hq hne
    have hcast : (q : ℚ) + 1 < 10 ^ ctx.prec := by exact_mod_cast hlt
    have hlt := mul_lt_mul_of_pos_right hcast hP
    linarith

/-- A number whose digits all fit is its own rounding. -/
theorem rounded_self (htop : x.place ctx ≤ ctx.etop) (h : x.place ctx ≤ x.exponent) :
    x.magnitude < limit ctx ∧ ∃ q, Rounded ctx x x q := by
  obtain ⟨q, hq, hm⟩ := exact_of_place_le h
  have hP : (0 : ℚ) < 10 ^ x.place ctx := ten_zpow_pos _
  refine ⟨lt_limit_of_multiple htop ?_, q, rfl, hm, ?_, fun htie => ?_⟩
  · have hcast : (q : ℚ) + 1 ≤ 10 ^ ctx.prec := by exact_mod_cast hq
    rw [hm]
    exact mul_lt_mul_of_pos_right (by linarith) hP
  · rw [sub_self, abs_zero, mul_zero]
    exact hP.le
  · rw [sub_self, abs_zero, mul_zero] at htie
    exact absurd htie hP.ne

/-- A carry out of the first digit drops a zero at the last place. -/
theorem carry_magnitude {negative : Bool} {q : ℕ} {k : ℤ} (hq : q = 10 ^ ctx.prec) :
    magnitude ⟨negative, q / 10, k + 1⟩ = q * 10 ^ k := by
  have hten : q / 10 * 10 = q :=
    Nat.div_mul_cancel (hq ▸ dvd_pow_self 10 ctx.prec_pos.ne')
  have hcast : ((q / 10 : ℕ) : ℚ) * 10 = q := by exact_mod_cast hten
  rw [magnitude, ten_zpow_add, zpow_one, ← hcast]
  ring

theorem limit_le_of_carry {q : ℕ} {m : ℚ} (hq : (q : ℚ) = 10 ^ ctx.prec)
    (hnear : 2 * |(q : ℚ) * 10 ^ ctx.etop - m| ≤ 10 ^ ctx.etop) : limit ctx ≤ m := by
  have habs := le_abs_self ((q : ℚ) * 10 ^ ctx.etop - m)
  rw [limit, sub_mul, ← hq]
  linarith

theorem lt_limit_of_carry {q : ℕ} {m : ℚ} {k : ℤ} (hq : (q : ℚ) = 10 ^ ctx.prec)
    (hk : k + 1 ≤ ctx.etop) (hnear : 2 * |(q : ℚ) * 10 ^ k - m| ≤ 10 ^ k) : m < limit ctx := by
  have hP : (0 : ℚ) < 10 ^ k := ten_zpow_pos _
  have habs := neg_le_abs ((q : ℚ) * 10 ^ k - m)
  have hlarge : (10 : ℚ) * 10 ^ k ≤ q * 10 ^ k := by
    refine mul_le_mul_of_nonneg_right ?_ hP.le
    rw [hq]
    exact le_self_pow₀ (by norm_num) ctx.prec_pos.ne'
  refine lt_limit_of_multiple hk ?_
  rw [ten_zpow_add, zpow_one, ← hq]
  linarith

include hx in
/-- A nonzero number overflows from the limit on, and is rounded below it. -/
theorem fix_spec : x.fix ctx = .error .overflow ∧ limit ctx ≤ x.magnitude ∨
    x.magnitude < limit ctx ∧ ∃ y q, x.fix ctx = .ok y ∧ Rounded ctx x y q := by
  unfold fix
  rw [if_neg hx]
  split_ifs with hdigits hexact
  · exact .inl ⟨rfl, limit_le_of_digits hx hdigits⟩
  · obtain ⟨hlt, q, hself⟩ := rounded_self (place_le_etop (not_lt.1 hdigits)) hexact
    exact .inr ⟨hlt, x, q, rfl, hself⟩
  · have hdigits' : digitCount x.coefficient + x.exponent - ctx.prec ≤ x.place ctx :=
      le_max_left _ _
    set q := Rounding.halfEven.divide x.coefficient (x.place ctx - x.exponent).toNat with hq
    obtain ⟨hnear, heven⟩ := divide_near (not_le.1 hexact).le hq
    replace heven := fun htie => heven htie rfl
    have hle : q ≤ 10 ^ ctx.prec := divide_le ((lt_pow_digitCount _).trans_le
      (Nat.pow_le_pow_right (by decide) (by omega)))
    have htop : x.place ctx ≤ ctx.etop := place_le_etop (not_lt.1 hdigits)
    dsimp only
    by_cases hcarry : ctx.prec < digitCount q
    · have hfull : q = 10 ^ ctx.prec := by
        refine le_antisymm hle ?_
        by_contra hlt
        exact absurd ((digitCount_le_iff ctx.prec_pos).2 (not_le.1 hlt)) (not_le.2 hcarry)
      have hcast : (q : ℚ) = 10 ^ ctx.prec := by exact_mod_cast hfull
      rw [if_pos hcarry]
      split_ifs with htoobig
      · have hplace : x.place ctx = ctx.etop := by
          have : ctx.etop < x.place ctx + 1 := htoobig
          omega
        exact .inl ⟨rfl, limit_le_of_carry hcast (hplace ▸ hnear)⟩
      · have hmagnitude : magnitude ⟨x.negative, q / 10, x.place ctx + 1⟩ =
            q * 10 ^ x.place ctx := carry_magnitude hfull
        refine .inr ⟨lt_limit_of_carry hcast (not_lt.1 htoobig) hnear, _, q, rfl, rfl, hmagnitude,
          ?_, ?_⟩
        · rw [hmagnitude]
          exact hnear
        · rw [hmagnitude]
          exact heven
    · have hlt : q < 10 ^ ctx.prec := (digitCount_le_iff ctx.prec_pos).1 (not_lt.1 hcarry)
      rw [if_neg hcarry, if_neg (not_lt.2 htop)]
      exact .inr ⟨lt_limit_of_multiple htop (lt_half_of_near hlt (ten_zpow_pos _) hnear heven), _,
        q, rfl, rfl, rfl, hnear, heven⟩

omit hx in
theorem fix_of_fits (hdigits : digitCount x.coefficient ≤ ctx.prec)
    (htiny : ctx.etiny ≤ x.exponent) (htop : x.exponent ≤ ctx.etop) :
    x.fix ctx = .ok x := by
  by_cases hx : x.coefficient = 0
  · have hemax : x.exponent ≤ ctx.emax := by
      have := ctx.prec_pos
      unfold Context.etop at htop
      omega
    rw [fix, if_pos hx, max_eq_left htiny, min_eq_left hemax]
  · have hplace : x.place ctx ≤ x.exponent := max_le (by omega) htiny
    rw [fix, if_neg hx, if_neg (by omega), if_pos hplace]

end Fix

/-! ## Integral values -/

theorem toRat_eq_signed : x.toRat = x.signed * 10 ^ x.exponent := by
  unfold toRat sign signed magnitude
  split_ifs
  · push_cast
    ring
  · push_cast
    ring

theorem sameValue_iff : x.sameValue y = true ↔ x.toRat = y.toRat := by
  set m := min x.exponent y.exponent with hm
  have hpos : (0 : ℚ) < 10 ^ m := ten_zpow_pos _
  have hx : x.toRat = ((x.signed * 10 ^ (x.exponent - m).toNat : ℤ) : ℚ) * 10 ^ m := by
    rw [toRat_eq_signed, ten_zpow_split (min_le_left x.exponent y.exponent)]
    push_cast
    ring
  have hy : y.toRat = ((y.signed * 10 ^ (y.exponent - m).toNat : ℤ) : ℚ) * 10 ^ m := by
    rw [toRat_eq_signed, ten_zpow_split (min_le_right x.exponent y.exponent)]
    push_cast
    ring
  rw [hx, hy, mul_left_inj' hpos.ne', Int.cast_inj, sameValue]
  exact decide_eq_true_iff

theorem toRat_sub (h : y.negative = x.negative) :
    |y.toRat - x.toRat| = |y.magnitude - x.magnitude| := by
  have hsign : |x.sign| = 1 := by
    unfold sign
    split_ifs <;> simp
  have hy : y.sign = x.sign := by rw [sign, sign, h]
  rw [toRat, toRat, hy, ← mul_sub, abs_mul, hsign, one_mul]

/-- The value that `to_integral_value` returns. -/
def integral (x : Finite) : Finite := if 0 ≤ x.exponent then x else x.rescale .halfEven 0

theorem integral_toInt (x : Finite) :
    ∃ m : ℤ, (Number.finite x.integral).toInt = .ok m ∧ x.integral.toRat = m := by
  have hexp : 0 ≤ x.integral.exponent := by
    unfold integral
    split_ifs with h
    · exact h
    · exact le_rfl
  have hpow : (10 : ℚ) ^ x.integral.exponent = ((10 ^ x.integral.exponent.toNat : ℕ) : ℚ) := by
    rw [ten_zpow_split hexp, sub_zero, zpow_zero, mul_one]
  refine ⟨_, rfl, ?_⟩
  rw [toRat_eq_signed, hpow, if_pos hexp, signed]
  split_ifs
  · push_cast
    ring
  · push_cast
    ring

theorem integral_near : 2 * |x.integral.toRat - x.toRat| ≤ 1 := by
  unfold integral
  split_ifs with h
  · simp
  · rw [toRat_sub (x := x) (y := x.rescale .halfEven 0) rfl]
    have hlt : ¬ (0 : ℤ) ≤ x.exponent := h
    have hnear := (@divide_near x .halfEven 0 _ (not_le.1 h).le rfl).1
    simpa [rescale, magnitude, hlt] using hnear

/-- A number equals its integral value exactly if it is an integer. -/
theorem integral_spec (x : Finite) :
    (∃ n : ℤ, x.toRat = n ∧ x.sameValue x.integral = true ∧
      (Number.finite x.integral).toInt = .ok n) ∨
    (∀ n : ℤ, x.toRat ≠ n) ∧ x.sameValue x.integral = false := by
  obtain ⟨m, hint, hm⟩ := x.integral_toInt
  by_cases hx : ∃ n : ℤ, x.toRat = n
  · obtain ⟨n, hn⟩ := hx
    have hnear := integral_near (x := x)
    rw [hm, hn] at hnear
    have hcast : 2 * |m - n| ≤ 1 := by exact_mod_cast hnear
    have hmn : m = n := by
      have habs : |m - n| = 0 := by
        have := abs_nonneg (m - n)
        omega
      exact sub_eq_zero.1 (abs_eq_zero.1 habs)
    exact .inl ⟨n, hn, sameValue_iff.2 (by rw [hm, hn, hmn]), hmn ▸ hint⟩
  · refine .inr ⟨fun n hn => hx ⟨n, hn⟩, ?_⟩
    rw [← Bool.not_eq_true, sameValue_iff]
    exact fun he => hx ⟨m, he.trans hm⟩

/-- A rounded value as a multiple of the last place. -/
theorem Rounded.exists_multiple {q : ℕ} (h : Rounded ctx x y q) :
    ∃ a : ℤ, y.toRat = a * 10 ^ x.place ctx ∧ (q % 2 = 0 → a % 2 = 0) := by
  rw [toRat, h.multiple, sign]
  split_ifs
  · exact ⟨-q, by push_cast; ring, fun hq => by omega⟩
  · exact ⟨q, by push_cast; ring, fun hq => by omega⟩

theorem Rounded.toRat_near {q : ℕ} (h : Rounded ctx x y q) :
    2 * |y.toRat - x.toRat| ≤ 10 ^ x.place ctx := by
  rw [toRat_sub h.negative]
  exact h.near

/-- Of two multiples of the last place within half a unit of it, the even one is taken. -/
theorem Rounded.eq_of_near {q : ℕ} {b : ℤ} (h : Rounded ctx x y q) (hb : b % 2 = 0)
    (hnear : 2 * |x.toRat - b * 10 ^ x.place ctx| ≤ 10 ^ x.place ctx) :
    y.toRat = b * 10 ^ x.place ctx := by
  have hP : (0 : ℚ) < 10 ^ x.place ctx := ten_zpow_pos _
  obtain ⟨a, ha, heven⟩ := h.exists_multiple
  have hy := h.toRat_near
  have htri : |y.toRat - b * 10 ^ x.place ctx| ≤
      |y.toRat - x.toRat| + |x.toRat - b * 10 ^ x.place ctx| := abs_sub_le _ _ _
  have hab : |y.toRat - b * 10 ^ x.place ctx| = |((a - b : ℤ) : ℚ)| * 10 ^ x.place ctx := by
    rw [ha, ← sub_mul, abs_mul, abs_of_pos hP, Int.cast_sub]
  have hle : |((a - b : ℤ) : ℚ)| * 10 ^ x.place ctx ≤ 1 * 10 ^ x.place ctx := by
    rw [← hab]
    linarith
  have hcast : |a - b| ≤ 1 := by exact_mod_cast le_of_mul_le_mul_right hle hP
  by_cases heq : a = b
  · rw [ha, heq]
  · -- then both are half a unit away, and they cannot both be even
    have hone : |a - b| = 1 := by
      have := abs_pos.2 (sub_ne_zero.2 heq)
      omega
    have htie : 2 * |y.toRat - x.toRat| = 10 ^ x.place ctx := by
      have hone' : |((a - b : ℤ) : ℚ)| = 1 := by exact_mod_cast hone
      rw [hab, hone'] at htri
      linarith
    rw [toRat_sub h.negative] at htie
    have ha' := heven (h.even htie)
    have := (abs_eq (by decide : (0 : ℤ) ≤ 1)).1 hone
    omega

/-- Rounding neither loses nor invents an integer exactly if the number is a multiple of its
last place, or no integer lies within half a unit of it. -/
theorem Rounded.integers_iff {q : ℕ} (h : Rounded ctx x y q) :
    (∀ n : ℤ, y.toRat = n ↔ x.toRat = n) ↔
      (∃ m : ℤ, x.toRat = m * 10 ^ x.place ctx) ∨
        ∀ n : ℤ, 10 ^ x.place ctx < 2 * |x.toRat - n| := by
  have hP : (0 : ℚ) < 10 ^ x.place ctx := ten_zpow_pos _
  obtain ⟨a, ha, -⟩ := h.exists_multiple
  have hy := h.toRat_near
  constructor
  · intro hiff
    by_contra hneg
    rw [not_or, not_exists, not_forall] at hneg
    obtain ⟨hmultiple, n, hn⟩ := hneg
    rcases le_or_gt 0 (x.place ctx) with hk | hk
    · have hint : y.toRat = ((a * 10 ^ (x.place ctx).toNat : ℤ) : ℚ) := by
        have hpow := ten_zpow_split hk
        rw [sub_zero, zpow_zero, mul_one] at hpow
        rw [ha, hpow]
        push_cast
        rfl
      exact hmultiple a (((hiff _).1 hint).trans (hint.symm.trans ha))
    · have hn' : (n : ℚ) = ((n * 10 ^ (-x.place ctx).toNat : ℤ) : ℚ) * 10 ^ x.place ctx := by
        have hpow := ten_zpow_split hk.le
        rw [zpow_zero, zero_sub] at hpow
        calc (n : ℚ) = n * 1 := (mul_one _).symm
          _ = n * (((10 ^ (-x.place ctx).toNat : ℕ) : ℚ) * 10 ^ x.place ctx) := by rw [← hpow]
          _ = _ := by
            push_cast
            ring
      have heven : n * 10 ^ (-x.place ctx).toNat % 2 = 0 :=
        Int.emod_eq_zero_of_dvd (dvd_mul_of_dvd_right (dvd_pow (by decide : (2 : ℤ) ∣ 10)
          (by omega)) n)
      have hyn : y.toRat = n := by
        rw [hn']
        refine h.eq_of_near heven ?_
        rw [← hn']
        exact not_lt.1 hn
      exact hmultiple _ (((hiff n).1 hyn).trans hn')
  · rintro (⟨m, hm⟩ | hfar)
    · have hzero : |((a - m : ℤ) : ℚ)| * 10 ^ x.place ctx < 1 * 10 ^ x.place ctx := by
        rw [ha, hm, ← sub_mul, abs_mul, abs_of_pos hP, ← Int.cast_sub] at hy
        linarith
      have hcast : |a - m| < 1 := by exact_mod_cast lt_of_mul_lt_mul_right hzero hP.le
      have hxy : y.toRat = x.toRat := by
        rw [ha, hm, sub_eq_zero.1 (Int.abs_lt_one_iff.1 hcast)]
      intro n
      rw [hxy]
    · refine fun n => ⟨fun hn => ?_, fun hn => ?_⟩
      · have := hfar n
        rw [hn, abs_sub_comm] at hy
        linarith
      · have := hfar n
        rw [hn, sub_self, abs_zero, mul_zero] at this
        exact absurd this (not_lt.2 hP.le)

/-! ## Exact results -/

theorem strip_spec {ideal : ℤ} {negative : Bool} {fuel c : ℕ} {e : ℤ} (he : e + fuel = ideal) :
    (strip ideal negative fuel c e).toRat = toRat ⟨negative, c, e⟩ ∧
    (strip ideal negative fuel c e).negative = negative ∧
    e ≤ (strip ideal negative fuel c e).exponent ∧
    (strip ideal negative fuel c e).exponent ≤ ideal ∧
    ((strip ideal negative fuel c e).exponent = ideal ∨
      (strip ideal negative fuel c e).coefficient % 10 ≠ 0) := by
  induction fuel generalizing c e with
  | zero =>
    have heq : e = ideal := by omega
    exact ⟨rfl, rfl, le_rfl, heq.le, .inl heq⟩
  | succ fuel ih =>
    unfold strip
    split_ifs with h
    · obtain ⟨hrat, hneg, hle, hideal, hlast⟩ := ih (c := c / 10) (e := e + 1) (by omega)
      refine ⟨hrat.trans ?_, hneg, by omega, hideal, hlast⟩
      have hc : ((c / 10 : ℕ) : ℚ) * 10 = c := by
        exact_mod_cast Nat.div_mul_cancel (Nat.dvd_of_mod_eq_zero h.2)
      simp only [toRat, sign, magnitude]
      rw [ten_zpow_add, zpow_one, ← hc]
      ring
    · have hle : e ≤ ideal := by omega
      by_cases heq : e = ideal
      · exact ⟨rfl, rfl, le_rfl, hle, .inl heq⟩
      · exact ⟨rfl, rfl, le_rfl, hle, .inr fun hmod => h ⟨lt_of_le_of_ne hle heq, hmod⟩⟩


end Finite

end Decimal
