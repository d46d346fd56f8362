import Mathlib.Algebra.Order.Field.Power
import Mathlib.Data.Rat.Cast.Order
import Mathlib.Tactic.Linarith
import Mathlib.Tactic.NormNum
import Mathlib.Tactic.Positivity
import Mathlib.Tactic.Ring
import Mathlib.Tactic.FieldSimp

/-! # Decimal arithmetic

Decimal numbers with a context, as in the `decimal` module of Python: a result is rounded
half to even to the precision of the context, overflow and invalid operations are raised,
and underflow is rounded silently. A finite number is its sign, coefficient and exponent, so
equal values may differ in their exponents.
-/

namespace Decimal

/-- The integer nearest to the quotient by a power of ten; a half goes to the even one or up. -/
inductive Rounding where
  | halfEven

  | halfUp
deriving DecidableEq, Repr

def Rounding.divide (rounding : Rounding) (coefficient places : ℕ) : ℕ :=
  let quotient := coefficient / 10 ^ places
  let remainder := coefficient % 10 ^ places
  if 10 ^ places < 2 * remainder ∨
      2 * remainder = 10 ^ places ∧ (rounding = .halfUp ∨ quotient % 2 = 1) then quotient + 1
  else quotient

structure Finite where
  negative : Bool := false
  coefficient : ℕ
  exponent : ℤ
deriving DecidableEq, Repr

inductive Number where
  | finite (x : Finite)

  | infinity (negative : Bool)

  | nan (signaling negative : Bool) (payload : ℕ)
deriving DecidableEq, Repr

/-- What an operation or a conversion raises. -/
inductive Exception where
  | invalidOperation

  | divisionByZero

  | overflow

  | overflowError (message : String)

  | valueError (message : String)
deriving DecidableEq, Repr

structure Context where
  prec : ℕ
  emax : ℤ
  emin : ℤ
  prec_pos : 0 < prec
  emin_le_emax : emin ≤ emax

namespace Context

/-- The context of a thread that has not changed it. -/
def default : Context where
  prec := 28
  emax := 999999
  emin := -999999
  prec_pos := by decide
  emin_le_emax := by decide

variable (ctx : Context)

/-- The exponent of the smallest subnormal number. -/
def etiny : ℤ := ctx.emin - ctx.prec + 1

/-- The exponent of the largest finite number. -/
def etop : ℤ := ctx.emax - ctx.prec + 1

theorem etiny_le_etop : ctx.etiny ≤ ctx.etop := by
  have h := ctx.emin_le_emax
  unfold etiny etop
  omega

end Context

/-- The number of decimal digits. -/
def digitCount (n : ℕ) : ℕ := (Nat.toDigits 10 n).length

theorem digitCount_pos (n : ℕ) : 0 < digitCount n := Nat.length_toDigits_pos

theorem digitCount_le_iff {n k : ℕ} (h : 0 < k) : digitCount n ≤ k ↔ n < 10 ^ k :=
  Nat.length_toDigits_le_iff (by decide) h

theorem lt_pow_digitCount (n : ℕ) : n < 10 ^ digitCount n :=
  (digitCount_le_iff (digitCount_pos n)).1 (Nat.le_refl _)

theorem pow_le_of_digitCount {n k : ℕ} (hn : n ≠ 0) (h : k < digitCount n) : 10 ^ k ≤ n := by
  cases k with
  | zero => omega
  | succ k =>
    by_contra hlt
    have := (digitCount_le_iff (Nat.succ_pos k)).2 (Nat.lt_of_not_le hlt)
    omega

namespace Finite

/-- `Decimal(n)`. -/
def ofInt (n : ℤ) : Finite := ⟨n < 0, n.natAbs, 0⟩

/-- The sign, as a factor. -/
def sign (x : Finite) : ℚ := if x.negative then -1 else 1

def magnitude (x : Finite) : ℚ := x.coefficient * (10 : ℚ) ^ x.exponent

/-- The value of the number. -/
def toRat (x : Finite) : ℚ := x.sign * x.magnitude

/-- The coefficient with the sign. -/
def signed (x : Finite) : ℤ := if x.negative then -x.coefficient else x.coefficient

/-- `_rescale`: the number with another exponent. -/
def rescale (rounding : Rounding) (exponent : ℤ) (x : Finite) : Finite where
  negative := x.negative
  coefficient :=
    if exponent ≤ x.exponent then x.coefficient * 10 ^ (x.exponent - exponent).toNat
    else rounding.divide x.coefficient (exponent - x.exponent).toNat
  exponent := exponent

/-- The numbers are equal after one has been brought to the exponent of the other. -/
def sameValue (x y : Finite) : Bool :=
  let exponent := min x.exponent y.exponent
  x.signed * 10 ^ (x.exponent - exponent).toNat = y.signed * 10 ^ (y.exponent - exponent).toNat

/-- The position of the last digit that the context keeps of the number. -/
def place (ctx : Context) (x : Finite) : ℤ :=
  max (digitCount x.coefficient + x.exponent - ctx.prec) ctx.etiny

/-- `adjusted`: the exponent of the first digit. -/
def adjusted (x : Finite) : ℤ := x.exponent + digitCount x.coefficient - 1

/-- `_fix`: round the number to the context. -/
def fix (ctx : Context) (x : Finite) : Except Exception Finite :=
  if x.coefficient = 0 then .ok { x with exponent := min (max x.exponent ctx.etiny) ctx.emax }
  else if ctx.etop < digitCount x.coefficient + x.exponent - ctx.prec then .error .overflow
  else if x.place ctx ≤ x.exponent then .ok x
  else
    let coefficient :=
      Rounding.halfEven.divide x.coefficient (x.place ctx - x.exponent).toNat
    let rounded : Finite :=
      if ctx.prec < digitCount coefficient then ⟨x.negative, coefficient / 10, x.place ctx + 1⟩
      else ⟨x.negative, coefficient, x.place ctx⟩
    if ctx.etop < rounded.exponent then .error .overflow else .ok rounded

/-- Trailing zeros are dropped until the exponent is the ideal one. -/
def strip (ideal : ℤ) (negative : Bool) : ℕ → ℕ → ℤ → Finite
  | 0, coefficient, exponent => ⟨negative, coefficient, exponent⟩
  | fuel + 1, coefficient, exponent =>
    if exponent < ideal ∧ coefficient % 10 = 0 then
      strip ideal negative fuel (coefficient / 10) (exponent + 1)
    else ⟨negative, coefficient, exponent⟩

/-- `__truediv__`: one digit more than the precision decides the rounding of the quotient. -/
def truediv (ctx : Context) (x y : Finite) : Except Exception Finite :=
  let negative := x.negative ^^ y.negative
  let ideal := x.exponent - y.exponent
  if y.coefficient = 0 then
    if x.coefficient = 0 then .error .invalidOperation else .error .divisionByZero
  else if x.coefficient = 0 then fix ctx ⟨negative, 0, ideal⟩
  else
    let shift : ℤ := digitCount y.coefficient - digitCount x.coefficient + ctx.prec + 1
    let dividend := x.coefficient * 10 ^ shift.toNat
    let divisor := y.coefficient * 10 ^ (-shift).toNat
    let coefficient := dividend / divisor
    if dividend % divisor = 0 then
      fix ctx (strip ideal negative shift.toNat coefficient (ideal - shift))
    else fix ctx ⟨negative, if coefficient % 5 = 0 then coefficient + 1 else coefficient,
      ideal - shift⟩

end Finite

namespace Number

/-- `_fix_nan`: the payload is cut to the precision. -/
def fixNan (ctx : Context) (negative : Bool) (payload : ℕ) : Number :=
  .nan false negative (payload % 10 ^ ctx.prec)

def negative : Number → Bool
  | finite x => x.negative
  | infinity negative => negative
  | nan _ negative _ => negative

/-- `__mul__`. -/
def mul (ctx : Context) : Number → Number → Except Exception Number
  | nan true _ _, _ => .error .invalidOperation
  | _, nan true _ _ => .error .invalidOperation
  | nan false negative payload, _ => .ok (fixNan ctx negative payload)
  | _, nan false negative payload => .ok (fixNan ctx negative payload)
  | infinity negative, infinity negative' => .ok (.infinity (negative ^^ negative'))
  | infinity negative, finite y =>
    if y.coefficient = 0 then .error .invalidOperation
    else .ok (.infinity (negative ^^ y.negative))
  | finite x, infinity negative =>
    if x.coefficient = 0 then .error .invalidOperation
    else .ok (.infinity (x.negative ^^ negative))
  | finite x, finite y =>
    (Finite.fix ctx ⟨x.negative ^^ y.negative, x.coefficient * y.coefficient,
      x.exponent + y.exponent⟩).map .finite

/-- `to_integral_value`, rounded half to even. -/
def toIntegralValue (ctx : Context) : Number → Except Exception Number
  | nan true _ _ => .error .invalidOperation
  | nan false negative payload => .ok (fixNan ctx negative payload)
  | infinity negative => .ok (.infinity negative)
  | finite x => .ok (.finite (if 0 ≤ x.exponent then x else x.rescale .halfEven 0))

/-- `__ne__`: a quiet NaN differs from everything. -/
def ne : Number → Number → Except Exception Bool
  | nan true _ _, _ => .error .invalidOperation
  | _, nan true _ _ => .error .invalidOperation
  | nan false _ _, _ => .ok true
  | _, nan false _ _ => .ok true
  | infinity negative, infinity negative' => .ok (negative ≠ negative')
  | infinity _, finite _ => .ok true
  | finite _, infinity _ => .ok true
  | finite x, finite y => .ok (!x.sameValue y)

/-- `int(x)`: the digits after the point are cut off. -/
def toInt : Number → Except Exception ℤ
  | nan _ _ _ => .error (.valueError "cannot convert NaN to integer")
  | infinity _ => .error (.overflowError "cannot convert Infinity to integer")
  | finite x =>
    let magnitude : ℕ := if 0 ≤ x.exponent then x.coefficient * 10 ^ x.exponent.toNat
      else x.coefficient / 10 ^ (-x.exponent).toNat
    .ok (if x.negative then -magnitude else magnitude)

/-- `quantize` to a power of ten. -/
def quantize (ctx : Context) (rounding : Rounding) (exponent : ℤ) :
    Number → Except Exception Number
  | nan true _ _ => .error .invalidOperation
  | nan false negative payload => .ok (fixNan ctx negative payload)
  | infinity _ => .error .invalidOperation
  | finite x =>
    if exponent < ctx.etiny ∨ ctx.emax < exponent then .error .invalidOperation
    else if x.coefficient = 0 then (Finite.fix ctx ⟨x.negative, 0, exponent⟩).map .finite
    else if ctx.emax < x.adjusted ∨ ctx.prec < x.adjusted - exponent + 1 then
      .error .invalidOperation
    else
      let rounded := x.rescale rounding exponent
      if ctx.emax < rounded.adjusted ∨ ctx.prec < digitCount rounded.coefficient then
        .error .invalidOperation
      else (rounded.fix ctx).map .finite

end Number

end Decimal
