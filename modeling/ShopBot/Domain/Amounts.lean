import ShopBot.Domain.Payment
import ShopBot.Library.DecimalText

/-! # Amounts as decimal texts

The amount that the adapter of YooKassa sends, how it reads the amount of a webhook, and the
conversion of money to and from major units. Every operation uses the default context.
-/

namespace ShopBot

open Decimal

/-- What a conversion of an amount raises. -/
inductive AmountError where
  | webhookPayload (message : String)

  | domainValidation (message : String)

  /-- An exception of the decimal module, or of `int`. -/
  | other (e : Exception)
deriving DecidableEq, Repr

/-- `Decimal(text)`. -/
def decimalOf (text : String) : Except Exception Number :=
  match parse (stripText text).toList with
  | some x => .ok x
  | none => .error .invalidOperation

namespace YooKassaAdapter

/-- The value of the amount in the request of `create_payment`. -/
def amountValue (amountMinor : ℤ) : Except Exception String := do
  let amount ← (Finite.ofInt amountMinor).truediv .default (.ofInt 100)
  return .ofList (amount.formatFixed 2)

/-- The part of `_money_to_minor` after the multiplication. -/
def integralAmount (amount : Number) : Except Exception (Option ℤ) := do
  let integral ← amount.toIntegralValue .default
  if ← amount.ne integral then return none
  let n ← integral.toInt
  return some n

/-- `_money_to_minor` of the text of a value. -/
def moneyToMinor (value : Option String) : Except AmountError (Option ℤ) :=
  match value with
  | none => .ok none
  | some text =>
    if text = "" then .ok none
    else
      match (decimalOf text).bind fun x => x.mul .default (.finite (.ofInt 100)) with
      | .error .invalidOperation => .error (.webhookPayload "YooKassa amount is invalid")
      | .error (.valueError _) => .error (.webhookPayload "YooKassa amount is invalid")
      | .error e => .error (.other e)
      | .ok amount =>
        match integralAmount amount with
        | .error e => .error (.other e)
        | .ok none => .error (.webhookPayload "YooKassa amount has unsupported precision")
        | .ok (some n) => .ok (some n)

end YooKassaAdapter

namespace Money

/-- `Money.major`. -/
def major (m : Money) : Except Exception Number := do
  let amount ← (Finite.ofInt m.minor).truediv .default (.ofInt 100)
  Number.quantize .default .halfEven (-2) (.finite amount)

/-- `Money.from_major`, of the text of the amount. -/
def fromMajor (amount : String) (currency : Currency) : Except AmountError Money :=
  let minor : Except Exception ℤ := do
    let x ← decimalOf amount
    let x ← x.quantize .default .halfUp (-2)
    let x ← x.mul .default (.finite (.ofInt 100))
    x.toInt
  match minor with
  | .error e => .error (.other e)
  | .ok minor =>
    if minor < 0 then .error (.domainValidation "Money amount cannot be negative")
    else .ok ⟨minor.toNat, currency⟩

end Money

end ShopBot
