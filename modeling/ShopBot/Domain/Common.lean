import Mathlib.Algebra.Ring.Int.Defs
import Mathlib.Data.Int.Order.Basic

/-! # Common domain values

Instants are whole microseconds, the resolution of the stored timestamps. Errors
carry the class of the raised exception and its message; a transaction that ends in
one of them is rolled back.
-/

namespace ShopBot

abbrev DateTime := ℤ

abbrev Uuid := ℕ

/-- `timedelta(seconds=n)`. -/
def seconds (n : ℤ) : DateTime := n * 1000000

/-- `timedelta(days=n)`. -/
def days (n : ℤ) : DateTime := n * 86400000000

theorem days_pos {n : ℤ} (h : 0 < n) : 0 < days n :=
  Int.mul_pos h (by decide)

theorem seconds_pos {n : ℤ} (h : 0 < n) : 0 < seconds n :=
  Int.mul_pos h (by decide)

/-- Exceptions raised by the domain, the application and the persistence layer. -/
inductive Error where
  | domainValidation (message : String)

  | invalidStateTransition (message : String)

  | paymentInvariantViolation (message : String)

  | conflict (message : String)

  | notFound (message : String)

  | validation (message : String)

  | runtime (message : String)

  | typeError (message : String)

  | valueError (message : String)

  | integrity (constraint : String)
deriving DecidableEq, Repr

/-- Python's `first or second` on optional texts: an empty text counts as absent. -/
def orText (first second : Option String) : Option String :=
  match first with
  | none => second
  | some text => if text = "" then second else some text

/-- `text.lower()`; only ASCII letters lower to the letters the callers compare with. -/
def lowerText (text : String) : String := .ofList (text.toList.map Char.toLower)

/-- The characters removed by `str.strip`. -/
def isSpace (c : Char) : Bool :=
  c.toNat ∈ [32, 0x85, 0xA0, 0x1680, 0x2028, 0x2029, 0x202F, 0x205F, 0x3000] ||
    (9 ≤ c.toNat && c.toNat ≤ 13) || (28 ≤ c.toNat && c.toNat ≤ 31) ||
    (0x2000 ≤ c.toNat && c.toNat ≤ 0x200A)

/-- `text.strip()`. -/
def stripText (text : String) : String :=
  .ofList (((text.toList.dropWhile isSpace).reverse.dropWhile isSpace).reverse)

/-- `btrim(text) = ''`. -/
def btrimIsEmpty (text : String) : Bool := text.toList.all (· = ' ')

def charsContain (token : List Char) : List Char → Bool
  | [] => token.isEmpty
  | c :: cs => token.isPrefixOf (c :: cs) || charsContain token cs

/-- `token in text`. -/
def textContains (text token : String) : Bool := charsContain token.toList text.toList

/-- Look a value of an enumeration up by its text. -/
def enumFromText {α : Type} (values : List α) (text : α → String) (className value : String) :
    Except Error α :=
  match values.find? (text · = value) with
  | some a => .ok a
  | none => .error (.valueError s!"'{value}' is not a valid {className}")

/-- Raise `e` when the condition fails. -/
def require (condition : Bool) (e : Error) : Except Error Unit :=
  if condition then .ok () else .error e

variable {α β : Type} {e : Error}

theorem bind_eq_ok {ε : Type} {x : Except ε α} {f : α → Except ε β} {b : β} :
    (x >>= f) = .ok b ↔ ∃ a, x = .ok a ∧ f a = .ok b := by
  cases x with
  | error e => simp [bind, Except.bind]
  | ok a => simp [bind, Except.bind]

theorem bind_eq_error {x : Except Error α} {f : α → Except Error β} :
    (x >>= f) = .error e ↔ x = .error e ∨ ∃ a, x = .ok a ∧ f a = .error e := by
  cases x with
  | error e => simp [bind, Except.bind]
  | ok a => simp [bind, Except.bind]

theorem require_eq_ok {condition : Bool} {u : Unit} :
    require condition e = .ok u ↔ condition = true := by
  unfold require
  cases condition <;> simp

theorem require_eq_error {condition : Bool} {e' : Error} :
    require condition e = .error e' ↔ condition = false ∧ e = e' := by
  unfold require
  cases condition <;> simp

theorem enumFromText_eq_ok {values : List α} {text : α → String} {className value : String} {a : α}
    (h : enumFromText values text className value = .ok a) : text a = value := by
  unfold enumFromText at h
  split at h
  · next b hb =>
    cases h
    simpa using List.find?_some hb
  · cases h

theorem enumFromText_text {values : List α} {text : α → String} {className : String} {a : α}
    (hinj : Function.Injective text) (hmem : a ∈ values) :
    enumFromText values text className (text a) = .ok a := by
  unfold enumFromText
  split
  · next b hb =>
    have htext : text b = text a := by simpa using List.find?_some hb
    rw [hinj htext]
  · next hnone =>
    have hne := List.find?_eq_none.1 hnone a hmem
    simp at hne

end ShopBot
