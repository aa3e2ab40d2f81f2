import AlertDetail.Decimal.Scaled
import AlertDetail.Json.Basic

/-!
# Numbers in a JSON text

The grammar of a number and the value it has. A number without point and exponent is a whole number
if it fits in 64 bits: up to the largest unsigned word, or down to the smallest signed one. Minus
zero and everything else is read as a double.
-/

namespace AlertDetail.Json

/-- A number as it is written. -/
structure Numeral where
  /-- A minus sign stands in front. -/
  negative : Bool
  /-- Digits before the point, without needless zeros. -/
  whole : List Nat
  /-- Digits after the point, none if there is no point. -/
  fraction : List Nat
  /-- The power of ten, if one is written. -/
  exponent : Option Int
  deriving DecidableEq, Repr

/-- Characters that numbers consist of. -/
def isNumeralChar (c : Char) : Bool :=
  c.isDigit || c == '+' || c == '-' || c == '.' || c == 'e' || c == 'E'

/-- Value of a decimal digit. -/
def digitValue (c : Char) : Nat := c.toNat - 0x30

/-- The leading digits of a text, at least one of them, and the rest. -/
def someDigits? (text : List Char) : Option (List Nat × List Char) :=
  match text.takeWhile Char.isDigit with
  | [] => none
  | digits => some (digits.map digitValue, text.dropWhile Char.isDigit)

/-- The number that digits write. -/
def ofDigits (digits : List Nat) : Nat :=
  digits.foldl (fun number digit => number * 10 + digit) 0

/-- The part of a number from the exponent on. -/
def Numeral.exponent? : List Char → Option (Option Int)
  | [] => some none
  | c :: rest =>
    if c = 'e' ∨ c = 'E' then
      let (negative, digits) := match rest with
        | '-' :: digits => (true, digits)
        | '+' :: digits => (false, digits)
        | digits => (false, digits)
      match someDigits? digits with
      | some (digits, []) =>
        let n : Int := ofDigits digits
        some (some (if negative then -n else n))
      | _ => none
    else none

/-- The number that a whole text writes. -/
def Numeral.parse? (text : List Char) : Option Numeral := do
  let (negative, text) := match text with
    | '-' :: rest => (true, rest)
    | text => (false, text)
  let (whole, text) ← someDigits? text
  if whole.head? = some 0 ∧ whole.length ≠ 1 then none
  else match text with
    | '.' :: text =>
      let (fraction, text) ← someDigits? text
      return ⟨negative, whole, fraction, ← Numeral.exponent? text⟩
    | text => return ⟨negative, whole, [], ← Numeral.exponent? text⟩

/-- The value of a number. -/
def Numeral.value (n : Numeral) : Json :=
  let number := ofDigits n.whole
  if n.fraction.isEmpty ∧ n.exponent.isNone ∧ number ≤ Decimal.maxSignificand ∧
      (n.negative → 0 < number ∧ number ≤ 9223372036854775808) then
    .int (if n.negative then -number else number)
  else match Decimal.read? n.negative n.whole n.fraction (n.exponent.getD 0) with
    | some x => .float x
    | none => .unreadable

end AlertDetail.Json
