import AlertDetail.Text.Blank

/-!
# Whole numbers in a text

Whole numbers that users and settings write in decimal digits: a sign may stand in front, and
nothing else may stand around the digits. The numbers are limited to 64 bits; an unsigned one takes
no minus sign, not even for zero.
-/

namespace AlertDetail.Text

/-- The number of decimal digits, of which there must be some. -/
def digits? (text : List Char) : Option Nat :=
  if text.isEmpty ∨ !text.all Char.isDigit then none
  else some (text.foldl (fun n c => n * 10 + (c.toNat - 0x30)) 0)

/-- A text without a plus sign in front. -/
def dropPlus : List Char → List Char
  | '+' :: rest => rest
  | text => text

/-- An unsigned number of 64 bits. -/
def word? (text : String) : Option Nat :=
  (digits? (dropPlus text.toList)).filter (· < 18446744073709551616)

/-- A signed number of 64 bits. -/
def integer? (text : String) : Option Int :=
  match text.toList with
  | '-' :: rest => ((digits? rest).filter (· ≤ 9223372036854775808)).map fun n => -(n : Int)
  | text => ((digits? (dropPlus text)).filter (· < 9223372036854775808)).map fun n => (n : Int)

end AlertDetail.Text
