/-!
# Reading decimals by scaling

A decimal text is read in two roundings. The leading digits that fit in 64 bits form a whole
number, which is rounded to a double; that is then multiplied or divided by a power of ten. The
result can differ from the nearest double in the last bit. Digits that no longer fit count only as
powers of ten before the point and not at all after it.
-/

namespace AlertDetail.Decimal

/-- The largest whole number that digits are gathered into. -/
def maxSignificand : Nat := 18446744073709551615

/-- Gather digits before the point onto a number while they fit: the number, and how many digits
were left over. -/
def gatherWhole (number : Nat) : List Nat → Nat × Nat
  | [] => (number, 0)
  | digit :: digits =>
    if number * 10 + digit ≤ maxSignificand then gatherWhole (number * 10 + digit) digits
    else (number, digits.length + 1)

/-- Gather digits after the point onto a number while they fit: the number, and how many digits
were taken. -/
def gatherFraction (number : Nat) : List Nat → Nat × Nat
  | [] => (number, 0)
  | digit :: digits =>
    if number * 10 + digit ≤ maxSignificand then
      let (gathered, taken) := gatherFraction (number * 10 + digit) digits
      (gathered, taken + 1)
    else (number, 0)

/-- The largest power of ten that is a double. -/
def maxPower : Nat := 308

/-- The double nearest to a power of ten. -/
def powerOfTen (n : Nat) : Float := Float.ofScientific 1 false n

/-- A double times a power of ten, none if it is too large. Powers below the smallest one in reach
are divided out in steps. -/
def scale? (x : Float) (exponent : Int) : Option Float :=
  if exponent.natAbs ≤ maxPower then
    if 0 ≤ exponent then
      let scaled := x * powerOfTen exponent.natAbs
      if scaled.isInf then none else some scaled
    else some (x / powerOfTen exponent.natAbs)
  else if x == 0 then some x
  else if 0 ≤ exponent then none
  else scale? (x / powerOfTen maxPower) (exponent + maxPower)
termination_by exponent.natAbs
decreasing_by simp only [maxPower] at *; omega

/-- A whole number of at most 64 bits as a double. -/
def ofWord (n : Nat) : Float := (UInt64.ofNat n).toFloat

/-- The double that a decimal is read as, none if it is too large: digits before and after the
point, and a power of ten. -/
def read? (negative : Bool) (whole fraction : List Nat) (exponent : Int) : Option Float := do
  let (number, left) := gatherWhole 0 whole
  let (number, taken) := gatherFraction number fraction
  let x ← scale? (ofWord number) ((left : Int) - taken + exponent)
  return if negative then -x else x

end AlertDetail.Decimal
