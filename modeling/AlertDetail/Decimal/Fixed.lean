import AlertDetail.Decimal.Binary

/-!
# Fixed decimal places

A double with a fixed number of digits after the point. The exact binary value is rounded once, and
a value half way between two decimals goes to the one with an even last digit. The sign of negative
zero is written.
-/

namespace AlertDetail.Decimal

/-- A quotient rounded to the nearest whole number, halves to the even neighbour. -/
def roundHalfEven (num den : Nat) : Nat :=
  let floor := num / den
  let rest := num % den
  if 2 * rest < den then floor
  else if den < 2 * rest then floor + 1
  else floor + floor % 2

/-- Decimal digits of a number, at least `width` of them, padded with zeros in front. -/
def padded (width n : Nat) : String :=
  let digits := Nat.repr n
  .ofList (List.replicate (width - digits.length) '0') ++ digits

/-- A double with `places` digits after the point. -/
def fixed (places : Nat) (x : Float) : String :=
  match Binary.ofFloat? x with
  | none => if x.isNaN then "NaN" else if x < 0 then "-inf" else "inf"
  | some b =>
    let (num, den) := b.ratio
    let units := roundHalfEven (num * Nat.pow 10 places) den
    let sign := if b.negative then "-" else ""
    let whole := sign ++ Nat.repr (units / Nat.pow 10 places)
    if places = 0 then whole else whole ++ "." ++ padded places (units % Nat.pow 10 places)

theorem roundHalfEven_of_dvd (n : Nat) {den : Nat} (h : 0 < den) :
    roundHalfEven (n * den) den = n := by
  simp [roundHalfEven, Nat.mul_div_cancel _ h, h]

end AlertDetail.Decimal
