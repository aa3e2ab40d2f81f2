import AlertDetail.Decimal.Fixed

/-!
# Shortest decimals

The fewest decimal digits that a reader rounding to nearest turns back into the same double, and of
those the nearest to it. Every number of digits is tried in turn: on the decimal grid with that
many digits, the two neighbours of the value are tested against the interval of reals that round to
it. The ends of the interval belong to it if the significand is even.
-/

namespace AlertDetail.Decimal

/-- A decimal number: digits without a point, times a power of ten. -/
structure Digits where
  /-- The digits as one whole number. -/
  value : Nat
  /-- The power of ten. -/
  exponent : Int
  deriving DecidableEq, Repr

/-- Number of digits before the point of a quotient that is at least one. -/
def wholeDigits (num den : Nat) : Nat :=
  (Nat.repr (num / den)).length

/-- Number of factors of ten that bring a quotient up to one, searched for up to `limit`. -/
def leadingZeros (num den : Nat) : (limit : Nat) → Nat
  | 0 => 0
  | limit + 1 => if den ≤ num then 0 else leadingZeros (num * 10) den limit + 1

/-- Position of the point after the first digit: the power of ten just above the value. -/
def magnitude (num den : Nat) : Int :=
  if den ≤ num then Int.ofNat (wholeDigits num den) else 1 - Int.ofNat (leadingZeros num den 400)

/-- Whether a decimal lies in the interval of reals that round to the double. All terms are
multiples of a quarter of the distance to the next double. -/
def Binary.admits (b : Binary) (d : Digits) : Bool :=
  let low := 4 * b.significand - (if b.boundary then 1 else 2)
  let high := 4 * b.significand + 2
  let scale := b.exponent - 2
  let left := d.value * Nat.pow 10 d.exponent.toNat * Nat.pow 2 (-scale).toNat
  let right (n : Nat) := n * Nat.pow 2 scale.toNat * Nat.pow 10 (-d.exponent).toNat
  if b.significand % 2 = 0 then right low ≤ left && left ≤ right high
  else right low < left && left < right high

/-- The admitted neighbour of the value on the grid of `count` digits that is nearest to it. -/
def Binary.onGrid? (b : Binary) (count : Nat) : Option Digits :=
  let (num, den) := b.ratio
  let exponent := magnitude num den - count
  let num' := num * Nat.pow 10 (-exponent).toNat
  let den' := den * Nat.pow 10 exponent.toNat
  let below : Digits := ⟨num' / den', exponent⟩
  let above : Digits := ⟨num' / den' + 1, exponent⟩
  match b.admits below, b.admits above with
  | false, false => none
  | true, false => some below
  | false, true => some above
  | true, true => some ⟨roundHalfEven num' den', exponent⟩

/-- The first grid with an admitted decimal, from `count` digits on. -/
def Binary.firstGrid (b : Binary) : (count left : Nat) → Digits
  | count, 0 => (b.onGrid? count).getD ⟨b.significand, b.exponent⟩
  | count, left + 1 => match b.onGrid? count with
    | some d => d
    | none => b.firstGrid (count + 1) left

/-- A decimal without zeros at its end. -/
def Digits.stripped (d : Digits) : (limit : Nat) → Digits
  | 0 => d
  | limit + 1 =>
    if d.value ≠ 0 ∧ d.value % 10 = 0 then
      Digits.stripped ⟨d.value / 10, d.exponent + 1⟩ limit
    else d

/-- The shortest decimal of a double that is not zero. Seventeen digits always suffice. -/
def Binary.shortest (b : Binary) : Digits :=
  (b.firstGrid 1 16).stripped 17

/-- How decimals are laid out. -/
structure Layout where
  /-- With the point further right than this the exponent is written. -/
  maxPoint : Int
  /-- With the point this far left or further the exponent is written. -/
  minPoint : Int

/-- A decimal under a layout. Without an exponent there is always a digit on both sides of the
point; with one, a single digit has no point. -/
def Digits.render (layout : Layout) (d : Digits) : String :=
  let digits := (Nat.repr d.value).toList
  let count := digits.length
  let point : Int := count + d.exponent
  let zeros (n : Int) := List.replicate n.toNat '0'
  if layout.minPoint < point ∧ point ≤ layout.maxPoint then
    if 0 ≤ d.exponent then .ofList (digits ++ zeros d.exponent ++ ['.', '0'])
    else if 0 < point then
      .ofList (digits.take point.toNat ++ '.' :: digits.drop point.toNat)
    else .ofList ('0' :: '.' :: zeros (-point) ++ digits)
  else
    let tail := "e" ++ toString (point - 1)
    match digits with
    | [only] => .ofList [only] ++ tail
    | first :: others => .ofList (first :: '.' :: others) ++ tail
    | [] => tail

end AlertDetail.Decimal
