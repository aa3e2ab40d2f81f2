/-!
# The parts of a double

A finite double is a sign, a whole significand and a power of two. The parts are read from the bit
pattern, so exact arithmetic on whole numbers can take over from there. Infinities and values that
are not numbers have no parts.
-/

namespace AlertDetail.Decimal

/-- Sign, significand and power of two of a finite double. -/
structure Binary where
  /-- The sign bit; set also for negative zero. -/
  negative : Bool
  /-- The significand, below two to the power 53. -/
  significand : Nat
  /-- The power of two that multiplies it. -/
  exponent : Int
  /-- Whether the neighbour towards zero is nearer than the one away from it. -/
  boundary : Bool
  deriving DecidableEq, Repr

/-- How many values the lowest 52 bits of a pattern have. -/
def fractionSpan : Nat := 4503599627370496

/-- How many values the eleven bits above them have. -/
def fieldSpan : Nat := 2048

/-- The parts of a double, if it is finite. -/
def Binary.ofFloat? (x : Float) : Option Binary :=
  let bits := x.toBits.toNat
  let fraction := bits % fractionSpan
  let field := bits / fractionSpan % fieldSpan
  let negative := bits / fractionSpan / fieldSpan == 1
  if field = 2047 then none
  else if field = 0 then some ⟨negative, fraction, -1074, false⟩
  else some ⟨negative, fractionSpan + fraction, Int.ofNat field - 1075, fraction == 0 && field != 1⟩

/-- A fraction with the absolute value of a double: numerator and positive denominator. -/
def Binary.ratio (b : Binary) : Nat × Nat :=
  if 0 ≤ b.exponent then (b.significand * Nat.pow 2 b.exponent.toNat, 1)
  else (b.significand, Nat.pow 2 (-b.exponent).toNat)

theorem Binary.ratio_den_pos (b : Binary) : 0 < b.ratio.2 := by
  unfold Binary.ratio
  split
  · exact Nat.one_pos
  · exact Nat.two_pow_pos _

end AlertDetail.Decimal
