import Mathlib
import AlertDetail.Decimal.Binary
import AlertDetail.Decimal.Scaled

/-!
# Decimals are read as finite doubles

Reading a decimal multiplies or divides a double by a power of ten. A product that overflows is
refused, and a quotient by ten or more cannot overflow: it lies below half the largest double, and
rounding moves a leading bit up by one place at most. So no infinity is ever read, nor a value that
is no number.

Bounds are on exponents alone: `totalExponent` is the place of the leading bit.
-/

namespace AlertDetail.Decimal

open Float.Model Float.Model.UnpackedFloat

/-- The largest exponent of a double whose significand is a whole number. -/
def maxExponent : Int := 971

/-- Zero, or a number whose exponent fits a double. -/
def Fits : UnpackedFloat → Prop
  | .zero _ => True
  | .finite _ _ exponent _ => exponent ≤ maxExponent
  | _ => False

/-- Fields with an exponent that is not all ones are those of a finite number. -/
theorem isFinite_unpack {bits : BitVec Format.binary64.numBits}
    (h : unpackExponent bits ≠ -1#_) :
    (UnpackedFloat.unpack Format.binary64 bits).isFinite = true := by
  simp only [UnpackedFloat.unpack]
  rw [if_neg h]
  split
  · split <;> rfl
  · rfl

/-- The field of an exponent, before its eleven bits are cut off. -/
theorem biased_toNat (e : Int) : (e + Format.binary64.exponentBias +
    Format.binary64.mantissaBitsWithoutImplicit).toNat = (e + 1023 + 52).toNat := rfl

/-- A small number does not fill all eleven bits of the field. -/
theorem ofNat_ne_ones {n : Nat} (h : n < 2047) : BitVec.ofNat 11 n ≠ -1#11 := by
  intro hones
  have hnat := congrArg BitVec.toNat hones
  rw [BitVec.toNat_ofNat, Nat.mod_eq_of_lt (by omega)] at hnat
  simp only [BitVec.reduceNeg, BitVec.reduceToNat] at hnat
  omega

/-- What fits is packed as a finite double. -/
theorem isFinite_pack {f : UnpackedFloat} (h : Fits f) :
    (Float.ofModel (Float.Model.pack f)).isFinite = true := by
  refine isFinite_unpack ?_
  change unpackExponent (UnpackedFloat.pack Format.binary64 f) ≠ -1#11
  cases f with
  | infinity s => exact h.elim
  | notANumber => exact h.elim
  | zero s =>
    simp only [UnpackedFloat.pack, packedZero, unpackExponent_packComponents]
    decide
  | finite s m e hm =>
    have he : e ≤ 971 := h
    have hbias := biased_toNat e
    simp only [UnpackedFloat.pack, hbias]
    rw [if_neg (by omega)]
    split
    · rw [unpackExponent_packComponents]
      exact ofNat_ne_ones (by omega)
    · rw [unpackExponent_packComponents]
      decide

/-- The places of the leading bits of a finite double are bounded. -/
def Tame : UnpackedFloat → Prop
  | .zero _ => True
  | .finite _ significand exponent _ => significand.log2 ≤ 52 ∧ exponent ≤ maxExponent
  | _ => False

/-- Fields of a finite number give zero, or a significand of at most 53 bits with an exponent that
fits. -/
theorem tame_unpack {bits : BitVec Format.binary64.numBits}
    (h : (UnpackedFloat.unpack Format.binary64 bits).isFinite = true) :
    Tame (UnpackedFloat.unpack Format.binary64 bits) := by
  have hfield : (unpackExponent bits).toNat < 2048 := BitVec.isLt _
  have hfraction : (unpackMantissa bits).toNat < 2 ^ 52 := BitVec.isLt _
  have hwhole : (1#1 ++ unpackMantissa bits).toNat < 2 ^ 53 := BitVec.isLt _
  have hbias : Format.binary64.exponentBias = 1023 := rfl
  have hlog {m : Nat} (hlt : m < 2 ^ 53) : m.log2 ≤ 52 := by
    rcases Nat.eq_zero_or_pos m with rfl | hm
    · exact Nat.zero_le _
    · exact Nat.le_of_lt_succ ((Nat.log2_lt hm.ne').2 hlt)
  revert h
  simp only [UnpackedFloat.unpack]
  split
  case isTrue => split <;> exact fun h => absurd h Bool.false_ne_true
  case isFalse hones =>
    intro _
    have hne : (unpackExponent bits).toNat ≠ 2047 := fun h => hones (BitVec.eq_of_toNat_eq h)
    split
    case isTrue hzero =>
      split
      · trivial
      · refine ⟨hlog (by omega), ?_⟩
        have hnone : (unpackExponent bits).toNat = 0 := by rw [hzero]; rfl
        simp only [maxExponent, hbias]
        omega
    case isFalse =>
      refine ⟨hlog hwhole, ?_⟩
      simp only [maxExponent, hbias]
      omega

/-- A number of 53 bits that is at least two. -/
def Sizable : UnpackedFloat → Prop
  | .finite _ significand exponent _ => significand.log2 = 52 ∧ -51 ≤ exponent
  | _ => False

/-- A number of at least two. -/
def Large : UnpackedFloat → Prop
  | .finite _ significand exponent _ => 2 ≤ totalExponent significand exponent
  | _ => False

instance : DecidablePred Large
  | .finite _ significand exponent _ =>
    inferInstanceAs (Decidable (2 ≤ totalExponent significand exponent))
  | .zero _ => isFalse id
  | .infinity _ => isFalse id
  | .notANumber => isFalse id

/-- A sequence of shifts to the right is one division. -/
theorem mantissa_shiftRight (m : ExtendedMantissa) (n : Nat) :
    (m >>> n).mantissa = m.mantissa / 2 ^ n := by
  change (n.repeat ExtendedMantissa.shiftRightOne m).mantissa = _
  induction n with
  | zero => simp [Nat.repeat]
  | succ n ih =>
    rw [Nat.repeat, ExtendedMantissa.shiftRightOne, ih, Nat.div_div_eq_div_mul, ← Nat.pow_succ]

/-- Rounding adds one or nothing. -/
theorem roundedMantissa_bounds (m : ExtendedMantissa) :
    m.mantissa ≤ m.roundedMantissa ∧ m.roundedMantissa ≤ m.mantissa + 1 := by
  obtain ⟨mantissa, round, sticky⟩ := m
  cases round <;> cases sticky <;>
    simp only [ExtendedMantissa.roundedMantissa, ExtendedMantissa.accuracy,
      Accuracy.roundToNearestEven] <;> omega

/-- The significand that is shifted to the exponent of a double. -/
theorem mantissa_shiftToTargetExponent (m : Nat) (e : Int) (accuracy : Accuracy) :
    (shiftToTargetExponent Format.binary64 m e accuracy).1.mantissa =
      m / 2 ^ (Format.binary64.targetExponent (totalExponent m e) - e).toNat := by
  simp only [shiftToTargetExponent, shiftToExponent, mantissa_shiftRight]
  congr 1
  match accuracy with
  | .exact => rfl
  | .inexact .lt => rfl
  | .inexact .eq => rfl
  | .inexact .gt => rfl

/-- Dividing by a power of two lowers the leading bit by that many places. -/
theorem log2_div (m n : Nat) : (m / 2 ^ n).log2 = m.log2 - n := by
  rw [Nat.log2_eq_log_two, Nat.log2_eq_log_two, Nat.log_div_base_pow]

/-- Adding one raises the leading bit by one place at most. -/
theorem log2_le_of_le_succ {m n : Nat} (h : m ≤ n + 1) : m.log2 ≤ n.log2 + 1 := by
  rcases Nat.eq_zero_or_pos m with rfl | hm
  · simp
  · have := Nat.lt_log2_self (n := n)
    have hlt : m < 2 ^ (n.log2 + 1 + 1) := by rw [Nat.pow_succ]; omega
    have := (Nat.log2_lt hm.ne').2 hlt
    omega

/-- The exponent of a double for a number of this size. -/
theorem targetExponent_eq (m : Nat) (e : Int) :
    Format.binary64.targetExponent (totalExponent m e) = max (m.log2 + e - 52) (-1074) := by
  simp only [Format.targetExponent, totalExponent, Format.mantissaBits, Format.minExponent]
  omega

/-- The exponent after shifting to that of a double. -/
theorem exponent_shiftToTargetExponent (m : Nat) (e : Int) (accuracy : Accuracy) :
    (shiftToTargetExponent Format.binary64 m e accuracy).2 =
      max e (max (m.log2 + e - 52) (-1074)) := by
  simp only [shiftToTargetExponent, shiftToExponent, targetExponent_eq]
  omega

/-- The leading bit after that shift. -/
theorem log2_shiftToTargetExponent (m : Nat) (e : Int) (accuracy : Accuracy) :
    (shiftToTargetExponent Format.binary64 m e accuracy).1.mantissa.log2 =
      m.log2 - (max (m.log2 + e - 52) (-1074) - e).toNat := by
  rw [mantissa_shiftToTargetExponent, log2_div, targetExponent_eq]

/-- Rounding leaves the leading bit where it is or raises it by one place. -/
theorem log2_roundedMantissa (m : ExtendedMantissa) :
    m.mantissa.log2 ≤ m.roundedMantissa.log2 ∧ m.roundedMantissa.log2 ≤ m.mantissa.log2 + 1 := by
  obtain ⟨hlow, hhigh⟩ := roundedMantissa_bounds m
  refine ⟨?_, log2_le_of_le_succ hhigh⟩
  rw [Nat.log2_eq_log_two, Nat.log2_eq_log_two]
  exact Nat.log_mono_right hlow

section Rounding

variable {m : Nat} {e : Int} (s : Sign) (accuracy : Accuracy)

/-- Rounding a number whose leading bit stands one place below the largest gives a number that
fits. -/
theorem fits_roundWithAccuracy (hplace : totalExponent m e ≤ 1023) (he : e ≤ maxExponent) :
    Fits (roundWithAccuracy Format.binary64 s m e accuracy) := by
  simp only [totalExponent, maxExponent] at hplace he
  have hleading := log2_shiftToTargetExponent m e accuracy
  have hplaced := exponent_shiftToTargetExponent m e accuracy
  have hrounded := log2_roundedMantissa (shiftToTargetExponent Format.binary64 m e accuracy).1
  simp only [roundWithAccuracy]
  generalize shiftToTargetExponent Format.binary64 m e accuracy = first at *
  split
  · trivial
  · change _ ≤ (971 : Int)
    rw [exponent_shiftToTargetExponent, hplaced]
    omega

/-- Rounding a number of at least two with at least 53 bits gives one of 53 bits that is no
smaller. -/
theorem sizable_roundWithAccuracy (hlog : 52 ≤ m.log2) (hplace : 2 ≤ totalExponent m e) :
    Sizable (roundWithAccuracy Format.binary64 s m e accuracy) := by
  simp only [totalExponent] at hplace
  have hleading := log2_shiftToTargetExponent m e accuracy
  have hplaced := exponent_shiftToTargetExponent m e accuracy
  have hrounded := log2_roundedMantissa (shiftToTargetExponent Format.binary64 m e accuracy).1
  simp only [roundWithAccuracy]
  generalize shiftToTargetExponent Format.binary64 m e accuracy = first at *
  have hfinal : (shiftToTargetExponent Format.binary64 first.1.roundedMantissa first.2
      .exact).1.mantissa.log2 = 52 := by
    rw [log2_shiftToTargetExponent]
    omega
  split
  · next hzero => exact absurd (hzero ▸ hfinal) (by decide)
  · refine ⟨hfinal, ?_⟩
    rw [exponent_shiftToTargetExponent]
    omega

end Rounding

/-- A number of 53 bits that is at least two and fits is still so once it is packed. -/
theorem large_pack {f : UnpackedFloat} (hsizable : Sizable f) (hfits : Fits f) :
    Large (Float.Model.pack f).unpack := by
  cases f with
  | infinity _ => exact hfits.elim
  | notANumber => exact hfits.elim
  | zero _ => exact hsizable.elim
  | finite s m e hm =>
    obtain ⟨hlog, hlow⟩ := hsizable
    have hhigh : e ≤ 971 := hfits
    have hbits : m.log2 + 1 = Format.binary64.mantissaBits := by rw [hlog]; rfl
    have hfield : (BitVec.ofNat 11 (e + 1023 + 52).toNat).toNat = (e + 1023 + 52).toNat := by
      rw [BitVec.toNat_ofNat, Nat.mod_eq_of_lt (by omega)]
    have hones : BitVec.ofNat 11 (e + 1023 + 52).toNat ≠ -1#11 := ofNat_ne_ones (by omega)
    have hzeros : BitVec.ofNat 11 (e + 1023 + 52).toNat ≠ 0#11 := fun h => by
      have := congrArg BitVec.toNat h
      rw [hfield] at this
      simp only [BitVec.reduceToNat] at this
      omega
    change Large (UnpackedFloat.unpack Format.binary64
      (UnpackedFloat.pack Format.binary64 (.finite s m e hm)))
    have hbias := biased_toNat e
    simp only [UnpackedFloat.pack, hbias]
    rw [if_neg (by omega), if_pos hbits]
    simp only [UnpackedFloat.unpack, unpackExponent_packComponents]
    rw [if_neg hones, if_neg hzeros]
    have hleading : 52 ≤ (1#1 ++ unpackMantissa (packComponents Format.binary64 s
        (BitVec.ofNat 11 (e + 1023 + 52).toNat) (BitVec.ofNat 52 m))).toNat.log2 := by
      rw [unpackMantissa_packComponents, BitVec.toNat_append, ← Nat.shiftLeft_add_eq_or_of_lt
        (BitVec.isLt _)]
      have hleading : 2 ^ 52 ≤ 1 <<< 52 + (BitVec.ofNat 52 m).toNat := Nat.le_add_right _ _
      have hpos : 1 <<< 52 + (BitVec.ofNat 52 m).toNat ≠ 0 := by
        intro hzero
        rw [hzero] at hleading
        exact absurd hleading (by decide)
      exact (Nat.le_log2 hpos).2 hleading
    change 2 ≤ totalExponent _ _
    simp only [totalExponent, Format.exponentBias, hfield]
    omega

/-- Leading bits of a quotient of a number that is shifted to the left first. -/
theorem log2_shiftLeft_div_le (m n k : Nat) :
    ((m <<< k) / n).log2 = 0 ∨ ((m <<< k) / n).log2 + n.log2 ≤ m.log2 + k := by
  rcases Nat.eq_zero_or_pos ((m <<< k) / n) with hzero | hpos
  · exact .inl (by rw [hzero]; rfl)
  · right
    have hn : n ≠ 0 := by
      rintro rfl
      simp at hpos
    have hlow : 2 ^ (((m <<< k) / n).log2 + n.log2) ≤ (m <<< k) / n * n := by
      rw [Nat.pow_add]
      exact Nat.mul_le_mul (Nat.log2_self_le hpos.ne') (Nat.log2_self_le hn)
    have hhigh : m <<< k < 2 ^ (m.log2 + 1 + k) := by
      rw [Nat.shiftLeft_eq, Nat.pow_add]
      exact Nat.mul_lt_mul_of_pos_right Nat.lt_log2_self (Nat.two_pow_pos k)
    have hlt := (Nat.pow_lt_pow_iff_right Nat.one_lt_two).1
      ((hlow.trans (Nat.div_mul_le_self _ _)).trans_lt hhigh)
    omega

/-- A quotient of a finite double by a number of at least two fits. -/
theorem fits_div {f g : UnpackedFloat} (hf : Tame f) (hg : Large g) :
    Fits (UnpackedFloat.div Format.binary64 f g) := by
  cases g with
  | infinity _ => exact hg.elim
  | notANumber => exact hg.elim
  | zero _ => exact hg.elim
  | finite s₂ m₂ e₂ hm₂ =>
    cases f with
    | infinity _ => exact hf.elim
    | notANumber => exact hf.elim
    | zero _ => trivial
    | finite s₁ m₁ e₁ hm₁ =>
      obtain ⟨hlog, he⟩ := hf
      have hplace : 2 ≤ totalExponent m₂ e₂ := hg
      simp only [totalExponent, maxExponent] at hplace he
      obtain ⟨target, htarget⟩ : ∃ target, min (e₁ - e₂) (Format.binary64.targetExponent
          (totalExponent m₁ e₁ - totalExponent m₂ e₂)) = target := ⟨_, rfl⟩
      have hbound : target ≤ e₁ - e₂ ∧ target ≤ maxExponent := by
        simp only [totalExponent, Format.targetExponent, Format.mantissaBits, Format.minExponent]
          at htarget
        simp only [maxExponent]
        omega
      have hquotient := log2_shiftLeft_div_le m₁ m₂ (e₁ - e₂ - target).toNat
      simp only [UnpackedFloat.div, divCore, htarget]
      refine fits_roundWithAccuracy _ _ ?_ hbound.2
      simp only [maxExponent] at hbound
      simp only [totalExponent]
      omega

/-- A product of finite doubles is a number. -/
theorem isNaN_mul {f g : UnpackedFloat} (hf : Tame f) (hg : Tame g) :
    (UnpackedFloat.mul Format.binary64 f g).isNaN = false := by
  cases f <;> cases g <;> first | exact hf.elim | exact hg.elim | skip
  case finite.finite s₁ m₁ e₁ _ s₂ m₂ e₂ _ =>
    simp only [UnpackedFloat.mul, roundWithAccuracy]
    split <;> rfl
  all_goals rfl

/-- A number is packed as a finite double or as an infinity. -/
theorem isFinite_or_isInf_pack {f : UnpackedFloat} (h : f.isNaN = false) :
    (Float.ofModel (Float.Model.pack f)).isFinite = true ∨
      (Float.ofModel (Float.Model.pack f)).isInf = true := by
  have hinfinity (s : Sign) :
      (UnpackedFloat.unpack Format.binary64 (packedInfinity Format.binary64 s)).isInf = true := by
    simp only [UnpackedFloat.unpack, packedInfinity, unpackExponent_packComponents,
      unpackMantissa_packComponents]
    rfl
  cases f with
  | notANumber => cases h
  | infinity s => exact .inr (hinfinity s)
  | zero s => exact .inl (isFinite_pack (f := .zero s) trivial)
  | finite s m e hm =>
    rcases le_or_gt e maxExponent with he | he
    · exact .inl (isFinite_pack (f := .finite s m e hm) he)
    · right
      simp only [maxExponent] at he
      change (UnpackedFloat.unpack Format.binary64
        (UnpackedFloat.pack Format.binary64 (.finite s m e hm))).isInf = true
      have hbias := biased_toNat e
      simp only [UnpackedFloat.pack, hbias]
      rw [if_pos (by omega)]
      exact hinfinity s

/-- The opposite of what is tame fits. -/
theorem fits_neg {f : UnpackedFloat} (h : Tame f) : Fits f.neg := by
  cases f with
  | zero _ => trivial
  | finite _ _ _ _ => exact h.2
  | infinity _ => exact h.elim
  | notANumber => exact h.elim

/-- A whole number of at most 64 bits fits. -/
theorem fits_ofNat {n : Nat} (h : n < 2 ^ 64) : Fits (UnpackedFloat.ofNat Format.binary64 n) := by
  simp only [UnpackedFloat.ofNat, UnpackedFloat.ofInt, UnpackedFloat.normalize]
  split
  · next hlt => exact absurd (Int.compare_eq_lt.1 hlt) (by omega)
  · trivial
  · next hgt =>
    have hpos : 0 < n := by
      have := Int.compare_eq_gt.1 hgt
      omega
    have hlog : n.log2 < 64 := (Nat.log2_lt hpos.ne').2 h
    simp only [UnpackedFloat.round, decreaseExponent, Int.toNat_natCast]
    obtain ⟨k, hk⟩ : ∃ k, ((0 : Int) - Format.binary64.targetExponent
        (totalExponent n 0)).toNat = k := ⟨_, rfl⟩
    rw [hk]
    have hshifted := log2_shiftLeft_div_le n 1 k
    simp only [Nat.div_one, show Nat.log2 1 = 0 from rfl] at hshifted
    refine fits_roundWithAccuracy _ _ ?_ ?_
    · simp only [totalExponent]
      omega
    · simp only [maxExponent]
      omega

section Doubles

variable {x y : Float}

/-- The double of a whole number of at most 64 bits is finite. -/
theorem isFinite_ofWord (n : Nat) : (ofWord n).isFinite = true :=
  isFinite_pack (fits_ofNat (UInt64.ofNat n).toNat_lt)

/-- The opposite of a finite double is finite. -/
theorem isFinite_neg (h : x.isFinite = true) : (-x).isFinite = true :=
  isFinite_pack (fits_neg (tame_unpack h))

/-- A product of finite doubles is finite, unless it overflows. -/
theorem isFinite_mul (hx : x.isFinite = true) (hy : y.isFinite = true)
    (h : (x * y).isInf = false) : (x * y).isFinite = true := by
  rcases isFinite_or_isInf_pack (isNaN_mul (tame_unpack hx) (tame_unpack hy)) with hfinite | hinf
  · exact hfinite
  · exact absurd (h.symm.trans hinf) Bool.false_ne_true

/-- A power of ten, rounded to the bits of a double. -/
def roundedPowerOfTen (n : Nat) : UnpackedFloat :=
  roundWithAccuracy Format.binary64 .positive (1 <<< 53 * 10 ^ n) (-53) .exact

/-- Larger powers of ten are rounded once. -/
theorem powerOfTen_eq {n : Nat} (hn : 23 ≤ n) (h : n ≤ 307) :
    powerOfTen n = Float.ofModel (Float.Model.pack (roundedPowerOfTen n)) := by
  unfold powerOfTen Float.ofScientific
  rw [dif_neg (by omega)]
  simp only [Bool.false_eq_true, if_false, Float.Model.ofScientific, UnpackedFloat.ofScientific]
  rw [dif_neg Nat.one_ne_zero, if_neg (by simp; omega), if_neg (by simp; omega), if_pos (by simp)]
  rfl

/-- Such a power of ten has 53 bits, and it fits. -/
theorem rounded_powerOfTen {n : Nat} (hn : 1 ≤ n) (h : n ≤ 307) :
    Sizable (roundedPowerOfTen n) ∧ Fits (roundedPowerOfTen n) := by
  have hten : 10 ^ 1 ≤ 10 ^ n ∧ 10 ^ n ≤ 10 ^ 307 :=
    ⟨pow_le_pow_right₀ (by decide) hn, pow_le_pow_right₀ (by decide) h⟩
  have hpos : 1 <<< 53 * 10 ^ n ≠ 0 := Nat.mul_ne_zero (by decide) (Nat.pow_pos (by decide)).ne'
  have hlow : 54 ≤ (1 <<< 53 * 10 ^ n).log2 := by
    refine (Nat.le_log2 hpos).2 (le_trans ?_ (Nat.mul_le_mul_left _ hten.1))
    decide
  have hhigh : (1 <<< 53 * 10 ^ n).log2 < 1076 := by
    have hlog {k : Nat} (h : 1 <<< 53 * 10 ^ n < 2 ^ k) : (1 <<< 53 * 10 ^ n).log2 < k :=
      (Nat.log2_lt hpos).2 h
    have hlimit : 1 <<< 53 * 10 ^ 307 < 2 ^ 1076 := by decide +kernel
    exact hlog ((Nat.mul_le_mul_left _ hten.2).trans_lt hlimit)
  constructor
  · refine sizable_roundWithAccuracy _ _ (by omega) ?_
    simp only [totalExponent]
    omega
  · refine fits_roundWithAccuracy _ _ ?_ (by decide)
    simp only [totalExponent]
    omega

/-- The powers of ten in reach are finite, and from the first on they are at least two. -/
theorem powerOfTen_bounds {n : Nat} (h : n ≤ maxPower) :
    (powerOfTen n).isFinite = true ∧ (0 < n → Large (powerOfTen n).toModel.unpack) := by
  have hsmall : ∀ n < 23, (powerOfTen n).isFinite = true ∧
      (0 < n → Large (powerOfTen n).toModel.unpack) := by decide +kernel
  have hlast : (powerOfTen 308).isFinite = true ∧
      (0 < 308 → Large (powerOfTen 308).toModel.unpack) := by decide +kernel
  have hcases : n < 23 ∨ (23 ≤ n ∧ n ≤ 307) ∨ n = 308 := by
    simp only [maxPower] at h
    omega
  obtain hn | ⟨hn, hn'⟩ | rfl := hcases
  · exact hsmall n hn
  · obtain ⟨hsizable, hfits⟩ := rounded_powerOfTen (Nat.one_le_of_lt hn) hn'
    rw [powerOfTen_eq hn hn']
    exact ⟨isFinite_pack hfits, fun _ => large_pack hsizable hfits⟩
  · exact hlast

/-- A quotient of a finite double by one of them is finite. -/
theorem isFinite_div_powerOfTen {n : Nat} (hx : x.isFinite = true) (hpos : 0 < n)
    (h : n ≤ maxPower) : (x / powerOfTen n).isFinite = true :=
  isFinite_pack (fits_div (tame_unpack hx) ((powerOfTen_bounds h).2 hpos))

/-- Scaling a finite double gives a finite one, if any. -/
theorem isFinite_of_scale? {exponent : Int} (hx : x.isFinite = true)
    (h : scale? x exponent = some y) : y.isFinite = true := by
  fun_induction scale? x exponent with
  | case1 x exponent hreach hsign scaled hinf => cases h
  | case2 x exponent hreach hsign scaled hinf =>
    obtain rfl := Option.some.inj h
    exact isFinite_mul hx (powerOfTen_bounds hreach).1 (Bool.eq_false_iff.2 hinf)
  | case3 x exponent hreach hsign =>
    obtain rfl := Option.some.inj h
    exact isFinite_div_powerOfTen hx (by omega) hreach
  | case4 x exponent hfar hzero =>
    obtain rfl := Option.some.inj h
    exact hx
  | case5 x exponent hfar hzero hsign => cases h
  | case6 x exponent hfar hzero hsign ih =>
    have hpos : 0 < maxPower := by decide
    exact ih (isFinite_div_powerOfTen hx hpos le_rfl) h

/-- Every decimal that is read is a finite double. -/
theorem isFinite_of_read? {negative : Bool} {whole fraction : List Nat} {exponent : Int}
    (h : read? negative whole fraction exponent = some y) : y.isFinite = true := by
  simp only [read?, bind, pure, Option.bind_eq_some_iff, Option.some.injEq] at h
  obtain ⟨x, hscaled, rfl⟩ := h
  have hx := isFinite_of_scale? (isFinite_ofWord _) hscaled
  split
  · exact isFinite_neg hx
  · exact hx

/-- The field of a pattern that holds the exponent. -/
theorem toNat_unpackExponent (bits : BitVec Format.binary64.numBits) :
    (unpackExponent bits).toNat = bits.toNat / fractionSpan % fieldSpan := by
  simp [unpackExponent, fractionSpan, fieldSpan, Nat.shiftRight_eq_div_pow]

/-- The doubles without parts are those that are not finite. -/
theorem Binary.ofFloat?_eq_none_iff : Binary.ofFloat? x = none ↔ x.isFinite = false := by
  let bits : BitVec Format.binary64.numBits := x.toModel.toBits.toBitVec
  change _ ↔ (UnpackedFloat.unpack Format.binary64 bits).isFinite = false
  have hones : x.toBits.toNat / fractionSpan % fieldSpan = 2047 ↔ unpackExponent bits = -1#_ := by
    rw [← BitVec.toNat_inj, toNat_unpackExponent]
    rfl
  unfold Binary.ofFloat?
  by_cases h : x.toBits.toNat / fractionSpan % fieldSpan = 2047
  · simp only [h, if_true, true_iff]
    simp only [UnpackedFloat.unpack]
    rw [if_pos (hones.1 h)]
    split <;> rfl
  · rw [isFinite_unpack (mt hones.2 h)]
    simp only [if_neg h]
    split <;> simp

end Doubles

end AlertDetail.Decimal
