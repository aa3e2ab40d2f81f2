import AlertDetail.Calendar.Date
import Mathlib.Algebra.BigOperators.Group.List.Basic
import Mathlib.Algebra.GroupWithZero.Nat

/-!
# Dates and their numbers

Days and dates correspond: every number of days is that of one date, and that date is found again
from it. Years follow each other without gaps or overlaps, and so do the months of a year.
-/

namespace AlertDetail.Date

/-- A date that the calendar has: its month is one of the year and its day one of the month. -/
structure Valid (date : Date) : Prop where
  /-- The month is one of the year. -/
  month : 1 ≤ date.month ∧ date.month ≤ 12
  /-- The day is one of the month. -/
  day : 1 ≤ date.day ∧ date.day ≤ monthLength date.year date.month

/-- The first date of the calendar. -/
def earliest : Date := ⟨firstYear, 1, 1⟩

/-- The last date of the calendar. -/
def latest : Date := ⟨lastYear, 12, 31⟩

/-- Days of a year. -/
def yearLength (year : Int) : Nat := (monthLengths year).sum

/-- A year has 365 days, and one more with a 29th of February. -/
theorem yearLength_eq (year : Int) : yearLength year = if isLeap year then 366 else 365 := by
  unfold yearLength monthLengths februaryDays
  split <;> rfl

/-- The next year begins when a year is over. -/
theorem daysBeforeYear_succ (year : Int) :
    daysBeforeYear (year + 1) = daysBeforeYear year + yearLength year := by
  rw [yearLength_eq]
  unfold daysBeforeYear
  by_cases hleap : isLeap year = true
  · rw [if_pos hleap]
    have hrule : year % 4 = 0 ∧ (year % 100 ≠ 0 ∨ year % 400 = 0) := by
      simpa [isLeap] using hleap
    omega
  · rw [if_neg hleap]
    have hrule : year % 4 = 0 → year % 100 = 0 ∧ year % 400 ≠ 0 := by
      simpa [isLeap] using hleap
    omega

/-- A year begins when as many mean years are over, up to two days. -/
theorem daysBeforeYear_bounds (year : Int) :
    146097 * year - 400 ≤ 400 * daysBeforeYear year ∧
      400 * daysBeforeYear year ≤ 146097 * year + 700 := by
  unfold daysBeforeYear
  omega

/-- Later years begin later. -/
theorem daysBeforeYear_mono {year later : Int} (h : year ≤ later) :
    daysBeforeYear year ≤ daysBeforeYear later := by
  obtain ⟨years, rfl⟩ := Int.le.dest h
  induction years with
  | zero => simp
  | succ years ih =>
    have hstep := daysBeforeYear_succ (year + years)
    have hearlier := ih (by omega)
    rw [Int.natCast_succ, ← Int.add_assoc]
    omega

/-- The year that a day is found in has begun by then and is not over. -/
theorem yearOf_spec (day : Int) :
    daysBeforeYear (yearOf day) ≤ day ∧ day < daysBeforeYear (yearOf day + 1) := by
  unfold yearOf
  dsimp only
  have hbefore := (daysBeforeYear_bounds (400 * day / 146097 - 1)).2
  have hbehind := (daysBeforeYear_bounds (400 * day / 146097 + 1 + 1)).1
  split
  · next hlate =>
    rw [Int.sub_add_cancel]
    exact ⟨by omega, hlate⟩
  · split
    · next hearly => exact ⟨hearly, by omega⟩
    · omega

/-- No other year is so. -/
theorem eq_yearOf {day year : Int} (hbegun : daysBeforeYear year ≤ day)
    (hover : day < daysBeforeYear (year + 1)) : yearOf day = year := by
  obtain ⟨hbegun', hover'⟩ := yearOf_spec day
  rcases Int.lt_trichotomy (yearOf day) year with hlt | heq | hgt
  · have hmono := daysBeforeYear_mono (show yearOf day + 1 ≤ year by omega)
    omega
  · exact heq
  · have hmono := daysBeforeYear_mono (show year + 1 ≤ yearOf day by omega)
    omega

/-- Days of a year before a month are those of the months before. -/
theorem daysBeforeMonth_eq (year : Int) (month : Nat) :
    daysBeforeMonth year month = ((monthLengths year).take (month - 1)).sum := by
  rw [daysBeforeMonth, List.sum_eq_foldl]

/-- A day is located in the month that it falls into when the months before it are taken off. -/
theorem locate_spec (first : Nat) {lengths : List Nat} {rest : Nat} (h : rest < lengths.sum) :
    ∃ months day, locate first lengths rest = (first + months, day + 1) ∧
      ∃ hmonths : months < lengths.length, day < lengths[months] ∧
        (lengths.take months).sum + day = rest := by
  induction lengths generalizing first rest with
  | nil => exact absurd h (Nat.not_lt_zero rest)
  | cons length lengths ih =>
    rw [locate]
    by_cases hrest : rest < length
    · rw [if_pos hrest]
      exact ⟨0, rest, rfl, Nat.zero_lt_succ _, hrest, Nat.zero_add rest⟩
    · rw [if_neg hrest]
      rw [List.sum_cons] at h
      obtain ⟨months, day, hlocate, hmonths, hday, hsum⟩ :=
        ih (first + 1) (show rest - length < lengths.sum by omega)
      refine ⟨months + 1, day, ?_, Nat.succ_lt_succ hmonths, hday, ?_⟩
      · rw [hlocate, Nat.add_assoc, Nat.add_comm 1 months]
      · rw [List.take_succ_cons, List.sum_cons]
        omega

/-- Months are counted from one. -/
theorem monthLength_eq {year : Int} {months : Nat} (h : months < (monthLengths year).length) :
    monthLength year (1 + months) = (monthLengths year)[months] := by
  rw [monthLength, Nat.add_sub_cancel_left, List.getD_eq_getElem?_getD,
    List.getElem?_eq_getElem h, Option.getD_some]

/-- Any day of a month is located there. -/
theorem locate_eq (first : Nat) {lengths : List Nat} {months day : Nat}
    (hmonths : months < lengths.length) (hday : day < lengths[months]) :
    locate first lengths ((lengths.take months).sum + day) = (first + months, day + 1) := by
  induction lengths generalizing first months with
  | nil => exact absurd hmonths (Nat.not_lt_zero months)
  | cons length lengths ih =>
    rw [locate]
    cases months with
    | zero =>
      have hfirst : day < length := hday
      simp [hfirst]
    | succ months =>
      have hlater := ih (first + 1) (Nat.lt_of_succ_lt_succ hmonths) hday
      have hrest : (lengths.take months).sum + day =
          ((length :: lengths).take (months + 1)).sum + day - length := by
        rw [List.take_succ_cons, List.sum_cons]
        omega
      have hnot : ¬ ((length :: lengths).take (months + 1)).sum + day < length := by
        rw [List.take_succ_cons, List.sum_cons]
        omega
      rw [if_neg hnot, ← hrest, hlater, Nat.add_assoc, Nat.add_comm 1 months]

/-- The day of the year of a day, counted from zero. -/
theorem dayOfYear_lt (day : Int) :
    (day - daysBeforeYear (yearOf day)).toNat < (monthLengths (yearOf day)).sum := by
  obtain ⟨hbegun, hover⟩ := yearOf_spec day
  rw [daysBeforeYear_succ] at hover
  unfold yearLength at hover
  omega

/-- Every number of days is that of its date. -/
theorem number_ofNumber (number : Int) : (ofNumber number).number = number := by
  obtain ⟨hbegun, -⟩ := yearOf_spec (number + epoch)
  obtain ⟨months, day, hlocate, -, -, hsum⟩ := locate_spec 1 (dayOfYear_lt (number + epoch))
  unfold ofNumber
  dsimp only
  rw [hlocate]
  dsimp only [Date.number]
  rw [daysBeforeMonth_eq, Nat.add_sub_cancel_left]
  omega

/-- The date of any number of days is one that the calendar has. -/
theorem valid_ofNumber (number : Int) : (ofNumber number).Valid := by
  obtain ⟨months, day, hlocate, hmonths, hday, -⟩ := locate_spec 1 (dayOfYear_lt (number + epoch))
  have htwelve : months < 12 := hmonths
  unfold ofNumber
  dsimp only
  rw [hlocate]
  refine ⟨⟨Nat.le_add_right 1 months, by dsimp only; omega⟩, Nat.le_add_left 1 day, ?_⟩
  dsimp only
  rw [monthLength_eq hmonths]
  exact hday

/-- A date is found again from its number. -/
theorem ofNumber_number {date : Date} (h : date.Valid) : ofNumber date.number = date := by
  obtain ⟨year, month, day⟩ := date
  obtain ⟨⟨hfirst, hlast⟩, hday, hlength⟩ := h
  dsimp only at hfirst hlast hday hlength
  obtain ⟨months, rfl⟩ := Nat.exists_eq_add_of_le hfirst
  obtain ⟨earlier, rfl⟩ := Nat.exists_eq_add_of_le hday
  have hmonths : months < (monthLengths year).length := show months < 12 by omega
  have hinMonth : earlier < (monthLengths year)[months] := by
    rw [monthLength_eq hmonths] at hlength
    omega
  have hday : Date.number ⟨year, 1 + months, 1 + earlier⟩ + epoch =
      daysBeforeYear year + (((monthLengths year).take months).sum + earlier : Nat) := by
    dsimp only [Date.number]
    rw [daysBeforeMonth_eq, Nat.add_sub_cancel_left]
    omega
  have hinYear : ((monthLengths year).take months).sum + earlier < yearLength year := by
    have hsplit := List.sum_take_add_sum_drop (monthLengths year) months
    rw [List.drop_eq_getElem_cons hmonths, List.sum_cons] at hsplit
    unfold yearLength
    omega
  have hyear : yearOf (daysBeforeYear year +
      (((monthLengths year).take months).sum + earlier : Nat)) = year := by
    refine eq_yearOf (by omega) ?_
    rw [daysBeforeYear_succ]
    omega
  have hrest : (daysBeforeYear year + (((monthLengths year).take months).sum + earlier : Nat) -
      daysBeforeYear year).toNat = ((monthLengths year).take months).sum + earlier := by
    omega
  unfold ofNumber
  dsimp only
  rw [hday, hyear, hrest, locate_eq 1 hmonths hinMonth, Nat.add_comm 1 earlier]

/-- A number of days belongs to one date. -/
theorem ofNumber_eq_iff {date : Date} (h : date.Valid) {number : Int} :
    ofNumber number = date ↔ number = date.number := by
  constructor
  · rintro rfl
    exact (number_ofNumber number).symm
  · rintro rfl
    exact ofNumber_number h

end AlertDetail.Date
