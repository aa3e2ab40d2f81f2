import AlertDetail.Proofs.Calendar.Dates

/-!
# Months and their days

Months are counted through from the first month of year zero. They follow each other without gaps,
each from 28 to 31 days long, so a date lies in its month, and the date a number of months earlier
lies in that earlier month, on the same day of it or on its last one.
-/

namespace AlertDetail.Date

/-- Months from the first one of year zero up to that of a date. -/
def monthIndex (date : Date) : Int := 12 * date.year + (date.month - 1)

/-- The date on which a month begins. -/
def firstOfMonth (index : Int) : Date := ⟨index / 12, (index % 12).toNat + 1, 1⟩

/-- Days of a month. -/
def daysOfMonth (index : Int) : Nat := monthLength (index / 12) ((index % 12).toNat + 1)

/-- Months are from 28 to 31 days long. -/
theorem daysOfMonth_bounds (index : Int) : 28 ≤ daysOfMonth index ∧ daysOfMonth index ≤ 31 := by
  have hmonth : (index % 12).toNat < (monthLengths (index / 12)).length :=
    show (index % 12).toNat < 12 by omega
  have hlengths : ∀ length ∈ monthLengths (index / 12), 28 ≤ length ∧ length ≤ 31 := by
    unfold monthLengths februaryDays
    split <;> decide
  unfold daysOfMonth
  rw [Nat.add_comm, monthLength_eq hmonth]
  exact hlengths _ (List.getElem_mem hmonth)

/-- The next month of a year begins when a month is over. -/
theorem daysBeforeMonth_succ {year : Int} {months : Nat} (h : months < 12) :
    daysBeforeMonth year (months + 1 + 1) =
      daysBeforeMonth year (months + 1) + monthLength year (months + 1) := by
  have hmonth : months < (monthLengths year).length := h
  have hlength : monthLength year (months + 1) = (monthLengths year)[months] := by
    rw [Nat.add_comm, monthLength_eq hmonth]
  rw [daysBeforeMonth_eq, daysBeforeMonth_eq, hlength]
  exact List.sum_take_succ _ _ hmonth

/-- A year is over when its last month is. -/
theorem daysBeforeMonth_last (year : Int) : daysBeforeMonth year 13 = yearLength year := by
  rw [daysBeforeMonth_eq]
  exact congrArg List.sum (List.take_of_length_le (Nat.le_refl 12))

/-- Each month begins when the one before is over, also at the turn of a year. -/
theorem number_firstOfMonth_succ (index : Int) :
    (firstOfMonth (index + 1)).number = (firstOfMonth index).number + daysOfMonth index := by
  have hover := @daysBeforeMonth_succ (index / 12) (index % 12).toNat (by omega)
  by_cases hlast : index % 12 = 11
  · have hyear : (index + 1) / 12 = index / 12 + 1 := by omega
    have hmonth : (index + 1) % 12 = 0 := by omega
    have hbegun : daysBeforeMonth (index / 12 + 1) (0 + 1) = 0 := rfl
    have hyearOver : daysBeforeMonth (index / 12) (11 + 1 + 1) = yearLength (index / 12) :=
      daysBeforeMonth_last (index / 12)
    simp only [hlast, Int.reduceToNat] at hover
    simp only [firstOfMonth, number, daysOfMonth, hyear, hmonth, hlast, daysBeforeYear_succ,
      Int.reduceToNat]
    omega
  · have hyear : (index + 1) / 12 = index / 12 := by omega
    have hmonth : ((index + 1) % 12).toNat = (index % 12).toNat + 1 := by omega
    simp only [firstOfMonth, number, daysOfMonth, hyear, hmonth]
    rw [hover]
    omega

/-- A later month begins when an earlier one is over, or later. -/
theorem number_firstOfMonth_le {index later : Int} (h : index < later) :
    (firstOfMonth index).number + daysOfMonth index ≤ (firstOfMonth later).number := by
  obtain ⟨months, rfl⟩ := Int.le.dest (show index + 1 ≤ later from h)
  induction months with
  | zero =>
    rw [Int.natCast_zero, Int.add_zero]
    exact Int.le_of_eq (number_firstOfMonth_succ index).symm
  | succ months ih =>
    have hstep := number_firstOfMonth_succ (index + 1 + months)
    have hearlier := ih (by omega)
    rw [Int.natCast_succ, ← Int.add_assoc]
    omega

/-- A date lies in its month. -/
theorem Valid.number_eq {date : Date} (h : date.Valid) :
    date.number = (firstOfMonth date.monthIndex).number + (date.day - 1) := by
  have hmonth := h.month
  have hyear : date.monthIndex / 12 = date.year := by
    unfold monthIndex
    omega
  have hmonth' : (date.monthIndex % 12).toNat + 1 = date.month := by
    unfold monthIndex
    omega
  simp only [firstOfMonth, number, hyear, hmonth']
  omega

/-- A date some months earlier lies in that month, on the same day or on the last one. -/
theorem number_minusMonths {date earlier : Date} {months : Nat}
    (h : date.minusMonths? months = some earlier) :
    earlier.number = (firstOfMonth (date.monthIndex - months)).number +
      (min date.day (daysOfMonth (date.monthIndex - months)) - 1) := by
  unfold minusMonths? checked? at h
  dsimp only at h
  split at h
  · obtain rfl := Option.some.inj h
    simp only [firstOfMonth, number, daysOfMonth, monthIndex, Int.ofNat_eq_natCast]
    omega
  · contradiction

/-- The more months earlier, the earlier the date. -/
theorem Valid.minusMonths_lt {date later earlier : Date} (hdate : date.Valid) {fewer more : Nat}
    (hlater : date.minusMonths? fewer = some later)
    (hearlier : date.minusMonths? more = some earlier) (h : fewer < more) :
    earlier.number < later.number := by
  have hday := hdate.day.1
  have hover := number_firstOfMonth_le
    (show date.monthIndex - more < date.monthIndex - fewer by omega)
  have hlength := daysOfMonth_bounds (date.monthIndex - fewer)
  rw [number_minusMonths hlater, number_minusMonths hearlier]
  omega

/-- A date some months earlier is at least four weeks earlier. -/
theorem Valid.minusMonths_le {date earlier : Date} (hdate : date.Valid) {months : Nat}
    (h : date.minusMonths? months = some earlier) (hmonths : 0 < months) :
    earlier.number + 28 ≤ date.number := by
  have hday := hdate.day.1
  have hover := number_firstOfMonth_le (show date.monthIndex - months < date.monthIndex by omega)
  have hlength := daysOfMonth_bounds (date.monthIndex - months)
  rw [number_minusMonths h, hdate.number_eq]
  omega

/-- A date a number of days earlier has a number that is less by so many. -/
theorem number_minusDays {date earlier : Date} {days : Int}
    (h : date.minusDays? days = some earlier) : earlier.number = date.number - days := by
  unfold minusDays? checked? at h
  split at h
  · rw [← Option.some.inj h, number_ofNumber]
  · contradiction

/-- The next date is one that the calendar has, with the next number. -/
theorem valid_next {date tomorrow : Date} (h : date.next? = some tomorrow) :
    tomorrow.Valid ∧ tomorrow.number = date.number + 1 := by
  constructor
  · unfold next? minusDays? checked? at h
    split at h
    · rw [← Option.some.inj h]
      exact valid_ofNumber _
    · contradiction
  · rw [number_minusDays h, Int.sub_neg]

end AlertDetail.Date
