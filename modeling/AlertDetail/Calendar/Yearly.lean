import AlertDetail.Calendar.Date

/-!
# Yearly clock changes

Clock changes that come back every year on the same weekday of the same week of a month, spelled out
for a range of years. The clocks are set at a second of the day as they show it before the change.
-/

namespace AlertDetail

/-- A clock change that comes every year. -/
structure YearlyChange where
  /-- The month, from 1. -/
  month : Nat
  /-- The week of the month, from 1; 5 is the last one. -/
  week : Nat
  /-- The weekday, 0 for Sunday. -/
  weekday : Nat
  /-- The second of the day, on the clock before the change. -/
  second : Int
  /-- The offset before the change. -/
  fromOffset : Int
  /-- The offset after the change. -/
  toOffset : Int

namespace YearlyChange

/-- The day of the change in a year, in days since the epoch. -/
def day (change : YearlyChange) (year : Int) : Int :=
  let first := (Date.mk year change.month 1).number
  let inFirstWeek := first + (change.weekday - (first + 4)) % 7
  let day := inFirstWeek + 7 * (change.week - 1)
  if day < first + Date.monthLength year change.month then day else day - 7

/-- The instant of the change in a year, in seconds, with the offset from then on. -/
def inYear (change : YearlyChange) (year : Int) : Int × Int :=
  (change.day year * 86400 + change.second - change.fromOffset, change.toOffset)

/-- The changes of `count` years from a year on; those of one year in the order given. -/
def spelledOut (changes : List YearlyChange) (year : Int) (count : Nat) : List (Int × Int) :=
  (List.range count).flatMap fun n => changes.map (·.inYear (year + n))

end YearlyChange

end AlertDetail
