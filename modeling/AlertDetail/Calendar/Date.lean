/-!
# Dates

Dates of the proleptic Gregorian calendar, with year zero and negative years, and their number of
days since the epoch. The calendar ends at fixed years on both sides; an operation that would leave
it gives none. Subtracting months keeps the day of the month or moves it back to the last one.
-/

namespace AlertDetail

/-- A date. Every value that this module builds has a month from 1 to 12 and a day of that month. -/
structure Date where
  /-- The year; year zero is a leap year. -/
  year : Int
  /-- The month, from 1. -/
  month : Nat
  /-- The day of the month, from 1. -/
  day : Nat
  deriving DecidableEq, Repr, Inhabited

namespace Date

/-- First year of the calendar. -/
def firstYear : Int := -262143

/-- Last year of the calendar. -/
def lastYear : Int := 262142

/-- Whether a year has a 29th of February. -/
def isLeap (year : Int) : Bool :=
  year % 4 == 0 && (year % 100 != 0 || year % 400 == 0)

/-- Days of February. -/
def februaryDays (year : Int) : Nat := if isLeap year then 29 else 28

/-- Days of each month of a year. -/
def monthLengths (year : Int) : List Nat :=
  [31, februaryDays year, 31, 30, 31, 30, 31, 31, 30, 31, 30, 31]

/-- Days of one month. -/
def monthLength (year : Int) (month : Nat) : Nat :=
  (monthLengths year).getD (month - 1) 0

/-- Days from the first day of year zero up to the first day of a year. -/
def daysBeforeYear (year : Int) : Int :=
  365 * year + (year + 3) / 4 - (year + 99) / 100 + (year + 399) / 400

/-- Days of a year before a month. -/
def daysBeforeMonth (year : Int) (month : Nat) : Nat :=
  ((monthLengths year).take (month - 1)).foldl (· + ·) 0

/-- Days from the first day of year zero up to the epoch. -/
def epoch : Int := 719528

/-- Days since the epoch; negative before it. -/
def number (date : Date) : Int :=
  daysBeforeYear date.year + daysBeforeMonth date.year date.month + date.day - 1 - epoch

/-- The year that holds a day, counted from the first day of year zero. The mean length of a year
gives it up to one. -/
def yearOf (day : Int) : Int :=
  let guess := 400 * day / 146097
  if day < daysBeforeYear guess then guess - 1
  else if daysBeforeYear (guess + 1) ≤ day then guess + 1
  else guess

/-- Month and day of month of a day of the year, counted from zero, along the lengths of the months
from `month` on. -/
def locate (month : Nat) : (lengths : List Nat) → (dayOfYear : Nat) → Nat × Nat
  | [], rest => (month, rest + 1)
  | length :: lengths, rest =>
    if rest < length then (month, rest + 1) else locate (month + 1) lengths (rest - length)

/-- The date with a number of days since the epoch. -/
def ofNumber (number : Int) : Date :=
  let day := number + epoch
  let year := yearOf day
  let (month, dayOfMonth) := locate 1 (monthLengths year) (day - daysBeforeYear year).toNat
  ⟨year, month, dayOfMonth⟩

/-- The date itself while it lies in the calendar. -/
def checked? (date : Date) : Option Date :=
  if firstYear ≤ date.year ∧ date.year ≤ lastYear then some date else none

/-- The date a number of days earlier. -/
def minusDays? (date : Date) (days : Int) : Option Date :=
  (ofNumber (date.number - days)).checked?

/-- The next day. -/
def next? (date : Date) : Option Date := date.minusDays? (-1)

/-- The date a number of months earlier, on the same day of the month or on its last day. -/
def minusMonths? (date : Date) (months : Nat) : Option Date :=
  let index := 12 * date.year + (Int.ofNat date.month - 1) - months
  let year := index / 12
  let month := (index % 12).toNat + 1
  checked? ⟨year, month, min date.day (monthLength year month)⟩

/-- Digits of a number, at least two of them. -/
def twoDigits (n : Nat) : String :=
  if n < 10 then "0" ++ toString n else toString n

/-- A year with at least four digits, and a sign outside 0 to 9999. -/
def yearText (year : Int) : String :=
  let digits := toString year.natAbs
  let padding : String := .ofList (List.replicate (4 - digits.length) '0')
  let sign := if year < 0 then "-" else if 9999 < year then "+" else ""
  sign ++ padding ++ digits

/-- Year, month and day. -/
def text (date : Date) : String :=
  yearText date.year ++ "-" ++ twoDigits date.month ++ "-" ++ twoDigits date.day

/-- Short English name of the month. -/
def monthName (date : Date) : String :=
  ["Jan", "Feb", "Mar", "Apr", "May", "Jun", "Jul", "Aug", "Sep", "Oct", "Nov", "Dec"].getD
    (date.month - 1) ""

end Date

end AlertDetail
