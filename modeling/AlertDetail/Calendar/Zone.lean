import AlertDetail.Calendar.Date

/-!
# Time zones

A zone is the offset of its clocks from universal time: one offset up to the first change, another
one from every change on. All are whole seconds. The clock of a zone can skip times and show times
twice; the instants at which it shows a time are searched for from the earliest change on.
-/

namespace AlertDetail

/-- A time zone. -/
structure Zone where
  /-- The name it was asked for by. -/
  name : String
  /-- The offset before the first change, in seconds. -/
  first : Int
  /-- Instants in seconds since the epoch, ascending, with the offset from then on. -/
  changes : List (Int × Int)
  deriving DecidableEq, Repr, Inhabited

/-- A reading of a clock: the date and the second of the day. -/
structure Reading where
  /-- The date. -/
  date : Date
  /-- Seconds since midnight. -/
  second : Nat
  deriving DecidableEq, Repr, Inhabited

/-- Seconds of a day. -/
def daySeconds : Int := 86400

/-- Milliseconds of a day. -/
def dayMillis : Int := 86400000

/-- Whether an instant in epoch milliseconds lies in the calendar. -/
def inCalendar (instant : Int) : Bool :=
  (Date.mk Date.firstYear 1 1).number * dayMillis ≤ instant &&
    instant < ((Date.mk Date.lastYear 12 31).number + 1) * dayMillis

namespace Zone

/-- The zone without offsets. -/
def utc : Zone := ⟨"UTC", 0, []⟩

/-- The offset in force at an instant in seconds, given the one before the listed changes. -/
def offsetAfter (offset : Int) (instant : Int) : List (Int × Int) → Int
  | [] => offset
  | change :: changes =>
    if change.1 ≤ instant then offsetAfter change.2 instant changes else offset

/-- The offset in force at an instant in seconds. -/
def offsetAt (zone : Zone) (instant : Int) : Int :=
  offsetAfter zone.first instant zone.changes

/-- What the clock shows at an instant in seconds, in seconds as if of universal time. -/
def clockAt (zone : Zone) (instant : Int) : Int :=
  instant + zone.offsetAt instant

/-- The earliest instant at which the clock shows a time, among those from `start` on. -/
def earliestAfter? (start : Option Int) (offset : Int) (shown : Int) :
    List (Int × Int) → Option Int
  | [] =>
    let instant := shown - offset
    if start.all (· ≤ instant) then some instant else none
  | change :: changes =>
    let instant := shown - offset
    if start.all (· ≤ instant) && instant < change.1 then some instant
    else earliestAfter? (some change.1) change.2 shown changes

/-- The earliest instant in seconds at which the clock shows a time, none if it skips it. -/
def earliest? (zone : Zone) (shown : Int) : Option Int :=
  earliestAfter? none zone.first shown zone.changes

/-- What the clock shows at an instant in epoch milliseconds. -/
def reading (zone : Zone) (instant : Int) : Reading :=
  let shown := zone.clockAt (instant / 1000)
  ⟨Date.ofNumber (shown / daySeconds), (shown % daySeconds).toNat⟩

/-- The date at an instant in epoch milliseconds. -/
def date (zone : Zone) (instant : Int) : Date := (zone.reading instant).date

/-- Minutes after midnight that the start of a day is searched in. -/
def searchedMinutes : Nat := 180

/-- The start of a day in epoch milliseconds: local midnight, the earlier one if it comes twice,
and where midnight is skipped the first whole minute after it that is not. -/
def startOfDay? (zone : Zone) (date : Date) : Option Int :=
  (List.range (searchedMinutes + 1)).findSome? fun minutes =>
    match zone.earliest? (date.number * daySeconds + 60 * Int.ofNat minutes) with
    | some instant => if inCalendar (instant * 1000) then some (instant * 1000) else none
    | none => none

end Zone

end AlertDetail
