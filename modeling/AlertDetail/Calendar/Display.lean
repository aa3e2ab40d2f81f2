import AlertDetail.Calendar.Zone

/-!
# Instants as text

How an instant is shown in the clock of a zone: the day and the time of an anomaly in the table, and
the two ends of a reported stretch of time. Instants outside the calendar have no clock reading and
are shown by a placeholder or as a bare number.
-/

namespace AlertDetail

namespace Reading

/-- The hour from 0 to 23. -/
def hour (reading : Reading) : Nat := reading.second / 3600

/-- The minute from 0 to 59. -/
def minute (reading : Reading) : Nat := reading.second / 60 % 60

/-- The hour on a dial of twelve hours, 12 before one. -/
def dialHour (reading : Reading) : Nat := (reading.hour + 11) % 12 + 1

/-- Which half of the day it is. -/
def half (reading : Reading) : String := if reading.hour < 12 then "AM" else "PM"

end Reading

namespace Zone

/-- The start of an anomaly in the table. -/
def dayText (zone : Zone) (instant : Int) : String :=
  if inCalendar instant then
    let shown := zone.reading instant
    shown.date.monthName ++ " " ++ Date.twoDigits shown.date.day ++ ", " ++
      Date.twoDigits shown.dialHour ++ ":" ++ Date.twoDigits shown.minute ++ " " ++ shown.half
  else "--"

/-- One end of a reported stretch of time. -/
def minuteText (zone : Zone) (instant : Int) : String :=
  if inCalendar instant then
    let shown := zone.reading instant
    shown.date.text ++ " " ++ Date.twoDigits shown.hour ++ ":" ++ Date.twoDigits shown.minute
  else toString instant

/-- A reported stretch of time. -/
def stretchText (zone : Zone) (start stop : Int) : String :=
  zone.minuteText start ++ " - " ++ zone.minuteText stop

end Zone

end AlertDetail
