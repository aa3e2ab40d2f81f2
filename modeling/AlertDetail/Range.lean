import AlertDetail.Calendar.Zone
import AlertDetail.Error
import AlertDetail.Text.Blank
import AlertDetail.Text.Case

/-!
# Ranges of analysis

The stretch of time that a chart shows, and the two ways to choose one without giving its bounds: a
preset length, or the window that an alert opens with. Both run from the start of a day to the start
of tomorrow in the zone of the chart. Instants are in milliseconds since the epoch.
-/

namespace AlertDetail

/-- A stretch of time. Only the checked constructor promises that it starts before it ends. -/
structure AnalysisRange where
  /-- The first instant. -/
  start : Int
  /-- The first instant after it. -/
  stop : Int
  deriving DecidableEq, Repr, Inhabited

namespace AnalysisRange

/-- A range with given bounds, refused unless it starts before it ends. -/
def new (start stop : Int) : Except ChartError AnalysisRange :=
  if start < stop then .ok ⟨start, stop⟩ else .error (.invalidRange start stop)

/-- The part that anomalies are asked for: it does not reach past the present. -/
def upTo (range : AnalysisRange) (now : Int) : AnalysisRange :=
  ⟨range.start, min range.stop now⟩

theorem new_eq_ok_iff {start stop : Int} {range : AnalysisRange} :
    new start stop = .ok range ↔ start < stop ∧ range = ⟨start, stop⟩ := by
  unfold new
  split
  · simp [*, eq_comm]
  · simp [*]

end AnalysisRange

/-- A named length of a range. -/
inductive RangePreset where
  /-- Two days. -/
  | hours48
  /-- One week. -/
  | week1
  /-- One month. -/
  | month1
  /-- Three months. -/
  | month3
  /-- Bounds of its own. -/
  | custom
  deriving DecidableEq, Repr, Inhabited

namespace RangePreset

/-- The name of a preset. -/
def name : RangePreset → String
  | hours48 => "48h"
  | week1 => "1w"
  | month1 => "1m"
  | month3 => "3m"
  | custom => "custom"

/-- Presets offered for choice, in the order shown. -/
def options : List RangePreset := [hours48, week1, month1, month3]

/-- Every preset. -/
def all : List RangePreset := options ++ [custom]

/-- The preset with a name. -/
def ofName? (name : String) : Option RangePreset := all.find? (·.name = name)

/-- The preset that a user typed: blanks around it and case do not matter. -/
def parse (typed : String) : Except ChartError RangePreset :=
  let name := Text.lower (Text.trim typed)
  match ofName? name with
  | some preset => .ok preset
  | none => .error (.validation ("unknown range preset " ++ name))

/-- The first day of a preset that ends today. -/
def firstDay? (preset : RangePreset) (today : Date) : Option Date :=
  match preset with
  | hours48 => today.minusDays? 2
  | week1 => today.minusDays? 7
  | month1 => today.minusMonths? 1
  | month3 => today.minusMonths? 3
  | custom => none

/-- The range of a preset: from the start of its first day to the start of tomorrow. -/
def range? (preset : RangePreset) (now : Int) (zone : Zone) : Option AnalysisRange := do
  let today := zone.date now
  let firstDay ← preset.firstDay? today
  let tomorrow ← today.next?
  let start ← zone.startOfDay? firstDay
  let stop ← zone.startOfDay? tomorrow
  (AnalysisRange.new start stop).toOption

theorem mem_all (preset : RangePreset) : preset ∈ all := by
  cases preset <;> decide

end RangePreset

namespace AnalysisRange

/-- The window of an alert that states none: 48 hours. -/
def defaultWindow : Int := 172800000

/-- A window that counts: one without length stands for the default. -/
def effectiveWindow (window : Int) : Int :=
  if 0 < window then window else defaultWindow

/-- The start of a day, or the failure that the day has none. -/
def startOfDay (zone : Zone) (date : Date) : Except ChartError Int :=
  match zone.startOfDay? date with
  | some instant => .ok instant
  | none => .error (.validation ("no local midnight on " ++ date.text))

/-- The range that a window opens with: from the start of the day on which the window began to the
start of tomorrow. -/
def ofWindow (now window : Int) (zone : Zone) : Except ChartError AnalysisRange := do
  let window := effectiveWindow window
  unless inCalendar (now - window) do
    throw (.validation ("analysis window of " ++ toString window ++ "ms overflows the calendar"))
  match (zone.date now).next? with
  | none => throw (.validation "analysis range end overflows the calendar")
  | some tomorrow =>
    let start ← startOfDay zone (zone.date (now - window))
    let stop ← startOfDay zone tomorrow
    new start stop

end AnalysisRange

/-- The preset that a window is shown as. -/
def RangePreset.ofWindow (window : Int) : RangePreset :=
  if window ≤ 0 ∨ window = AnalysisRange.defaultWindow then hours48 else custom

end AlertDetail
