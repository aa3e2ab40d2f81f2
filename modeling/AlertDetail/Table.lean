import AlertDetail.Calendar.Display
import AlertDetail.Quality
import AlertDetail.Text.Blank
import AlertDetail.ViewState

/-!
# Table of anomalies

One row for each anomaly, the old set before the new one. An old anomaly keeps the number that it is
stored under; every other row is numbered by its place in the table.
-/

namespace AlertDetail

/-- Which settings an anomaly was detected with. -/
inductive SettingsTag where
  | current
  | old
  | new
  deriving DecidableEq, Repr, Inhabited

/-- The text of a tag. -/
def SettingsTag.name : SettingsTag → String
  | current => "Current"
  | old => "Old"
  | new => "New"

/-- A row of the table. -/
structure AnomalyRow where
  /-- The number of the row. -/
  id : Int
  /-- The slice. -/
  metricUrn : String
  /-- The settings it was detected with. -/
  settings : SettingsTag
  /-- Dimension names, then dimension values. -/
  dimensionText : String
  /-- The start as shown. -/
  startText : String
  /-- Mean of the metric inside. -/
  current : Option Float
  /-- Mean that was expected. -/
  baseline : Option Float
  /-- The rule as shown. -/
  rule : String
  /-- The reviewer as shown. -/
  modifiedBy : String
  /-- Start in epoch milliseconds. -/
  start : Int
  /-- End in epoch milliseconds. -/
  stop : Int
  /-- The verdict as shown. -/
  feedback : Option String
  deriving DecidableEq, Inhabited

namespace AnomalyRow

/-- Stands for a text that is missing. -/
def placeholder : String := "--"

/-- The rule of an anomaly: what stands before the colon in the name of its component. -/
def ruleText (anomaly : Anomaly) : String :=
  match anomaly.component?.filter (· ≠ "") with
  | some component => Text.before ':' component
  | none => placeholder

/-- The reviewer of an anomaly, without the domain of the account; accounts that stand for nobody
are not shown. -/
def reviewerText (feedback : Option AnomalyFeedback) : String :=
  match (feedback.bind (·.updatedBy)).filter fun user => user ≠ "" && user ≠ "no-auth-user" with
  | some user => Text.before '@' user
  | none => placeholder

/-- Dimension names followed by dimension values. -/
def dimensionsText (anomaly : Anomaly) : String :=
  Text.joined "," (anomaly.dimensions.keys ++ anomaly.dimensions.texts)

/-- The verdict on an anomaly: that of its review if there is one, otherwise the one of the
statistics. -/
def verdictText (anomaly : Anomaly) : Option String :=
  let verdict := match anomaly.feedback with
    | some feedback => feedback.feedbackType
    | none => anomaly.statusClassification
  verdict.map fun verdict => if verdict = unreviewed then "NO_FEEDBACK" else verdict

/-- The number of a row: what the anomaly is stored under, unless it is new or has no number. -/
def number (anomaly : Anomaly) (settings : SettingsTag) (place : Nat) : Int :=
  if settings = .new then place else (anomaly.id.filter (· ≠ 0)).getD place

/-- The row of an anomaly at a place of the table. -/
def ofAnomaly (zone : Zone) (place : Nat) (anomaly : Anomaly) (settings : SettingsTag) :
    AnomalyRow where
  id := number anomaly settings place
  metricUrn := anomaly.metricUrn
  settings := settings
  dimensionText := dimensionsText anomaly
  startText := zone.dayText anomaly.startTime
  current := anomaly.avgCurrentVal
  baseline := anomaly.avgBaselineVal
  rule := ruleText anomaly
  modifiedBy := reviewerText anomaly.feedback
  start := anomaly.startTime
  stop := anomaly.endTime
  feedback := verdictText anomaly

/-- Whether the column of settings is shown. -/
def showSettings (edit : Bool) (state : ViewState) : Bool :=
  (edit && state == .replace) || state == .shuffle

/-- The tag of the old set. -/
def oldTag (edit : Bool) (state : ViewState) : SettingsTag :=
  if edit && state == .replace then .current else .old

/-- The rows of the table. -/
def table (old new : List Anomaly) (edit : Bool) (state : ViewState) (zone : Zone) :
    List AnomalyRow :=
  (old.map (·, oldTag edit state) ++ new.map (·, SettingsTag.new)).mapIdx
    fun place (anomaly, settings) => ofAnomaly zone place anomaly settings

end AnomalyRow

end AlertDetail
