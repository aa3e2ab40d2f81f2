import AlertDetail.Error
import AlertDetail.Text.Blank
import AlertDetail.TextMap

/-!
# Reports of missed anomalies

A user reports an anomaly that was not detected by filling in a form. Every field of the form may be
missing until it is checked; a checked report has a start, an end and a verdict, and whatever else
was filled in.
-/

namespace AlertDetail

/-- A form as it was filled in. -/
structure ReportForm where
  /-- Start in epoch milliseconds. -/
  startTime : Option Int := none
  /-- End in epoch milliseconds. -/
  endTime : Option Int := none
  /-- The verdict. -/
  feedbackType : Option String := none
  /-- Everything else, by name. -/
  extra : TextMap := .empty
  deriving DecidableEq, Inhabited

/-- A checked report. -/
structure Report where
  /-- Start in epoch milliseconds, not zero. -/
  startTime : Int
  /-- End in epoch milliseconds, not zero. -/
  endTime : Int
  /-- The verdict, not empty and without blanks around it. -/
  feedbackType : String
  /-- Everything else, by name. -/
  extra : TextMap
  deriving DecidableEq, Inhabited

namespace ReportForm

/-- A time that counts as given: zero does not. -/
def given (time : Option Int) : Option Int := time.filter (· ≠ 0)

/-- The verdict without blanks around it, if anything is left. -/
def verdict (form : ReportForm) : Option String :=
  (form.feedbackType.map Text.trim).filter (· ≠ "")

/-- Names of the required fields that are missing, in the order of the form. -/
def missing (form : ReportForm) : List String :=
  (if (given form.startTime).isNone then ["startTime"] else []) ++
    (if (given form.endTime).isNone then ["endTime"] else []) ++
    (if form.verdict.isNone then ["feedbackType"] else [])

/-- The report of a complete form; otherwise the failure that names every missing field. -/
def check (form : ReportForm) : Except ChartError Report :=
  match given form.startTime, given form.endTime, form.verdict with
  | some startTime, some endTime, some feedbackType =>
    .ok ⟨startTime, endTime, feedbackType, form.extra⟩
  | _, _, _ => .error (.validation ("missing data: " ++ Text.joined ", " form.missing))

end ReportForm

/-- A report as named texts: the required fields first, then the others by name. -/
def Report.pairs (report : Report) : List (String × String) :=
  [("startTime", toString report.startTime), ("endTime", toString report.endTime),
    ("feedbackType", report.feedbackType)] ++ report.extra.entries

end AlertDetail
