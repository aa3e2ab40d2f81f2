import AlertDetail.Error
import AlertDetail.Offset
import AlertDetail.Prediction
import AlertDetail.Range
import AlertDetail.Report

/-!
# Calls to the backend

What a view asks of the backend, and what the backend replies. A backend decides for every call
whether it answers at once or later; what it answers is left open.
-/

namespace AlertDetail

/-- A call to the backend. -/
inductive Call where
  /-- The anomalies that were detected for an alert. -/
  | anomalies (alertId : Int) (window : AnalysisRange)
  /-- The evaluation of a configuration. -/
  | preview (yaml : String) (alertId : Int) (window : AnalysisRange)
  /-- The evaluation of the saved configuration of an alert. -/
  | bounds (alertId : Int) (window : AnalysisRange)
  /-- The series of a slice under an offset. -/
  | timeseries (urn : String) (window : AnalysisRange) (offset : Offset) (timezone : String)
  /-- The report of a missed anomaly on a slice. -/
  | report (alertId : Int) (urn : String) (report : Report)
  deriving DecidableEq, Inhabited

/-- What the backend replies. -/
inductive Reply where
  /-- To a call for anomalies. -/
  | anomalies (anomalies : List Anomaly)
  /-- To a call for an evaluation. -/
  | evaluation (evaluation : Evaluation)
  /-- To a call for a series. -/
  | series (series : TimeSeries)
  /-- To a report. -/
  | accepted
  deriving Inhabited

/-- The answer to a call: a reply, or the cause why there is none. -/
abbrev Answer := Except ChartError Reply

namespace Answer

/-- The cause when a reply is of a kind that was not asked for. -/
def unexpected : ChartError := .fetch "unexpected reply"

/-- An answer to a call for anomalies. -/
def anomalies : Answer → Except ChartError (List Anomaly)
  | .ok (.anomalies anomalies) => .ok anomalies
  | .ok _ => .error unexpected
  | .error cause => .error cause

/-- An answer to a call for an evaluation. -/
def evaluation : Answer → Except ChartError Evaluation
  | .ok (.evaluation evaluation) => .ok evaluation
  | .ok _ => .error unexpected
  | .error cause => .error cause

/-- An answer to a call for a series. -/
def series : Answer → Except ChartError TimeSeries
  | .ok (.series series) => .ok series
  | .ok _ => .error unexpected
  | .error cause => .error cause

/-- An answer to a report. -/
def accepted : Answer → Except ChartError Unit
  | .ok .accepted => .ok ()
  | .ok _ => .error unexpected
  | .error cause => .error cause

end Answer

/-- A backend: given the number of a call and the call, the answer if it is there at once. -/
abbrev Backend := Nat → Call → Option Answer

/-- The backend that answers nothing at once. -/
def Backend.later : Backend := fun _ _ => none

end AlertDetail
