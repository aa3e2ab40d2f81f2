import AlertDetail.Backend.Call

/-!
# Prepared backends

A backend with prepared answers. It fails the calls that it is told to fail, by their kind or more
closely by configuration or offset. While it is gated it answers nothing at once, and its answers
are handed in one by one.
-/

namespace AlertDetail

/-- The kind of a call. -/
def Call.kind : Call → String
  | anomalies .. => "anomalies"
  | preview .. => "preview"
  | bounds .. => "bounds"
  | timeseries .. => "timeseries"
  | report .. => "report"

/-- A kind of calls among those of one kind: previews by configuration, series by offset. -/
def Call.variety? : Call → Option String
  | preview yaml .. => some ("preview:" ++ yaml)
  | timeseries _ _ offset _ => some ("timeseries:" ++ offset.name)
  | _ => none

/-- A backend with prepared answers. -/
structure CannedBackend where
  /-- The detected anomalies. -/
  anomalies : List Anomaly := []
  /-- Evaluations by configuration; the first of two counts. -/
  previews : List (String × Evaluation) := []
  /-- The evaluation of the saved configuration. -/
  bounds : Evaluation := {}
  /-- Series by offset; the empty name stands for all offsets without a series of their own. -/
  series : List (String × TimeSeries) := []
  /-- Kinds and varieties of calls that fail. -/
  failing : List String := []
  /-- The cause of these failures. -/
  failure : String := "backend unavailable"
  /-- Whether calls wait. -/
  gated : Bool := false
  deriving Inhabited

namespace CannedBackend

/-- Whether a call fails. -/
def fails (backend : CannedBackend) (call : Call) : Bool :=
  backend.failing.contains call.kind || call.variety?.any backend.failing.contains

/-- The reply to a call that does not fail. -/
def reply (backend : CannedBackend) : Call → Reply
  | .anomalies .. => .anomalies backend.anomalies
  | .preview yaml .. => .evaluation ((backend.previews.lookup yaml).getD {})
  | .bounds .. => .evaluation backend.bounds
  | .timeseries _ _ offset _ =>
    .series (((backend.series.lookup offset.name).or (backend.series.lookup "")).getD {})
  | .report .. => .accepted

/-- The answer to a call. -/
def answer (backend : CannedBackend) (call : Call) : Answer :=
  if backend.fails call then .error (.fetch backend.failure) else .ok (backend.reply call)

/-- The backend: answers are there at once unless calls wait. -/
def toBackend (backend : CannedBackend) : Backend :=
  fun _ call => if backend.gated then none else some (backend.answer call)

end CannedBackend

end AlertDetail
