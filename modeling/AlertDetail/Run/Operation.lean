import AlertDetail.Backend.Call
import AlertDetail.Run.LiveView

/-!
# Operations

What a user or a program can do with a view, how it comes out, and what an operation remembers while
it waits for the backend.
-/

namespace AlertDetail

/-- An operation on a view. -/
inductive Operation where
  /-- Load the view for the first time; a draft waits until its preview is requested. -/
  | start
  /-- Load on request, also after a failure. -/
  | requestPreview
  /-- Load because something changed, unless the last load failed. -/
  | triggerFetch
  /-- Change the configuration to evaluate. -/
  | setYaml (yaml : String)
  /-- Select a rule. -/
  | selectRule (rule : Rule)
  /-- Select a slice by its label. -/
  | selectDimension (label : String)
  /-- Select a baseline. -/
  | selectBaseline (offset : Offset)
  /-- Select a range by its bounds. -/
  | selectRange (start stop : Int) (duration : RangePreset)
  /-- Select a range by its name. -/
  | selectPreset (preset : RangePreset)
  /-- Report a missed anomaly. -/
  | submitReport (form : ReportForm)
  deriving DecidableEq, Inhabited

/-- How a load comes out. -/
inductive LoadOutcome where
  /-- Everything is loaded, or there was nothing to load. -/
  | completed
  /-- Another load was in flight. -/
  | dropped
  /-- The last load failed, and nobody asked for another. -/
  | suppressed
  /-- The load failed. -/
  | failed
  deriving DecidableEq, Repr, Inhabited

/-- The name of an outcome. -/
def LoadOutcome.name : LoadOutcome → String
  | completed => "completed"
  | dropped => "dropped"
  | suppressed => "suppressed"
  | failed => "failed"

/-- How an operation comes out. -/
inductive Result where
  /-- A load came out so. -/
  | loaded (outcome : LoadOutcome)
  /-- The operation succeeded. -/
  | done
  /-- The operation succeeded; it changed something or not. -/
  | changed (flag : Bool)
  /-- The operation was refused or failed. -/
  | refused (cause : ChartError)
  deriving DecidableEq, Repr, Inhabited

/-- What a request for series is made for. -/
inductive Purpose where
  /-- The last part of a load. -/
  | load
  /-- A rule or a slice was selected. -/
  | selection
  /-- A baseline was selected. -/
  | baseline
  deriving DecidableEq, Repr, Inhabited

namespace Purpose

/-- How an operation comes out when its series are there. -/
def success : Purpose → Result
  | load => .loaded .completed
  | selection => .done
  | baseline => .changed true

/-- How an operation comes out when its series failed. -/
def failure (cause : ChartError) : Purpose → Result
  | load => .loaded .failed
  | selection => .refused cause
  | baseline => .refused cause

end Purpose

/-- One pass of a load: what it was planned from when it began. -/
structure Pass where
  /-- The alert. -/
  alertId : Int
  /-- Where the anomalies go. -/
  viewState : ViewState
  /-- Whether a draft is evaluated. -/
  preview : Bool
  /-- Whether rules are visible. -/
  rulesVisible : Bool
  /-- Whether the buckets of the metric are whole days. -/
  isDaily : Bool
  /-- The configuration to evaluate. -/
  config : Option String
  /-- The range shown. -/
  range : AnalysisRange
  /-- The part of the range that is evaluated. -/
  window : AnalysisRange
  /-- Whether this is the second pass, after the one for the reference. -/
  reentered : Bool
  deriving DecidableEq, Inhabited

namespace Pass

/-- Where a pass puts its anomalies. The second pass never puts them into the old set, not even if
the reference turned out empty. -/
def target (session : Session) (reentered : Bool) : ViewState :=
  if reentered && session.viewState == .bootstrap then .replace else session.viewState

/-- Plan a pass. -/
def plan (session : Session) (reentered : Bool) (now : Int) : Pass where
  alertId := session.alertId
  viewState := target session reentered
  preview := session.preview
  rulesVisible := session.rulesVisible
  isDaily := session.isDaily
  config := session.nextConfig reentered
  range := session.range
  window := session.range.upTo now
  reentered := reentered

/-- Whether the detected anomalies are read after an evaluation: for an alert as it is, and as the
reference of a draft. -/
def readsDetected (pass : Pass) : Bool :=
  (pass.viewState == .baseline && !pass.preview) || pass.viewState == .bootstrap

/-- The call for the detected anomalies. -/
def detectedCall (pass : Pass) : Call := .anomalies pass.alertId pass.range

/-- The call for the evaluation, refused if there is nothing to evaluate. -/
def evaluationCall (pass : Pass) : Except ChartError Call :=
  if pass.isDaily then .ok (.bounds pass.alertId pass.window)
  else match pass.config with
    | some yaml => .ok (.preview yaml pass.alertId pass.window)
    | none => .error (.validation "no detection configuration to preview")

end Pass

/-- A request for the series of a slice. -/
structure SeriesRequest where
  /-- The number of the request. -/
  ticket : Nat
  /-- The slice. -/
  urn : String
  /-- The range. -/
  range : AnalysisRange
  /-- The baseline. -/
  offset : Offset
  /-- The name of the zone. -/
  timezone : String
  /-- What the request is made for. -/
  purpose : Purpose
  deriving DecidableEq, Inhabited

namespace SeriesRequest

/-- The call for the series under an offset. -/
def call (request : SeriesRequest) (offset : Offset) : Call :=
  .timeseries request.urn request.range offset request.timezone

/-- The call for the measured series. -/
def measuredCall (request : SeriesRequest) : Call := request.call .current

/-- The call for the baseline. -/
def baselineCall (request : SeriesRequest) : Call := request.call request.offset

end SeriesRequest

/-- What an operation waits for. -/
inductive Stage where
  /-- The evaluation of a pass. -/
  | evaluation (pass : Pass)
  /-- The detected anomalies of a pass, after its evaluation if it has one. -/
  | detected (pass : Pass) (evaluation : Option Evaluation)
  /-- The measured series; the baseline was not called for yet. -/
  | measured (request : SeriesRequest)
  /-- The measured series and the baseline. -/
  | both (request : SeriesRequest)
  /-- The measured series, the baseline being there. -/
  | measuredOnly (request : SeriesRequest) (baseline : TimeSeries)
  /-- The baseline, the measured series being there. -/
  | baselineOnly (request : SeriesRequest) (measured : TimeSeries)
  /-- The reply to a report. -/
  | report (report : Report)
  deriving Inhabited

namespace Stage

/-- The request whose series the operation waits for. -/
def request? : Stage → Option SeriesRequest
  | measured request | both request | measuredOnly request _ | baselineOnly request _ =>
    some request
  | _ => none

/-- Whether the operation is a load. -/
def isLoad : Stage → Bool
  | evaluation _ | detected _ _ => true
  | report _ => false
  | stage => stage.request?.any (·.purpose == .load)

/-- A bound on the calls that are still to come after this one. -/
def rank : Stage → Nat
  | evaluation pass => if pass.reentered then 4 else 6
  | detected pass _ => if pass.reentered then 3 else 5
  | measured _ => 2
  | both _ => 2
  | measuredOnly _ _ => 1
  | baselineOnly _ _ => 1
  | report _ => 1

end Stage

/-- What an operation does next. -/
inductive Next where
  /-- Call the backend and wait at a stage. -/
  | ask (call : Call) (stage : Stage)
  /-- Wait at a stage for what was called before. -/
  | wait (stage : Stage)
  /-- Nothing any more. -/
  | finish (result : Result)
  deriving Inhabited

end AlertDetail
