import AlertDetail.Prediction
import AlertDetail.Offset
import AlertDetail.Range
import AlertDetail.Report
import AlertDetail.Selection
import AlertDetail.ViewState

/-!
# Sessions

Everything that one view of an alert holds: its mode, the range, two sets of anomalies, the series,
what is selected, and what is being loaded. The sets and the series are replaced only by the
operations of this module, which number every replacement, so that whoever derives something from
them can tell a replaced set from the same set.
-/

namespace AlertDetail

/-- What is known about a view before anything is loaded. -/
structure ViewOptions where
  /-- The alert. -/
  alertId : Int := 0
  /-- Evaluate a configuration instead of reading what was detected. -/
  preview : Bool := false
  /-- The configuration changes an alert that exists. -/
  edit : Bool := false
  /-- The buckets of the metric. -/
  granularity : Option String := none
  /-- Whether the alert explores dimensions. -/
  dimensionExploration : Bool := false
  /-- The configuration to evaluate. -/
  alertYaml : Option String := none
  /-- The saved configuration, as reference of a changed one. -/
  savedYaml : Option String := none
  /-- Length of the window to open with, in milliseconds. -/
  window : Option Int := none
  /-- The range to open with, instead of a window. -/
  range : Option AnalysisRange := none
  deriving DecidableEq, Inhabited

/-- What became of the last report. -/
structure ReportState where
  /-- It was sent. -/
  isSuccess : Bool := false
  /-- It was refused. -/
  isFailure : Bool := false
  /-- The form of the report; empty again after a refusal. -/
  form : ReportForm := {}
  /-- The stretch of time reported last. -/
  reportedRange : Option String := none
  deriving DecidableEq, Inhabited

/-- Whether buckets are whole days. -/
def isDailyGranularity (granularity : Option String) : Bool :=
  Text.contains "DAYS".toList (granularity.getD "").toList

/-- The state of a view. -/
structure Session where
  /-- The alert. -/
  alertId : Int
  /-- Evaluate a configuration instead of reading what was detected. -/
  preview : Bool
  /-- The configuration changes an alert that exists. -/
  edit : Bool
  /-- The buckets of the metric. -/
  granularity : Option String
  /-- Whether the alert explores dimensions. -/
  dimensionExploration : Bool
  /-- The configuration to evaluate. -/
  alertYaml : Option String
  /-- The saved configuration. -/
  savedYaml : Option String
  /-- The range shown. -/
  range : AnalysisRange
  /-- The length that the range is shown as. -/
  duration : RangePreset
  /-- The old set of anomalies. -/
  old : List Anomaly := []
  /-- The new set of anomalies. -/
  new : List Anomaly := []
  /-- How often a set was replaced. -/
  anomaliesRevision : Nat := 0
  /-- Predictions of the last evaluation. -/
  predictions : List Prediction := []
  /-- The selected slice. -/
  metricUrn : Option String := none
  /-- The slices to choose from. -/
  metricUrns : List String := []
  /-- The label of the selected slice. -/
  dimension : Option String := none
  /-- The selected rule. -/
  rule : Option Rule := none
  /-- The selected baseline. -/
  baselineOffset : Offset
  /-- The measured series. -/
  timeseries : Option TimeSeries := none
  /-- What it is compared with. -/
  baseline : Option TimeSeries := none
  /-- How often the series were replaced. -/
  seriesRevision : Nat := 0
  /-- Anomalies are being loaded. -/
  isLoading : Bool := false
  /-- Series are being loaded. -/
  isLoadingSeries : Bool := false
  /-- The last load failed. -/
  errored : Bool := false
  /-- The details are shown. -/
  showDetails : Bool := false
  /-- The sets belong to the configuration as it is. -/
  isCurrent : Bool := false
  /-- The last report. -/
  report : ReportState := {}
  deriving DecidableEq, Inhabited

namespace Session

/-- The baseline that a view opens with. -/
def openingBaseline (options : ViewOptions) : Offset :=
  if options.preview ||
      (isDailyGranularity options.granularity && !options.dimensionExploration) then .predicted
  else .wo1w

/-- The length that the opening range is shown as. -/
def openingDuration (options : ViewOptions) (window : Int) : RangePreset :=
  if options.preview || options.range.isSome then .custom else .ofWindow window

/-- The state of a view that opens now. -/
def new? (options : ViewOptions) (now : Int) (zone : Zone) : Except ChartError Session := do
  let window := options.window.getD AnalysisRange.defaultWindow
  let range ← match options.range with
    | some range => pure range
    | none => AnalysisRange.ofWindow now window zone
  return {
    alertId := options.alertId
    preview := options.preview
    edit := options.edit
    granularity := options.granularity
    dimensionExploration := options.dimensionExploration
    alertYaml := options.alertYaml
    savedYaml := options.savedYaml
    range := range
    duration := openingDuration options window
    baselineOffset := openingBaseline options }

/-- A session that opens holds its options and a range, and nothing else yet. -/
theorem new?_eq_ok {options : ViewOptions} {now : Int} {zone : Zone} {session : Session}
    (h : new? options now zone = .ok session) :
    session = {
      alertId := options.alertId
      preview := options.preview
      edit := options.edit
      granularity := options.granularity
      dimensionExploration := options.dimensionExploration
      alertYaml := options.alertYaml
      savedYaml := options.savedYaml
      range := session.range
      duration := openingDuration options (options.window.getD AnalysisRange.defaultWindow)
      baselineOffset := openingBaseline options } := by
  cases hrange : options.range with
  | some range =>
    simp only [new?, hrange] at h
    rw [← Except.ok.inj h]
  | none =>
    cases hwindow : AnalysisRange.ofWindow now
        (options.window.getD AnalysisRange.defaultWindow) zone with
    | error cause => simp [new?, hrange, hwindow, bind, Except.bind] at h
    | ok range =>
      simp only [new?, hrange, hwindow] at h
      rw [← Except.ok.inj h]

/-- Whether the buckets of the metric are whole days. -/
def isDaily (session : Session) : Bool := isDailyGranularity session.granularity

/-- Whether predictions, bounds and the choice of a rule are shown. -/
def rulesVisible (session : Session) : Bool :=
  session.preview || (!session.dimensionExploration && session.isDaily)

/-- The view state. -/
def viewState (session : Session) : ViewState :=
  .resolve ⟨session.preview, session.edit, !session.old.isEmpty, !session.new.isEmpty,
    session.errored⟩

/-- What the anomalies are restricted to. -/
def selection (session : Session) : Selection :=
  ⟨session.metricUrn, session.rule, session.rulesVisible⟩

/-- Replace the old set. -/
def setOld (session : Session) (anomalies : List Anomaly) : Session :=
  { session with old := anomalies, anomaliesRevision := session.anomaliesRevision + 1 }

/-- Replace the new set. -/
def setNew (session : Session) (anomalies : List Anomaly) : Session :=
  { session with new := anomalies, anomaliesRevision := session.anomaliesRevision + 1 }

/-- Make the new set the old one. -/
def promote (session : Session) : Session :=
  { session with
    old := session.new, new := [], anomaliesRevision := session.anomaliesRevision + 1 }

/-- Empty both sets. -/
def clear (session : Session) : Session :=
  { session with old := [], new := [], anomaliesRevision := session.anomaliesRevision + 1 }

/-- Replace the series. -/
def setSeries (session : Session) (timeseries baseline : Option TimeSeries) : Session :=
  { session with
    timeseries := timeseries, baseline := baseline, seriesRevision := session.seriesRevision + 1 }

/-- The configuration that is evaluated next: the saved one while a changed alert has no reference
yet, otherwise the one to evaluate. -/
def nextConfig (session : Session) (live : Bool) : Option String :=
  if !live && session.edit && session.old.isEmpty then session.savedYaml else session.alertYaml

/-- Clear what is being loaded and remember the failure. -/
def failed (session : Session) : Session :=
  { session with isLoading := false, isLoadingSeries := false, errored := true }

end Session

end AlertDetail
