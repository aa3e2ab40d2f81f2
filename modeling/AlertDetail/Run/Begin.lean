import AlertDetail.Run.Load
import AlertDetail.Run.Reporting

/-!
# Beginning and resuming operations

What an operation does first, and what it does when an answer arrives at the stage at which it
waits. Both run up to the next call to the backend, so everything between two calls is one step.
-/

namespace AlertDetail.LiveView

/-- Refuse an operation that changes nothing. -/
def refuse (live : LiveView) (cause : ChartError) : LiveView × Next :=
  (live, .finish (.refused cause))

/-- Load unless the last load failed. -/
def beginTriggered (live : LiveView) (busy : Bool) : LiveView × Next :=
  if live.session.errored then (live, .finish (.loaded .suppressed)) else live.beginLoad busy

/-- Show a range, and load it if details are shown and belong to the configuration as it is. The
sets of a draft are emptied first. -/
def showRange (live : LiveView) (busy : Bool) (range : AnalysisRange) (duration : RangePreset) :
    LiveView × Next :=
  let live := live.update fun session => { session with range := range, duration := duration }
  if live.session.showDetails && live.session.isCurrent then
    let live := if live.session.preview then live.update Session.clear else live
    live.beginTriggered busy
  else (live, .finish (.loaded .completed))

/-- Show a range given by its bounds, refused unless it starts before it ends. -/
def selectRange (live : LiveView) (busy : Bool) (start stop : Int) (duration : RangePreset) :
    LiveView × Next :=
  match AnalysisRange.new start stop with
  | .ok range => live.showRange busy range duration
  | .error cause => live.refuse cause

/-- Begin an operation. `busy` tells whether a load is in flight. -/
def begin (live : LiveView) (busy : Bool) : Operation → LiveView × Next
  | .start =>
    if live.session.preview then (live, .finish (.loaded .completed)) else live.beginLoad busy
  | .requestPreview =>
    (live.update fun session =>
      { session with showDetails := true, isCurrent := true, errored := false }).beginLoad busy
  | .triggerFetch => live.beginTriggered busy
  | .setYaml yaml =>
    (live.update fun session => { session with alertYaml := some yaml, isCurrent := false },
      .finish .done)
  | .selectRule rule =>
    (live.update fun session => { session with rule := some rule }).requestSeries .selection
  | .selectDimension label =>
    match Slice.resolve? live.session.metricUrns label with
    | none => live.refuse (.validation ("unknown dimension " ++ label))
    | some urn =>
      (live.update fun session =>
        { session with dimension := some (Slice.label urn), metricUrn := some urn }).requestSeries
          .selection
  | .selectBaseline offset =>
    if live.session.baselineOffset = offset then (live, .finish (.changed false))
    else
      (live.update fun session => { session with baselineOffset := offset }).requestSeries .baseline
  | .selectRange start stop duration => live.selectRange busy start stop duration
  | .selectPreset preset =>
    match preset.range? live.now live.zone with
    | none => live.refuse (.validation "custom ranges need explicit bounds")
    | some range => live.selectRange busy range.start range.stop preset
  | .submitReport form => live.submit form

/-- Resume an operation with an answer. Where it waits for two answers, `first` tells whether this
is the one to its earlier call. -/
def resume (live : LiveView) (first : Bool) (answer : Answer) : Stage → LiveView × Next
  | .evaluation pass => live.takeEvaluation pass answer
  | .detected pass evaluation => live.takeDetected pass evaluation answer
  | .measured request => live.takeMeasured request false answer
  | .both request =>
    if first then live.takeMeasured request true answer else live.takeBaseline request answer
  | .measuredOnly request baseline =>
    live.takeLast request answer fun measured => (measured, baseline)
  | .baselineOnly request measured =>
    live.takeLast request answer fun baseline => (measured, baseline)
  | .report report => live.takeReport report answer

end AlertDetail.LiveView
