import AlertDetail.Run.Begin

/-!
# Preparations

How operations begin, with everything that they change in the view before they load, request series,
send a report or end. The cases say what an operation can do, not which operation does it.
-/

namespace AlertDetail.LiveView

/-- What an operation makes of a view before it goes on. -/
inductive Prepared (live : LiveView) : LiveView → Prop
  | same : Prepared live live
  | requested : Prepared live (live.update fun session =>
      { session with showDetails := true, isCurrent := true, errored := false })
  | edited (yaml : String) : Prepared live (live.update fun session =>
      { session with alertYaml := some yaml, isCurrent := false })
  | rule (rule : Rule) : Prepared live (live.update fun session =>
      { session with rule := some rule })
  | slice {label urn : String} (hslice : Slice.resolve? live.session.metricUrns label = some urn) :
    Prepared live (live.update fun session =>
      { session with dimension := some (Slice.label urn), metricUrn := some urn })
  | baseline (offset : Offset) : Prepared live (live.update fun session =>
      { session with baselineOffset := offset })
  | range (range : AnalysisRange) (duration : RangePreset) :
    Prepared live (live.update fun session =>
      { session with range := range, duration := duration })
  | emptied (range : AnalysisRange) (duration : RangePreset) :
    Prepared live ((live.update fun session =>
      { session with range := range, duration := duration }).update Session.clear)
  | written (report : ReportState) : Prepared live (live.update fun session =>
      { session with report := report })

/-- How an operation begins: with what it prepared it ends at once, begins a load, requests series,
or sends a report. -/
inductive OperationStart (live : LiveView) : LiveView × Next → Prop
  | finished {prepared : LiveView} {result : Result} (hprepared : Prepared live prepared) :
    OperationStart live (prepared, .finish result)
  | load {prepared : LiveView} (hprepared : Prepared live prepared) :
    OperationStart live (prepared.beginPass false)
  | series {prepared : LiveView} {purpose : Purpose} (hprepared : Prepared live prepared) :
    OperationStart live (prepared.requestSeries purpose)
  | report {prepared : LiveView} {urn : String} {report : Report}
    (hprepared : Prepared live prepared) :
    OperationStart live (prepared, .ask (.report live.session.alertId urn report) (.report report))

variable {live prepared : LiveView} {busy : Bool}

/-- A load that is asked for ends at once if another one is in flight. -/
theorem beginLoad_start (h : Prepared live prepared) :
    OperationStart live (prepared.beginLoad busy) := by
  unfold beginLoad
  split
  · exact .finished h
  · exact .load h

/-- A load that follows a change also ends at once after a failure. -/
theorem beginTriggered_start (h : Prepared live prepared) :
    OperationStart live (prepared.beginTriggered busy) := by
  unfold beginTriggered
  split
  · exact .finished h
  · exact beginLoad_start h

/-- A selected range is refused, shown, or loaded, for a draft with emptied sets. -/
theorem selectRange_start (live : LiveView) (busy : Bool) (start stop : Int)
    (duration : RangePreset) : OperationStart live (live.selectRange busy start stop duration) := by
  unfold selectRange
  split
  · next range hrange =>
    unfold showRange
    dsimp only
    split
    · split
      · exact beginTriggered_start (.emptied range duration)
      · exact beginTriggered_start (.range range duration)
    · exact .finished (.range range duration)
  · exact .finished .same

/-- An operation begins in one of these ways. -/
theorem begin_start (live : LiveView) (busy : Bool) (operation : Operation) :
    OperationStart live (live.begin busy operation) := by
  cases operation with
  | start =>
    unfold begin
    dsimp only
    split
    · exact .finished .same
    · exact beginLoad_start .same
  | requestPreview => exact beginLoad_start .requested
  | triggerFetch => exact beginTriggered_start .same
  | setYaml yaml => exact .finished (.edited yaml)
  | selectRule rule => exact .series (.rule rule)
  | selectDimension label =>
    unfold begin
    dsimp only
    split
    · exact .finished .same
    · next urn hslice => exact .series (.slice hslice)
  | selectBaseline offset =>
    unfold begin
    dsimp only
    split
    · exact .finished .same
    · exact .series (.baseline offset)
  | selectRange start stop duration => exact selectRange_start live busy start stop duration
  | selectPreset preset =>
    unfold begin
    dsimp only
    split
    · exact .finished .same
    · exact selectRange_start live busy _ _ preset
  | submitReport form =>
    unfold begin submit
    dsimp only
    split
    · exact .report (.written { live.session.report with form := form })
    · exact .finished (.written { live.session.report with
        form := {}, isFailure := true, isSuccess := false })
    · exact .finished (.written { live.session.report with
        form := {}, isFailure := true, isSuccess := false })

end AlertDetail.LiveView
