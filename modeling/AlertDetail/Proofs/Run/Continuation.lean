import AlertDetail.Run.Begin

/-!
# Continuations

What an operation does between two calls, case by case. A request for series has five ways to begin
and then waits for one answer or two; a load reads anomalies until it fails or requests its series.
Each case says what becomes of the view and what the operation does next, so that statements on runs
need not look into the operations again.
-/

namespace AlertDetail

/-- Whether a load waits for anomalies. -/
def Stage.isPass : Stage → Bool
  | evaluation _ | detected _ _ => true
  | _ => false

/-- An operation waits for anomalies, for series, or for the reply to a report. -/
theorem Stage.pass_or_series_or_report (stage : Stage) :
    stage.isPass = true ∨ (∃ request, stage.request? = some request) ∨
      ∃ report, stage = .report report := by
  cases stage with
  | evaluation pass => exact .inl rfl
  | detected pass evaluation => exact .inl rfl
  | measured request => exact .inr (.inl ⟨request, rfl⟩)
  | both request => exact .inr (.inl ⟨request, rfl⟩)
  | measuredOnly request baseline => exact .inr (.inl ⟨request, rfl⟩)
  | baselineOnly request measured => exact .inr (.inl ⟨request, rfl⟩)
  | report report => exact .inr (.inr ⟨report, rfl⟩)

/-- An operation that waits for series does not wait for anomalies. -/
theorem Stage.isPass_of_request? {stage : Stage} {request : SeriesRequest}
    (h : stage.request? = some request) : stage.isPass = false := by
  cases stage <;> first | rfl | cases h

/-- An operation that waits for anomalies is a load. -/
theorem Stage.isLoad_of_isPass {stage : Stage} (h : stage.isPass = true) :
    stage.isLoad = true := by
  cases stage <;> first | rfl | cases h

/-- An operation that waits for series is a load if the request was made for one. -/
theorem Stage.isLoad_of_request? {stage : Stage} {request : SeriesRequest}
    (h : stage.request? = some request) : stage.isLoad = (request.purpose == .load) := by
  cases stage <;> cases h <;> rfl

/-- Whether a series is called for. -/
def Call.isSeries : Call → Bool
  | timeseries .. => true
  | _ => false

/-- The call for the evaluation of a pass is for the saved configuration or for one to preview, and
asks in the window of the pass. -/
theorem Pass.evaluationCall_cases {pass : Pass} {call : Call} (h : pass.evaluationCall = .ok call) :
    call = .bounds pass.alertId pass.window ∨
      ∃ yaml, call = .preview yaml pass.alertId pass.window := by
  unfold evaluationCall at h
  split at h
  · exact .inl (Except.ok.inj h).symm
  · split at h
    · exact .inr ⟨_, (Except.ok.inj h).symm⟩
    · contradiction

/-- An evaluation is no series. -/
theorem Pass.isSeries_of_evaluationCall {pass : Pass} {call : Call}
    (h : pass.evaluationCall = .ok call) : call.isSeries = false := by
  rcases evaluationCall_cases h with rfl | ⟨yaml, rfl⟩ <;> rfl

/-- Where an operation waits next, if it goes on. -/
def Next.stage? : Next → Option Stage
  | ask _ stage | wait stage => some stage
  | finish _ => none

/-- What is left to an operation is to wait for series, if anything. -/
def Next.OnlySeries : Next → Prop
  | ask call stage => call.isSeries = true ∧ stage.request?.isSome = true
  | wait stage => stage.request?.isSome = true
  | finish _ => True

/-- If it waits, it does so for a request. -/
theorem Next.OnlySeries.request? {next : Next} (h : next.OnlySeries) {stage : Stage}
    (hstage : next.stage? = some stage) : ∃ request, stage.request? = some request := by
  cases next with
  | ask call stage' =>
    cases hstage
    exact Option.isSome_iff_exists.1 h.2
  | wait stage' =>
    cases hstage
    exact Option.isSome_iff_exists.1 h
  | finish result => cases hstage

/-- Whether an operation leaves the range as it is. -/
def Operation.keepsRange : Operation → Bool
  | selectRange .. | selectPreset _ => false
  | _ => true

namespace Session

/-- What a session holds beside its series and what is said of its loads. -/
def core (session : Session) : Session :=
  { session with
    timeseries := none, baseline := none, seriesRevision := 0
    isLoading := false, isLoadingSeries := false, errored := false }

/-- The options with which a view of this configuration opens. -/
def options (session : Session) : ViewOptions where
  alertId := session.alertId
  preview := session.preview
  edit := session.edit
  granularity := session.granularity
  dimensionExploration := session.dimensionExploration
  alertYaml := session.alertYaml
  savedYaml := session.savedYaml

/-- The options belong to what a session holds beside its series. -/
theorem options_core (session : Session) : session.core.options = session.options := rfl

/-- What the series of a session are made from. -/
structure SeriesInputs where
  /-- The selected slice. -/
  metricUrn : Option String
  /-- The selected rule. -/
  rule : Option Rule
  /-- Whether rules are visible. -/
  rulesVisible : Bool
  /-- The predictions of the last evaluation. -/
  predictions : List Prediction
  /-- The selected baseline. -/
  offset : Offset
  /-- The range. -/
  range : AnalysisRange

/-- What the series of a session are made from. -/
def seriesInputs (session : Session) : SeriesInputs :=
  ⟨session.metricUrn, session.rule, session.rulesVisible, session.predictions,
    session.baselineOffset, session.range⟩

/-- Showing series changes nothing that they are made from. -/
theorem seriesInputs_setSeries (session : Session) (measured baseline : Option TimeSeries)
    (isLoading : Bool) :
    { session.setSeries measured baseline with isLoadingSeries := isLoading }.seriesInputs =
      session.seriesInputs := rfl

end Session

/-- The series of a view, with the number of the latest request for them. -/
structure SeriesState where
  /-- The number of the latest request. -/
  ticket : Nat
  /-- The measured series. -/
  timeseries : Option TimeSeries
  /-- What it is compared with. -/
  baseline : Option TimeSeries
  /-- How often the series were replaced. -/
  revision : Nat

namespace LiveView

/-- The series of a view, with the number of the latest request for them. -/
def seriesState (live : LiveView) : SeriesState :=
  ⟨live.ticket, live.session.timeseries, live.session.baseline, live.session.seriesRevision⟩

/-- The view in which the next request for series has got its number. -/
def issued (live : LiveView) : LiveView :=
  { live with
    ticket := live.ticket + 1, session := { live.session with isLoadingSeries := true } }

variable {live : LiveView}

/-- How a request for series begins: it fails without a slice; it is complete at once if rules are
visible and none has a prediction, or the prediction is the baseline as well; otherwise it calls for
the baseline of a prediction, or for the measured series. -/
inductive SeriesStart (live : LiveView) (purpose : Purpose) : LiveView × Next → Prop
  | missing (hslice : live.session.metricUrn = none) :
    SeriesStart live purpose
      ({ live with ticket := live.ticket + 1 }.failSeries purpose .missingSlice)
  | unpredicted {urn : String} (hslice : live.session.metricUrn = some urn)
    (hvisible : live.session.rulesVisible = true)
    (hprediction : Prediction.find? live.session.predictions live.session.rule urn = none) :
    SeriesStart live purpose (live.issued.finishSeries (live.nextRequest purpose urn) none none)
  | predicted {urn : String} {prediction : Prediction}
    (hslice : live.session.metricUrn = some urn) (hvisible : live.session.rulesVisible = true)
    (hprediction :
      Prediction.find? live.session.predictions live.session.rule urn = some prediction)
    (hoffset : live.session.baselineOffset = .predicted) :
    SeriesStart live purpose
      (live.issued.finishSeries (live.nextRequest purpose urn) (some prediction.series)
        (some prediction.series))
  | compared {urn : String} {prediction : Prediction}
    (hslice : live.session.metricUrn = some urn) (hvisible : live.session.rulesVisible = true)
    (hprediction :
      Prediction.find? live.session.predictions live.session.rule urn = some prediction)
    (hoffset : live.session.baselineOffset ≠ .predicted) :
    SeriesStart live purpose
      (live.issued, .ask (live.nextRequest purpose urn).baselineCall
        (.baselineOnly (live.nextRequest purpose urn) prediction.series))
  | measured {urn : String} (hslice : live.session.metricUrn = some urn)
    (hvisible : live.session.rulesVisible = false) :
    SeriesStart live purpose
      (live.issued, .ask (live.nextRequest purpose urn).measuredCall
        (.measured (live.nextRequest purpose urn)))

/-- A request for series begins in one of these ways. -/
theorem requestSeries_start (live : LiveView) (purpose : Purpose) :
    SeriesStart live purpose (live.requestSeries purpose) := by
  cases hslice : live.session.metricUrn with
  | none =>
    simp only [requestSeries, hslice]
    exact .missing hslice
  | some urn =>
    have hissue : live.requestSeries purpose =
        live.issued.issue (live.nextRequest purpose urn) := by
      simp only [requestSeries, hslice]
      rfl
    have hsame : live.issued.session.rulesVisible = live.session.rulesVisible := rfl
    rw [hissue, issue, hsame]
    cases hvisible : live.session.rulesVisible with
    | false => exact .measured hslice hvisible
    | true =>
      rw [if_pos rfl]
      cases hprediction : Prediction.find? live.session.predictions live.session.rule urn with
      | none =>
        have hfind : Prediction.find? live.issued.session.predictions live.issued.session.rule
            (live.nextRequest purpose urn).urn = none := hprediction
        rw [hfind]
        exact .unpredicted hslice hvisible hprediction
      | some prediction =>
        have hfind : Prediction.find? live.issued.session.predictions live.issued.session.rule
            (live.nextRequest purpose urn).urn = some prediction := hprediction
        rw [hfind]
        by_cases hoffset : live.session.baselineOffset = .predicted
        · have hpredicted : (live.nextRequest purpose urn).offset = .predicted := hoffset
          simp only [hpredicted, if_true]
          exact .predicted hslice hvisible hprediction hoffset
        · have hother : (live.nextRequest purpose urn).offset ≠ .predicted := hoffset
          simp only [hother, if_false]
          exact .compared hslice hvisible hprediction hoffset

/-- What an answer does to an operation that waits for series: a failure ends it, the first of two
series is kept until the second is there, and the last one completes the request. -/
inductive SeriesAnswer (live : LiveView) (first : Bool) (answer : Answer) :
    Stage → LiveView × Next → Prop
  | failed {stage : Stage} {request : SeriesRequest} {cause : ChartError}
    (hstage : stage.request? = some request) (hanswer : answer.series = .error cause) :
    SeriesAnswer live first answer stage (live.failSeries request.purpose cause)
  | measured {request : SeriesRequest} {series : TimeSeries}
    (hanswer : answer.series = .ok series) :
    SeriesAnswer live first answer (.measured request)
      (live, .ask request.baselineCall (.baselineOnly request series))
  | bothMeasured {request : SeriesRequest} {series : TimeSeries} (hfirst : first = true)
    (hanswer : answer.series = .ok series) :
    SeriesAnswer live first answer (.both request) (live, .wait (.baselineOnly request series))
  | bothBaseline {request : SeriesRequest} {series : TimeSeries} (hfirst : first = false)
    (hanswer : answer.series = .ok series) :
    SeriesAnswer live first answer (.both request) (live, .wait (.measuredOnly request series))
  | lastMeasured {request : SeriesRequest} {series baseline : TimeSeries}
    (hanswer : answer.series = .ok series) :
    SeriesAnswer live first answer (.measuredOnly request baseline)
      (live.finishSeries request (some series) (some baseline))
  | lastBaseline {request : SeriesRequest} {series measured : TimeSeries}
    (hanswer : answer.series = .ok series) :
    SeriesAnswer live first answer (.baselineOnly request measured)
      (live.finishSeries request (some measured) (some series))

/-- An answer to an operation that waits for series does one of these things. -/
theorem resume_series (live : LiveView) (first : Bool) (answer : Answer) {stage : Stage}
    {request : SeriesRequest} (hstage : stage.request? = some request) :
    SeriesAnswer live first answer stage (live.resume first answer stage) := by
  cases hanswer : answer.series with
  | error cause =>
    have hfail : live.resume first answer stage = live.failSeries request.purpose cause := by
      cases stage <;> cases first <;> cases hstage <;>
        simp only [resume, takeMeasured, takeBaseline, takeLast, hanswer] <;> rfl
    rw [hfail]
    exact .failed hstage hanswer
  | ok series =>
    cases stage with
    | evaluation pass => cases hstage
    | detected pass evaluation => cases hstage
    | report report => cases hstage
    | measured request =>
      simp only [resume, takeMeasured, hanswer]
      exact .measured hanswer
    | both request =>
      cases hfirst : first with
      | true =>
        simp only [resume, takeMeasured, hanswer]
        exact .bothMeasured rfl hanswer
      | false =>
        simp only [resume, takeBaseline, hanswer]
        exact .bothBaseline rfl hanswer
    | measuredOnly request baseline =>
      simp only [resume, takeLast, hanswer]
      exact .lastMeasured hanswer
    | baselineOnly request measured =>
      simp only [resume, takeLast, hanswer]
      exact .lastBaseline hanswer

/-- Once series are requested an operation waits for nothing else. -/
theorem requestSeries_onlySeries (live : LiveView) (purpose : Purpose) :
    (live.requestSeries purpose).2.OnlySeries := by
  have hstart := live.requestSeries_start purpose
  generalize live.requestSeries purpose = step at hstart ⊢
  cases hstart with
  | missing => exact trivial
  | unpredicted => exact trivial
  | predicted => exact trivial
  | compared => exact ⟨rfl, rfl⟩
  | measured => exact ⟨rfl, rfl⟩

/-- An operation that waits for series goes on to wait for nothing else. -/
theorem resume_onlySeries (live : LiveView) (first : Bool) (answer : Answer) {stage : Stage}
    {request : SeriesRequest} (hstage : stage.request? = some request) :
    (live.resume first answer stage).2.OnlySeries := by
  have hanswer := live.resume_series first answer hstage
  generalize live.resume first answer stage = step at hanswer ⊢
  cases hanswer with
  | failed => exact trivial
  | measured => exact ⟨rfl, rfl⟩
  | bothMeasured => rfl
  | bothBaseline => rfl
  | lastMeasured => exact trivial
  | lastBaseline => exact trivial

/-- How a load goes on: it waits for anomalies, it fails, or it requests its series. Until then the
series shown stay as they are. -/
inductive LoadStep (live : LiveView) : LiveView × Next → Prop
  | pass {after : LiveView} {call : Call} {stage : Stage}
    (hstate : after.seriesState = live.seriesState) (hzone : after.zone = live.zone)
    (hcall : call.isSeries = false) (hstage : stage.isPass = true) :
    LoadStep live (after, .ask call stage)
  | failed {after : LiveView} (hstate : after.seriesState = live.seriesState)
    (hzone : after.zone = live.zone) (herrored : after.session.errored = true) :
    LoadStep live (after, .finish (.loaded .failed))
  | series {after : LiveView} (hstate : after.seriesState = live.seriesState)
    (hzone : after.zone = live.zone) : LoadStep live (after.requestSeries .load)

/-- A load that goes on from a view with the same series goes on from this one. -/
theorem LoadStep.of_state {live' : LiveView} {step : LiveView × Next} (h : LoadStep live' step)
    (hstate : live'.seriesState = live.seriesState) (hzone : live'.zone = live.zone) :
    LoadStep live step := by
  cases h with
  | pass hstate' hzone' hcall hstage =>
    exact .pass (hstate'.trans hstate) (hzone'.trans hzone) hcall hstage
  | failed hstate' hzone' herrored =>
    exact .failed (hstate'.trans hstate) (hzone'.trans hzone) herrored
  | series hstate' hzone' => exact .series (hstate'.trans hstate) (hzone'.trans hzone)

/-- A pass begins by calling for anomalies, or fails without a configuration. -/
theorem beginPass_step (live : LiveView) (reentered : Bool) :
    LoadStep live (live.beginPass reentered) := by
  unfold beginPass
  dsimp only
  split
  · cases hcall : (Pass.plan (live.update loading).session reentered
      (live.update loading).now).evaluationCall with
    | error cause => exact .failed rfl rfl rfl
    | ok call => exact .pass rfl rfl (Pass.isSeries_of_evaluationCall hcall) rfl
  · exact .pass rfl rfl rfl rfl

/-- Taking anomalies over with the choice that came with them changes the slices, the rule, the
sets, the predictions and what is said of the load, and nothing else. -/
theorem merge_apply_eq (session : Session) (choice : SliceChoice) (state : ViewState)
    (result : FetchResult) :
    ((choice.apply session).merge state result).1 =
      let merged := ((choice.apply session).merge state result).1
      { session with
        metricUrn := merged.metricUrn, metricUrns := merged.metricUrns
        dimension := merged.dimension, rule := merged.rule, old := merged.old, new := merged.new
        anomaliesRevision := merged.anomaliesRevision, predictions := merged.predictions
        isLoading := false } := by
  unfold SliceChoice.apply SliceChoice.selectSlice
  cases choice.metricUrns <;> cases state <;> rfl

/-- The end of a pass begins the second one, fails without a slice, or requests the series. -/
theorem finishPass_step (live : LiveView) (pass : Pass) (choice : SliceChoice)
    (result : FetchResult) : LoadStep live (live.finishPass pass choice result) := by
  have hstate : (live.update fun _ =>
      ((choice.apply live.session).merge pass.viewState result).1).seriesState =
        live.seriesState := by
    rw [merge_apply_eq]
    rfl
  unfold finishPass
  dsimp only
  split
  · exact (beginPass_step _ true).of_state hstate rfl
  · split
    · exact .failed hstate rfl rfl
    · exact .series hstate rfl

/-- An answer to an operation that waits for anomalies takes its load on. -/
theorem resume_pass (live : LiveView) (first : Bool) (answer : Answer) {stage : Stage}
    (hstage : stage.isPass = true) : LoadStep live (live.resume first answer stage) := by
  cases stage with
  | evaluation pass =>
    unfold resume takeEvaluation
    cases answer.evaluation with
    | error cause => exact .failed rfl rfl rfl
    | ok evaluation =>
      dsimp only
      split
      · exact .pass rfl rfl rfl rfl
      · exact finishPass_step live pass _ _
  | detected pass evaluation =>
    unfold resume takeDetected
    cases answer.anomalies with
    | error cause => exact .failed rfl rfl rfl
    | ok anomalies => cases evaluation <;> exact finishPass_step live pass _ _
  | measured request => contradiction
  | both request => contradiction
  | measuredOnly request baseline => contradiction
  | baselineOnly request measured => contradiction
  | report report => contradiction

/-- How an operation begins: it ends at once, sends a report, begins a load, which it only does if
no other load is in flight, or requests series. -/
inductive Opening (live : LiveView) (busy : Bool) (operation : Operation) : LiveView × Next → Prop
  | finished {after : LiveView} {result : Result} (hstate : after.seriesState = live.seriesState)
    (hzone : after.zone = live.zone)
    (hinputs : operation.keepsRange = true →
      after.session.seriesInputs = live.session.seriesInputs)
    (herrored : busy = true ∨ after.session.errored = live.session.errored) :
    Opening live busy operation (after, .finish result)
  | reported {after : LiveView} {call : Call} {report : Report}
    (hstate : after.seriesState = live.seriesState) (hzone : after.zone = live.zone)
    (hinputs : after.session.seriesInputs = live.session.seriesInputs)
    (herrored : after.session.errored = live.session.errored) (hcall : call.isSeries = false) :
    Opening live busy operation (after, .ask call (.report report))
  | load {step : LiveView × Next} (hbusy : busy = false) (hstep : LoadStep live step) :
    Opening live busy operation step
  | series {after : LiveView} {purpose : Purpose} (hstate : after.seriesState = live.seriesState)
    (hzone : after.zone = live.zone) (hpurpose : purpose ≠ .load) :
    Opening live busy operation (after.requestSeries purpose)

variable {busy : Bool}

/-- A load that is asked for is begun unless another one is in flight. -/
theorem beginLoad_opening {operation : Operation} {live' : LiveView}
    (hstate : live'.seriesState = live.seriesState) (hzone : live'.zone = live.zone)
    (hinputs : operation.keepsRange = true →
      live'.session.seriesInputs = live.session.seriesInputs) :
    Opening live busy operation (live'.beginLoad busy) := by
  cases hbusy : busy with
  | true => exact .finished hstate hzone hinputs (.inl rfl)
  | false => exact .load rfl ((beginPass_step live' false).of_state hstate hzone)

/-- The same for a load that a failure suppresses. -/
theorem beginTriggered_opening {operation : Operation} {live' : LiveView}
    (hstate : live'.seriesState = live.seriesState) (hzone : live'.zone = live.zone)
    (hinputs : operation.keepsRange = true →
      live'.session.seriesInputs = live.session.seriesInputs)
    (herrored : live'.session.errored = live.session.errored) :
    Opening live busy operation (live'.beginTriggered busy) := by
  unfold beginTriggered
  split
  · exact .finished hstate hzone hinputs (.inr herrored)
  · exact beginLoad_opening hstate hzone hinputs

/-- A selected range is loaded if the details that are shown belong to the configuration. -/
theorem selectRange_opening (live : LiveView) (busy : Bool) {operation : Operation}
    (hoperation : operation.keepsRange = false) (start stop : Int) (duration : RangePreset) :
    Opening live busy operation (live.selectRange busy start stop duration) := by
  have hrange : operation.keepsRange = true → False := by
    rw [hoperation]
    exact Bool.noConfusion
  unfold selectRange
  split
  · unfold showRange
    dsimp only
    split
    · split <;> exact beginTriggered_opening rfl rfl (fun h => (hrange h).elim) rfl
    · exact .finished rfl rfl (fun h => (hrange h).elim) (.inr rfl)
  · exact .finished rfl rfl (fun _ => rfl) (.inr rfl)

/-- An operation begins in one of these ways. -/
theorem begin_opening (live : LiveView) (busy : Bool) (operation : Operation) :
    Opening live busy operation (live.begin busy operation) := by
  cases operation with
  | start =>
    unfold begin
    dsimp only
    split
    · exact .finished rfl rfl (fun _ => rfl) (.inr rfl)
    · exact beginLoad_opening rfl rfl fun _ => rfl
  | requestPreview => exact beginLoad_opening rfl rfl fun _ => rfl
  | triggerFetch => exact beginTriggered_opening rfl rfl (fun _ => rfl) rfl
  | setYaml yaml => exact .finished rfl rfl (fun _ => rfl) (.inr rfl)
  | selectRule rule => exact .series rfl rfl Purpose.noConfusion
  | selectDimension label =>
    unfold begin
    dsimp only
    split
    · exact .finished rfl rfl (fun _ => rfl) (.inr rfl)
    · exact .series rfl rfl Purpose.noConfusion
  | selectBaseline offset =>
    unfold begin
    dsimp only
    split
    · exact .finished rfl rfl (fun _ => rfl) (.inr rfl)
    · exact .series rfl rfl Purpose.noConfusion
  | selectRange start stop duration => exact selectRange_opening live busy rfl start stop duration
  | selectPreset preset =>
    unfold begin
    dsimp only
    split
    · exact .finished rfl rfl (fun _ => rfl) (.inr rfl)
    · exact selectRange_opening live busy rfl _ _ preset
  | submitReport form =>
    unfold begin submit
    dsimp only
    split
    · exact .reported rfl rfl rfl rfl rfl
    · exact .finished rfl rfl (fun _ => rfl) (.inr rfl)
    · exact .finished rfl rfl (fun _ => rfl) (.inr rfl)

/-- The reply to a report ends its operation and touches nothing that series or loads depend on. -/
theorem resume_report (live : LiveView) (first : Bool) (answer : Answer) (report : Report) :
    ∃ after result, live.resume first answer (.report report) = (after, .finish result) ∧
      after.seriesState = live.seriesState ∧ after.zone = live.zone ∧
      after.session.seriesInputs = live.session.seriesInputs ∧
      after.session.errored = live.session.errored := by
  unfold resume takeReport
  cases answer.accepted with
  | error cause => exact ⟨_, _, rfl, rfl, rfl, rfl, rfl⟩
  | ok reply => exact ⟨_, _, rfl, rfl, rfl, rfl, rfl⟩

end LiveView

end AlertDetail
