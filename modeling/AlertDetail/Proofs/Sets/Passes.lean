import AlertDetail.Proofs.Calendar.Presets
import AlertDetail.Proofs.Run.Order

/-!
# Passes and the sets

What operations do to the two sets of anomalies, case by case. Two things touch them, or what
decides where fetched anomalies go: the beginning of an operation, which `Operation.prepare` sums
up, and the end of a pass, which puts what it fetched where it was planned to. A pass is planned
from the view as it is when the pass begins, and waits for one call at a time, which is its own.
-/

namespace AlertDetail

/-- The two sets of a session, with what decides where fetched anomalies go and whether a selected
range is loaded. -/
structure SetState where
  /-- Evaluate a configuration instead of reading what was detected. -/
  preview : Bool
  /-- The configuration changes an alert that exists. -/
  edit : Bool
  /-- The range shown. -/
  range : AnalysisRange
  /-- The details are shown. -/
  showDetails : Bool
  /-- The sets belong to the configuration as it is. -/
  isCurrent : Bool
  /-- The old set of anomalies. -/
  old : List Anomaly
  /-- The new set of anomalies. -/
  new : List Anomaly

namespace SetState

/-- The view state of a view with these sets that did not fail. -/
def viewState (sets : SetState) : ViewState :=
  .resolve ⟨sets.preview, sets.edit, !sets.old.isEmpty, !sets.new.isEmpty, false⟩

/-- The sets with anomalies put where a view state says. -/
def place (sets : SetState) (state : ViewState) (anomalies : List Anomaly) : SetState :=
  match state with
  | .errored => sets
  | .baseline => { sets with old := anomalies }
  | .replace => { sets with new := anomalies }
  | .shuffle => { sets with old := sets.new, new := anomalies }
  | .bootstrap => { sets with old := anomalies, new := [] }

/-- Whether a range that is selected is loaded. -/
def follows (sets : SetState) : Bool := sets.showDetails && sets.isCurrent

/-- The sets when a range is shown: those of a draft are emptied before they are loaded again. -/
def showRange (sets : SetState) (range : AnalysisRange) : SetState :=
  if sets.follows && sets.preview then { sets with range := range, old := [], new := [] }
  else { sets with range := range }

/-- Anomalies are only put into the two sets. -/
theorem place_eq (sets : SetState) (state : ViewState) (anomalies : List Anomaly) :
    sets.place state anomalies =
      { sets with
        old := (sets.place state anomalies).old, new := (sets.place state anomalies).new } := by
  cases state <;> rfl

end SetState

/-- The sets of a session. -/
def Session.setState (session : Session) : SetState :=
  ⟨session.preview, session.edit, session.range, session.showDetails, session.isCurrent,
    session.old, session.new⟩

/-- The sets belong to what a session holds beside its series. -/
theorem Session.setState_of_core {before after : Session} (h : after.core = before.core) :
    after.setState = before.setState :=
  (congrArg Session.setState h : after.core.setState = before.core.setState)

/-- The range that an operation selects, unless it refuses. -/
def Operation.range? (live : LiveView) : Operation → Option AnalysisRange
  | selectRange first last _ => (AnalysisRange.new first last).toOption
  | selectPreset preset => preset.range? live.now live.zone
  | _ => none

/-- The sets when an operation has begun and did not call the backend yet. -/
def Operation.prepare (live : LiveView) : Operation → SetState
  | requestPreview => { live.session.setState with showDetails := true, isCurrent := true }
  | setYaml _ => { live.session.setState with isCurrent := false }
  | operation =>
    match operation.range? live with
    | some range => live.session.setState.showRange range
    | none => live.session.setState

/-- Whether an operation empties the sets: it selects a range for a draft that is shown as it is. -/
def Operation.empties (live : LiveView) (operation : Operation) : Bool :=
  (operation.range? live).isSome && live.session.setState.follows && live.session.preview

/-- Whether an operation begins a load, if no other one is in flight. -/
def Operation.loads (live : LiveView) : Operation → Bool
  | start => !live.session.preview
  | requestPreview => true
  | triggerFetch => !live.session.errored
  | operation =>
    (operation.range? live).isSome && live.session.setState.follows && !live.session.errored

/-- What an operation prepares: a load on request shows the details and declares the sets current, a
new configuration declares them outdated, a range is shown, and everything else leaves them. -/
inductive Operation.Prepares (live : LiveView) : Operation → SetState → Prop
  | requested : Prepares live .requestPreview
    { live.session.setState with showDetails := true, isCurrent := true }
  | edited {yaml : String} : Prepares live (.setYaml yaml)
    { live.session.setState with isCurrent := false }
  | shown {operation : Operation} {range : AnalysisRange}
    (hrange : operation.range? live = some range) :
    Prepares live operation (live.session.setState.showRange range)
  | same {operation : Operation} (hrange : operation.range? live = none) :
    Prepares live operation live.session.setState

/-- It prepares one of these. -/
theorem Operation.prepares (live : LiveView) (operation : Operation) :
    operation.Prepares live (operation.prepare live) := by
  cases operation with
  | requestPreview => exact .requested
  | setYaml yaml => exact .edited
  | selectRange first last duration =>
    unfold prepare
    dsimp only
    cases hrange : (selectRange first last duration).range? live with
    | none => exact .same hrange
    | some range => exact .shown hrange
  | selectPreset preset =>
    unfold prepare
    dsimp only
    cases hrange : (selectPreset preset).range? live with
    | none => exact .same hrange
    | some range => exact .shown hrange
  | _ => exact .same rfl

/-- No operation makes a view another kind of view. -/
theorem Operation.prepare_mode (live : LiveView) (operation : Operation) :
    (operation.prepare live).preview = live.session.preview ∧
      (operation.prepare live).edit = live.session.edit := by
  have hprepares := operation.prepares live
  generalize operation.prepare live = sets at hprepares ⊢
  cases hprepares with
  | requested => exact ⟨rfl, rfl⟩
  | edited => exact ⟨rfl, rfl⟩
  | shown hrange =>
    unfold SetState.showRange
    split <;> exact ⟨rfl, rfl⟩
  | same hrange => exact ⟨rfl, rfl⟩

/-- An operation empties both sets or leaves both as they are. -/
theorem Operation.prepare_sets (live : LiveView) (operation : Operation) :
    ((operation.prepare live).old, (operation.prepare live).new) =
      if operation.empties live then ([], []) else (live.session.old, live.session.new) := by
  have hprepares := operation.prepares live
  generalize operation.prepare live = sets at hprepares ⊢
  unfold empties
  cases hprepares with
  | requested => rfl
  | edited => rfl
  | shown hrange =>
    have hpreview : live.session.setState.preview = live.session.preview := rfl
    rw [hrange, Option.isSome_some, Bool.true_and, SetState.showRange, hpreview]
    cases live.session.setState.follows && live.session.preview <;> rfl
  | same hrange =>
    rw [hrange]
    rfl

/-- A view opens with empty sets; its details are shown at once unless it previews a draft. -/
theorem LiveView.open?_setState {options : ViewOptions} {window now : Int} {zone : Zone}
    {notices : NoticeBoard} {live : LiveView}
    (h : LiveView.open? options window now zone notices = .ok live) :
    live.session.setState =
      ⟨options.preview, options.edit, live.session.range, !options.preview, !options.preview, [],
        []⟩ := by
  rw [LiveView.open?_session h]
  rfl

namespace LiveView

/-- A step that leaves the sets as they are and does not go on to wait for anomalies. -/
structure Aside (live : LiveView) (step : LiveView × Next) : Prop where
  /-- The sets stay as they are. -/
  sets : step.1.session.setState = live.session.setState
  /-- A failure is not forgotten. -/
  errored : live.session.errored = true → step.1.session.errored = true
  /-- What comes next is not a pass. -/
  next : ∀ stage, step.2.stage? = some stage → stage.isPass = false

/-- What is left to do is not a pass if it is to wait for series. -/
theorem isPass_of_onlySeries {next : Next} (h : next.OnlySeries) {stage : Stage}
    (hstage : next.stage? = some stage) : stage.isPass = false := by
  obtain ⟨request, hrequest⟩ := h.request? hstage
  exact Stage.isPass_of_request? hrequest

/-- Completing a request does not forget a failure. -/
theorem finishSeries_errored (live : LiveView) (request : SeriesRequest)
    (measured baseline : Option TimeSeries) :
    (live.finishSeries request measured baseline).1.session.errored = live.session.errored := by
  unfold finishSeries install
  split <;> rfl

/-- A load that fails leaves the sets as they are. -/
theorem failLoad_aside (live : LiveView) (cause : ChartError) : Aside live (live.failLoad cause) :=
  ⟨rfl, fun _ => rfl, fun _ hstage => by cases hstage⟩

/-- So does a request for series. -/
theorem requestSeries_aside (live : LiveView) (purpose : Purpose) :
    Aside live (live.requestSeries purpose) where
  sets := Session.setState_of_core (requestSeries_core live purpose)
  errored herrored := by
    have hstart := live.requestSeries_start purpose
    generalize live.requestSeries purpose = step at hstart ⊢
    cases hstart with
    | missing => rfl
    | unpredicted => exact (finishSeries_errored _ _ _ _).trans herrored
    | predicted => exact (finishSeries_errored _ _ _ _).trans herrored
    | compared => exact herrored
    | measured => exact herrored
  next _ := isPass_of_onlySeries (requestSeries_onlySeries live purpose)

/-- So does an answer to an operation that does not wait for anomalies. -/
theorem resume_aside (live : LiveView) (first : Bool) (answer : Answer) {stage : Stage}
    (hstage : stage.isPass = false) : Aside live (live.resume first answer stage) := by
  rcases stage.pass_or_series_or_report with hpass | ⟨request, hrequest⟩ | ⟨report, rfl⟩
  · exact absurd (hstage.symm.trans hpass) Bool.noConfusion
  · refine ⟨Session.setState_of_core (resume_core live first answer hrequest), fun herrored => ?_,
      fun _ => isPass_of_onlySeries (resume_onlySeries live first answer hrequest)⟩
    have hanswer := live.resume_series first answer hrequest
    generalize live.resume first answer stage = step at hanswer ⊢
    cases hanswer with
    | failed => rfl
    | measured => exact herrored
    | bothMeasured => exact herrored
    | bothBaseline => exact herrored
    | lastMeasured => exact (finishSeries_errored _ _ _ _).trans herrored
    | lastBaseline => exact (finishSeries_errored _ _ _ _).trans herrored
  · unfold resume takeReport
    cases answer.accepted <;> exact ⟨rfl, id, fun _ hstage => by cases hstage⟩

/-- How a pass begins: it fails without a configuration, or calls for the evaluation where rules are
visible and for the detected anomalies where they are hidden. -/
inductive PassStart (live : LiveView) (reentered : Bool) : LiveView × Next → Prop
  | failed {cause : ChartError} : PassStart live reentered ((live.update loading).failLoad cause)
  | evaluation {call : Call} (hvisible : live.session.rulesVisible = true)
    (hcall : (Pass.plan (loading live.session) reentered live.now).evaluationCall = .ok call) :
    PassStart live reentered
      (live.update loading,
        .ask call (.evaluation (Pass.plan (loading live.session) reentered live.now)))
  | detected (hhidden : live.session.rulesVisible = false) :
    PassStart live reentered
      (live.update loading,
        .ask (Pass.plan (loading live.session) reentered live.now).detectedCall
          (.detected (Pass.plan (loading live.session) reentered live.now) none))

/-- A pass begins in one of these ways. -/
theorem beginPass_start (live : LiveView) (reentered : Bool) :
    PassStart live reentered (live.beginPass reentered) := by
  have hsame : (Pass.plan (live.update loading).session reentered
      (live.update loading).now).rulesVisible = live.session.rulesVisible := rfl
  unfold beginPass
  dsimp only
  rw [hsame]
  cases hvisible : live.session.rulesVisible with
  | false => exact .detected hvisible
  | true =>
    rw [if_pos rfl]
    cases hcall : (Pass.plan (live.update loading).session reentered
        (live.update loading).now).evaluationCall with
    | error cause => exact .failed
    | ok call => exact .evaluation hvisible hcall

/-- The first pass is planned to put its anomalies where the sets say. -/
theorem plan_viewState (session : Session) (now : Int) :
    (Pass.plan (loading session) false now).viewState = session.setState.viewState := rfl

/-- How a pass ends that has fetched its anomalies, when these were put into the sets: the reference
of a draft is followed by the second pass; otherwise the load fails without a slice, or requests the
series of the slice. -/
inductive PassEnd (pass : Pass) (merged : LiveView) : LiveView × Next → Prop
  | again (hstate : pass.viewState = .bootstrap) (hfirst : pass.reentered = false) :
    PassEnd pass merged (merged.beginPass true)
  | missing {cause : ChartError} (hstate : pass.viewState = .bootstrap → pass.reentered = true) :
    PassEnd pass merged (merged.failLoad cause)
  | series (hstate : pass.viewState = .bootstrap → pass.reentered = true) :
    PassEnd pass merged (merged.requestSeries .load)

/-- A view with the anomalies of a pass put where it says. -/
def merged (live : LiveView) (pass : Pass) (choice : SliceChoice) (result : FetchResult) :
    LiveView :=
  live.update fun session => ((choice.apply session).merge pass.viewState result).1

/-- The session of such a view. -/
theorem merged_session (live : LiveView) (pass : Pass) (choice : SliceChoice)
    (result : FetchResult) :
    (live.merged pass choice result).session =
      ((choice.apply live.session).merge pass.viewState result).1 := rfl

/-- A merge is followed by the second pass exactly under the view state of a reference. -/
theorem merge_rerun_iff (session : Session) (state : ViewState) (result : FetchResult) :
    (session.merge state result).2 = .rerun ↔ state = .bootstrap := by
  cases state <;> simp [Session.merge, MergeOutcome.ofViewState]

/-- A pass ends in one of these ways. -/
theorem finishPass_end (live : LiveView) (pass : Pass) (choice : SliceChoice)
    (result : FetchResult) :
    PassEnd pass (live.merged pass choice result) (live.finishPass pass choice result) := by
  unfold finishPass
  dsimp only
  simp only [merge_rerun_iff]
  split
  · next hrerun =>
    obtain ⟨hstate, hfirst⟩ := hrerun
    exact .again hstate (by simpa using hfirst)
  · next hrerun =>
    have hstate : pass.viewState = .bootstrap → pass.reentered = true := by
      intro hstate
      simpa [hstate] using hrerun
    split
    · exact .missing hstate
    · exact .series hstate

/-- Taking over the choice that came with anomalies leaves the sets as they are, and merging puts
the anomalies where the view state says. -/
theorem merged_setState (live : LiveView) (pass : Pass) (choice : SliceChoice)
    (result : FetchResult) :
    (live.merged pass choice result).session.setState =
      live.session.setState.place pass.viewState result.anomalies := by
  have happly : (choice.apply live.session).setState = live.session.setState := by
    unfold SliceChoice.apply SliceChoice.selectSlice
    cases choice.metricUrns <;> rfl
  have hmerge (session : Session) : (session.merge pass.viewState result).1.setState =
      session.setState.place pass.viewState result.anomalies := by
    cases pass.viewState <;> rfl
  rw [← happly]
  exact hmerge _

/-- What an answer does to a pass: it fails; its evaluation is there and the detected anomalies are
read after it; or its anomalies are there. -/
inductive PassAnswer (live : LiveView) (answer : Answer) : Stage → LiveView × Next → Prop
  | failed {stage : Stage} {cause : ChartError} :
    PassAnswer live answer stage (live.failLoad cause)
  | reads {pass : Pass} {evaluation : Evaluation} (hreads : pass.readsDetected = true) :
    PassAnswer live answer (.evaluation pass)
      (live, .ask pass.detectedCall (.detected pass (some evaluation)))
  | evaluated {pass : Pass} {evaluation : Evaluation} {choice : SliceChoice}
    (hanswer : answer.evaluation = .ok evaluation) (hreads : pass.readsDetected = false) :
    PassAnswer live answer (.evaluation pass)
      (live.finishPass pass choice ⟨evaluation.anomalies, evaluation.predictions⟩)
  | detected {pass : Pass} {evaluation : Option Evaluation} {choice : SliceChoice}
    {result : FetchResult} (hanswer : answer.anomalies = .ok result.anomalies) :
    PassAnswer live answer (.detected pass evaluation) (live.finishPass pass choice result)

/-- An answer to an operation that waits for anomalies does one of these things. -/
theorem resume_passAnswer (live : LiveView) (first : Bool) (answer : Answer) {stage : Stage}
    (hstage : stage.isPass = true) :
    PassAnswer live answer stage (live.resume first answer stage) := by
  cases stage with
  | evaluation pass =>
    unfold resume takeEvaluation
    cases hanswer : answer.evaluation with
    | error cause => exact .failed
    | ok evaluation =>
      dsimp only
      cases hreads : pass.readsDetected with
      | true => exact .reads hreads
      | false => exact .evaluated hanswer hreads
  | detected pass evaluation =>
    unfold resume takeDetected
    cases hanswer : answer.anomalies with
    | error cause => exact .failed
    | ok anomalies => cases evaluation <;> exact .detected hanswer
  | measured request => contradiction
  | both request => contradiction
  | measuredOnly request baseline => contradiction
  | baselineOnly request measured => contradiction
  | report report => contradiction

/-- How an operation begins, as far as the sets are concerned: it prepares them and begins a load,
or prepares them and leaves them so. -/
inductive SetOpening (live : LiveView) (busy : Bool) (operation : Operation) :
    LiveView × Next → Prop
  | load {prepared : LiveView} (hbusy : busy = false) (hloads : operation.loads live = true)
    (hsets : prepared.session.setState = operation.prepare live) :
    SetOpening live busy operation (prepared.beginPass false)
  | aside {prepared : LiveView} {step : LiveView × Next}
    (hquiet : busy = true ∨
      operation.loads live = false ∧ prepared.session.errored = live.session.errored)
    (hsets : prepared.session.setState = operation.prepare live) (haside : Aside prepared step) :
    SetOpening live busy operation step

variable {live prepared : LiveView} {busy : Bool} {operation : Operation}

/-- An operation that is complete with what it prepared. -/
theorem SetOpening.finished (hloads : operation.loads live = false)
    (herrored : prepared.session.errored = live.session.errored)
    (hsets : prepared.session.setState = operation.prepare live) (result : Result) :
    SetOpening live busy operation (prepared, .finish result) :=
  .aside (.inr ⟨hloads, herrored⟩) hsets ⟨rfl, id, fun _ hstage => by cases hstage⟩

/-- An operation that requests series after what it prepared. -/
theorem requestSeries_setOpening (hloads : operation.loads live = false)
    (herrored : prepared.session.errored = live.session.errored)
    (hsets : prepared.session.setState = operation.prepare live) (purpose : Purpose) :
    SetOpening live busy operation (prepared.requestSeries purpose) :=
  .aside (.inr ⟨hloads, herrored⟩) hsets (requestSeries_aside prepared purpose)

/-- An operation that asks for a load begins it unless another one is in flight. -/
theorem beginLoad_setOpening (hloads : operation.loads live = true)
    (hsets : prepared.session.setState = operation.prepare live) :
    SetOpening live busy operation (prepared.beginLoad busy) := by
  cases busy with
  | true => exact .aside (.inl rfl) hsets ⟨rfl, id, fun _ hstage => by cases hstage⟩
  | false => exact .load rfl hloads hsets

/-- The same for a load that a failure suppresses. -/
theorem beginTriggered_setOpening
    (hloads : operation.loads live = !live.session.errored)
    (herrored : prepared.session.errored = live.session.errored)
    (hsets : prepared.session.setState = operation.prepare live) :
    SetOpening live busy operation (prepared.beginTriggered busy) := by
  unfold beginTriggered
  rw [herrored]
  cases hfailed : live.session.errored with
  | true =>
    rw [hfailed] at hloads
    exact .finished hloads herrored hsets _
  | false =>
    rw [hfailed] at hloads
    exact beginLoad_setOpening hloads hsets

/-- Showing a range is what a selection of a range prepares. -/
theorem showRange_setOpening {range : AnalysisRange}
    (hloads : operation.loads live =
      (live.session.setState.follows && !live.session.errored))
    (hprepare : operation.prepare live = live.session.setState.showRange range)
    (duration : RangePreset) :
    SetOpening live busy operation (live.showRange busy range duration) := by
  unfold showRange
  dsimp only [update]
  have hfollows : (live.session.showDetails && live.session.isCurrent) =
      live.session.setState.follows := rfl
  rw [hfollows]
  cases hshown : live.session.setState.follows with
  | false =>
    rw [hshown] at hloads
    rw [if_neg Bool.false_ne_true]
    refine .finished hloads ?_ ?_ _
    · rfl
    · rw [hprepare, SetState.showRange, hshown]
      rfl
  | true =>
    rw [hshown] at hloads
    rw [if_pos rfl]
    have hpreview : live.session.setState.preview = live.session.preview := rfl
    cases hdraft : live.session.preview with
    | true =>
      refine beginTriggered_setOpening hloads rfl ?_
      rw [hprepare, SetState.showRange, hshown, hpreview, hdraft]
      rfl
    | false =>
      refine beginTriggered_setOpening hloads rfl ?_
      rw [hprepare, SetState.showRange, hshown, hpreview, hdraft]
      rfl

/-- A range is refused, or shown. -/
theorem selectRange_setOpening {start stop : Int}
    (hrange : operation.range? live = (AnalysisRange.new start stop).toOption)
    (hloads : operation.loads live =
      ((operation.range? live).isSome && live.session.setState.follows && !live.session.errored))
    (hprepare : operation.prepare live =
      match operation.range? live with
      | some range => live.session.setState.showRange range
      | none => live.session.setState)
    (duration : RangePreset) :
    SetOpening live busy operation (live.selectRange busy start stop duration) := by
  unfold selectRange
  cases hnew : AnalysisRange.new start stop with
  | error cause =>
    rw [hnew] at hrange
    rw [hrange] at hloads hprepare
    exact .finished hloads rfl hprepare.symm _
  | ok range =>
    rw [hnew] at hrange
    rw [hrange] at hloads hprepare
    exact showRange_setOpening hloads hprepare duration

end LiveView

/-- A preset only names ranges that start before they end. -/
theorem RangePreset.new_of_range? {preset : RangePreset} {now : Int} {zone : Zone}
    {range : AnalysisRange} (h : preset.range? now zone = some range) :
    AnalysisRange.new range.start range.stop = .ok range :=
  AnalysisRange.new_eq_ok_iff.2 ⟨lt_of_range? h, rfl⟩

namespace LiveView

/-- An operation begins in one of these ways. -/
theorem begin_setOpening (live : LiveView) (busy : Bool) (operation : Operation) :
    SetOpening live busy operation (live.begin busy operation) := by
  cases operation with
  | start =>
    unfold begin
    dsimp only
    cases hpreview : live.session.preview with
    | true => exact .finished (by simp [Operation.loads, hpreview]) rfl rfl _
    | false => exact beginLoad_setOpening (by simp [Operation.loads, hpreview]) rfl
  | requestPreview => exact beginLoad_setOpening rfl rfl
  | triggerFetch => exact beginTriggered_setOpening rfl rfl rfl
  | setYaml yaml => refine .finished ?_ ?_ ?_ _ <;> rfl
  | selectRule rule => refine requestSeries_setOpening ?_ ?_ ?_ _ <;> rfl
  | selectDimension label =>
    unfold begin
    dsimp only
    split
    · refine .finished ?_ ?_ ?_ _ <;> rfl
    · refine requestSeries_setOpening ?_ ?_ ?_ _ <;> rfl
  | selectBaseline offset =>
    unfold begin
    dsimp only
    split
    · refine .finished ?_ ?_ ?_ _ <;> rfl
    · refine requestSeries_setOpening ?_ ?_ ?_ _ <;> rfl
  | selectRange start stop duration => exact selectRange_setOpening rfl rfl rfl duration
  | selectPreset preset =>
    unfold begin
    dsimp only
    cases hrange : preset.range? live.now live.zone with
    | none =>
      refine .finished ?_ rfl ?_ _
      · simp [Operation.loads, Operation.range?, hrange]
      · simp [Operation.prepare, Operation.range?, hrange]
    | some range =>
      have hnew := RangePreset.new_of_range? hrange
      refine selectRange_setOpening ?_ rfl rfl preset
      rw [hnew]
      exact hrange
  | submitReport form =>
    unfold begin submit
    dsimp only
    split
    · let written : LiveView := live.update fun session =>
        { session with report := { session.report with form := form } }
      have hwritten : written.session.setState = live.session.setState := rfl
      refine .aside (.inr ⟨rfl, rfl⟩) hwritten ⟨rfl, id, fun stage hstage => ?_⟩
      cases hstage
      rfl
    · refine .finished ?_ ?_ ?_ _ <;> rfl
    · refine .finished ?_ ?_ ?_ _ <;> rfl

end LiveView

/-- The pass whose anomalies are waited for. -/
def Stage.pass? : Stage → Option Pass
  | evaluation pass | detected pass _ => some pass
  | _ => none

/-- A load waits for anomalies in a pass. -/
theorem Stage.isPass_eq_isSome (stage : Stage) : stage.isPass = stage.pass?.isSome := by
  cases stage <;> rfl

/-- Whether a call is the one that a pass waits for at a stage. -/
def Stage.asks (call : Call) : Stage → Prop
  | evaluation pass => pass.evaluationCall = .ok call
  | detected pass _ => call = pass.detectedCall
  | _ => True

/-- Where an operation goes on with a pass, it makes the call of the pass. -/
def Next.Asks : Next → Prop
  | ask call stage => stage.asks call
  | wait stage => stage.isPass = false
  | finish _ => True

/-- An operation that does not go on with a pass has no call to make for one. -/
theorem Next.asks_of_not_pass {next : Next}
    (h : ∀ stage, next.stage? = some stage → stage.isPass = false) : next.Asks := by
  cases next with
  | ask call stage =>
    have hpass := h stage rfl
    cases stage <;> first | exact trivial | cases hpass
  | wait stage => exact h stage rfl
  | finish result => exact trivial

namespace LiveView

/-- A pass makes its call where it begins. -/
theorem beginPass_asks (live : LiveView) (reentered : Bool) :
    (live.beginPass reentered).2.Asks := by
  have hstart := live.beginPass_start reentered
  generalize live.beginPass reentered = step at hstart ⊢
  cases hstart with
  | failed => exact trivial
  | evaluation hvisible hcall => exact hcall
  | detected hhidden => exact rfl

/-- Where an operation begins a pass, it makes its call. -/
theorem begin_asks (live : LiveView) (busy : Bool) (operation : Operation) :
    (live.begin busy operation).2.Asks := by
  have hopening := live.begin_setOpening busy operation
  generalize live.begin busy operation = step at hopening ⊢
  cases hopening with
  | load => exact beginPass_asks _ false
  | aside hquiet hsets haside => exact Next.asks_of_not_pass haside.next

/-- Where an operation goes on with a pass, it makes its call. -/
theorem resume_asks (live : LiveView) (first : Bool) (answer : Answer) (stage : Stage) :
    (live.resume first answer stage).2.Asks := by
  cases hstage : stage.isPass with
  | false => exact Next.asks_of_not_pass (live.resume_aside first answer hstage).next
  | true =>
    have hfinish (pass : Pass) (choice : SliceChoice) (result : FetchResult) :
        (live.finishPass pass choice result).2.Asks := by
      have hend := live.finishPass_end pass choice result
      generalize live.finishPass pass choice result = step at hend ⊢
      cases hend with
      | again => exact beginPass_asks _ true
      | missing => exact trivial
      | series => exact Next.asks_of_not_pass (requestSeries_aside _ _).next
    have hanswer := live.resume_passAnswer first answer hstage
    generalize live.resume first answer stage = step at hanswer ⊢
    cases hanswer with
    | failed => exact trivial
    | reads => exact rfl
    | evaluated => exact hfinish _ _ _
    | detected => exact hfinish _ _ _

end LiveView

namespace Run

/-- While a pass is in flight no other pass is. -/
theorem Orderly.no_other_pass {run : Run} (h : run.Orderly) {others : List Flight} {flight : Flight}
    (hflights : run.flights = others ++ [flight]) (hpass : flight.stage.isPass = true) :
    ∀ other ∈ others, other.stage.isPass = false := by
  have hload (stage : Stage) (h : stage.isPass = true) : stage.isLoad = true := by
    cases stage <;> first | rfl | cases h
  intro other hother
  by_contra hother'
  have hsame := h.loads other (mem_flights_of_others hflights hother) flight
    (last_mem_flights hflights) (hload _ (by simpa using hother')) (hload _ hpass)
  exact h.toNumbered.others_ne hflights hother hsame

/-- Every pass in flight waits for one call, which is its own. -/
def Asked (run : Run) : Prop :=
  ∀ flight ∈ run.flights, flight.stage.isPass = true →
    ∃ id call, flight.waiting = [id] ∧ run.call? id = some call ∧ flight.stage.asks call

variable {run : Run}

/-- An operation that goes on keeps this. -/
theorem Asked.hold (h : run.Asked) (operation : Nat) (waiting : List Nat) {next : Next}
    (hnext : next.Asks) : (run.hold operation waiting next).Asked := by
  intro flight hflight hpass
  have hother (hmem : flight ∈ run.flights) : ∃ id call, flight.waiting = [id] ∧
      (run.hold operation waiting next).call? id = some call ∧ flight.stage.asks call := by
    obtain ⟨id, call, hwaiting, hcall, hasks⟩ := h flight hmem hpass
    exact ⟨id, call, hwaiting, call?_hold hcall operation waiting next, hasks⟩
  cases next with
  | ask call stage =>
    rcases mem_flights_park.1 hflight with hmem | rfl
    · exact hother hmem
    · exact ⟨_, call, rfl, run.call?_record call, hnext⟩
  | wait stage =>
    rcases mem_flights_park.1 hflight with hmem | rfl
    · exact hother hmem
    · exact absurd (hpass.symm.trans hnext) Bool.noConfusion
  | finish result => exact hother hflight

/-- It is kept while an operation goes on. -/
theorem Asked.keeps (oracle : Oracle) (operation : Nat) (others : List Flight) :
    Keeps oracle operation others Asked where
  take := by
    intro run stage waiting id call hflights _ _ h
    rw [taken_eq]
    refine Asked.hold (fun flight hflight => ?_) _ _ (LiveView.resume_asks _ _ _ _)
    exact h flight (mem_flights_of_others hflights hflight)
  double := by
    intro run request id hflights h flight hflight hpass
    rcases mem_flights_doubled.1 hflight with hother | rfl
    · obtain ⟨id', call, hwaiting, hcall, hasks⟩ :=
        h flight (mem_flights_of_others hflights hother) hpass
      exact ⟨id', call, hwaiting, call?_record_of_some hcall _, hasks⟩
    · cases hpass

/-- It is kept by an operation that begins. -/
theorem Asked.started (h : run.Asked) (operation : Operation) : (run.started operation).Asked := by
  have hlive : Asked { run with live := (run.live.begin run.busy operation).1 } := h
  exact hlive.hold run.begun [] (run.live.begin_asks run.busy operation)

end Run

end AlertDetail
