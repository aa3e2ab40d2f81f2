import AlertDetail.Run.Series

/-!
# Loads

A load reads the anomalies of the range in one or two passes and then the series of the slice that
they name. Where rules are visible a pass evaluates a configuration, and may read the detected
anomalies after it; where they are hidden it only reads these. A changed alert without a reference
takes two passes: the saved configuration first, then the one to evaluate.
-/

namespace AlertDetail.LiveView

/-- A load fails: the view is errored and the user is told. -/
def failLoad (live : LiveView) (cause : ChartError) : LiveView × Next :=
  (live.fail cause, .finish (.loaded .failed))

/-- The session while a pass begins. -/
def loading (session : Session) : Session :=
  { session with errored := false, isLoading := true }

/-- Begin a pass. -/
def beginPass (live : LiveView) (reentered : Bool) : LiveView × Next :=
  let live := live.update loading
  let pass := Pass.plan live.session reentered live.now
  if pass.rulesVisible then
    match pass.evaluationCall with
    | .ok call => (live, .ask call (.evaluation pass))
    | .error cause => live.failLoad cause
  else (live, .ask pass.detectedCall (.detected pass none))

/-- Begin a load, which is dropped while another one is in flight. -/
def beginLoad (live : LiveView) (busy : Bool) : LiveView × Next :=
  if busy then (live, .finish (.loaded .dropped)) else live.beginPass false

/-- The anomalies of a pass are there: take over the choice that came with them, merge them, and go
on with the second pass or with the series. -/
def finishPass (live : LiveView) (pass : Pass) (choice : SliceChoice) (result : FetchResult) :
    LiveView × Next :=
  let (session, outcome) := (choice.apply live.session).merge pass.viewState result
  let live := live.update fun _ => session
  if outcome = .rerun ∧ !pass.reentered then live.beginPass true
  else match session.metricUrn with
    | none => live.failLoad .missingSlice
    | some _ => live.requestSeries .load

/-- The answer to the call for the evaluation of a pass. -/
def takeEvaluation (live : LiveView) (pass : Pass) (answer : Answer) : LiveView × Next :=
  match answer.evaluation with
  | .error cause => live.failLoad cause
  | .ok evaluation =>
    if pass.readsDetected then
      (live, .ask pass.detectedCall (.detected pass (some evaluation)))
    else
      live.finishPass pass (.ofEvaluation evaluation) ⟨evaluation.anomalies, evaluation.predictions⟩

/-- The answer to the call for the detected anomalies of a pass. -/
def takeDetected (live : LiveView) (pass : Pass) (evaluation : Option Evaluation)
    (answer : Answer) : LiveView × Next :=
  match answer.anomalies with
  | .error cause => live.failLoad cause
  | .ok anomalies =>
    match evaluation with
    | some evaluation =>
      live.finishPass pass (.ofEvaluation evaluation) ⟨anomalies, evaluation.predictions⟩
    | none => live.finishPass pass (.ofAnomalies anomalies) ⟨anomalies, []⟩

end AlertDetail.LiveView
