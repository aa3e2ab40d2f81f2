import AlertDetail.Session
import AlertDetail.Slice

/-!
# Merging what was fetched

Putting fetched anomalies into the sets of a session, as a view state says, and taking over the
slices and the rule that came with them. Merging ends the loading of anomalies in every case; an
errored view takes nothing over.
-/

namespace AlertDetail

/-- What a fetch of anomalies gives. -/
structure FetchResult where
  /-- The anomalies. -/
  anomalies : List Anomaly := []
  /-- The predictions. -/
  predictions : List Prediction := []
  deriving DecidableEq, Inhabited

/-- What follows a merge. -/
inductive MergeOutcome where
  /-- The result was taken over. -/
  | applied
  /-- The result is the reference; the configuration itself must be evaluated next. -/
  | rerun
  /-- Nothing was taken over. -/
  | skipped
  deriving DecidableEq, Repr, Inhabited

/-- The name of an outcome. -/
def MergeOutcome.name : MergeOutcome → String
  | applied => "applied"
  | rerun => "rerun"
  | skipped => "skipped"

/-- What follows a merge under a view state. -/
def MergeOutcome.ofViewState : ViewState → MergeOutcome
  | .errored => .skipped
  | .bootstrap => .rerun
  | _ => .applied

namespace Session

/-- The session with anomalies put where a view state says. -/
def place (session : Session) (state : ViewState) (anomalies : List Anomaly) : Session :=
  match state with
  | .errored => session
  | .baseline => session.setOld anomalies
  | .replace => session.setNew anomalies
  | .shuffle => session.promote.setNew anomalies
  | .bootstrap => (session.setOld anomalies).setNew []

/-- The session with a result merged under a view state, and what follows. -/
def merge (session : Session) (state : ViewState) (result : FetchResult) :
    Session × MergeOutcome :=
  let idle := { session with isLoading := false }
  let outcome := MergeOutcome.ofViewState state
  if outcome = .skipped then (idle, outcome)
  else ({ idle.place state result.anomalies with predictions := result.predictions }, outcome)

end Session

/-- Slices to choose from and a rule to select. -/
structure SliceChoice where
  /-- The slices; none of them leaves the choice as it is. -/
  metricUrns : List String := []
  /-- The rule; without one the selected rule stays. -/
  rule : Option Rule := none
  deriving DecidableEq, Inhabited

namespace SliceChoice

/-- The choice that comes with anomalies. -/
def ofAnomalies (anomalies : List Anomaly) : SliceChoice := ⟨Slice.ofAnomalies anomalies, none⟩

/-- The choice that comes with an evaluation: the slices of its diagnostics and the detector of its
first prediction. -/
def ofEvaluation (evaluation : Evaluation) : SliceChoice :=
  match evaluation.metricUrns? with
  | some urns =>
    ⟨urns, evaluation.predictions.head?.map fun prediction => .ofDetector prediction.detectorName⟩
  | none => {}

/-- Take over the slices, selecting the first. -/
def selectSlice (choice : SliceChoice) (session : Session) : Session :=
  match choice.metricUrns with
  | [] => session
  | first :: rest =>
    { session with
      metricUrn := some first, metricUrns := first :: rest, dimension := some (Slice.label first) }

/-- Take over the choice. -/
def apply (choice : SliceChoice) (session : Session) : Session :=
  let session := choice.selectSlice session
  { session with rule := choice.rule.or session.rule }

end SliceChoice

end AlertDetail
