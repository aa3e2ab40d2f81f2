import AlertDetail.Anomaly
import AlertDetail.Json.Basic
import AlertDetail.Text.Blank
import AlertDetail.TimeSeries

/-!
# Detector evaluations

Evaluating a detector configuration, saved or draft, gives anomalies, a predicted series for each
detector and slice, and diagnostics. The diagnostics under key `0` name the metric slices in the
order in which they are offered.
-/

namespace AlertDetail

/-- A detector that anomalies can be restricted to. -/
structure Rule where
  /-- The full name of the detector. -/
  detectorName : String
  /-- The name shown: what stands before the first colon. -/
  name : String
  deriving DecidableEq, Repr, Inhabited

/-- The rule of a detector. -/
def Rule.ofDetector (detectorName : String) : Rule :=
  ⟨detectorName, Text.before ':' detectorName⟩

/-- The predicted series of one detector on one slice. -/
structure Prediction where
  /-- The detector. -/
  detectorName : String
  /-- The slice. -/
  metricUrn : String
  /-- Measured values, expectation and bounds. -/
  series : TimeSeries := {}
  deriving DecidableEq, Inhabited

/-- What an evaluation gives. -/
structure Evaluation where
  /-- The anomalies found. -/
  anomalies : List Anomaly := []
  /-- The predicted series. -/
  predictions : List Prediction := []
  /-- Diagnostics, every key once and in the order of the answer. -/
  diagnostics : List (String × Json) := []
  deriving Inhabited

/-- The metric slices that the diagnostics name, none if they have no object under key `0`. -/
def Evaluation.metricUrns? (evaluation : Evaluation) : Option (List String) :=
  match evaluation.diagnostics.lookup "0" with
  | some (.obj slices) => some (slices.map (·.1))
  | _ => none

namespace Prediction

/-- The prediction of a rule on a slice. -/
def find? (predictions : List Prediction) (rule : Option Rule) (metricUrn : String) :
    Option Prediction :=
  rule.bind fun rule => predictions.find? fun prediction =>
    prediction.detectorName = rule.detectorName && prediction.metricUrn = metricUrn

/-- A prediction is one of the detector of a rule, on a slice. -/
def Matches (prediction : Prediction) (rule : Option Rule) (metricUrn : String) : Prop :=
  ∃ selected, rule = some selected ∧ prediction.detectorName = selected.detectorName ∧
    prediction.metricUrn = metricUrn

/-- A prediction is the first of several that matches a rule and a slice. -/
def FirstMatch (predictions : List Prediction) (rule : Option Rule) (metricUrn : String)
    (prediction : Prediction) : Prop :=
  prediction.Matches rule metricUrn ∧ ∃ before after, predictions = before ++ prediction :: after ∧
    ∀ other ∈ before, ¬ other.Matches rule metricUrn

variable {predictions : List Prediction} {rule : Option Rule} {metricUrn : String}
  {prediction : Prediction}

/-- Without a rule nothing matches. -/
theorem not_matches_none : ¬ prediction.Matches none metricUrn := by
  rintro ⟨selected, hselected, -⟩
  cases hselected

/-- With a rule its detector and the slice decide. -/
theorem matches_some_iff {selected : Rule} : prediction.Matches (some selected) metricUrn ↔
    prediction.detectorName = selected.detectorName ∧ prediction.metricUrn = metricUrn := by
  simp [Matches]

/-- What is found is the first match. -/
theorem find?_eq_some_iff : find? predictions rule metricUrn = some prediction ↔
    FirstMatch predictions rule metricUrn prediction := by
  cases rule with
  | none => simp [find?, FirstMatch, not_matches_none]
  | some selected =>
    rw [find?, Option.bind_some, List.find?_eq_some_iff_append]
    simp only [FirstMatch, matches_some_iff, Bool.and_eq_true, decide_eq_true_eq,
      Bool.not_eq_true', ← Bool.not_eq_true]

/-- Nothing is found where nothing matches. -/
theorem find?_eq_none_iff : find? predictions rule metricUrn = none ↔
    ∀ prediction ∈ predictions, ¬ prediction.Matches rule metricUrn := by
  cases rule with
  | none => simp [find?, not_matches_none]
  | some selected => simp [find?, matches_some_iff]

end Prediction

end AlertDetail
