import AlertDetail.Offset
import AlertDetail.Prediction

/-!
# Selections

What the user can select, and which anomalies a selection leaves. Rules can be selected only where
they are visible; then an anomaly must have been detected by the selected one, and without a
selected rule nothing is left.
-/

namespace AlertDetail

/-- Whether an anomaly was detected by a rule: the name of the detector stands in the name of the
component. -/
def Anomaly.isDetectedBy (anomaly : Anomaly) (rule : Option Rule) : Bool :=
  match rule, anomaly.component? with
  | some rule, some component => Text.contains rule.detectorName.toList component.toList
  | _, _ => false

/-- What anomalies are restricted to. -/
structure Selection where
  /-- The slice. -/
  metricUrn : Option String := none
  /-- The rule. -/
  rule : Option Rule := none
  /-- Whether rules are visible. -/
  rulesVisible : Bool := false
  deriving DecidableEq, Inhabited

namespace Selection

/-- Whether an anomaly is left by the selection. -/
def admits (selection : Selection) (anomaly : Anomaly) : Bool :=
  selection.metricUrn = some anomaly.metricUrn &&
    (!selection.rulesVisible || anomaly.isDetectedBy selection.rule)

/-- The anomalies that the selection leaves, in order. -/
def filter (selection : Selection) (anomalies : List Anomaly) : List Anomaly :=
  anomalies.filter selection.admits

end Selection

/-- The rules of predictions, each once, in the order in which they first appear. -/
def Rule.ofPredictions (predictions : List Prediction) : List Rule :=
  ((predictions.map (·.detectorName)).eraseDups).map Rule.ofDetector

/-- An offset offered as baseline. -/
structure BaselineOption where
  /-- The offset. -/
  offset : Offset
  /-- Whether it is selected. -/
  isActive : Bool
  deriving DecidableEq, Repr, Inhabited

/-- The offered baselines. Where rules are visible, the prediction leads. -/
def BaselineOption.offered (rulesVisible : Bool) (selected : Offset) : List BaselineOption :=
  ((if rulesVisible then [Offset.predicted] else []) ++ Offset.comparisons).map
    fun offset => ⟨offset, offset = selected⟩

end AlertDetail
