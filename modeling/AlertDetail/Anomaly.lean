import AlertDetail.TextMap

/-!
# Anomalies

An anomaly is a stretch of time in which a metric slice behaved unexpectedly, with what the backend
knows about it. Times are in milliseconds since the epoch; the sample at the end time is the first
one outside the anomaly.
-/

namespace AlertDetail

/-- Where an anomaly comes from. -/
structure AnomalyProperties where
  /-- The component that detected it: detector, colon, kind. -/
  detectorComponentName : Option String := none
  deriving DecidableEq, Inhabited

/-- What a reviewer said about an anomaly. -/
structure AnomalyFeedback where
  /-- The verdict. -/
  feedbackType : Option String := none
  /-- The account of the reviewer. -/
  updatedBy : Option String := none
  deriving DecidableEq, Inhabited

/-- An anomaly. -/
structure Anomaly where
  /-- The number it is stored under; evaluated drafts have none. -/
  id : Option Int := none
  /-- The metric slice it lies on. -/
  metricUrn : String
  /-- Start in epoch milliseconds. -/
  startTime : Int
  /-- End in epoch milliseconds, outside the anomaly. -/
  endTime : Int
  /-- Mean of the metric inside. -/
  avgCurrentVal : Option Float := none
  /-- Mean that was expected. -/
  avgBaselineVal : Option Float := none
  /-- Dimension values of the slice. -/
  dimensions : TextMap := .empty
  /-- Where it comes from. -/
  properties : Option AnomalyProperties := none
  /-- The review, if there was one. -/
  feedback : Option AnomalyFeedback := none
  /-- The verdict in the words of the statistics. -/
  statusClassification : Option String := none
  deriving DecidableEq, Inhabited

namespace Anomaly

/-- The component that detected the anomaly, if it is known. -/
def component? (anomaly : Anomaly) : Option String :=
  anomaly.properties.bind (·.detectorComponentName)

/-- Whether an instant lies inside. -/
def covers (anomaly : Anomaly) (instant : Int) : Bool :=
  anomaly.startTime ≤ instant && instant < anomaly.endTime

end Anomaly

end AlertDetail
