import AlertDetail.Anomaly
import AlertDetail.Payload.Fields

/-!
# Anomalies as JSON

How the backend writes anomalies, and how they are written again: every field is written, `null`
where there is nothing.
-/

namespace AlertDetail

/-- Read the origin of an anomaly. -/
def AnomalyProperties.ofJson? (value : Json) : Option AnomalyProperties := do
  let fields ← value.record? ["detectorComponentName"]
  return ⟨← fields.optional "detectorComponentName" Json.text?⟩

/-- Write the origin of an anomaly. -/
def AnomalyProperties.toJson (properties : AnomalyProperties) : Json :=
  .obj [("detectorComponentName", .ofText? properties.detectorComponentName)]

/-- Read the review of an anomaly. -/
def AnomalyFeedback.ofJson? (value : Json) : Option AnomalyFeedback := do
  let fields ← value.record? ["feedbackType", "updatedBy"]
  return ⟨← fields.optional "feedbackType" Json.text?, ← fields.optional "updatedBy" Json.text?⟩

/-- Write the review of an anomaly. -/
def AnomalyFeedback.toJson (feedback : AnomalyFeedback) : Json :=
  .obj [("feedbackType", .ofText? feedback.feedbackType),
    ("updatedBy", .ofText? feedback.updatedBy)]

namespace Anomaly

/-- Names of the fields, in order. -/
def fieldNames : List String :=
  ["id", "metricUrn", "startTime", "endTime", "avgCurrentVal", "avgBaselineVal", "dimensions",
    "properties", "feedback", "statusClassification"]

/-- Read an anomaly. -/
def ofJson? (value : Json) : Option Anomaly := do
  let fields ← value.record? fieldNames
  return {
    id := ← fields.optional "id" Json.integer?
    metricUrn := ← fields.required "metricUrn" Json.text?
    startTime := ← fields.required "startTime" Json.integer?
    endTime := ← fields.required "endTime" Json.integer?
    avgCurrentVal := ← fields.optional "avgCurrentVal" Json.number?
    avgBaselineVal := ← fields.optional "avgBaselineVal" Json.number?
    dimensions := ← fields.orElse "dimensions" .empty Json.texts?
    properties := ← fields.optional "properties" AnomalyProperties.ofJson?
    feedback := ← fields.optional "feedback" AnomalyFeedback.ofJson?
    statusClassification := ← fields.optional "statusClassification" Json.text? }

/-- Write an anomaly. -/
def toJson (anomaly : Anomaly) : Json :=
  .obj [
    ("id", .ofInteger? anomaly.id),
    ("metricUrn", .str anomaly.metricUrn),
    ("startTime", .int anomaly.startTime),
    ("endTime", .int anomaly.endTime),
    ("avgCurrentVal", .ofNumber? anomaly.avgCurrentVal),
    ("avgBaselineVal", .ofNumber? anomaly.avgBaselineVal),
    ("dimensions", .ofTexts anomaly.dimensions),
    ("properties", anomaly.properties.elim .null AnomalyProperties.toJson),
    ("feedback", anomaly.feedback.elim .null AnomalyFeedback.toJson),
    ("statusClassification", .ofText? anomaly.statusClassification)]

end Anomaly

end AlertDetail
