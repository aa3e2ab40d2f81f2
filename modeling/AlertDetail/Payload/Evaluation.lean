import AlertDetail.Json.Reader
import AlertDetail.Payload.Anomaly
import AlertDetail.Prediction

/-!
# Evaluations and series as JSON

How the backend writes time series, predictions and evaluations. A time series is written again with
its grid and the channels that hold anything.
-/

namespace AlertDetail

namespace TimeSeries

/-- Names of the fields, in order. -/
def fieldNames : List String := ["timestamp", "value", "current", "upper_bound", "lower_bound"]

/-- Read a channel. -/
def channelOfJson? : Json → Option Channel := Json.list? (Json.nullable Json.number?)

/-- Read a time series, its channels with a given reader. -/
def ofJsonWith? (channel? : Json → Option Channel) (value : Json) : Option TimeSeries := do
  let fields ← value.record? fieldNames
  return {
    timestamp := ← fields.orElse "timestamp" [] (Json.list? Json.integer?)
    value := ← fields.orElse "value" [] channel?
    current := ← fields.orElse "current" [] channel?
    upperBound := ← fields.orElse "upper_bound" [] channel?
    lowerBound := ← fields.orElse "lower_bound" [] channel? }

/-- Read a time series. -/
def ofJson? (value : Json) : Option TimeSeries := ofJsonWith? channelOfJson? value

/-- Write a channel under a name, unless it is empty. -/
def channelToJson (name : String) (channel : Channel) : List (String × Json) :=
  if channel.isEmpty then [] else [(name, .arr (channel.map Json.ofNumber?))]

/-- Write a time series. -/
def toJson (series : TimeSeries) : Json :=
  .obj (("timestamp", .arr (series.timestamp.map .int)) ::
    channelToJson "value" series.value ++ channelToJson "current" series.current ++
    channelToJson "upper_bound" series.upperBound ++ channelToJson "lower_bound" series.lowerBound)

end TimeSeries

namespace Prediction

/-- Read a prediction. -/
def ofJson? (value : Json) : Option Prediction := do
  let fields ← value.record? ["detectorName", "metricUrn", "predictedTimeSeries"]
  return {
    detectorName := ← fields.required "detectorName" Json.text?
    metricUrn := ← fields.required "metricUrn" Json.text?
    series := ← fields.orElse "predictedTimeSeries" {} TimeSeries.ofJson? }

/-- Write a prediction. -/
def toJson (prediction : Prediction) : Json :=
  .obj [
    ("detectorName", .str prediction.detectorName),
    ("metricUrn", .str prediction.metricUrn),
    ("predictedTimeSeries", prediction.series.toJson)]

end Prediction

namespace Evaluation

/-- Read diagnostics, which are kept as they are. They stand inside two containers. -/
def diagnosticsOfJson? : Json → Option (List (String × Json))
  | .obj members =>
    if Json.depthMembers members + 2 ≤ Json.maxDepth ∧ Json.readableMembers members then
      some (Json.onceEach (Json.mergedMembers members))
    else none
  | _ => none

/-- Read an evaluation. -/
def ofJson? (value : Json) : Option Evaluation := do
  let fields ← value.record? ["anomalies", "predictions", "diagnostics"]
  return {
    anomalies := ← fields.orElse "anomalies" [] (Json.list? Anomaly.ofJson?)
    predictions := ← fields.orElse "predictions" [] (Json.list? Prediction.ofJson?)
    diagnostics := ← fields.orElse "diagnostics" [] diagnosticsOfJson? }

/-- Write an evaluation. -/
def toJson (evaluation : Evaluation) : Json :=
  .obj [
    ("anomalies", .arr (evaluation.anomalies.map Anomaly.toJson)),
    ("predictions", .arr (evaluation.predictions.map Prediction.toJson)),
    ("diagnostics", .obj evaluation.diagnostics)]

end Evaluation

end AlertDetail
