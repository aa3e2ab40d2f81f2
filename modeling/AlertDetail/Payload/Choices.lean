import AlertDetail.Offset
import AlertDetail.Payload.Fields
import AlertDetail.Prediction
import AlertDetail.Range
import AlertDetail.Report
import AlertDetail.ViewState

/-!
# Choices and forms as JSON

Named choices, rules, ranges and the form of a report. The form is an object only; what it holds
beside its three fields must be texts. A range is read as it stands, its bounds in any order.
-/

namespace AlertDetail

/-- Read an offset. -/
def Offset.ofJson? : Json → Option Offset := Json.choice? ofName?

/-- Write an offset. -/
def Offset.toJson (offset : Offset) : Json := .str offset.name

/-- Read a preset. -/
def RangePreset.ofJson? : Json → Option RangePreset := Json.choice? ofName?

/-- Write a preset. -/
def RangePreset.toJson (preset : RangePreset) : Json := .str preset.name

/-- Read a view state. -/
def ViewState.ofJson? : Json → Option ViewState := Json.choice? ofName?

/-- Write a view state. -/
def ViewState.toJson (state : ViewState) : Json := .str state.name

/-- Read a rule. -/
def Rule.ofJson? (value : Json) : Option Rule := do
  let fields ← value.record? ["detector_name", "name"]
  return ⟨← fields.required "detector_name" Json.text?, ← fields.required "name" Json.text?⟩

/-- Write a rule. -/
def Rule.toJson (rule : Rule) : Json :=
  .obj [("detector_name", .str rule.detectorName), ("name", .str rule.name)]

/-- Read a range. -/
def AnalysisRange.ofJson? (value : Json) : Option AnalysisRange := do
  let fields ← value.record? ["start", "end"]
  return ⟨← fields.required "start" Json.integer?, ← fields.required "end" Json.integer?⟩

/-- Write a range. -/
def AnalysisRange.toJson (range : AnalysisRange) : Json :=
  .obj [("start", .int range.start), ("end", .int range.stop)]

namespace ReportForm

/-- Names of the fields, in order. -/
def fieldNames : List String := ["startTime", "endTime", "feedbackType"]

/-- Read a form. -/
def ofJson? : Json → Option ReportForm
  | .obj members => do
    let fields ← (Json.obj members).record? fieldNames
    return {
      startTime := ← fields.optional "startTime" Json.integer?
      endTime := ← fields.optional "endTime" Json.integer?
      feedbackType := ← fields.optional "feedbackType" Json.text?
      extra := ← (Json.obj (members.filter (!fieldNames.contains ·.1))).texts? }
  | _ => none

/-- Write a form: its three fields, then the others. -/
def toJson (form : ReportForm) : Json :=
  .obj ([
    ("startTime", .ofInteger? form.startTime),
    ("endTime", .ofInteger? form.endTime),
    ("feedbackType", .ofText? form.feedbackType)] ++
    form.extra.entries.map fun (key, text) => (key, .str text))

end ReportForm

end AlertDetail
