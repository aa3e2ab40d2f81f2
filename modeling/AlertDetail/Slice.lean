import AlertDetail.Anomaly
import AlertDetail.Text.Blank
import AlertDetail.Text.Percent

/-!
# Metric slices

A metric slice is named by a text of segments between colons: three that name the metric, then the
filters that cut the slice out of it, percent-encoded. This module turns such a name into a label
and finds the slice of a label. The segments of the metric itself are not looked into.
-/

namespace AlertDetail.Slice

/-- Segments that name the metric. -/
def headSegments : Nat := 3

/-- The label of a slice without filters. -/
def wholeLabel : String := "All Dimensions"

/-- The text of a slice name. A name whose escapes write no text stands for itself. -/
def decoded (urn : String) : List Char :=
  (Text.Percent.decode? urn.toList).getD urn.toList

/-- The filters of a slice, without blanks around them. -/
def filters (urn : String) : List (List Char) :=
  (((Text.pieces ':' (decoded urn)).drop headSegments).map Text.trimChars).filter (!·.isEmpty)

/-- The filters of a slice in one line, empty if there are none. -/
def tail (urn : String) : String :=
  Text.joined ", " ((filters urn).map .ofList)

/-- The label of a slice. -/
def label (urn : String) : String :=
  if tail urn = "" then wholeLabel else tail urn

/-- The labels of slices, in order. -/
def labels (urns : List String) : List String := urns.map label

/-- Whether there is more than one slice to choose from. -/
def several (urns : List String) : Bool := 1 < urns.length

/-- Whether a slice is meant by a selected text: by its filters, or by the label of the whole if it
has none. -/
def isSelectedBy (selected : String) (urn : String) : Bool :=
  tail urn = selected || (tail urn = "" && selected = wholeLabel)

/-- The first slice that is meant by a selected text. -/
def resolve? (urns : List String) (selected : String) : Option String :=
  urns.find? (isSelectedBy selected)

/-- The slices of anomalies, each once, in the order in which they first appear. -/
def ofAnomalies (anomalies : List Anomaly) : List String :=
  (anomalies.map (·.metricUrn)).eraseDups

end AlertDetail.Slice
