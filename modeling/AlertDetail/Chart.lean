import AlertDetail.Overlay
import AlertDetail.ViewState

/-!
# Charts

The lines and markers of a chart, in the order in which they are drawn: the measured series, the
baseline with its bounds, then the overlays of the old and the new anomalies with their edges. A
channel without samples gives no line, and without a measured series there are no overlays.
-/

namespace AlertDetail

/-- How a series is drawn. -/
inductive SeriesKind where
  | line
  | scatter
  deriving DecidableEq, Repr, Inhabited

/-- The axis that a series is drawn on. -/
inductive Axis where
  | y
  | y2
  deriving DecidableEq, Repr, Inhabited

/-- One series of a chart. -/
structure ChartSeries where
  /-- The name shown. -/
  name : String
  /-- The timestamps. -/
  timestamps : List Int
  /-- The values; none is a gap. -/
  values : Channel
  /-- Line or markers. -/
  kind : SeriesKind := .line
  /-- The axis. -/
  axis : Axis := .y
  deriving DecidableEq, Inhabited

/-- What a chart is drawn from. -/
structure ChartInputs where
  /-- Old anomalies left by the selection. -/
  old : List Anomaly := []
  /-- New anomalies left by the selection. -/
  new : List Anomaly := []
  /-- The measured series. -/
  timeseries : Option TimeSeries := none
  /-- What it is compared with. -/
  baseline : Option TimeSeries := none
  /-- Whether rules are visible. -/
  rulesVisible : Bool := false
  /-- Whether a draft is evaluated. -/
  preview : Bool := false
  /-- Whether the draft changes an alert that exists. -/
  edit : Bool := false
  /-- The view state. -/
  viewState : ViewState := .baseline
  deriving Inhabited

namespace Chart

/-- Anomalies up to which the legend is shown. -/
def legendThreshold : Nat := 20

/-- Whether the legend is shown. -/
def showLegend (anomalies : Nat) : Bool := anomalies ≤ legendThreshold

/-- Height of the overlay of new anomalies. -/
def newLevel : Float := 1.0

/-- The name of the overlay of old anomalies. -/
def oldLabel (preview edit : Bool) (state : ViewState) : String :=
  if preview && state == .shuffle then "Old Settings Anomalies"
  else if !preview || edit then "Current Anomalies"
  else "Current Settings Anomalies"

/-- The channel that carries the measured values: where rules are visible, the series comes from an
evaluation, which has a channel of its own for them. -/
def measured (rulesVisible : Bool) (series : TimeSeries) : Channel :=
  if rulesVisible then series.current else series.value

/-- A line, unless its channel has no samples. -/
def line? (name : String) (timestamps : List Int) (channel : Channel) : Option ChartSeries :=
  if channel.isEmpty then none
  else some { name := name, timestamps := timestamps, values := channel.finite }

/-- The measured series. -/
def current? (inputs : ChartInputs) : Option ChartSeries :=
  inputs.timeseries.bind fun series =>
    line? "Current" series.timestamp (measured inputs.rulesVisible series)

/-- The lines of the baseline. -/
def baselineLines (baseline : TimeSeries) : List ChartSeries :=
  [("Baseline", baseline.value), ("Upper and lower bound", baseline.upperBound),
    ("lowerBound", baseline.lowerBound)].filterMap fun (name, channel) =>
      line? name baseline.timestamp channel

/-- An overlay and its edges. -/
def overlayPair (timestamps : List Int) (overlay : Overlay) (name edgesName : String)
    (axis : Axis) : List ChartSeries :=
  [{ name := name, timestamps := timestamps, values := overlay.values, axis := axis },
    { name := edgesName, timestamps := overlay.edges.map (·.time),
      values := overlay.edges.map (·.value), kind := .scatter, axis := axis }]

/-- The overlay of the old anomalies, drawn on the measured series. -/
def oldOverlay (inputs : ChartInputs) (current : ChartSeries) : List ChartSeries :=
  if inputs.old.isEmpty then []
  else overlayPair current.timestamps
    (Overlay.draw current.timestamps current.values inputs.old inputs.old .sample)
    (oldLabel inputs.preview inputs.edit inputs.viewState) "old-anomaly-edges" .y

/-- The overlay of the new anomalies, drawn at one height. An anomaly that starts where one ends is
looked for among the old ones. -/
def newOverlay (inputs : ChartInputs) (current : ChartSeries) : List ChartSeries :=
  if inputs.new.isEmpty then []
  else overlayPair current.timestamps
    (Overlay.draw current.timestamps current.values inputs.new inputs.old (.constant newLevel))
    "New Settings Anomalies" "new-anomaly-edges" .y2

/-- Every series of the chart, in order. -/
def series (inputs : ChartInputs) : List ChartSeries :=
  let current := current? inputs
  current.toList ++ (inputs.baseline.elim [] baselineLines) ++
    current.elim [] fun current => oldOverlay inputs current ++ newOverlay inputs current

end Chart

end AlertDetail
