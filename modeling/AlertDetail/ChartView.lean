import AlertDetail.Run.LiveView

/-!
# Chart views

Everything that is shown of a live view, as one value.
-/

namespace AlertDetail

/-- What is shown of a live view. -/
structure ChartView where
  /-- The alert. -/
  alertId : Int
  /-- Where fetched anomalies go. -/
  viewState : ViewState
  /-- Anomalies are being loaded. -/
  isLoading : Bool
  /-- Series are being loaded. -/
  isLoadingSeries : Bool
  /-- The last load failed. -/
  errored : Bool
  /-- Whether rules are visible. -/
  rulesVisible : Bool
  /-- The range. -/
  range : AnalysisRange
  /-- The length that the range is shown as. -/
  duration : RangePreset
  /-- The selected slice. -/
  metricUrn : Option String
  /-- The label of the selected slice. -/
  dimension : Option String
  /-- The labels of the slices. -/
  dimensionOptions : List String
  /-- Whether there is more than one slice. -/
  hasDimensions : Bool
  /-- The selected rule. -/
  rule : Option Rule
  /-- The rules to choose from. -/
  ruleOptions : List Rule
  /-- The selected baseline. -/
  baselineOffset : Offset
  /-- The baselines to choose from. -/
  baselineOptions : List BaselineOption
  /-- The chart. -/
  series : List ChartSeries
  /-- Whether the legend is shown. -/
  showLegend : Bool
  /-- The cards. -/
  cards : List StatCard
  /-- The table. -/
  rows : List AnomalyRow
  /-- Whether the column of settings is shown. -/
  showSettings : Bool
  /-- The last report. -/
  report : ReportState
  deriving Inhabited

/-- What is shown of a live view, and the view with what was remembered on the way. -/
def LiveView.chartView (live : LiveView) : ChartView × LiveView :=
  let session := live.session
  let (series, views) := live.views.getChart session
  let (count, views) := views.getSelectedCount session
  let (cards, views) := views.getCards session
  let (rows, views) := views.getTable session live.zone
  let shown : ChartView := {
    alertId := session.alertId
    viewState := session.viewState
    isLoading := session.isLoading
    isLoadingSeries := session.isLoadingSeries
    errored := session.errored
    rulesVisible := session.rulesVisible
    range := session.range
    duration := session.duration
    metricUrn := session.metricUrn
    dimension := session.dimension
    dimensionOptions := Slice.labels session.metricUrns
    hasDimensions := Slice.several session.metricUrns
    rule := session.rule
    ruleOptions := Rule.ofPredictions session.predictions
    baselineOffset := session.baselineOffset
    baselineOptions := BaselineOption.offered session.rulesVisible session.baselineOffset
    series := series
    showLegend := Chart.showLegend count
    cards := cards
    rows := rows
    showSettings := AnomalyRow.showSettings session.edit session.viewState
    report := session.report }
  (shown, { live with views := views })

end AlertDetail
