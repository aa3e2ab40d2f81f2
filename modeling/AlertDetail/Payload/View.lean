import AlertDetail.ChartView
import AlertDetail.Payload.Choices
import AlertDetail.Payload.Evaluation

/-!
# Chart views as JSON

How a chart view and its parts are written.
-/

namespace AlertDetail

/-- A list of texts. -/
def Json.ofTextList (texts : List String) : Json := .arr (texts.map .str)

/-- Write the kind of a series. -/
def SeriesKind.toJson : SeriesKind → Json
  | line => .str "line"
  | scatter => .str "scatter"

/-- Write an axis. -/
def Axis.toJson : Axis → Json
  | y => .str "y"
  | y2 => .str "y2"

/-- Write a series of a chart. -/
def ChartSeries.toJson (series : ChartSeries) : Json :=
  .obj [
    ("name", .str series.name),
    ("timestamps", .arr (series.timestamps.map .int)),
    ("values", .arr (series.values.map Json.ofNumber?)),
    ("kind", series.kind.toJson),
    ("axis", series.axis.toJson)]

/-- Write the kind of a card. -/
def StatKind.toJson : StatKind → Json
  | digit => .str "digit"
  | percent => .str "percent"

/-- Write a card. -/
def StatCard.toJson (card : StatCard) : Json :=
  .obj [
    ("title", .str card.title),
    ("description", .str card.description),
    ("value", .ofNumber? card.value),
    ("display", .str card.display),
    ("kind", card.kind.toJson)]

/-- Write a row of the table. -/
def AnomalyRow.toJson (row : AnomalyRow) : Json :=
  .obj [
    ("id", .int row.id),
    ("metricUrn", .str row.metricUrn),
    ("settings", .str row.settings.name),
    ("dimensionStr", .str row.dimensionText),
    ("startDateStr", .str row.startText),
    ("current", .ofNumber? row.current),
    ("baseline", .ofNumber? row.baseline),
    ("rule", .str row.rule),
    ("modifiedBy", .str row.modifiedBy),
    ("start", .int row.start),
    ("end", .int row.stop),
    ("feedback", .ofText? row.feedback)]

/-- Write an offered baseline. -/
def BaselineOption.toJson (option : BaselineOption) : Json :=
  .obj [("name", option.offset.toJson), ("is_active", .bool option.isActive)]

/-- Write what became of a report. -/
def ReportState.toJson (report : ReportState) : Json :=
  .obj [
    ("is_success", .bool report.isSuccess),
    ("is_failure", .bool report.isFailure),
    ("missing_anomaly_props", report.form.toJson),
    ("reported_range", .ofText? report.reportedRange)]

/-- Write a chart view. -/
def ChartView.toJson (view : ChartView) : Json :=
  .obj [
    ("alert_id", .int view.alertId),
    ("view_state", view.viewState.toJson),
    ("is_loading", .bool view.isLoading),
    ("is_loading_time_series", .bool view.isLoadingSeries),
    ("fetch_errored", .bool view.errored),
    ("rules_visible", .bool view.rulesVisible),
    ("analysis_range", view.range.toJson),
    ("duration", view.duration.toJson),
    ("metric_urn", .ofText? view.metricUrn),
    ("selected_dimension", .ofText? view.dimension),
    ("dimension_options", .ofTextList view.dimensionOptions),
    ("alert_has_dimensions", .bool view.hasDimensions),
    ("selected_rule", view.rule.elim .null Rule.toJson),
    ("rule_options", .arr (view.ruleOptions.map Rule.toJson)),
    ("selected_baseline", view.baselineOffset.toJson),
    ("baseline_options", .arr (view.baselineOptions.map BaselineOption.toJson)),
    ("series", .arr (view.series.map ChartSeries.toJson)),
    ("show_legend", .bool view.showLegend),
    ("stats", .arr (view.cards.map StatCard.toJson)),
    ("rows", .arr (view.rows.map AnomalyRow.toJson)),
    ("show_settings_column", .bool view.showSettings),
    ("report", view.report.toJson)]

end AlertDetail
