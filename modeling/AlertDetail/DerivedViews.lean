import AlertDetail.Chart
import AlertDetail.Memo
import AlertDetail.Merge
import AlertDetail.Table

/-!
# Derived views

What is shown of a session: the selected anomalies, the chart, the cards and the table. Each is a
function of the session, and each is remembered under a key of what it depends on, so that it is
computed again only after something changed. The zone of the table is not part of its key.
-/

namespace AlertDetail

namespace Session

/-- The anomalies of both sets that the selection leaves. -/
def selected (session : Session) : List Anomaly × List Anomaly :=
  (session.selection.filter session.old, session.selection.filter session.new)

/-- The chart, drawn from anomalies that the selection leaves. -/
def chartOf (session : Session) (selected : List Anomaly × List Anomaly) : List ChartSeries :=
  Chart.series {
    old := selected.1
    new := selected.2
    timeseries := session.timeseries
    baseline := session.baseline
    rulesVisible := session.rulesVisible
    preview := session.preview
    edit := session.edit
    viewState := session.viewState }

/-- The chart. -/
def chart (session : Session) : List ChartSeries := session.chartOf session.selected

/-- The cards. -/
def cards (session : Session) : List StatCard :=
  StatCard.ofAnomalies session.old session.preview session.edit

/-- The table. -/
def table (session : Session) (zone : Zone) : List AnomalyRow :=
  AnomalyRow.table session.old session.new session.edit session.viewState zone

end Session

/-- What the selected anomalies depend on. -/
structure FilterKey where
  /-- The number of the sets. -/
  revision : Nat
  /-- The selected slice. -/
  metricUrn : Option String
  /-- The detector of the selected rule. -/
  detectorName : Option String
  /-- Whether rules are visible. -/
  rulesVisible : Bool
  deriving DecidableEq, Repr, Inhabited

/-- The key of the selected anomalies of a session. -/
def FilterKey.of (session : Session) : FilterKey :=
  ⟨session.anomaliesRevision, session.metricUrn, session.rule.map (·.detectorName),
    session.rulesVisible⟩

/-- What the chart depends on. -/
structure ChartKey where
  /-- The key of the selected anomalies. -/
  filter : FilterKey
  /-- The number of the series. -/
  revision : Nat
  /-- The view state. -/
  viewState : ViewState
  /-- Whether a draft is evaluated. -/
  preview : Bool
  /-- Whether the draft changes an alert that exists. -/
  edit : Bool
  deriving DecidableEq, Repr, Inhabited

/-- The key of the chart of a session. -/
def ChartKey.of (session : Session) : ChartKey :=
  ⟨.of session, session.seriesRevision, session.viewState, session.preview, session.edit⟩

/-- What the cards and the table depend on. -/
structure SetKey where
  /-- The number of the sets. -/
  revision : Nat
  /-- The view state. -/
  viewState : ViewState
  /-- Whether a draft is evaluated. -/
  preview : Bool
  /-- Whether the draft changes an alert that exists. -/
  edit : Bool
  deriving DecidableEq, Repr, Inhabited

/-- The key of the cards and the table of a session. -/
def SetKey.of (session : Session) : SetKey :=
  ⟨session.anomaliesRevision, session.viewState, session.preview, session.edit⟩

/-- The remembered views of one session. -/
structure DerivedViews where
  /-- The selected anomalies. -/
  selected : Memo FilterKey (List Anomaly × List Anomaly) := {}
  /-- The chart. -/
  chart : Memo ChartKey (List ChartSeries) := {}
  /-- The cards. -/
  cards : Memo SetKey (List StatCard) := {}
  /-- The table. -/
  table : Memo SetKey (List AnomalyRow) := {}
  deriving Inhabited

namespace DerivedViews

/-- The selected anomalies of both sets. -/
def getSelected (views : DerivedViews) (session : Session) :
    (List Anomaly × List Anomaly) × DerivedViews :=
  let (value, memo) := views.selected.get (.of session) fun _ => session.selected
  (value, { views with selected := memo })

/-- How many anomalies are selected. -/
def getSelectedCount (views : DerivedViews) (session : Session) : Nat × DerivedViews :=
  let ((old, new), views) := views.getSelected session
  (old.length + new.length, views)

/-- The chart, drawn from the remembered selection. -/
def getChart (views : DerivedViews) (session : Session) : List ChartSeries × DerivedViews :=
  let (selected, views) := views.getSelected session
  let (value, memo) := views.chart.get (.of session) fun _ => session.chartOf selected
  (value, { views with chart := memo })

/-- The cards. -/
def getCards (views : DerivedViews) (session : Session) : List StatCard × DerivedViews :=
  let (value, memo) := views.cards.get (.of session) fun _ => session.cards
  (value, { views with cards := memo })

/-- The table. -/
def getTable (views : DerivedViews) (session : Session) (zone : Zone) :
    List AnomalyRow × DerivedViews :=
  let (value, memo) := views.table.get (.of session) fun _ => session.table zone
  (value, { views with table := memo })

end DerivedViews

end AlertDetail
