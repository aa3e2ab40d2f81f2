import AlertDetail.DerivedViews
import Mathlib.Algebra.GroupWithZero.Nat

/-!
# Freshness of remembered views

The views of a session are remembered under keys in which numbers stand for the sets and the series.
In a run of changes a number that stays the same stands for the same content, and the rest of a key
determines everything else that its view is computed from. So what is remembered is what would be
computed anew, whenever it is asked for. The zone is fixed throughout: it is not part of any key.
-/

namespace AlertDetail

namespace Session

/-- A session with the open fields of another one, that is, all but the sets, the series and their
numbers. -/
def assign (session values : Session) : Session :=
  { values with
    old := session.old
    new := session.new
    anomaliesRevision := session.anomaliesRevision
    timeseries := session.timeseries
    baseline := session.baseline
    seriesRevision := session.seriesRevision }

/-- A change of a session. -/
inductive Change where
  /-- Replace the old set. -/
  | setOld (anomalies : List Anomaly)
  /-- Replace the new set. -/
  | setNew (anomalies : List Anomaly)
  /-- Make the new set the old one. -/
  | promote
  /-- Empty both sets. -/
  | clear
  /-- Replace the series. -/
  | setSeries (timeseries baseline : Option TimeSeries)
  /-- Merge a result under a view state, be it the own one or not. -/
  | merge (state : ViewState) (result : FetchResult)
  /-- Set open fields to any values. -/
  | assign (values : Session)

namespace Change

/-- The session after a change. -/
def apply (session : Session) : Change → Session
  | setOld anomalies => session.setOld anomalies
  | setNew anomalies => session.setNew anomalies
  | promote => session.promote
  | clear => session.clear
  | setSeries timeseries baseline => session.setSeries timeseries baseline
  | merge state result => (session.merge state result).1
  | assign values => session.assign values

/-- How often a change replaces one of the sets. -/
def setReplacements : Change → Nat
  | setOld _ | setNew _ | promote | clear => 1
  | merge .errored _ => 0
  | merge .baseline _ | merge .replace _ => 1
  | merge .shuffle _ | merge .bootstrap _ => 2
  | setSeries .. | assign _ => 0

/-- How often a change replaces the series. -/
def seriesReplacements : Change → Nat
  | setSeries .. => 1
  | _ => 0

/-- Every replacement of a set is numbered. -/
theorem anomaliesRevision_apply (session : Session) (change : Change) :
    (change.apply session).anomaliesRevision =
      session.anomaliesRevision + change.setReplacements := by
  cases change with
  | merge state result => cases state <;> rfl
  | _ => rfl

/-- Every replacement of the series is numbered. -/
theorem seriesRevision_apply (session : Session) (change : Change) :
    (change.apply session).seriesRevision =
      session.seriesRevision + change.seriesReplacements := by
  cases change with
  | merge state result => cases state <;> rfl
  | _ => rfl

/-- A change without a replacement of a set leaves the sets as they are. -/
theorem sets_apply (session : Session) {change : Change} (h : change.setReplacements = 0) :
    (change.apply session).old = session.old ∧ (change.apply session).new = session.new := by
  cases change with
  | merge state result =>
    cases state with
    | errored => exact ⟨rfl, rfl⟩
    | _ => exact absurd h (by simp [setReplacements])
  | setSeries timeseries baseline => exact ⟨rfl, rfl⟩
  | assign values => exact ⟨rfl, rfl⟩
  | _ => exact absurd h (by simp [setReplacements])

/-- A change without a replacement of the series leaves the series as they are. -/
theorem series_apply (session : Session) {change : Change} (h : change.seriesReplacements = 0) :
    (change.apply session).timeseries = session.timeseries ∧
      (change.apply session).baseline = session.baseline := by
  cases change with
  | merge state result => cases state <;> exact ⟨rfl, rfl⟩
  | setSeries timeseries baseline => exact absurd h (by simp [seriesReplacements])
  | _ => exact ⟨rfl, rfl⟩

end Change

/-- A session can stand before another one in a run: numbers do not fall, and a number that stays
the same stands for the same content. -/
structure Precedes (earlier later : Session) : Prop where
  /-- The number of the sets does not fall. -/
  sets_le : earlier.anomaliesRevision ≤ later.anomaliesRevision
  /-- The same number stands for the same sets. -/
  sets_eq : earlier.anomaliesRevision = later.anomaliesRevision →
    earlier.old = later.old ∧ earlier.new = later.new
  /-- The number of the series does not fall. -/
  series_le : earlier.seriesRevision ≤ later.seriesRevision
  /-- The same number stands for the same series. -/
  series_eq : earlier.seriesRevision = later.seriesRevision →
    earlier.timeseries = later.timeseries ∧ earlier.baseline = later.baseline

/-- Every session stands before itself. -/
theorem Precedes.refl (session : Session) : session.Precedes session :=
  ⟨Nat.le_refl _, fun _ => ⟨rfl, rfl⟩, Nat.le_refl _, fun _ => ⟨rfl, rfl⟩⟩

/-- Standing before is transitive: where the outer numbers agree, the middle one agrees with
both. -/
theorem Precedes.trans {first second third : Session} (h : first.Precedes second)
    (h' : second.Precedes third) : first.Precedes third where
  sets_le := Nat.le_trans h.sets_le h'.sets_le
  sets_eq heq := by
    have hmiddle : first.anomaliesRevision = second.anomaliesRevision :=
      Nat.le_antisymm h.sets_le (heq ▸ h'.sets_le)
    obtain ⟨hold, hnew⟩ := h.sets_eq hmiddle
    obtain ⟨hold', hnew'⟩ := h'.sets_eq (hmiddle ▸ heq)
    exact ⟨hold.trans hold', hnew.trans hnew'⟩
  series_le := Nat.le_trans h.series_le h'.series_le
  series_eq heq := by
    have hmiddle : first.seriesRevision = second.seriesRevision :=
      Nat.le_antisymm h.series_le (heq ▸ h'.series_le)
    obtain ⟨hmeasured, hbaseline⟩ := h.series_eq hmiddle
    obtain ⟨hmeasured', hbaseline'⟩ := h'.series_eq (hmiddle ▸ heq)
    exact ⟨hmeasured.trans hmeasured', hbaseline.trans hbaseline'⟩

/-- A session stands before what a change makes of it. -/
theorem precedes_apply (session : Session) (change : Change) :
    session.Precedes (change.apply session) where
  sets_le := by rw [change.anomaliesRevision_apply]; exact Nat.le_add_right _ _
  sets_eq heq := by
    rw [change.anomaliesRevision_apply] at heq
    have hnone : change.setReplacements = 0 := by omega
    obtain ⟨hold, hnew⟩ := Change.sets_apply session hnone
    exact ⟨hold.symm, hnew.symm⟩
  series_le := by rw [change.seriesRevision_apply]; exact Nat.le_add_right _ _
  series_eq heq := by
    rw [change.seriesRevision_apply] at heq
    have hnone : change.seriesReplacements = 0 := by omega
    obtain ⟨hmeasured, hbaseline⟩ := Change.series_apply session hnone
    exact ⟨hmeasured.symm, hbaseline.symm⟩

end Session

/-- Of a rule only the name of its detector counts. -/
theorem Anomaly.isDetectedBy_congr (anomaly : Anomaly) {first second : Option Rule}
    (h : first.map (·.detectorName) = second.map (·.detectorName)) :
    anomaly.isDetectedBy first = anomaly.isDetectedBy second := by
  cases first with
  | none => cases second with
    | none => rfl
    | some _ => simp at h
  | some first => cases second with
    | none => simp at h
    | some second =>
      have hname : first.detectorName = second.detectorName := by simpa using h
      cases hcomponent : anomaly.component? <;> simp only [isDetectedBy, hcomponent, hname]

/-- Selections that agree on the slice, on the detector and on whether rules are visible leave the
same anomalies. -/
theorem Selection.filter_congr {first second : Selection}
    (hurn : first.metricUrn = second.metricUrn)
    (hrule : first.rule.map (·.detectorName) = second.rule.map (·.detectorName))
    (hvisible : first.rulesVisible = second.rulesVisible) (anomalies : List Anomaly) :
    first.filter anomalies = second.filter anomalies := by
  have hadmits : first.admits = second.admits := by
    funext anomaly
    rw [admits, admits, hurn, hvisible, anomaly.isDetectedBy_congr hrule]
  rw [filter, filter, hadmits]

namespace Session

variable {earlier session : Session}

/-- The key of the selected anomalies determines them. -/
theorem selected_eq_of_key (h : earlier.Precedes session)
    (hkey : FilterKey.of earlier = FilterKey.of session) :
    earlier.selected = session.selected := by
  obtain ⟨hrevision, hurn, hrule, hvisible⟩ := FilterKey.mk.inj hkey
  obtain ⟨hold, hnew⟩ := h.sets_eq hrevision
  have hfilter (anomalies : List Anomaly) :
      earlier.selection.filter anomalies = session.selection.filter anomalies :=
    Selection.filter_congr hurn hrule hvisible anomalies
  rw [selected, selected, hfilter, hfilter, hold, hnew]

/-- The key of the chart determines it. -/
theorem chart_eq_of_key (h : earlier.Precedes session)
    (hkey : ChartKey.of earlier = ChartKey.of session) : earlier.chart = session.chart := by
  obtain ⟨hfilter, hrevision, hstate, hpreview, hedit⟩ := ChartKey.mk.inj hkey
  have hselected := selected_eq_of_key h hfilter
  obtain ⟨-, -, -, hvisible⟩ := FilterKey.mk.inj hfilter
  obtain ⟨hmeasured, hbaseline⟩ := h.series_eq hrevision
  simp only [chart, chartOf, hselected, hmeasured, hbaseline, hvisible, hpreview, hedit, hstate]

/-- The key of the cards determines them. -/
theorem cards_eq_of_key (h : earlier.Precedes session)
    (hkey : SetKey.of earlier = SetKey.of session) : earlier.cards = session.cards := by
  obtain ⟨hrevision, -, hpreview, hedit⟩ := SetKey.mk.inj hkey
  obtain ⟨hold, -⟩ := h.sets_eq hrevision
  simp only [cards, hold, hpreview, hedit]

/-- The key of the table determines it, in one zone. -/
theorem table_eq_of_key (zone : Zone) (h : earlier.Precedes session)
    (hkey : SetKey.of earlier = SetKey.of session) :
    earlier.table zone = session.table zone := by
  obtain ⟨hrevision, hstate, -, hedit⟩ := SetKey.mk.inj hkey
  obtain ⟨hold, hnew⟩ := h.sets_eq hrevision
  simp only [table, hold, hnew, hedit, hstate]

end Session

namespace Memo

variable {κ α : Type} {key : Session → κ} {compute : Session → α}

/-- What a memo remembers was computed, and keyed, at a session that can stand before this one. -/
def Follows (memo : Memo κ α) (key : Session → κ) (compute : Session → α) (session : Session) :
    Prop :=
  ∀ entry, memo.entry = some entry →
    ∃ earlier : Session, earlier.Precedes session ∧ entry = (key earlier, compute earlier)

/-- A memo without an entry follows every session. -/
theorem follows_empty (session : Session) : ({} : Memo κ α).Follows key compute session :=
  fun _ hentry => nomatch hentry

/-- What a memo remembers stays old news when the session changes. -/
theorem Follows.later {memo : Memo κ α} {session later : Session}
    (h : memo.Follows key compute session) (hlater : session.Precedes later) :
    memo.Follows key compute later := by
  intro entry hentry
  obtain ⟨earlier, hprecedes, rfl⟩ := h entry hentry
  exact ⟨earlier, hprecedes.trans hlater, rfl⟩

variable [BEq κ]

/-- What is remembered of a key was computed at a session with that key. -/
theorem Follows.of_held [LawfulBEq κ] {memo : Memo κ α} {session : Session} {value : α}
    (h : memo.Follows key compute session) (hheld : memo.held? (key session) = some value) :
    ∃ earlier : Session, earlier.Precedes session ∧ key earlier = key session ∧
      compute earlier = value := by
  obtain ⟨last, hentry, hsame⟩ := held?_eq_some.1 hheld
  obtain ⟨earlier, hprecedes, hcomputed⟩ := h _ hentry
  obtain ⟨rfl, rfl⟩ := Prod.mk.inj hcomputed
  exact ⟨earlier, hprecedes, eq_of_beq hsame, rfl⟩

/-- A memo whose key determines its value gives what would be computed, and goes on following. -/
theorem Follows.get [LawfulBEq κ] {memo : Memo κ α} {session : Session}
    (h : memo.Follows key compute session)
    (hkey : ∀ earlier : Session, earlier.Precedes session → key earlier = key session →
      compute earlier = compute session) :
    (memo.get (key session) fun _ => compute session).1 = compute session ∧
      (memo.get (key session) fun _ => compute session).2.Follows key compute session := by
  cases hheld : memo.held? (key session) with
  | some value =>
    obtain ⟨earlier, hprecedes, hsame, rfl⟩ := h.of_held hheld
    rw [get_of_held hheld]
    exact ⟨hkey earlier hprecedes hsame, h⟩
  | none =>
    rw [get_of_not_held hheld]
    refine ⟨rfl, fun entry hentry => ?_⟩
    exact ⟨session, .refl session, (Option.some.inj hentry).symm⟩

end Memo

/-- Something that can be asked for. -/
inductive View where
  /-- The selected anomalies. -/
  | selected
  /-- How many anomalies are selected. -/
  | count
  /-- The chart. -/
  | chart
  /-- The cards. -/
  | cards
  /-- The table. -/
  | table

/-- What is shown. -/
inductive Shown where
  /-- The selected anomalies of both sets. -/
  | selected (sets : List Anomaly × List Anomaly)
  /-- How many anomalies are selected. -/
  | count (anomalies : Nat)
  /-- The chart. -/
  | chart (series : List ChartSeries)
  /-- The cards. -/
  | cards (cards : List StatCard)
  /-- The table. -/
  | table (rows : List AnomalyRow)

/-- What is shown of a session when nothing is remembered. Both sets are cut down to what is
selected; the chart is drawn from these and from the series, the cards from the whole old set, and
the table from both whole sets. -/
def Session.shown (session : Session) (zone : Zone) (view : View) : Shown :=
  let selection : Selection := {
    metricUrn := session.metricUrn
    rule := session.rule
    rulesVisible := session.rulesVisible }
  let old := selection.filter session.old
  let new := selection.filter session.new
  match view with
  | .selected => .selected (old, new)
  | .count => .count (old.length + new.length)
  | .chart => .chart <| Chart.series {
      old := old
      new := new
      timeseries := session.timeseries
      baseline := session.baseline
      rulesVisible := session.rulesVisible
      preview := session.preview
      edit := session.edit
      viewState := session.viewState }
  | .cards => .cards (StatCard.ofAnomalies session.old session.preview session.edit)
  | .table =>
    .table (AnomalyRow.table session.old session.new session.edit session.viewState zone)

namespace DerivedViews

/-- What is shown of a session, and the remembered views after it was asked for. -/
def ask (views : DerivedViews) (session : Session) (zone : Zone) : View → Shown × DerivedViews
  | .selected => (views.getSelected session).map .selected id
  | .count => (views.getSelectedCount session).map .count id
  | .chart => (views.getChart session).map .chart id
  | .cards => (views.getCards session).map .cards id
  | .table => (views.getTable session zone).map .table id

/-- Every remembered view was computed at a session that can stand before this one. -/
structure Follow (views : DerivedViews) (zone : Zone) (session : Session) : Prop where
  /-- The selected anomalies. -/
  selected : views.selected.Follows FilterKey.of Session.selected session
  /-- The chart. -/
  chart : views.chart.Follows ChartKey.of Session.chart session
  /-- The cards. -/
  cards : views.cards.Follows SetKey.of Session.cards session
  /-- The table. -/
  table : views.table.Follows SetKey.of (·.table zone) session

/-- Views of which nothing is remembered follow every session. -/
theorem follow_empty (zone : Zone) (session : Session) :
    ({} : DerivedViews).Follow zone session :=
  ⟨Memo.follows_empty _, Memo.follows_empty _, Memo.follows_empty _, Memo.follows_empty _⟩

variable {views : DerivedViews} {zone : Zone} {session : Session}

/-- Remembered views stay old news when the session changes. -/
theorem Follow.later {later : Session} (h : views.Follow zone session)
    (hlater : session.Precedes later) : views.Follow zone later :=
  ⟨h.selected.later hlater, h.chart.later hlater, h.cards.later hlater, h.table.later hlater⟩

/-- The selected anomalies are up to date. -/
theorem Follow.getSelected (h : views.Follow zone session) :
    (views.getSelected session).1 = session.selected ∧
      (views.getSelected session).2.Follow zone session := by
  obtain ⟨hvalue, hmemo⟩ := h.selected.get fun _ => Session.selected_eq_of_key
  exact ⟨hvalue, hmemo, h.chart, h.cards, h.table⟩

/-- The chart is up to date: the selection it is drawn from is. -/
theorem Follow.getChart (h : views.Follow zone session) :
    (views.getChart session).1 = session.chart ∧
      (views.getChart session).2.Follow zone session := by
  obtain ⟨hselected, hfollow⟩ := h.getSelected
  obtain ⟨hvalue, hmemo⟩ := hfollow.chart.get fun _ => Session.chart_eq_of_key
  simp only [DerivedViews.getChart, hselected]
  exact ⟨hvalue, hfollow.selected, hmemo, hfollow.cards, hfollow.table⟩

/-- The cards are up to date. -/
theorem Follow.getCards (h : views.Follow zone session) :
    (views.getCards session).1 = session.cards ∧
      (views.getCards session).2.Follow zone session := by
  obtain ⟨hvalue, hmemo⟩ := h.cards.get fun _ => Session.cards_eq_of_key
  exact ⟨hvalue, h.selected, h.chart, hmemo, h.table⟩

/-- The table is up to date. -/
theorem Follow.getTable (h : views.Follow zone session) :
    (views.getTable session zone).1 = session.table zone ∧
      (views.getTable session zone).2.Follow zone session := by
  obtain ⟨hvalue, hmemo⟩ := h.table.get fun _ => Session.table_eq_of_key zone
  exact ⟨hvalue, h.selected, h.chart, h.cards, hmemo⟩

/-- Whatever is asked for is shown up to date. -/
theorem Follow.ask (h : views.Follow zone session) (view : View) :
    (views.ask session zone view).1 = session.shown zone view ∧
      (views.ask session zone view).2.Follow zone session := by
  cases view with
  | selected =>
    obtain ⟨hvalue, hfollow⟩ := h.getSelected
    exact ⟨congrArg Shown.selected hvalue, hfollow⟩
  | count =>
    obtain ⟨hvalue, hfollow⟩ := h.getSelected
    have hcount := congrArg
      (fun sets : List Anomaly × List Anomaly => sets.1.length + sets.2.length) hvalue
    exact ⟨congrArg Shown.count hcount, hfollow⟩
  | chart =>
    obtain ⟨hvalue, hfollow⟩ := h.getChart
    exact ⟨congrArg Shown.chart hvalue, hfollow⟩
  | cards =>
    obtain ⟨hvalue, hfollow⟩ := h.getCards
    exact ⟨congrArg Shown.cards hvalue, hfollow⟩
  | table =>
    obtain ⟨hvalue, hfollow⟩ := h.getTable
    exact ⟨congrArg Shown.table hvalue, hfollow⟩

end DerivedViews

/-- A step of a run in which a session is changed and asked for views. -/
inductive ViewStep where
  /-- The session changes. -/
  | alter (change : Session.Change)
  /-- A view is asked for. -/
  | ask (view : View)

namespace ViewStep

/-- The session after a step. -/
def apply (session : Session) : ViewStep → Session
  | alter change => change.apply session
  | ask _ => session

/-- How often a step replaces one of the sets. -/
def setReplacements : ViewStep → Nat
  | alter change => change.setReplacements
  | ask _ => 0

/-- How often a step replaces the series. -/
def seriesReplacements : ViewStep → Nat
  | alter change => change.seriesReplacements
  | ask _ => 0

/-- The session after a run of steps. -/
def applyAll (session : Session) (steps : List ViewStep) : Session := steps.foldl apply session

/-- What is shown in a run of steps when nothing is remembered. -/
def computed (zone : Zone) : Session → List ViewStep → List Shown
  | _, [] => []
  | session, alter change :: rest => computed zone (change.apply session) rest
  | session, ask view :: rest => session.shown zone view :: computed zone session rest

/-- What is shown in a run of steps by views that remember. -/
def remembered (zone : Zone) : DerivedViews → Session → List ViewStep → List Shown
  | _, _, [] => []
  | views, session, alter change :: rest => remembered zone views (change.apply session) rest
  | views, session, ask view :: rest =>
    let (shown, views) := views.ask session zone view
    shown :: remembered zone views session rest

/-- Views that follow a session show in every run from it what would be computed anew. -/
theorem remembered_eq {zone : Zone} {views : DerivedViews} {session : Session}
    (h : views.Follow zone session) (steps : List ViewStep) :
    remembered zone views session steps = computed zone session steps := by
  -- the store that goes on differs from step to step, but it follows the session throughout
  induction steps generalizing views session with
  | nil => rfl
  | cons step rest ih =>
    cases step with
    | alter change => exact ih (h.later (session.precedes_apply change))
    | ask view =>
      obtain ⟨hshown, hfollow⟩ := h.ask view
      rw [remembered, computed, ← hshown, ← ih hfollow]

/-- The numbers of a session count the replacements of a run. -/
theorem revisions_applyAll (session : Session) (steps : List ViewStep) :
    (applyAll session steps).anomaliesRevision =
        session.anomaliesRevision + (steps.map setReplacements).sum ∧
      (applyAll session steps).seriesRevision =
        session.seriesRevision + (steps.map seriesReplacements).sum := by
  induction steps generalizing session with
  | nil => exact ⟨rfl, rfl⟩
  | cons step rest ih =>
    obtain ⟨hsets, hseries⟩ := ih (step.apply session)
    rw [List.map_cons, List.map_cons, List.sum_cons, List.sum_cons, applyAll, List.foldl_cons,
      ← applyAll, hsets, hseries]
    cases step with
    | alter change =>
      rw [apply, change.anomaliesRevision_apply, change.seriesRevision_apply]
      exact ⟨Nat.add_assoc _ _ _, Nat.add_assoc _ _ _⟩
    | ask view => exact ⟨by rw [apply, setReplacements, Nat.zero_add],
        by rw [apply, seriesReplacements, Nat.zero_add]⟩

/-- Remembered views are never stale. In every run of changes of one session, among them any
assignment to its open fields, in which one store of views is asked for any of them at any time,
every answer is what would be computed anew from the session as it then is. The numbers that stand
for sets and series in the keys count the replacements, so a word holds them as long as it holds
that count. -/
theorem remembered_eq_computed (zone : Zone) (session : Session) (steps : List ViewStep) :
    remembered zone {} session steps = computed zone session steps ∧
      (applyAll session steps).anomaliesRevision =
        session.anomaliesRevision + (steps.map setReplacements).sum ∧
      (applyAll session steps).seriesRevision =
        session.seriesRevision + (steps.map seriesReplacements).sum :=
  ⟨remembered_eq (DerivedViews.follow_empty zone session) steps, revisions_applyAll session steps⟩

/-- Anomalies of two slices are shown, then the old set is replaced, then the other slice is
selected: every view asked for in between shows the sets and the selection of its moment. -/
theorem remembered_eq_computed_replaced_set :
    let anomaly (id : Int) (urn : String) (start : Int) : Anomaly := {
      id := some id, metricUrn := urn, startTime := start, endTime := start + 5
      properties := some ⟨some "change:rule"⟩ }
    let session : Session := {
      alertId := 7, preview := true, edit := false, granularity := none
      dimensionExploration := false, alertYaml := none, savedYaml := none
      range := ⟨0, 20⟩, duration := .custom, baselineOffset := .predicted
      old := [anomaly 1 "thirdeye:metric:7" 5], new := [anomaly 2 "thirdeye:metric:7" 10]
      metricUrn := some "thirdeye:metric:7", rule := some (.ofDetector "change:rule")
      timeseries := some { timestamp := [0, 5, 10, 15], current := [none, none, none, none] } }
    let replaced := [anomaly 3 "thirdeye:metric:8" 5, anomaly 4 "thirdeye:metric:7" 10]
    let steps : List ViewStep := [.ask .selected, .ask .chart, .ask .cards, .ask .table,
      .alter (.setOld replaced), .ask .selected, .ask .chart, .ask .cards, .ask .table,
      .alter (.assign { session with metricUrn := some "thirdeye:metric:8" }),
      .ask .selected, .ask .count]
    let chart (start : Int) : List ChartSeries := [
      { name := "Current", timestamps := [0, 5, 10, 15], values := [none, none, none, none] },
      { name := "Old Settings Anomalies", timestamps := [0, 5, 10, 15]
        values := [none, none, none, none] },
      { name := "old-anomaly-edges", timestamps := [start, start], values := [none, none]
        kind := .scatter },
      { name := "New Settings Anomalies", timestamps := [0, 5, 10, 15]
        values := [none, none, some 1.0, none], axis := .y2 },
      { name := "new-anomaly-edges", timestamps := [10, 10], values := [some 1.0, some 1.0]
        kind := .scatter, axis := .y2 }]
    let card (number : Nat) : StatCard :=
      .count "Anomalies" "Total number of anomalies that occured over a period of time" number
    let row (id : Int) (urn : String) (settings : SettingsTag) (start : Int) : AnomalyRow := {
      id := id, metricUrn := urn, settings := settings, dimensionText := ""
      startText := "Jan 01, 12:00 AM", current := none, baseline := none, rule := "change"
      modifiedBy := "--", start := start, stop := start + 5, feedback := none }
    remembered .utc {} session steps = [
      .selected ([anomaly 1 "thirdeye:metric:7" 5], [anomaly 2 "thirdeye:metric:7" 10]),
      .chart (chart 5), .cards [card 1],
      .table [row 1 "thirdeye:metric:7" .old 5, row 1 "thirdeye:metric:7" .new 10],
      .selected ([anomaly 4 "thirdeye:metric:7" 10], [anomaly 2 "thirdeye:metric:7" 10]),
      .chart (chart 10), .cards [card 2],
      .table [row 3 "thirdeye:metric:8" .old 5, row 4 "thirdeye:metric:7" .old 10,
        row 2 "thirdeye:metric:7" .new 10],
      .selected ([anomaly 3 "thirdeye:metric:8" 5], []), .count 1] := by
  intro anomaly session replaced steps chart card row
  refine (remembered_eq_computed .utc session steps).1.trans ?_
  -- written out first, the sessions are read field by field when the views are evaluated
  dsimp only [steps, session, replaced, anomaly, chart, card, row, computed,
    Session.Change.apply, Session.setOld, Session.assign]
  rfl

end ViewStep

end AlertDetail
