import AlertDetail.Chart
import AlertDetail.Proofs.Overlay.Course
import Mathlib.Data.List.Forall2

/-!
# The lines of a chart

A chart has eight lines at most. Which of them are drawn depends on the two series, on the emptiness
of four channels and of two lists of anomalies; in what order, under which names, on which axis and
from which samples does not depend on each other. No value that is not a number gets into a chart:
channels are freed of them before anything is drawn, an overlay takes its values from the channel
freed of them or has one height, and a marker is a sample of the overlay.
-/

namespace AlertDetail

/-- Every value of a channel is a number. -/
def Channel.AllFinite (channel : Channel) : Prop := ∀ x, some x ∈ channel → x.isFinite = true

/-- A channel freed of everything else has only numbers. -/
theorem Channel.allFinite_finite (channel : Channel) : channel.finite.AllFinite := by
  intro x hmem
  obtain ⟨value, -, hvalue⟩ := List.mem_map.1 hmem
  exact (Option.filter_eq_some_iff.1 hvalue).2

/-- An overlay is filled with numbers if the height it has throughout is one. -/
def Fill.IsFinite : Fill → Prop
  | .sample => True
  | .constant level => level.isFinite = true

/-- Samples stand on the grid. -/
theorem Fill.time_mem {fill : Fill} {grid : List Int} {channel : Channel} {sample : Sample}
    (h : sample ∈ fill.samples grid channel) : sample.time ∈ grid := by
  rw [← fill.samples_times grid channel]
  exact List.mem_map_of_mem h

/-- The samples of a channel of numbers have numbers for heights. -/
theorem Fill.isFinite_of_mem {fill : Fill} {grid : List Int} {channel : Channel} {sample : Sample}
    (hfill : fill.IsFinite) (hchannel : channel.AllFinite)
    (h : sample ∈ fill.samples grid channel) {x : Float} (hx : sample.value = some x) :
    x.isFinite = true := by
  obtain ⟨i, hi⟩ := List.mem_iff_getElem?.1 h
  rw [Fill.getElem?_samples] at hi
  obtain ⟨time, -, rfl⟩ := Option.map_eq_some_iff.1 hi
  cases fill with
  | sample =>
    have hvalue : channel[i]? = some (some x) := Option.join_eq_some_iff.1 hx
    exact hchannel x (List.mem_of_getElem? hvalue)
  | constant level =>
    obtain rfl : level = x := Option.some.inj hx
    exact hfill

namespace Overlay

variable {grid : List Int} {channel : Channel} {anomalies continuation : List Anomaly} {fill : Fill}

/-- Whatever a sample adds is a gap or the height of a sample, and no marker or one on a sample. -/
theorem mem_draw {mark : Mark} (h : mark ∈ draw grid channel anomalies continuation fill) :
    (∀ x, mark.value = some x → ∃ sample ∈ fill.samples grid channel, sample.value = some x) ∧
      ∀ edge, mark.edge = some edge → edge ∈ fill.samples grid channel := by
  obtain ⟨i, hi⟩ := List.mem_iff_getElem?.1 h
  rw [getElem?_draw] at hi
  obtain ⟨sample, hsample, rfl⟩ := Option.map_eq_some_iff.1 hi
  have hmem := List.mem_of_getElem? hsample
  -- a marker may also stand on the sample before, which the list is shifted for
  have hprevious (previous : Sample)
      (h : ((none :: (fill.samples grid channel).map some)[i]?).join = some previous) :
      previous ∈ fill.samples grid channel := by
    have hlisted := List.mem_of_getElem? (Option.join_eq_some_iff.1 h)
    simpa using hlisted
  unfold markOf
  split
  · exact ⟨nofun, nofun⟩
  · exact ⟨fun x hx => ⟨sample, hmem, hx⟩, fun edge hedge => Option.some.inj hedge ▸ hmem⟩
  · exact ⟨nofun, hprevious⟩
  · refine ⟨fun x hx => ⟨sample, hmem, hx⟩, fun edge hedge => ?_⟩
    exact Option.some.inj (Option.ite_none_right_eq_some.1 hedge).2 ▸ hmem

/-- Markers stand on samples. -/
theorem mem_samples_of_mem_edges {edge : Sample}
    (h : edge ∈ (draw grid channel anomalies continuation fill).edges) :
    edge ∈ fill.samples grid channel := by
  obtain ⟨mark, hmark, hedge⟩ := List.mem_filterMap.1 h
  exact (mem_draw hmark).2 edge hedge

/-- An overlay of numbers has only numbers for values. -/
theorem allFinite_values (hfill : fill.IsFinite) (hchannel : channel.AllFinite) :
    (draw grid channel anomalies continuation fill).values.AllFinite := by
  intro x hmem
  obtain ⟨mark, hmark, hvalue⟩ := List.mem_map.1 hmem
  obtain ⟨sample, hsample, hx⟩ := (mem_draw hmark).1 x hvalue
  exact Fill.isFinite_of_mem hfill hchannel hsample hx

/-- The markers of an overlay of numbers have only numbers for values. -/
theorem allFinite_edges (hfill : fill.IsFinite) (hchannel : channel.AllFinite) :
    Channel.AllFinite
      ((draw grid channel anomalies continuation fill).edges.map (·.value)) := by
  intro x hmem
  obtain ⟨edge, hedge, hx⟩ := List.mem_map.1 hmem
  exact Fill.isFinite_of_mem hfill hchannel (mem_samples_of_mem_edges hedge) hx

end Overlay

/-- The lines of a chart. -/
inductive ChartLine where
  | current
  | baseline
  | upper
  | lower
  | oldOverlay
  | oldEdges
  | newOverlay
  | newEdges
  deriving DecidableEq, Repr

namespace ChartLine

/-- The lines in the order in which they are drawn. -/
def all : List ChartLine :=
  [.current, .baseline, .upper, .lower, .oldOverlay, .oldEdges, .newOverlay, .newEdges]

/-- The name of a line. -/
def name (inputs : ChartInputs) : ChartLine → String
  | current => "Current"
  | baseline => "Baseline"
  | upper => "Upper and lower bound"
  | lower => "lowerBound"
  | oldOverlay => Chart.oldLabel inputs.preview inputs.edit inputs.viewState
  | oldEdges => "old-anomaly-edges"
  | newOverlay => "New Settings Anomalies"
  | newEdges => "new-anomaly-edges"

/-- Edges are markers. -/
def kind : ChartLine → SeriesKind
  | oldEdges | newEdges => .scatter
  | _ => .line

/-- New anomalies are drawn on an axis of their own. -/
def axis : ChartLine → Axis
  | newOverlay | newEdges => .y2
  | _ => .y

/-- Whether a line is drawn. -/
def shown (inputs : ChartInputs) (line : ChartLine) : Bool :=
  let measured := inputs.timeseries.any fun series =>
    !(if inputs.rulesVisible then series.current else series.value).isEmpty
  match line with
  | current => measured
  | baseline => inputs.baseline.any (!·.value.isEmpty)
  | upper => inputs.baseline.any (!·.upperBound.isEmpty)
  | lower => inputs.baseline.any (!·.lowerBound.isEmpty)
  | oldOverlay | oldEdges => measured && !inputs.old.isEmpty
  | newOverlay | newEdges => measured && !inputs.new.isEmpty

/-- The samples of a line: those of its channel with gaps for what is no number, one for every
sample of the measured series, or some of these. -/
def Samples (inputs : ChartInputs) (timestamps : List Int) (values : Channel) : ChartLine → Prop
  | current => ∃ series ∈ inputs.timeseries, timestamps = series.timestamp ∧
      values = (if inputs.rulesVisible then series.current else series.value).finite
  | baseline => ∃ series ∈ inputs.baseline, timestamps = series.timestamp ∧
      values = series.value.finite
  | upper => ∃ series ∈ inputs.baseline, timestamps = series.timestamp ∧
      values = series.upperBound.finite
  | lower => ∃ series ∈ inputs.baseline, timestamps = series.timestamp ∧
      values = series.lowerBound.finite
  | oldOverlay | newOverlay => ∃ series ∈ inputs.timeseries, timestamps = series.timestamp ∧
      values.length = series.timestamp.length
  | oldEdges | newEdges => ∃ series ∈ inputs.timeseries, values.length = timestamps.length ∧
      ∀ time ∈ timestamps, time ∈ series.timestamp

/-- What is drawn of a line. -/
structure Drawn (inputs : ChartInputs) (line : ChartLine) (drawn : ChartSeries) : Prop where
  name : drawn.name = line.name inputs
  kind : drawn.kind = line.kind
  axis : drawn.axis = line.axis
  /-- No value is infinite or no number at all. -/
  finite : drawn.values.AllFinite
  samples : line.Samples inputs drawn.timestamps drawn.values

/-- The names of the lines differ, whatever the overlay of the old anomalies is called. -/
theorem nodup_names (inputs : ChartInputs) : (all.map (name inputs)).Nodup := by
  have hlabel : Chart.oldLabel inputs.preview inputs.edit inputs.viewState ∈
      ["Old Settings Anomalies", "Current Anomalies", "Current Settings Anomalies"] := by
    unfold Chart.oldLabel
    split_ifs <;> simp
  simp only [all, List.map_cons, List.map_nil, name]
  simp only [List.mem_cons, List.not_mem_nil, or_false] at hlabel
  rcases hlabel with hlabel | hlabel | hlabel <;> rw [hlabel] <;> decide

/-- A line by itself, if it is drawn. -/
def drawn? (inputs : ChartInputs) : ChartLine → Option ChartSeries
  | current => Chart.current? inputs
  | baseline => inputs.baseline.bind fun series =>
      Chart.line? "Baseline" series.timestamp series.value
  | upper => inputs.baseline.bind fun series =>
      Chart.line? "Upper and lower bound" series.timestamp series.upperBound
  | lower => inputs.baseline.bind fun series =>
      Chart.line? "lowerBound" series.timestamp series.lowerBound
  | oldOverlay => (Chart.current? inputs).bind fun current => (Chart.oldOverlay inputs current)[0]?
  | oldEdges => (Chart.current? inputs).bind fun current => (Chart.oldOverlay inputs current)[1]?
  | newOverlay => (Chart.current? inputs).bind fun current => (Chart.newOverlay inputs current)[0]?
  | newEdges => (Chart.current? inputs).bind fun current => (Chart.newOverlay inputs current)[1]?

variable {inputs : ChartInputs}

/-- A line of a channel is drawn if it has samples. -/
theorem isSome_line? (name : String) (timestamps : List Int) (channel : Channel) :
    (Chart.line? name timestamps channel).isSome = !channel.isEmpty := by
  unfold Chart.line?
  cases channel.isEmpty <;> rfl

/-- A line of a channel has its samples with gaps for what is no number. -/
theorem line?_eq_some {name : String} {timestamps : List Int} {channel : Channel}
    {drawn : ChartSeries} (h : Chart.line? name timestamps channel = some drawn) :
    drawn = { name := name, timestamps := timestamps, values := channel.finite } :=
  (Option.some.inj (Option.ite_none_left_eq_some.1 h).2).symm

/-- A line of the baseline is drawn if there is a baseline and its channel has samples. -/
theorem isSome_bind_line? (baseline : Option TimeSeries) (name : String)
    (channel : TimeSeries → Channel) :
    (baseline.bind fun series =>
      Chart.line? name series.timestamp (channel series)).isSome =
        baseline.any fun series => !(channel series).isEmpty := by
  cases baseline with
  | none => rfl
  | some series => exact isSome_line? name series.timestamp (channel series)

/-- A line of a series has the samples of its channel. -/
theorem of_bind_line? {source : Option TimeSeries} {name : String} (channel : TimeSeries → Channel)
    {drawn : ChartSeries}
    (h : (source.bind fun series => Chart.line? name series.timestamp (channel series)) =
      some drawn) :
    ∃ series ∈ source, drawn =
      { name := name, timestamps := series.timestamp, values := (channel series).finite } := by
  obtain ⟨series, hseries, hline⟩ := Option.bind_eq_some_iff.1 h
  exact ⟨series, hseries, line?_eq_some hline⟩

/-- The measured line is drawn if there is a series and its channel has samples. -/
theorem isSome_current? : (Chart.current? inputs).isSome = current.shown inputs :=
  isSome_bind_line? inputs.timeseries "Current" (Chart.measured inputs.rulesVisible)

/-- The old anomalies give an overlay and its edges if there are any. -/
theorem length_oldOverlay (current : ChartSeries) :
    (Chart.oldOverlay inputs current).length = if inputs.old.isEmpty then 0 else 2 := by
  unfold Chart.oldOverlay
  cases inputs.old.isEmpty <;> rfl

/-- The new anomalies give an overlay and its edges if there are any. -/
theorem length_newOverlay (current : ChartSeries) :
    (Chart.newOverlay inputs current).length = if inputs.new.isEmpty then 0 else 2 := by
  unfold Chart.newOverlay
  cases inputs.new.isEmpty <;> rfl

/-- Both of a pair are drawn on the measured line if there is one and something to show on it. -/
theorem isSome_overlay {pair : ChartSeries → List ChartSeries} {anomalies : List Anomaly}
    (hpair : ∀ current, (pair current).length = if anomalies.isEmpty then 0 else 2) {i : Nat}
    (hi : i < 2) :
    ((Chart.current? inputs).bind fun current => (pair current)[i]?).isSome =
      (current.shown inputs && !anomalies.isEmpty) := by
  rw [← isSome_current?]
  cases Chart.current? inputs with
  | none => rfl
  | some current =>
    have hlength := hpair current
    cases hempty : anomalies.isEmpty with
    | true =>
      rw [hempty] at hlength
      rw [Option.bind_some, List.getElem?_eq_none (Nat.le_trans (Nat.le_of_eq hlength) i.zero_le)]
      rfl
    | false =>
      rw [hempty] at hlength
      rw [Option.bind_some, List.getElem?_eq_getElem (Nat.lt_of_lt_of_eq hi hlength.symm)]
      rfl

/-- An overlay has a value for every sample of the measured series, and its edges stand on some of
them. -/
theorem drawn_overlayPair {current : ChartSeries} (hcurrent : Chart.current? inputs = some current)
    (fill : Fill) (hfill : fill.IsFinite) (anomalies continuation : List Anomaly) :
    let overlay :=
      Overlay.draw current.timestamps current.values anomalies continuation fill
    overlay.values.AllFinite ∧ Channel.AllFinite (overlay.edges.map (·.value)) ∧
      ∃ series ∈ inputs.timeseries, current.timestamps = series.timestamp ∧
        overlay.values.length = series.timestamp.length ∧
        ∀ time ∈ overlay.edges.map (·.time), time ∈ series.timestamp := by
  intro overlay
  obtain ⟨series, hseries, rfl⟩ := of_bind_line? (Chart.measured inputs.rulesVisible) hcurrent
  have hchannel := Channel.allFinite_finite (Chart.measured inputs.rulesVisible series)
  refine ⟨Overlay.allFinite_values hfill hchannel, Overlay.allFinite_edges hfill hchannel,
    series, hseries, rfl, ?_, fun time hmem => ?_⟩
  · exact (List.length_map _).trans (Overlay.length_draw _ _ _ _ _)
  · obtain ⟨edge, hedge, rfl⟩ := List.mem_map.1 hmem
    exact Fill.time_mem (Overlay.mem_samples_of_mem_edges hedge)

/-- A line is drawn exactly if its channel and its anomalies are not empty. -/
theorem isSome_drawn? (line : ChartLine) : (line.drawn? inputs).isSome = line.shown inputs := by
  cases line with
  | current => exact isSome_current?
  | baseline => exact isSome_bind_line? inputs.baseline _ (·.value)
  | upper => exact isSome_bind_line? inputs.baseline _ (·.upperBound)
  | lower => exact isSome_bind_line? inputs.baseline _ (·.lowerBound)
  | oldOverlay | oldEdges => exact isSome_overlay length_oldOverlay (by decide)
  | newOverlay | newEdges => exact isSome_overlay length_newOverlay (by decide)

/-- What is found in a pair is the overlay or its edges, by its index. -/
theorem getElem?_overlayPair {timestamps : List Int} {overlay : Overlay} {name edgesName : String}
    {axis : Axis} {empty : Bool} {i : Nat} {drawn : ChartSeries}
    (h : (if empty then [] else
      Chart.overlayPair timestamps overlay name edgesName axis)[i]? = some drawn) :
    (Chart.overlayPair timestamps overlay name edgesName axis)[i]? = some drawn := by
  cases empty with
  | true => cases h
  | false => exact h

/-- Every line that is drawn has its name, its kind and axis, and numbers from its samples. -/
theorem drawn_of_drawn? {line : ChartLine} {drawn : ChartSeries}
    (h : line.drawn? inputs = some drawn) : line.Drawn inputs drawn := by
  cases line with
  | current =>
    obtain ⟨series, hseries, rfl⟩ := of_bind_line? (Chart.measured inputs.rulesVisible) h
    exact ⟨rfl, rfl, rfl, Channel.allFinite_finite _, series, hseries, rfl, rfl⟩
  | baseline =>
    obtain ⟨series, hseries, rfl⟩ := of_bind_line? (·.value) h
    exact ⟨rfl, rfl, rfl, Channel.allFinite_finite _, series, hseries, rfl, rfl⟩
  | upper =>
    obtain ⟨series, hseries, rfl⟩ := of_bind_line? (·.upperBound) h
    exact ⟨rfl, rfl, rfl, Channel.allFinite_finite _, series, hseries, rfl, rfl⟩
  | lower =>
    obtain ⟨series, hseries, rfl⟩ := of_bind_line? (·.lowerBound) h
    exact ⟨rfl, rfl, rfl, Channel.allFinite_finite _, series, hseries, rfl, rfl⟩
  | oldOverlay =>
    obtain ⟨current, hcurrent, hdrawn⟩ := Option.bind_eq_some_iff.1 h
    obtain rfl := Option.some.inj (getElem?_overlayPair hdrawn)
    obtain ⟨hvalues, -, series, hseries, hgrid, hlength, -⟩ :=
      drawn_overlayPair hcurrent .sample trivial inputs.old inputs.old
    exact ⟨rfl, rfl, rfl, hvalues, series, hseries, hgrid, hlength⟩
  | oldEdges =>
    obtain ⟨current, hcurrent, hdrawn⟩ := Option.bind_eq_some_iff.1 h
    obtain rfl := Option.some.inj (getElem?_overlayPair hdrawn)
    obtain ⟨-, hedges, series, hseries, -, -, htimes⟩ :=
      drawn_overlayPair hcurrent .sample trivial inputs.old inputs.old
    exact ⟨rfl, rfl, rfl, hedges, series, hseries, by simp only [List.length_map], htimes⟩
  | newOverlay =>
    obtain ⟨current, hcurrent, hdrawn⟩ := Option.bind_eq_some_iff.1 h
    obtain rfl := Option.some.inj (getElem?_overlayPair hdrawn)
    obtain ⟨hvalues, -, series, hseries, hgrid, hlength, -⟩ :=
      drawn_overlayPair hcurrent (.constant Chart.newLevel) rfl inputs.new inputs.old
    exact ⟨rfl, rfl, rfl, hvalues, series, hseries, hgrid, hlength⟩
  | newEdges =>
    obtain ⟨current, hcurrent, hdrawn⟩ := Option.bind_eq_some_iff.1 h
    obtain rfl := Option.some.inj (getElem?_overlayPair hdrawn)
    obtain ⟨-, hedges, series, hseries, -, -, htimes⟩ :=
      drawn_overlayPair hcurrent (.constant Chart.newLevel) rfl inputs.new inputs.old
    exact ⟨rfl, rfl, rfl, hedges, series, hseries, by simp only [List.length_map], htimes⟩

/-- Lines that are drawn one by one have their names. -/
theorem names_of_drawn {lines : List ChartLine} {drawn : List ChartSeries}
    (h : List.Forall₂ (Drawn inputs) lines drawn) :
    drawn.map (·.name) = lines.map (name inputs) := by
  induction h with
  | nil => rfl
  | cons hdrawn _ ih => rw [List.map_cons, List.map_cons, hdrawn.name, ih]

end ChartLine

namespace Chart

open ChartLine

/-- A pair is told by its two parts. -/
theorem toList_pair {pair : List ChartSeries} {empty : Bool}
    (hpair : pair.length = if empty then 0 else 2) :
    pair[0]?.toList ++ pair[1]?.toList = pair := by
  match pair, empty, hpair with
  | [], true, _ => rfl
  | [_, _], false, _ => rfl

/-- A chart is put together of its lines one by one. -/
theorem series_eq_filterMap (inputs : ChartInputs) :
    series inputs = ChartLine.all.filterMap (drawn? inputs) := by
  have hbaseline : inputs.baseline.elim [] baselineLines =
      (baseline.drawn? inputs).toList ++ (upper.drawn? inputs).toList ++
        (lower.drawn? inputs).toList := by
    unfold drawn?
    cases inputs.baseline with
    | none => rfl
    | some series =>
      simp [baselineLines, List.filterMap_eq_flatMap_toList]
  have hoverlays : ((current? inputs).elim [] fun current =>
      oldOverlay inputs current ++ newOverlay inputs current) =
        (ChartLine.oldOverlay.drawn? inputs).toList ++ (oldEdges.drawn? inputs).toList ++
          ((ChartLine.newOverlay.drawn? inputs).toList ++ (newEdges.drawn? inputs).toList) := by
    unfold drawn?
    cases current? inputs with
    | none => rfl
    | some current =>
      exact (congrArg₂ (· ++ ·) (toList_pair (length_oldOverlay current))
        (toList_pair (length_newOverlay current))).symm
  unfold series
  dsimp only
  rw [hbaseline, hoverlays]
  simp [ChartLine.all, List.filterMap_eq_flatMap_toList, ChartLine.drawn?]

/-- What is kept of a list by what it gives is related to it one by one. -/
theorem forall₂_filter_filterMap {α β : Type} {given : α → Option β} {kept : α → Bool}
    {related : α → β → Prop} (hkept : ∀ a, (given a).isSome = kept a)
    (hrelated : ∀ a b, given a = some b → related a b) (elements : List α) :
    List.Forall₂ related (elements.filter kept) (elements.filterMap given) := by
  induction elements with
  | nil => exact .nil
  | cons a elements ih =>
    have ha := hkept a
    cases hgiven : given a with
    | none =>
      rw [hgiven] at ha
      rw [List.filter_cons_of_neg (by rw [← ha]; nofun), List.filterMap_cons_none hgiven]
      exact ih
    | some b =>
      rw [hgiven] at ha
      rw [List.filter_cons_of_pos ha.symm, List.filterMap_cons_some hgiven]
      exact .cons (hrelated a b hgiven) ih

/-- A chart is drawn line by line, in one order, of the lines whose channel and whose anomalies are
not empty. Each line has its name, its kind and its axis, and samples of its series that are numbers
or gaps. No two lines have the same name. -/
theorem series_drawn_by_lines (inputs : ChartInputs) :
    List.Forall₂ (ChartLine.Drawn inputs) (ChartLine.all.filter (ChartLine.shown inputs))
        (series inputs) ∧
      ((series inputs).map (·.name)).Nodup := by
  have hlines : List.Forall₂ (ChartLine.Drawn inputs)
      (ChartLine.all.filter (ChartLine.shown inputs)) (series inputs) := by
    rw [series_eq_filterMap]
    exact forall₂_filter_filterMap isSome_drawn? (fun _ _ => drawn_of_drawn?) ChartLine.all
  refine ⟨hlines, ?_⟩
  rw [names_of_drawn hlines]
  exact (ChartLine.nodup_names inputs).sublist (List.filter_sublist.map _)

/-- Without a measured series nothing is drawn but the baseline. -/
example (old new : List Anomaly) :
    (series { old := old, new := new, baseline := some { timestamp := [0], value := [some 1.0] },
              timeseries := some { timestamp := [0] } }).map (·.name) = ["Baseline"] := rfl

end Chart

end AlertDetail
