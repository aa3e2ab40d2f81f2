import AlertDetail.Anomaly
import AlertDetail.TimeSeries

/-!
# Overlays

A set of anomalies drawn over the grid of a series: a level on every sample inside, a gap outside,
and a marker on the samples where anomalies start and end. Anomalies are located by the timestamps
of the grid alone; nothing is interpolated. One walk along the grid gives the overlay: it keeps the
anomaly that is open and closes it at the sample that stands exactly at its end.
-/

namespace AlertDetail

/-- The height at which samples inside an anomaly are drawn. -/
inductive Fill where
  /-- The height of the series itself. -/
  | sample
  /-- One height throughout. -/
  | constant (level : Float)
  deriving DecidableEq, Inhabited

/-- A sample of the grid with the height that an overlay has there if it is drawn. -/
structure Sample where
  /-- The timestamp. -/
  time : Int
  /-- The height; none is a gap. -/
  value : Option Float
  deriving DecidableEq, Inhabited

/-- The height where the series has a given value. -/
def Fill.height (fill : Fill) (value : Option Float) : Option Float :=
  match fill with
  | .sample => value
  | .constant level => some level

/-- The samples of a grid. A channel that is too short has gaps at its end. -/
def Fill.samples (fill : Fill) : List Int → Channel → List Sample
  | [], _ => []
  | time :: grid, channel =>
    ⟨time, fill.height channel.head?.join⟩ :: fill.samples grid channel.tail

theorem Fill.length_samples (fill : Fill) (grid : List Int) (channel : Channel) :
    (fill.samples grid channel).length = grid.length := by
  induction grid generalizing channel with
  | nil => rfl
  | cons time grid ih => simp [Fill.samples, ih]

/-- What one sample adds to an overlay. -/
structure Mark where
  /-- The height drawn; none is a gap. -/
  value : Option Float
  /-- The marker set when the sample was reached. -/
  edge : Option Sample
  deriving DecidableEq, Inhabited

/-- What every sample of the grid adds, in order. -/
abbrev Overlay := List Mark

namespace Overlay

/-- The first anomaly that starts at a time. -/
def startingAt? (anomalies : List Anomaly) (time : Int) : Option Anomaly :=
  anomalies.find? (·.startTime = time)

/-- Walk along the rest of the grid with the anomaly that is open and the sample before, if any. The
anomaly that continues a closed one is looked for among `continuation`, the others among
`anomalies`. -/
def walk (anomalies continuation : List Anomaly) (active : Option Anomaly)
    (previous : Option Sample) : List Sample → Overlay
  | [] => []
  | sample :: rest =>
    match active with
    | none =>
      match startingAt? anomalies sample.time with
      | some opened =>
        ⟨sample.value, some sample⟩ :: walk anomalies continuation (some opened) (some sample) rest
      | none => ⟨none, none⟩ :: walk anomalies continuation none (some sample) rest
    | some anomaly =>
      if anomaly.endTime = sample.time then
        match startingAt? continuation sample.time with
        | some opened =>
          ⟨sample.value, some sample⟩ ::
            walk anomalies continuation (some opened) (some sample) rest
        | none => ⟨none, previous⟩ :: walk anomalies continuation none (some sample) rest
      else
        ⟨sample.value, none⟩ :: walk anomalies continuation (some anomaly) (some sample) rest

/-- The anomaly that is open before a grid: the first that starts no later than its first sample. -/
def opening? (anomalies : List Anomaly) (samples : List Sample) : Option Anomaly :=
  samples.head?.bind fun first => anomalies.find? (·.startTime ≤ first.time)

/-- The overlay of anomalies on a grid. -/
def draw (grid : List Int) (channel : Channel) (anomalies continuation : List Anomaly)
    (fill : Fill) : Overlay :=
  let samples := fill.samples grid channel
  walk anomalies continuation (opening? anomalies samples) none samples

/-- The heights drawn, a gap outside. -/
def values (overlay : Overlay) : Channel := overlay.map (·.value)

/-- The markers, in the order in which they were set. -/
def edges (overlay : Overlay) : List Sample := overlay.filterMap (·.edge)

theorem length_walk (anomalies continuation : List Anomaly) (active : Option Anomaly)
    (previous : Option Sample) (samples : List Sample) :
    (walk anomalies continuation active previous samples).length = samples.length := by
  induction samples generalizing active previous with
  | nil => rfl
  | cons sample rest ih =>
    simp only [walk]
    repeat' split
    all_goals simp [ih]

theorem length_draw (grid : List Int) (channel : Channel) (anomalies continuation : List Anomaly)
    (fill : Fill) : (draw grid channel anomalies continuation fill).length = grid.length := by
  simp [draw, length_walk, Fill.length_samples]

end Overlay

/-- A channel with a gap for every value that is no finite number. -/
def Channel.finite (channel : Channel) : Channel :=
  channel.map (·.filter Float.isFinite)

end AlertDetail
