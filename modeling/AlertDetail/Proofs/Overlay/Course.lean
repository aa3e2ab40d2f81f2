import AlertDetail.Overlay

/-!
# The course of the walk

What a walk along a grid adds at a sample is told by the anomalies that are open before and after
it. This module gives the open anomaly by index, without the heights, and reads every mark of an
overlay off it. What holds of the open anomaly at each index then holds of the overlay, for every
channel and every fill.
-/

namespace AlertDetail

namespace Fill

/-- The height at an index. Behind the end of a channel the series has gaps. -/
def heightAt (fill : Fill) (channel : Channel) (i : Nat) : Option Float :=
  fill.height channel[i]?.join

/-- Every sample has its time of the grid and its height at the index. -/
theorem getElem?_samples (fill : Fill) (grid : List Int) (channel : Channel) (i : Nat) :
    (fill.samples grid channel)[i]? =
      grid[i]?.map fun time => ⟨time, fill.heightAt channel i⟩ := by
  unfold heightAt
  induction grid generalizing channel i with
  | nil => simp [samples]
  | cons time grid ih =>
    cases i with
    | zero => cases channel <;> simp [samples]
    | succ i =>
      have htail : channel.tail[i]? = channel[i + 1]? := by cases channel <;> simp
      simp [samples, ih, htail]

/-- The samples have the times of the grid. -/
theorem samples_times (fill : Fill) (grid : List Int) (channel : Channel) :
    (fill.samples grid channel).map (·.time) = grid := by
  induction grid generalizing channel with
  | nil => rfl
  | cons time grid ih => simp [samples, ih]

end Fill

namespace Overlay

/-- The anomaly that is open after a sample, by the one that was open before it. -/
def activeAfter (anomalies continuation : List Anomaly) (active : Option Anomaly) (time : Int) :
    Option Anomaly :=
  match active with
  | none => startingAt? anomalies time
  | some anomaly =>
    if anomaly.endTime = time then startingAt? continuation time else some anomaly

/-- The anomaly that is open when the walk reaches an index of the grid. Before the grid it is the
first that starts no later than the first sample. -/
def activeAt (anomalies continuation : List Anomaly) (grid : List Int) (i : Nat) : Option Anomaly :=
  (grid.take i).foldl (activeAfter anomalies continuation)
    (grid.head?.bind fun first => anomalies.find? (·.startTime ≤ first))

/-- What a sample adds, by the anomalies that are open before and after it. -/
def markOf (before after : Option Anomaly) (previous : Option Sample) (sample : Sample) : Mark :=
  match before, after with
  | none, none => ⟨none, none⟩
  | none, some _ => ⟨sample.value, some sample⟩
  | some _, none => ⟨none, previous⟩
  | some anomaly, some _ =>
    ⟨sample.value, if anomaly.endTime = sample.time then some sample else none⟩

/-- The marker set when an index was reached. -/
def markerAt (overlay : Overlay) (i : Nat) : Option Sample := overlay[i]?.bind (·.edge)

variable {anomalies continuation : List Anomaly} {grid : List Int}

/-- Reaching a sample changes the open anomaly by its time alone. -/
theorem activeAt_succ {i : Nat} (h : i < grid.length) :
    activeAt anomalies continuation grid (i + 1) =
      activeAfter anomalies continuation (activeAt anomalies continuation grid i) grid[i] := by
  unfold activeAt
  rw [List.take_add_one, List.foldl_append, List.getElem?_eq_getElem h]
  rfl

/-- What is open before the grid is listed and starts no later than the first sample. -/
theorem of_activeAt_zero {first : Int} {rest : List Int} {opened : Anomaly}
    (h : activeAt anomalies continuation (first :: rest) 0 = some opened) :
    opened ∈ anomalies ∧ opened.startTime ≤ first :=
  ⟨List.mem_of_find?_eq_some h, by simpa using List.find?_some h⟩

/-- Where nothing is open before the grid, everything starts behind the first sample. -/
theorem lt_of_activeAt_zero {first : Int} {rest : List Int}
    (h : activeAt anomalies continuation (first :: rest) 0 = none) :
    ∀ anomaly ∈ anomalies, first < anomaly.startTime := by
  have hfind : anomalies.find? (·.startTime ≤ first) = none := h
  simpa using hfind

/-- What is found at a time starts there. -/
theorem startingAt?_eq_some {time : Int} {opened : Anomaly}
    (h : startingAt? anomalies time = some opened) :
    opened ∈ anomalies ∧ opened.startTime = time :=
  ⟨List.mem_of_find?_eq_some h, by simpa using List.find?_some h⟩

/-- Where nothing is found, nothing starts. -/
theorem startingAt?_eq_none {time : Int} (h : startingAt? anomalies time = none) :
    ∀ anomaly ∈ anomalies, anomaly.startTime ≠ time := by
  simpa [startingAt?] using h

/-- Where nothing is open before the grid, nothing is opened on its first sample. -/
theorem activeAt_one_of_zero {first : Int} {rest : List Int}
    (h : activeAt anomalies continuation (first :: rest) 0 = none) :
    activeAt anomalies continuation (first :: rest) 1 = none := by
  rw [activeAt_succ (Nat.succ_pos _), h]
  cases hfound : startingAt? anomalies first with
  | none => exact hfound
  | some opened =>
    obtain ⟨hmem, hstart⟩ := startingAt?_eq_some hfound
    have hlater := lt_of_activeAt_zero h opened hmem
    omega

/-- The walk takes one sample at a time. -/
theorem walk_cons (active : Option Anomaly) (previous : Option Sample) (sample : Sample)
    (rest : List Sample) :
    walk anomalies continuation active previous (sample :: rest) =
      let after := activeAfter anomalies continuation active sample.time
      markOf active after previous sample ::
        walk anomalies continuation after (some sample) rest := by
  cases active with
  | none =>
    simp only [walk, activeAfter]
    cases startingAt? anomalies sample.time with
    | none => rfl
    | some opened => rfl
  | some anomaly =>
    simp only [walk, activeAfter]
    by_cases hend : anomaly.endTime = sample.time
    · rw [if_pos hend, if_pos hend]
      cases startingAt? continuation sample.time with
      | none => rfl
      | some opened => simp only [markOf, if_pos hend]
    · rw [if_neg hend, if_neg hend]
      simp only [markOf, if_neg hend]

/-- What the walk adds at an index, wherever it sets out. -/
theorem getElem?_walk (active : Option Anomaly) (previous : Option Sample)
    (samples : List Sample) (i : Nat) :
    (walk anomalies continuation active previous samples)[i]? =
      let reached (i : Nat) : Option Anomaly :=
        ((samples.map (·.time)).take i).foldl (activeAfter anomalies continuation) active
      samples[i]?.map (markOf (reached i) (reached (i + 1))
        ((previous :: samples.map some)[i]?.join)) := by
  induction samples generalizing active previous i with
  | nil => rfl
  | cons sample rest ih =>
    rw [walk_cons]
    cases i with
    | zero => rfl
    | succ i =>
      rw [List.getElem?_cons_succ, ih]
      rfl

/-- What an overlay adds at an index: the anomalies open before and after it decide. -/
theorem getElem?_draw (anomalies continuation : List Anomaly) (grid : List Int) (channel : Channel)
    (fill : Fill) (i : Nat) :
    (draw grid channel anomalies continuation fill)[i]? =
      (fill.samples grid channel)[i]?.map
        (markOf (activeAt anomalies continuation grid i)
          (activeAt anomalies continuation grid (i + 1))
          ((none :: (fill.samples grid channel).map some)[i]?.join)) := by
  have hopening : opening? anomalies (fill.samples grid channel) =
      grid.head?.bind fun first => anomalies.find? (·.startTime ≤ first) := by
    cases grid <;> rfl
  unfold draw activeAt
  dsimp only
  rw [getElem?_walk, Fill.samples_times, hopening]

/-- Anomalies that are opened and closed alike along a grid are drawn alike. -/
theorem draw_congr {anomalies' continuation' : List Anomaly}
    (h : ∀ i ≤ grid.length, activeAt anomalies continuation grid i =
      activeAt anomalies' continuation' grid i) (channel : Channel) (fill : Fill) :
    draw grid channel anomalies continuation fill =
      draw grid channel anomalies' continuation' fill := by
  apply List.ext_getElem?
  intro i
  rw [getElem?_draw, getElem?_draw]
  by_cases hi : i < grid.length
  · rw [h i (Nat.le_of_lt hi), h (i + 1) hi]
  · have hsamples : (fill.samples grid channel)[i]? = none := by
      rw [Fill.getElem?_samples, List.getElem?_eq_none (Nat.le_of_not_lt hi), Option.map_none]
    rw [hsamples, Option.map_none, Option.map_none]

/-- The value drawn at an index is the height there as long as an anomaly stays open. -/
theorem getElem?_values (anomalies continuation : List Anomaly) {grid : List Int}
    (channel : Channel) (fill : Fill) {i : Nat} (h : i < grid.length) :
    (draw grid channel anomalies continuation fill).values[i]? =
      some (if (activeAt anomalies continuation grid (i + 1)).isSome then
        fill.heightAt channel i else none) := by
  unfold values
  rw [List.getElem?_map, getElem?_draw, Fill.getElem?_samples, List.getElem?_eq_getElem h]
  unfold markOf
  cases activeAt anomalies continuation grid i <;>
    cases activeAt anomalies continuation grid (i + 1) <;> rfl

/-- The marker on the first sample. -/
theorem markerAt_zero (anomalies continuation : List Anomaly) (first : Int) (rest : List Int)
    (channel : Channel) (fill : Fill) :
    (draw (first :: rest) channel anomalies continuation fill).markerAt 0 =
      (markOf (activeAt anomalies continuation (first :: rest) 0)
        (activeAt anomalies continuation (first :: rest) 1) none
        ⟨first, fill.heightAt channel 0⟩).edge := by
  unfold markerAt
  rw [getElem?_draw, Fill.getElem?_samples]
  rfl

/-- The marker on a later sample may also stand on the sample before. -/
theorem markerAt_succ (anomalies continuation : List Anomaly) {grid : List Int}
    (channel : Channel) (fill : Fill) {i : Nat} (hi : i < grid.length)
    (hnext : i + 1 < grid.length) :
    (draw grid channel anomalies continuation fill).markerAt (i + 1) =
      (markOf (activeAt anomalies continuation grid (i + 1))
        (activeAt anomalies continuation grid (i + 2))
        (some ⟨grid[i], fill.heightAt channel i⟩)
        ⟨grid[i + 1], fill.heightAt channel (i + 1)⟩).edge := by
  unfold markerAt
  rw [getElem?_draw, List.getElem?_cons_succ, List.getElem?_map, Fill.getElem?_samples,
    Fill.getElem?_samples, List.getElem?_eq_getElem hi, List.getElem?_eq_getElem hnext]
  rfl

/-- The markers of an overlay are those of its indices, in order. -/
theorem edges_eq_markers (overlay : Overlay) :
    overlay.edges = (List.range overlay.length).filterMap overlay.markerAt := by
  unfold edges markerAt
  induction overlay with
  | nil => rfl
  | cons mark overlay ih =>
    rw [List.length_cons, List.range_succ_eq_map, List.filterMap_cons, List.filterMap_cons,
      List.filterMap_map, ih]
    rfl

end Overlay

end AlertDetail
