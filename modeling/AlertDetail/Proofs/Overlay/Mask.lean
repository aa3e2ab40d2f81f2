import AlertDetail.Proofs.Overlay.Course

/-!
# The mask of an overlay

Whatever the grid and the anomalies are like, an overlay follows a mask on the grid: it has the
height of the fill where the mask holds and a gap elsewhere, and its markers stand where the mask
changes. The mask is known from the grid and the times of the anomalies. Inside it only one further
marker is possible, where an anomaly is closed and the continuation opens another one at once.
-/

namespace AlertDetail

/-- When an anomaly starts and ends. -/
structure Span where
  /-- The start. -/
  start : Int
  /-- The end. -/
  stop : Int
  deriving DecidableEq

/-- The times of an anomaly. -/
def Anomaly.span (anomaly : Anomaly) : Span := ⟨anomaly.startTime, anomaly.endTime⟩

/-- An anomaly of which nothing but the times is known. -/
def Span.anomaly (span : Span) : Anomaly :=
  { metricUrn := "", startTime := span.start, endTime := span.stop }

namespace Overlay

/-- Whether an anomaly stays open on each sample of a grid, by the times of the anomalies alone. -/
def mask (spans continuation : List Span) (grid : List Int) : List Bool :=
  (List.range grid.length).map fun i =>
    (activeAt (spans.map Span.anomaly) (continuation.map Span.anomaly) grid (i + 1)).isSome

/-- The markers that a mask allows on a sample, by what it says of the one before and of the sample
itself. -/
inductive Marking (continuation : List Anomaly) (before sample : Sample) :
    Bool → Bool → Option Sample → Prop
  /-- Outside nothing is marked. -/
  | outside : Marking continuation before sample false false none
  /-- The first sample inside is marked. -/
  | starts : Marking continuation before sample false true (some sample)
  /-- The last sample inside is marked when the next one is outside. -/
  | ends : Marking continuation before sample true false (some before)
  /-- Inside nothing has to be marked. -/
  | inside : Marking continuation before sample true true none
  /-- Inside a sample is marked only where an anomaly of the continuation starts. -/
  | resumes {anomaly : Anomaly} (hmem : anomaly ∈ continuation)
    (hstart : anomaly.startTime = sample.time) :
    Marking continuation before sample true true (some sample)

variable {anomalies continuation : List Anomaly} {grid : List Int}

section Times

variable (f : Anomaly → Anomaly) (hstart : ∀ anomaly, (f anomaly).startTime = anomaly.startTime)
  (hend : ∀ anomaly, (f anomaly).endTime = anomaly.endTime)

include hstart

/-- What starts at a time is found by its times. -/
theorem startingAt?_map (time : Int) :
    startingAt? (anomalies.map f) time = (startingAt? anomalies time).map f := by
  unfold startingAt?
  rw [List.find?_map]
  simp only [Function.comp_def, hstart]

include hend

/-- The next open anomaly depends on the times alone. -/
theorem activeAfter_map (active : Option Anomaly) (time : Int) :
    activeAfter (anomalies.map f) (continuation.map f) (active.map f) time =
      (activeAfter anomalies continuation active time).map f := by
  cases active with
  | none => exact startingAt?_map f hstart time
  | some anomaly =>
    simp only [Option.map_some, activeAfter, hend]
    by_cases hclosed : anomaly.endTime = time
    · rw [if_pos hclosed, if_pos hclosed]
      exact startingAt?_map f hstart time
    · rw [if_neg hclosed, if_neg hclosed]
      rfl

/-- Along the grid the open anomaly depends on the times alone. -/
theorem activeAt_map (i : Nat) :
    activeAt (anomalies.map f) (continuation.map f) grid i =
      (activeAt anomalies continuation grid i).map f := by
  have hopening : (grid.head?.bind fun first => (anomalies.map f).find? (·.startTime ≤ first)) =
      (grid.head?.bind fun first => anomalies.find? (·.startTime ≤ first)).map f := by
    cases grid with
    | nil => rfl
    | cons first rest =>
      simp only [List.head?_cons, Option.bind_some, List.find?_map, Function.comp_def, hstart]
  unfold activeAt
  rw [hopening]
  exact List.foldl_hom (Option.map f) (activeAfter_map f hstart hend)

end Times

/-- The mask tells at each index whether an anomaly stays open. -/
theorem getElem?_mask (anomalies continuation : List Anomaly) {i : Nat} (h : i < grid.length) :
    (mask (anomalies.map Anomaly.span) (continuation.map Anomaly.span) grid)[i]? =
      some (activeAt anomalies continuation grid (i + 1)).isSome := by
  unfold mask
  rw [List.getElem?_map, List.getElem?_range h, Option.map_some, List.map_map, List.map_map,
    activeAt_map (Span.anomaly ∘ Anomaly.span) (fun _ => rfl) fun _ => rfl, Option.isSome_map]

/-- The mask covers the grid. -/
theorem length_mask (spans continuation : List Span) (grid : List Int) :
    (mask spans continuation grid).length = grid.length := by
  unfold mask
  rw [List.length_map, List.length_range]

/-- Where an anomaly is open before and after a sample, the sample is marked only if the
continuation had to be asked. -/
theorem marking_of_open {opened next : Anomaly} {sample : Sample}
    (h : activeAfter anomalies continuation (some opened) sample.time = some next)
    (before : Sample) (previous : Option Sample) :
    Marking continuation before sample true true
      (markOf (some opened) (some next) previous sample).edge := by
  by_cases hclosed : opened.endTime = sample.time
  · simp only [activeAfter, if_pos hclosed] at h
    obtain ⟨hmem, hstart⟩ := startingAt?_eq_some h
    simp only [markOf, if_pos hclosed]
    exact Marking.resumes hmem hstart
  · simp only [markOf, if_neg hclosed]
    exact Marking.inside

/-- What an overlay marks on its first sample, which nothing precedes. -/
theorem marking_first (anomalies continuation : List Anomaly) (first : Int) (rest : List Int)
    (channel : Channel) (fill : Fill) :
    let inside := (activeAt anomalies continuation (first :: rest) 1).isSome
    let sample : Sample := ⟨first, if inside then fill.heightAt channel 0 else none⟩
    Marking continuation sample sample inside inside
      ((draw (first :: rest) channel anomalies continuation fill).markerAt 0) := by
  rw [markerAt_zero]
  cases hopen : activeAt anomalies continuation (first :: rest) 0 with
  | none =>
    rw [activeAt_one_of_zero hopen]
    exact Marking.outside
  | some opened =>
    have hafter : activeAt anomalies continuation (first :: rest) 1 =
        activeAfter anomalies continuation (some opened) first := by
      rw [activeAt_succ (Nat.succ_pos _), hopen, List.getElem_cons_zero]
    cases hactive : activeAt anomalies continuation (first :: rest) 1 with
    | none => exact Marking.outside
    | some next => exact marking_of_open (hafter.symm.trans hactive) _ none

/-- What an overlay marks on a sample behind the first. -/
theorem marking_next (anomalies continuation : List Anomaly) (channel : Channel) (fill : Fill)
    {i : Nat} (hi : i < grid.length) (hnext : i + 1 < grid.length) :
    let was := (activeAt anomalies continuation grid (i + 1)).isSome
    let inside := (activeAt anomalies continuation grid (i + 2)).isSome
    Marking continuation ⟨grid[i], if was then fill.heightAt channel i else none⟩
      ⟨grid[i + 1], if inside then fill.heightAt channel (i + 1) else none⟩ was inside
      ((draw grid channel anomalies continuation fill).markerAt (i + 1)) := by
  rw [markerAt_succ anomalies continuation channel fill hi hnext]
  cases hbefore : activeAt anomalies continuation grid (i + 1) with
  | none =>
    cases activeAt anomalies continuation grid (i + 2) with
    | none => exact Marking.outside
    | some next => exact Marking.starts
  | some opened =>
    have hafter : activeAt anomalies continuation grid (i + 2) =
        activeAfter anomalies continuation (some opened) grid[i + 1] := by
      rw [activeAt_succ hnext, hbefore]
    cases hactive : activeAt anomalies continuation grid (i + 2) with
    | none => exact Marking.ends
    | some next => exact marking_of_open (hafter.symm.trans hactive) _ _

/-- A marker is the sample before, if the mask holds there, or the sample, if it holds here. -/
theorem Marking.shown {before sample marker : Sample} {was inside : Bool}
    (h : Marking continuation before sample was inside (some marker)) :
    was = true ∧ marker = before ∨ inside = true ∧ marker = sample := by
  cases h with
  | starts => exact Or.inr ⟨rfl, rfl⟩
  | ends => exact Or.inl ⟨rfl, rfl⟩
  | resumes => exact Or.inr ⟨rfl, rfl⟩

/-- An overlay follows a mask on its grid. -/
structure Follows (continuation : List Anomaly) (grid : List Int) (height : Nat → Option Float)
    (inside : List Bool) (overlay : Overlay) : Prop where
  /-- The mask covers the grid. -/
  length_mask : inside.length = grid.length
  /-- Every sample has a value or a gap. -/
  length_values : overlay.values.length = grid.length
  /-- Every marker has its time and its value. -/
  length_edges : (overlay.edges.map (·.time)).length = (overlay.edges.map (·.value)).length
  /-- The value is the height where the mask holds, and a gap elsewhere. -/
  value : ∀ i < grid.length,
    overlay.values[i]? = some (if inside.getD i false then height i else none)
  /-- The markers are those set at the indices in order, at most one at each. -/
  markers : overlay.edges = (List.range grid.length).filterMap overlay.markerAt
  /-- On the first sample the mask does not change. -/
  first : ∀ hfirst : 0 < grid.length,
    let sample : Sample := ⟨grid[0], overlay.values[0]?.join⟩
    Marking continuation sample sample (inside.getD 0 false) (inside.getD 0 false)
      (overlay.markerAt 0)
  /-- Behind it the changes of the mask are marked on what is drawn. -/
  next : ∀ i (hi : i < grid.length) (hnext : i + 1 < grid.length),
    Marking continuation ⟨grid[i], overlay.values[i]?.join⟩
      ⟨grid[i + 1], overlay.values[i + 1]?.join⟩ (inside.getD i false)
      (inside.getD (i + 1) false) (overlay.markerAt (i + 1))

/-- Every marker of an overlay that follows a mask is a sample that the mask holds on, with the
value drawn there. -/
theorem Follows.shown {height : Nat → Option Float} {inside : List Bool} {overlay : Overlay}
    (h : Follows continuation grid height inside overlay) {marker : Sample}
    (hmem : marker ∈ overlay.edges) :
    ∃ i, ∃ hi : i < grid.length,
      inside.getD i false = true ∧ marker = ⟨grid[i], overlay.values[i]?.join⟩ := by
  rw [h.markers] at hmem
  obtain ⟨i, hrange, hmarker⟩ := List.mem_filterMap.1 hmem
  have hi : i < grid.length := List.mem_range.1 hrange
  cases i with
  | zero =>
    have hset := h.first hi
    rw [hmarker] at hset
    rcases hset.shown with hfirst | hfirst
    · exact ⟨0, hi, hfirst⟩
    · exact ⟨0, hi, hfirst⟩
  | succ i =>
    have hbefore : i < grid.length := Nat.lt_of_succ_lt hi
    have hset := h.next i hbefore hi
    rw [hmarker] at hset
    rcases hset.shown with hlast | hsample
    · exact ⟨i, hbefore, hlast⟩
    · exact ⟨i + 1, hi, hsample⟩

/-- The overlay of any anomalies on any grid follows the mask that the grid makes with their times.
Channel and fill have no influence on the mask. So every marker is a sample that the mask holds on,
with the value drawn there. -/
theorem draw_follows_mask (grid : List Int) (channel : Channel)
    (anomalies continuation : List Anomaly) (fill : Fill) :
    let overlay := draw grid channel anomalies continuation fill
    let inside := mask (anomalies.map Anomaly.span) (continuation.map Anomaly.span) grid
    Follows continuation grid (fill.heightAt channel) inside overlay ∧
      ∀ marker ∈ overlay.edges, ∃ i, ∃ hi : i < grid.length,
        inside.getD i false = true ∧ marker = ⟨grid[i], overlay.values[i]?.join⟩ := by
  intro overlay inside
  have hinside {i : Nat} (hi : i < grid.length) :
      inside.getD i false = (activeAt anomalies continuation grid (i + 1)).isSome := by
    rw [List.getD_eq_getElem?_getD, getElem?_mask anomalies continuation hi, Option.getD_some]
  have hvalue {i : Nat} (hi : i < grid.length) : overlay.values[i]? =
      some (if (activeAt anomalies continuation grid (i + 1)).isSome then
        fill.heightAt channel i else none) :=
    getElem?_values anomalies continuation channel fill hi
  have hfollows : Follows continuation grid (fill.heightAt channel) inside overlay := by
    constructor
    case length_mask => exact length_mask _ _ grid
    case length_values => rw [values, List.length_map, length_draw]
    case length_edges => rw [List.length_map, List.length_map]
    case value =>
      intro i hi
      rw [hvalue hi, hinside hi]
    case markers => rw [edges_eq_markers, length_draw]
    case first =>
      intro hfirst
      rw [hvalue hfirst, hinside hfirst]
      cases grid with
      | nil => cases hfirst
      | cons first rest => exact marking_first anomalies continuation first rest channel fill
    case next =>
      intro i hi hnext
      rw [hvalue hi, hvalue hnext, hinside hi, hinside hnext]
      exact marking_next anomalies continuation channel fill hi hnext
  exact ⟨hfollows, fun marker hmem => hfollows.shown hmem⟩

/-- A grid in no order with repeated times. The anomaly that is open before it has its end before
its start. The walk closes it at 0 and goes on with the continuation, which ends at the first 10;
only at the second 10 the other anomaly is found. -/
theorem draw_follows_mask_unordered :
    let lasting (start stop : Int) : Anomaly :=
      { metricUrn := "thirdeye:metric:7", startTime := start, endTime := stop }
    let grid : List Int := [5, 0, 5, 10, 10]
    let anomalies := [lasting 5 0, lasting 10 99]
    let continuation := [lasting 0 10]
    let overlay := draw grid [some 1.0, some 2.0, some 3.0, some 4.0] anomalies continuation .sample
    let inside := [true, true, true, false, true]
    mask (anomalies.map Anomaly.span) (continuation.map Anomaly.span) grid = inside ∧
      overlay.values[1]? = some (some 2.0) ∧ overlay.values[3]? = some none ∧
      Marking continuation ⟨5, some 1.0⟩ ⟨0, some 2.0⟩ true true (overlay.markerAt 1) ∧
      Marking continuation ⟨5, some 3.0⟩ ⟨10, none⟩ true false (overlay.markerAt 3) ∧
      Marking continuation ⟨10, none⟩ ⟨10, none⟩ false true (overlay.markerAt 4) ∧
      overlay.edges = [⟨0, some 2.0⟩, ⟨5, some 3.0⟩, ⟨10, none⟩] := by
  intro lasting grid anomalies continuation overlay inside
  have hmask : mask (anomalies.map Anomaly.span) (continuation.map Anomaly.span) grid =
      inside := rfl
  have hfollows := (draw_follows_mask grid [some 1.0, some 2.0, some 3.0, some 4.0] anomalies
    continuation .sample).1
  rw [hmask] at hfollows
  exact ⟨hmask, hfollows.value 1 (by decide), hfollows.value 3 (by decide),
    hfollows.next 0 (by decide) (by decide), hfollows.next 2 (by decide) (by decide),
    hfollows.next 3 (by decide) (by decide), hfollows.markers⟩

end Overlay

end AlertDetail
