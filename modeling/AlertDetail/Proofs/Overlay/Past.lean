import AlertDetail.Proofs.Overlay.Coverage
import Mathlib.Data.List.Find

/-!
# Anomalies that ended before the grid

No search by time finds an anomaly that ended before the first sample, but the first search only
asks for an early start. So such an anomaly leaves no trace unless it is the first listed that
starts no later than the first sample. Then it is open when the walk sets out, its end never comes,
and the overlay covers the whole grid without a marker, whatever else is listed.
-/

namespace AlertDetail

namespace Overlay

variable {anomalies : List Anomaly} {first : Int} {rest : List Int}

/-- What is found first is found among the elements kept if it is one of them. -/
theorem find?_filter_of_found {α : Type} {kept found : α → Bool} {elements : List α}
    (h : ∀ element, elements.find? found = some element → kept element = true) :
    (elements.filter kept).find? found = elements.find? found := by
  induction elements with
  | nil => rfl
  | cons element elements ih =>
    by_cases hfound : found element = true
    · have hkept : kept element = true := h element (List.find?_cons_of_pos hfound)
      rw [List.filter_cons_of_pos hkept, List.find?_cons_of_pos hfound,
        List.find?_cons_of_pos hfound]
    · rw [List.find?_cons_of_neg hfound] at h ⊢
      by_cases hkept : kept element = true
      · rw [List.filter_cons_of_pos hkept, List.find?_cons_of_neg hfound, ih h]
      · rw [List.filter_cons_of_neg hkept, ih h]

/-- No sample finds an anomaly that ended before the grid. -/
theorem startingAt?_filter_past
    (hproper : ∀ anomaly ∈ anomalies, anomaly.startTime < anomaly.endTime)
    {time : Int} (htime : first ≤ time) :
    startingAt? (anomalies.filter (first ≤ ·.endTime)) time = startingAt? anomalies time := by
  unfold startingAt?
  rw [List.find?_filter]
  apply List.find?_congr
  intro anomaly hmem
  have hlasts := hproper anomaly hmem
  by_cases hstart : anomaly.startTime = time
  · have hkept : first ≤ anomaly.endTime := by omega
    simp [hstart, hkept]
  · simp [hstart]

/-- Without the anomalies that ended before the grid the same anomaly is open along it, if the walk
does not set out with one of them. -/
theorem activeAt_filter_past (hgrid : Ascending (first :: rest))
    (hproper : ∀ anomaly ∈ anomalies, anomaly.startTime < anomaly.endTime)
    (hopening : ∀ opened, anomalies.find? (·.startTime ≤ first) = some opened →
      first ≤ opened.endTime) {i : Nat} (hi : i ≤ (first :: rest).length) :
    let live := anomalies.filter (first ≤ ·.endTime)
    activeAt anomalies anomalies (first :: rest) i = activeAt live live (first :: rest) i := by
  intro live
  induction i with
  | zero =>
    exact (find?_filter_of_found fun opened hfound =>
      decide_eq_true (hopening opened hfound)).symm
  | succ i ih =>
    have htime : first ≤ (first :: rest)[i] := hgrid.le hi (Nat.zero_le i)
    rw [activeAt_succ hi, activeAt_succ hi, ih (Nat.le_of_lt hi)]
    unfold activeAfter
    simp only [live, startingAt?_filter_past hproper htime]

/-- An anomaly that ended before the grid and is open when the walk sets out stays open. -/
theorem activeAt_of_past (hgrid : Ascending (first :: rest)) {past : Anomaly}
    (hopening : anomalies.find? (·.startTime ≤ first) = some past) (hpast : past.endTime < first)
    {i : Nat} (hi : i ≤ (first :: rest).length) :
    activeAt anomalies anomalies (first :: rest) i = some past := by
  induction i with
  | zero => exact hopening
  | succ i ih =>
    have htime : first ≤ (first :: rest)[i] := hgrid.le hi (Nat.zero_le i)
    have hopen : past.endTime ≠ (first :: rest)[i] := by omega
    rw [activeAt_succ hi, ih (Nat.le_of_lt hi)]
    exact if_neg hopen

/-- Where such an anomaly is open, every sample is drawn and none is marked. -/
theorem draw_of_past (hgrid : Ascending (first :: rest)) {past : Anomaly}
    (hopening : anomalies.find? (·.startTime ≤ first) = some past) (hpast : past.endTime < first)
    (channel : Channel) (fill : Fill) :
    draw (first :: rest) channel anomalies anomalies fill =
      (fill.samples (first :: rest) channel).map fun sample => ⟨sample.value, none⟩ := by
  apply List.ext_getElem?
  intro i
  rw [getElem?_draw, List.getElem?_map, Fill.getElem?_samples]
  by_cases hi : i < (first :: rest).length
  · have htime : first ≤ (first :: rest)[i] := hgrid.le hi (Nat.zero_le i)
    have hopen : past.endTime ≠ (first :: rest)[i] := by omega
    rw [activeAt_of_past hgrid hopening hpast (Nat.le_of_lt hi),
      activeAt_of_past hgrid hopening hpast hi, List.getElem?_eq_getElem hi]
    simp only [Option.map_some, markOf, if_neg hopen]
  · rw [List.getElem?_eq_none (Nat.le_of_not_lt hi)]
    rfl

/-- What anomalies that ended before the grid do to an overlay. If the first listed that starts no
later than the first sample is one of them, every sample of the grid is drawn and none is marked.
Otherwise values and markers are those of the anomalies without them. -/
theorem draw_past_anomalies (hgrid : Ascending (first :: rest))
    (hproper : ∀ anomaly ∈ anomalies, anomaly.startTime < anomaly.endTime) (channel : Channel)
    (fill : Fill) :
    let live := anomalies.filter (first ≤ ·.endTime)
    draw (first :: rest) channel anomalies anomalies fill =
      if (anomalies.find? (·.startTime ≤ first)).any (·.endTime < first) then
        (fill.samples (first :: rest) channel).map fun sample => ⟨sample.value, none⟩
      else draw (first :: rest) channel live live fill := by
  intro live
  by_cases hpast : (anomalies.find? (·.startTime ≤ first)).any (·.endTime < first) = true
  · rw [if_pos hpast]
    obtain ⟨past, hopening, hended⟩ := (Option.any_eq_true _ _).1 hpast
    exact draw_of_past hgrid hopening (of_decide_eq_true hended) channel fill
  · rw [if_neg hpast]
    have hopening (opened : Anomaly)
        (hfound : anomalies.find? (·.startTime ≤ first) = some opened) :
        first ≤ opened.endTime := by
      by_contra hended
      rw [hfound, Option.any_some] at hpast
      exact hpast (decide_eq_true (Int.not_le.1 hended))
    exact draw_congr (fun i hi => activeAt_filter_past hgrid hproper hopening hi) channel fill

/-- Of three anomalies one ended before the grid. Listed behind one that is open on the first sample
it leaves no trace; listed first it is drawn on the whole grid. -/
theorem draw_past_anomalies_order :
    let lasting (start stop : Int) : Anomaly :=
      { metricUrn := "thirdeye:metric:7", startTime := start, endTime := stop }
    let rest : List Int := [5, 10, 15]
    let past := lasting (-20) (-10)
    let others := [lasting (-3) 5, lasting 10 15]
    let overlay (anomalies : List Anomaly) := draw (0 :: rest) [some 1.0, some 2.0] anomalies
      anomalies (.constant 1.0)
    Ascending (0 :: rest) ∧
      (∀ anomaly ∈ past :: others, anomaly.startTime < anomaly.endTime) ∧
      overlay (others ++ [past]) = overlay others ∧
      overlay (past :: others) = List.replicate 4 ⟨some 1.0, none⟩ := by
  intro lasting rest past others overlay
  have hgrid : Ascending (0 :: rest) := by decide
  have hbehind : ∀ anomaly ∈ others ++ [past], anomaly.startTime < anomaly.endTime := by decide
  have hahead : ∀ anomaly ∈ past :: others, anomaly.startTime < anomaly.endTime := by decide
  exact ⟨hgrid, hahead, draw_past_anomalies hgrid hbehind [some 1.0, some 2.0] (.constant 1.0),
    draw_past_anomalies hgrid hahead [some 1.0, some 2.0] (.constant 1.0)⟩

/-- Two disjoint anomalies, the first listed of which ended before the grid. The other covers the
sample at 5 alone, and its ends can be told; but every sample is drawn. -/
theorem past_anomaly_covers_grid :
    let lasting (start stop : Int) : Anomaly :=
      { metricUrn := "thirdeye:metric:7", startTime := start, endTime := stop }
    let grid : List Int := [0, 5, 10, 15]
    let anomalies := [lasting (-20) (-10), lasting 5 10]
    let live := anomalies.filter (0 ≤ ·.endTime)
    let values (anomalies : List Anomaly) :=
      (draw grid [some 1.0, some 2.0, some 3.0, some 4.0] anomalies anomalies .sample).values
    Ascending grid ∧ anomalies.Pairwise Anomaly.Apart ∧
      (∀ anomaly ∈ anomalies, anomaly.startTime < anomaly.endTime) ∧
      (∀ anomaly ∈ anomalies, 0 ≤ anomaly.endTime → anomaly.OnGrid grid) ∧
      values anomalies = [some 1.0, some 2.0, some 3.0, some 4.0] ∧
      values live = [none, some 2.0, none, none] ∧ values anomalies ≠ values live := by
  intro lasting grid anomalies live values
  have hall : values anomalies = [some 1.0, some 2.0, some 3.0, some 4.0] := rfl
  have hlive : values live = [none, some 2.0, none, none] := rfl
  refine ⟨by decide, by decide, by decide, by decide, hall, hlive, fun hsame => ?_⟩
  rw [hall, hlive] at hsame
  cases hsame

end Overlay

end AlertDetail
