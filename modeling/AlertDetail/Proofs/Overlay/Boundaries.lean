import AlertDetail.Proofs.Overlay.Coverage
import Mathlib.Data.List.Basic

/-!
# Markers of disjoint anomalies

The markers of an overlay stand where anomalies start and end. A sample that something starts at is
marked itself; where something ends and nothing starts, the sample before is, the last one inside.
So two anomalies that meet have one marker between them, and one that covers a single sample has two
on it. The first sample is not marked: what covers it is open when the walk sets out.
-/

namespace AlertDetail

namespace Overlay

/-- The marker for what starts or ends at an index of the samples. -/
def boundaryAt (anomalies : List Anomaly) (samples : List Sample) (i : Nat) : Option Sample :=
  samples[i]?.bind fun sample =>
    if ∃ anomaly ∈ anomalies, anomaly.startTime = sample.time then some sample
    else if ∃ anomaly ∈ anomalies, anomaly.endTime = sample.time then samples[i - 1]?
    else none

variable {grid : List Int} {anomalies : List Anomaly} {before time : Int}
  {active after : Option Anomaly}

/-- Something starts at a sample if it encloses the sample and not the one before. -/
theorem exists_start_iff (hgrid : Ascending grid) (hlaid : Laid grid anomalies)
    (hnext : Adjacent grid before time) (hbefore : Encloses anomalies before active)
    (hafter : Encloses anomalies time after) :
    (∃ anomaly ∈ anomalies, anomaly.startTime = time) ↔
      ∃ opened, after = some opened ∧ active ≠ some opened := by
  constructor
  · rintro ⟨anomaly, hmem, hstart⟩
    have hin := hlaid.covers_start hmem hstart
    refine ⟨anomaly, (hafter.eq_some_iff hlaid).2 ⟨hmem, hin⟩, fun hopen => ?_⟩
    have hcovers := ((hbefore.eq_some_iff hlaid).1 hopen).2
    have hearlier := (Anomaly.covers_iff.1 hcovers).1
    have hlt := hnext.lt hgrid
    omega
  · rintro ⟨opened, hopened, hfresh⟩
    obtain ⟨hmem, hin⟩ := (hafter.eq_some_iff hlaid).1 hopened
    have hout : opened.covers before ≠ true := fun hcovers =>
      hfresh ((hbefore.eq_some_iff hlaid).2 ⟨hmem, hcovers⟩)
    exact ⟨opened, hmem, hlaid.start_eq hgrid hmem hnext hout hin⟩

/-- Something ends at a sample if it encloses the one before and not the sample itself. -/
theorem exists_end_iff (hgrid : Ascending grid) (hlaid : Laid grid anomalies)
    (hnext : Adjacent grid before time) (hbefore : Encloses anomalies before active)
    (hafter : Encloses anomalies time after) :
    (∃ anomaly ∈ anomalies, anomaly.endTime = time) ↔
      ∃ closed, active = some closed ∧ after ≠ some closed := by
  constructor
  · rintro ⟨anomaly, hmem, hend⟩
    have hin := hlaid.covers_before_end hgrid hmem hnext hend
    refine ⟨anomaly, (hbefore.eq_some_iff hlaid).2 ⟨hmem, hin⟩, fun hopen => ?_⟩
    have hcovers := ((hafter.eq_some_iff hlaid).1 hopen).2
    have hlater := (Anomaly.covers_iff.1 hcovers).2
    omega
  · rintro ⟨closed, hclosed, hgone⟩
    obtain ⟨hmem, hin⟩ := (hbefore.eq_some_iff hlaid).1 hclosed
    have hout : closed.covers time ≠ true := fun hcovers =>
      hgone ((hafter.eq_some_iff hlaid).2 ⟨hmem, hcovers⟩)
    exact ⟨closed, hmem, hlaid.end_eq hgrid hmem hnext hin hout⟩

/-- What encloses two samples in turn decides what is marked at the second. -/
theorem edge_of_encloses (hgrid : Ascending grid) (hlaid : Laid grid anomalies)
    (hnext : Adjacent grid before time) (hbefore : Encloses anomalies before active)
    (last height : Option Float) :
    (markOf active (activeAfter anomalies anomalies active time) (some ⟨before, last⟩)
        ⟨time, height⟩).edge =
      if ∃ anomaly ∈ anomalies, anomaly.startTime = time then some ⟨time, height⟩
      else if ∃ anomaly ∈ anomalies, anomaly.endTime = time then some ⟨before, last⟩
      else none := by
  have hafter := hbefore.next hgrid hlaid hnext
  simp only [exists_start_iff hgrid hlaid hnext hbefore hafter,
    exists_end_iff hgrid hlaid hnext hbefore hafter]
  cases active with
  | none =>
    cases activeAfter anomalies anomalies none time with
    | none => simp [markOf]
    | some opened => simp [markOf]
  | some anomaly =>
    by_cases hclosed : anomaly.endTime = time
    · cases hnow : activeAfter anomalies anomalies (some anomaly) time with
      | none => simp [markOf]
      | some opened =>
        -- The closed anomaly does not cover the sample, so another one goes on.
        have hother : anomaly ≠ opened := by
          rintro rfl
          rw [hnow] at hafter
          have hlater := (Anomaly.covers_iff.1 hafter.2).2
          omega
        simp [markOf, hclosed, hother]
    · have hstays : activeAfter anomalies anomalies (some anomaly) time = some anomaly :=
        if_neg hclosed
      simp [hstays, markOf, hclosed]

/-- Nothing is marked on the first sample if every anomaly ends behind it. -/
theorem markerAt_first {first : Int} {rest : List Int}
    (hlate : ∀ anomaly ∈ anomalies, first < anomaly.endTime) (channel : Channel) (fill : Fill) :
    (draw (first :: rest) channel anomalies anomalies fill).markerAt 0 = none := by
  rw [markerAt_zero]
  cases hopen : activeAt anomalies anomalies (first :: rest) 0 with
  | none =>
    rw [activeAt_one_of_zero hopen]
    rfl
  | some opened =>
    have hopened : opened.endTime ≠ first := by
      have hends := hlate opened (of_activeAt_zero hopen).1
      omega
    rw [activeAt_succ (Nat.succ_pos _), hopen, List.getElem_cons_zero]
    simp only [activeAfter, if_neg hopened]
    exact if_neg hopened

/-- What is marked behind the first sample is what starts or ends there. -/
theorem markerAt_eq_boundaryAt (hgrid : Ascending grid) (hlaid : Laid grid anomalies)
    (channel : Channel) (fill : Fill) {i : Nat} (hnext : i + 1 < grid.length) :
    (draw grid channel anomalies anomalies fill).markerAt (i + 1) =
      boundaryAt anomalies (fill.samples grid channel) (i + 1) := by
  have hi : i < grid.length := Nat.lt_of_succ_lt hnext
  rw [markerAt_succ anomalies anomalies channel fill hi hnext, activeAt_succ hnext,
    edge_of_encloses hgrid hlaid (adjacent_getElem hi hnext) (encloses_activeAt hgrid hlaid hi)]
  unfold boundaryAt
  rw [Nat.add_sub_cancel, Fill.getElem?_samples, Fill.getElem?_samples,
    List.getElem?_eq_getElem hi, List.getElem?_eq_getElem hnext]
  rfl

/-- The markers of disjoint anomalies that end behind the first sample are those of their
boundaries. In the order of the grid, and for every sample but the first: the sample itself if an
anomaly starts at it, otherwise the sample before if an anomaly ends at it, otherwise none. -/
theorem edges_at_boundaries {first : Int} {rest : List Int}
    (hgrid : Ascending (first :: rest)) (hlaid : Laid (first :: rest) anomalies)
    (hlate : ∀ anomaly ∈ anomalies, first < anomaly.endTime) (channel : Channel) (fill : Fill) :
    (draw (first :: rest) channel anomalies anomalies fill).edges =
      (List.range' 1 rest.length).filterMap
        (boundaryAt anomalies (fill.samples (first :: rest) channel)) := by
  rw [edges_eq_markers, length_draw, List.length_cons, List.range_eq_range', List.range'_succ,
    List.filterMap_cons_none (markerAt_first hlate channel fill), Nat.zero_add]
  apply List.filterMap_congr
  intro i hmem
  obtain ⟨hfirst, hlast⟩ := List.mem_range'_1.1 hmem
  obtain ⟨i, rfl⟩ := Nat.exists_eq_succ_of_ne_zero (Nat.ne_of_gt hfirst)
  exact markerAt_eq_boundaryAt hgrid hlaid channel fill (by rw [List.length_cons]; omega)

/-- An anomaly that is open before the grid has only its end marked, at 0. One that covers the
sample at 10 alone hands over at 15: its start is marked and the start of the next, and nothing for
its end. The last one never ends on the grid and has only its start marked. -/
theorem edges_at_boundaries_handover :
    let lasting (start stop : Int) : Anomaly :=
      { metricUrn := "thirdeye:metric:7", startTime := start, endTime := stop }
    let rest : List Int := [5, 10, 15, 20, 25, 30]
    let anomalies := [lasting 15 25, lasting 30 99, lasting (-10) 5, lasting 10 15]
    Ascending (0 :: rest) ∧ Laid (0 :: rest) anomalies ∧
      (∀ anomaly ∈ anomalies, 0 < anomaly.endTime) ∧
      (draw (0 :: rest) [some 1.0, some 2.0, none, some 4.0] anomalies anomalies .sample).edges =
        [⟨0, some 1.0⟩, ⟨10, none⟩, ⟨15, some 4.0⟩, ⟨20, none⟩, ⟨30, none⟩] := by
  intro lasting rest anomalies
  have hgrid : Ascending (0 :: rest) := by decide
  have hlaid : Laid (0 :: rest) anomalies := by decide
  have hlate : ∀ anomaly ∈ anomalies, 0 < anomaly.endTime := by decide
  exact ⟨hgrid, hlaid, hlate, edges_at_boundaries hgrid hlaid hlate
    [some 1.0, some 2.0, none, some 4.0] .sample⟩

end Overlay

end AlertDetail
