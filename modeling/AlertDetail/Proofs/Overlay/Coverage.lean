import AlertDetail.Proofs.Overlay.Course
import Mathlib.Data.List.Pairwise

/-!
# Overlays of disjoint anomalies

Where no two anomalies share an instant and their ends can be told on the grid, an overlay is drawn
on exactly the samples that lie in one of them, in whatever order they are listed. The walk knows
one open anomaly and finds others only at the sample where they start. That is enough because
nothing starts or ends between two samples of the grid, so the open anomaly is always the one that
the sample lies in. An anomaly may start before the grid, and it may end on its first sample: then
it is open when the walk sets out and closed at once.
-/

namespace AlertDetail

/-- Every sample of a grid is later than those before it. -/
abbrev Ascending (grid : List Int) : Prop := grid.Pairwise (· < ·)

/-- Two times stand next to each other on a grid. -/
def Adjacent (grid : List Int) (before time : Int) : Prop :=
  ∃ i, grid[i]? = some before ∧ grid[i + 1]? = some time

/-- No instant lies in both. -/
def Anomaly.Apart (first second : Anomaly) : Prop :=
  ∀ instant, ¬(first.covers instant ∧ second.covers instant)

/-- A time can be told on a grid if it is that of a sample or later than all of them. -/
def Told (grid : List Int) (time : Int) : Prop :=
  time ∈ grid ∨ ∀ sample ∈ grid, sample < time

/-- Both ends can be told on a grid; an anomaly may also start before it. -/
structure Anomaly.OnGrid (grid : List Int) (anomaly : Anomaly) : Prop where
  /-- It starts no later than the grid, or at a time that can be told. -/
  start : (∀ sample ∈ grid, anomaly.startTime ≤ sample) ∨ Told grid anomaly.startTime
  /-- It ends at a time that can be told. -/
  stop : Told grid anomaly.endTime

/-- Anomalies that a grid can show one by one. -/
structure Laid (grid : List Int) (anomalies : List Anomaly) : Prop where
  /-- None of them is empty. -/
  proper : ∀ anomaly ∈ anomalies, anomaly.startTime < anomaly.endTime
  /-- No two of them share an instant. -/
  apart : anomalies.Pairwise Anomaly.Apart
  /-- Their ends can be told. -/
  onGrid : ∀ anomaly ∈ anomalies, anomaly.OnGrid grid

/-- An instant lies inside from the start on and before the end. -/
theorem Anomaly.covers_iff {anomaly : Anomaly} {instant : Int} :
    anomaly.covers instant = true ↔
      anomaly.startTime ≤ instant ∧ instant < anomaly.endTime := by
  unfold covers
  rw [Bool.and_eq_true, decide_eq_true_eq, decide_eq_true_eq]

/-- Which of two anomalies comes first does not matter. -/
theorem Anomaly.Apart.symm {first second : Anomaly} (h : first.Apart second) :
    second.Apart first :=
  fun instant hboth => h instant ⟨hboth.2, hboth.1⟩

/-- Anomalies share no instant if one of them ends before the other starts, or is empty. -/
theorem Anomaly.apart_iff {first second : Anomaly} : first.Apart second ↔
    (first.endTime ≤ second.startTime ∨ second.endTime ≤ first.startTime) ∨
      first.endTime ≤ first.startTime ∨ second.endTime ≤ second.startTime := by
  unfold Apart
  simp only [covers_iff]
  constructor
  · intro hapart
    have hlater := hapart (max first.startTime second.startTime)
    omega
  · intro hends instant hboth
    omega

instance (first second : Anomaly) : Decidable (first.Apart second) :=
  decidable_of_iff _ Anomaly.apart_iff.symm

instance (grid : List Int) (time : Int) : Decidable (Told grid time) :=
  inferInstanceAs (Decidable (time ∈ grid ∨ ∀ sample ∈ grid, sample < time))

instance (grid : List Int) (anomaly : Anomaly) : Decidable (anomaly.OnGrid grid) :=
  decidable_of_iff (((∀ sample ∈ grid, anomaly.startTime ≤ sample) ∨ Told grid anomaly.startTime) ∧
    Told grid anomaly.endTime) ⟨fun h => ⟨h.1, h.2⟩, fun h => ⟨h.start, h.stop⟩⟩

instance (grid : List Int) (anomalies : List Anomaly) : Decidable (Laid grid anomalies) :=
  decidable_of_iff ((∀ anomaly ∈ anomalies, anomaly.startTime < anomaly.endTime) ∧
    anomalies.Pairwise Anomaly.Apart ∧ ∀ anomaly ∈ anomalies, anomaly.OnGrid grid)
    ⟨fun h => ⟨h.1, h.2.1, h.2.2⟩, fun h => ⟨h.proper, h.apart, h.onGrid⟩⟩

variable {grid : List Int} {anomalies : List Anomaly}

/-- The samples are in the order of their indices. -/
theorem Ascending.le (hgrid : Ascending grid) {i j : Nat} (hj : j < grid.length) (h : i ≤ j) :
    grid[i] ≤ grid[j] := by
  rcases Nat.lt_or_eq_of_le h with hlt | heq
  · exact Int.le_of_lt (List.pairwise_iff_getElem.1 hgrid i j _ hj hlt)
  · subst heq
    exact Int.le_refl _

/-- The samples of two indices in turn are adjacent. -/
theorem adjacent_getElem {i : Nat} (hi : i < grid.length) (hnext : i + 1 < grid.length) :
    Adjacent grid grid[i] grid[i + 1] :=
  ⟨i, List.getElem?_eq_getElem hi, List.getElem?_eq_getElem hnext⟩

variable {before time : Int}

/-- A sample is earlier than the next one. -/
theorem Adjacent.lt (h : Adjacent grid before time) (hgrid : Ascending grid) : before < time := by
  obtain ⟨i, hbefore, htime⟩ := h
  obtain ⟨hi, rfl⟩ := List.getElem?_eq_some_iff.1 hbefore
  obtain ⟨hnext, rfl⟩ := List.getElem?_eq_some_iff.1 htime
  exact List.pairwise_iff_getElem.1 hgrid i (i + 1) hi hnext (Nat.lt_succ_self i)

/-- A time that can be told does not fall between two samples. -/
theorem Told.le_or_le {told : Int} (h : Told grid told) (hgrid : Ascending grid)
    (hnext : Adjacent grid before time) : told ≤ before ∨ time ≤ told := by
  obtain ⟨i, hbefore, htime⟩ := hnext
  obtain ⟨hi, rfl⟩ := List.getElem?_eq_some_iff.1 hbefore
  obtain ⟨hi', rfl⟩ := List.getElem?_eq_some_iff.1 htime
  rcases h with hmem | hlater
  · obtain ⟨j, hj, rfl⟩ := List.getElem_of_mem hmem
    rcases Nat.lt_or_ge i j with hij | hji
    · exact Or.inr (hgrid.le hj hij)
    · exact Or.inl (hgrid.le hi hji)
  · exact Or.inr (Int.le_of_lt (hlater _ (List.getElem_mem hi')))

/-- A time that can be told is no earlier than the grid. -/
theorem Told.first_le {first told : Int} {rest : List Int} (h : Told (first :: rest) told)
    (hgrid : Ascending (first :: rest)) : first ≤ told := by
  rcases h with hmem | hlater
  · rcases List.mem_cons.1 hmem with rfl | hrest
    · exact Int.le_refl _
    · exact Int.le_of_lt ((List.pairwise_cons.1 hgrid).1 _ hrest)
  · exact Int.le_of_lt (hlater _ List.mem_cons_self)

namespace Laid

/-- The order of the list does not matter. -/
theorem perm (h : Laid grid anomalies) {reordered : List Anomaly}
    (hperm : reordered.Perm anomalies) : Laid grid reordered where
  proper anomaly hmem := h.proper anomaly (hperm.mem_iff.1 hmem)
  apart := (hperm.pairwise_iff fun hapart => hapart.symm).2 h.apart
  onGrid anomaly hmem := h.onGrid anomaly (hperm.mem_iff.1 hmem)

/-- An instant lies in one anomaly at most. -/
theorem eq_of_covers (h : Laid grid anomalies) {first second : Anomaly} (hfirst : first ∈ anomalies)
    (hsecond : second ∈ anomalies) {instant : Int} (hin : first.covers instant = true)
    (hin' : second.covers instant = true) : first = second := by
  by_contra hne
  have hsymm : Std.Symm Anomaly.Apart := ⟨fun _ _ hapart => hapart.symm⟩
  exact h.apart.forall hfirst hsecond hne instant ⟨hin, hin'⟩

/-- No anomaly starts between two samples. -/
theorem start_le_or_le (h : Laid grid anomalies) (hgrid : Ascending grid)
    {anomaly : Anomaly} (hmem : anomaly ∈ anomalies) (hnext : Adjacent grid before time) :
    anomaly.startTime ≤ before ∨ time ≤ anomaly.startTime := by
  rcases (h.onGrid anomaly hmem).start with hearly | htold
  · obtain ⟨i, hbefore, -⟩ := hnext
    exact Or.inl (hearly _ (List.mem_of_getElem? hbefore))
  · exact htold.le_or_le hgrid hnext

/-- No anomaly ends between two samples. -/
theorem end_le_or_le (h : Laid grid anomalies) (hgrid : Ascending grid)
    {anomaly : Anomaly} (hmem : anomaly ∈ anomalies) (hnext : Adjacent grid before time) :
    anomaly.endTime ≤ before ∨ time ≤ anomaly.endTime :=
  (h.onGrid anomaly hmem).stop.le_or_le hgrid hnext

/-- An anomaly that covers a sample and not the one before starts at it. -/
theorem start_eq (h : Laid grid anomalies) (hgrid : Ascending grid) {anomaly : Anomaly}
    (hmem : anomaly ∈ anomalies) (hnext : Adjacent grid before time)
    (hout : anomaly.covers before ≠ true) (hin : anomaly.covers time = true) :
    anomaly.startTime = time := by
  have hstart := h.start_le_or_le hgrid hmem hnext
  have hlt := hnext.lt hgrid
  rw [Ne, Anomaly.covers_iff] at hout
  rw [Anomaly.covers_iff] at hin
  omega

/-- An anomaly that covers a sample and not the next one ends at the next one. -/
theorem end_eq (h : Laid grid anomalies) (hgrid : Ascending grid) {anomaly : Anomaly}
    (hmem : anomaly ∈ anomalies) (hnext : Adjacent grid before time)
    (hin : anomaly.covers before = true) (hout : anomaly.covers time ≠ true) :
    anomaly.endTime = time := by
  have hend := h.end_le_or_le hgrid hmem hnext
  have hlt := hnext.lt hgrid
  rw [Ne, Anomaly.covers_iff] at hout
  rw [Anomaly.covers_iff] at hin
  omega

/-- An anomaly covers the sample that it starts at. -/
theorem covers_start (h : Laid grid anomalies) {anomaly : Anomaly} (hmem : anomaly ∈ anomalies)
    (hstart : anomaly.startTime = time) : anomaly.covers time = true := by
  have hproper := h.proper anomaly hmem
  rw [Anomaly.covers_iff]
  omega

/-- An anomaly that ends at a sample behind the first covers the one before. -/
theorem covers_before_end (h : Laid grid anomalies) (hgrid : Ascending grid)
    {anomaly : Anomaly} (hmem : anomaly ∈ anomalies) (hnext : Adjacent grid before time)
    (hend : anomaly.endTime = time) : anomaly.covers before = true := by
  have hproper := h.proper anomaly hmem
  have hstart := h.start_le_or_le hgrid hmem hnext
  have hlt := hnext.lt hgrid
  rw [Anomaly.covers_iff]
  omega

end Laid

namespace Overlay

/-- The anomaly that an instant lies in, if there is one. -/
def Encloses (anomalies : List Anomaly) (instant : Int) : Option Anomaly → Prop
  | none => ∀ anomaly ∈ anomalies, anomaly.covers instant ≠ true
  | some anomaly => anomaly ∈ anomalies ∧ anomaly.covers instant = true

/-- An instant lies in an anomaly if and only if there is one that encloses it. -/
theorem Encloses.isSome_iff {instant : Int} {active : Option Anomaly}
    (h : Encloses anomalies instant active) :
    active.isSome ↔ ∃ anomaly ∈ anomalies,
      anomaly.startTime ≤ instant ∧ instant < anomaly.endTime := by
  cases active with
  | none =>
    refine ⟨fun hsome => (nomatch hsome), fun hin => ?_⟩
    obtain ⟨anomaly, hmem, hinside⟩ := hin
    exact absurd (Anomaly.covers_iff.2 hinside) (h anomaly hmem)
  | some anomaly => exact ⟨fun _ => ⟨anomaly, h.1, Anomaly.covers_iff.1 h.2⟩, fun _ => rfl⟩

/-- Of disjoint anomalies, what encloses an instant is the one that covers it. -/
theorem Encloses.eq_some_iff {instant : Int} {active : Option Anomaly}
    (h : Encloses anomalies instant active) (hlaid : Laid grid anomalies) {anomaly : Anomaly} :
    active = some anomaly ↔ anomaly ∈ anomalies ∧ anomaly.covers instant = true := by
  cases active with
  | none => exact ⟨fun hsame => (nomatch hsame), fun hin => absurd hin.2 (h anomaly hin.1)⟩
  | some enclosing =>
    constructor
    · intro hsame
      obtain rfl := Option.some.inj hsame
      exact h
    · intro hin
      exact congrArg some (hlaid.eq_of_covers h.1 hin.1 h.2 hin.2)

/-- What starts at a time encloses it if nothing else does that started before. -/
theorem encloses_startingAt? (hlaid : Laid grid anomalies)
    (h : ∀ anomaly ∈ anomalies, anomaly.startTime < time → anomaly.covers time ≠ true) :
    Encloses anomalies time (startingAt? anomalies time) := by
  cases hfound : startingAt? anomalies time with
  | none =>
    intro anomaly hmem hin
    have hne := startingAt?_eq_none hfound anomaly hmem
    have hstart := (Anomaly.covers_iff.1 hin).1
    exact h anomaly hmem (Int.lt_iff_le_and_ne.2 ⟨hstart, hne⟩) hin
  | some opened =>
    obtain ⟨hmem, hstart⟩ := startingAt?_eq_some hfound
    exact ⟨hmem, hlaid.covers_start hmem hstart⟩

/-- Where an anomaly is closed, the walk goes on with the one that encloses the sample. Any other
that started before would share the last instant of the closed one. -/
theorem encloses_of_closed (hlaid : Laid grid anomalies) {closed : Anomaly}
    (hmem : closed ∈ anomalies) :
    Encloses anomalies closed.endTime (startingAt? anomalies closed.endTime) := by
  refine encloses_startingAt? hlaid fun anomaly hother hbefore hin => ?_
  have hproper := hlaid.proper closed hmem
  have hends := (Anomaly.covers_iff.1 hin).2
  have hlast : anomaly.covers (closed.endTime - 1) = true := by
    rw [Anomaly.covers_iff]
    omega
  have hlast' : closed.covers (closed.endTime - 1) = true := by
    rw [Anomaly.covers_iff]
    omega
  have hsame := hlaid.eq_of_covers hother hmem hlast hlast'
  subst hsame
  exact Int.lt_irrefl _ hends

/-- The first sample is enclosed by what is open after it. -/
theorem encloses_first {first : Int} {rest : List Int} (hgrid : Ascending (first :: rest))
    (hlaid : Laid (first :: rest) anomalies) :
    Encloses anomalies first (activeAt anomalies anomalies (first :: rest) 1) := by
  have hfirst : 0 < (first :: rest).length := Nat.succ_pos _
  cases hopen : activeAt anomalies anomalies (first :: rest) 0 with
  | none =>
    rw [activeAt_one_of_zero hopen]
    intro anomaly hmem hin
    have hlater := lt_of_activeAt_zero hopen anomaly hmem
    have hstart := (Anomaly.covers_iff.1 hin).1
    omega
  | some opened =>
    obtain ⟨hmem, hstart⟩ := of_activeAt_zero hopen
    have hend : first ≤ opened.endTime := (hlaid.onGrid opened hmem).stop.first_le hgrid
    rw [activeAt_succ hfirst, hopen, List.getElem_cons_zero]
    by_cases hclosed : opened.endTime = first
    · simp only [activeAfter, if_pos hclosed]
      rw [← hclosed]
      exact encloses_of_closed hlaid hmem
    · simp only [activeAfter, if_neg hclosed]
      refine ⟨hmem, Anomaly.covers_iff.2 ⟨hstart, ?_⟩⟩
      omega

/-- What encloses a sample is followed by what encloses the next one. -/
theorem Encloses.next {active : Option Anomaly} (h : Encloses anomalies before active)
    (hgrid : Ascending grid) (hlaid : Laid grid anomalies) (hnext : Adjacent grid before time) :
    Encloses anomalies time (activeAfter anomalies anomalies active time) := by
  cases active with
  | none =>
    refine encloses_startingAt? hlaid fun anomaly hmem hearlier hin => ?_
    have hstart := hlaid.start_eq hgrid hmem hnext (h anomaly hmem) hin
    exact Int.ne_of_lt hearlier hstart
  | some anomaly =>
    obtain ⟨hmem, hin⟩ := h
    by_cases hclosed : anomaly.endTime = time
    · simp only [activeAfter, if_pos hclosed]
      rw [← hclosed]
      exact encloses_of_closed hlaid hmem
    · simp only [activeAfter, if_neg hclosed]
      refine ⟨hmem, ?_⟩
      by_contra hout
      exact hclosed (hlaid.end_eq hgrid hmem hnext hin hout)

/-- Along the grid the open anomaly is the one that the sample lies in. -/
theorem encloses_activeAt (hgrid : Ascending grid) (hlaid : Laid grid anomalies) {i : Nat}
    (hi : i < grid.length) :
    Encloses anomalies grid[i] (activeAt anomalies anomalies grid (i + 1)) := by
  induction i with
  | zero =>
    cases grid with
    | nil => cases hi
    | cons first rest => exact encloses_first hgrid hlaid
  | succ i ih =>
    have hbefore : i < grid.length := Nat.lt_of_succ_lt hi
    rw [activeAt_succ hi]
    exact (ih hbefore).next hgrid hlaid (adjacent_getElem hbefore hi)

/-- An overlay of disjoint anomalies has a value for every sample of the grid: the height at its
index if an anomaly has started and not ended there, a gap otherwise. The order of the anomalies has
no influence on it. -/
theorem values_where_covered (hgrid : Ascending grid) (hlaid : Laid grid anomalies)
    (channel : Channel) (fill : Fill) :
    (draw grid channel anomalies anomalies fill).values.length = grid.length ∧
      (∀ i (hi : i < grid.length),
        (draw grid channel anomalies anomalies fill).values[i]? =
          some (if ∃ anomaly ∈ anomalies,
              anomaly.startTime ≤ grid[i] ∧ grid[i] < anomaly.endTime then
            fill.heightAt channel i else none)) ∧
      ∀ reordered : List Anomaly, reordered.Perm anomalies →
        (draw grid channel reordered reordered fill).values =
          (draw grid channel anomalies anomalies fill).values := by
  have hlength (listed : List Anomaly) :
      (draw grid channel listed listed fill).values.length = grid.length := by
    unfold values
    rw [List.length_map, length_draw]
  have hvalue {listed : List Anomaly} (hlisted : Laid grid listed) {i : Nat}
      (hi : i < grid.length) : (draw grid channel listed listed fill).values[i]? =
        some (if ∃ anomaly ∈ listed,
            anomaly.startTime ≤ grid[i] ∧ grid[i] < anomaly.endTime then
          fill.heightAt channel i else none) := by
    rw [getElem?_values listed listed channel fill hi]
    simp only [(encloses_activeAt hgrid hlisted hi).isSome_iff]
  refine ⟨hlength anomalies, fun i hi => hvalue hlaid hi, fun reordered hperm => ?_⟩
  apply List.ext_getElem?
  intro i
  by_cases hi : i < grid.length
  · rw [hvalue (hlaid.perm hperm) hi, hvalue hlaid hi]
    simp only [hperm.mem_iff]
  · rw [List.getElem?_eq_none (by rw [hlength]; omega),
      List.getElem?_eq_none (by rw [hlength]; omega)]

/-- Four anomalies, not in order. The first ends on the first sample, where the second starts, which
hands over to the third at 10; the last never ends on the grid. Only the sample at 15 lies in none,
and the last two samples have no height because the channel is too short. -/
theorem values_where_covered_handover :
    let lasting (start stop : Int) : Anomaly :=
      { metricUrn := "thirdeye:metric:7", startTime := start, endTime := stop }
    let grid : List Int := [0, 5, 10, 15, 20, 25]
    let anomalies := [lasting 20 99, lasting (-10) 0, lasting 10 15, lasting 0 10]
    let overlay := draw grid [some 1.0, some 2.0, some 3.0, some 4.0] anomalies anomalies
    Ascending grid ∧ Laid grid anomalies ∧
      (overlay .sample).values[0]? = some (some 1.0) ∧
      (overlay .sample).values[2]? = some (some 3.0) ∧
      (overlay .sample).values[3]? = some none ∧
      (overlay .sample).values[4]? = some none ∧
      (overlay (.constant 1.0)).values[4]? = some (some 1.0) := by
  intro lasting grid anomalies overlay
  have hgrid : Ascending grid := by decide
  have hlaid : Laid grid anomalies := by decide
  have hsample := (values_where_covered hgrid hlaid
    [some 1.0, some 2.0, some 3.0, some 4.0] .sample).2.1
  have hconstant := (values_where_covered hgrid hlaid
    [some 1.0, some 2.0, some 3.0, some 4.0] (.constant 1.0)).2.1
  exact ⟨hgrid, hlaid, hsample 0 (by decide), hsample 2 (by decide), hsample 3 (by decide),
    hsample 4 (by decide), hconstant 4 (by decide)⟩

end Overlay

end AlertDetail
