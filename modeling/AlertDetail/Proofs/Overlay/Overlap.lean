import AlertDetail.Proofs.Overlay.Coverage
import Mathlib.Data.List.Dedup

/-!
# Overlays of overlapping anomalies

The walk knows one open anomaly. Another one that starts meanwhile is passed over, and where the
open one ends only an anomaly that starts at this very sample is found. So of anomalies that overlap
an overlay shows a choice: some that share no instant, such that every other one enters the grid
inside one of them. The overlay is that of the chosen ones alone. A sample that only others cover is
a gap, although an anomaly lasts there.
-/

namespace AlertDetail

/-- When an anomaly enters a grid: at its start, or with the first sample if it started before. -/
def Anomaly.entry (first : Int) (anomaly : Anomaly) : Int := max first anomaly.startTime

/-- A sample that follows another one is later than the first. -/
theorem Adjacent.first_lt {first before time : Int} {rest : List Int}
    (h : Adjacent (first :: rest) before time) (hgrid : Ascending (first :: rest)) :
    first < time := by
  have hlt := h.lt hgrid
  obtain ⟨i, hbefore, -⟩ := h
  obtain ⟨hi, rfl⟩ := List.getElem?_eq_some_iff.1 hbefore
  exact Int.lt_of_le_of_lt (hgrid.le hi (Nat.zero_le i)) hlt

namespace Overlay

/-- What a walk chooses of anomalies that may overlap. -/
structure Choice (first : Int) (rest : List Int) (anomalies chosen : List Anomaly) : Prop where
  /-- The chosen ones are listed. -/
  listed : ∀ anomaly ∈ chosen, anomaly ∈ anomalies
  /-- No two of them share an instant. -/
  apart : chosen.Pairwise Anomaly.Apart
  /-- Of those that enter together the one that is listed first is chosen. -/
  leads : ∀ anomaly ∈ chosen, anomaly.entry first ∈ first :: rest →
    anomalies.find? (·.entry first = anomaly.entry first) = some anomaly
  /-- Every one that enters the grid does so inside a chosen one. -/
  entered : ∀ anomaly ∈ anomalies, anomaly.entry first ∈ first :: rest →
    ∃ leader ∈ chosen, leader.covers (anomaly.entry first) = true

/-- Anomalies, possibly overlapping, that last behind the first sample and have their ends told. -/
structure Lasting (first : Int) (rest : List Int) (anomalies : List Anomaly) : Prop where
  /-- None of them is empty. -/
  proper : ∀ anomaly ∈ anomalies, anomaly.startTime < anomaly.endTime
  /-- They end behind the first sample. -/
  late : ∀ anomaly ∈ anomalies, first < anomaly.endTime
  /-- Their ends can be told. -/
  onGrid : ∀ anomaly ∈ anomalies, anomaly.OnGrid (first :: rest)

instance (first : Int) (rest : List Int) (anomalies : List Anomaly) :
    Decidable (Lasting first rest anomalies) :=
  decidable_of_iff ((∀ anomaly ∈ anomalies, anomaly.startTime < anomaly.endTime) ∧
    (∀ anomaly ∈ anomalies, first < anomaly.endTime) ∧
      ∀ anomaly ∈ anomalies, anomaly.OnGrid (first :: rest))
    ⟨fun h => ⟨h.1, h.2.1, h.2.2⟩, fun h => ⟨h.proper, h.late, h.onGrid⟩⟩

instance (first : Int) (rest : List Int) (anomalies chosen : List Anomaly) :
    Decidable (Choice first rest anomalies chosen) :=
  decidable_of_iff ((∀ anomaly ∈ chosen, anomaly ∈ anomalies) ∧
    chosen.Pairwise Anomaly.Apart ∧
      (∀ anomaly ∈ chosen, anomaly.entry first ∈ first :: rest →
        anomalies.find? (·.entry first = anomaly.entry first) = some anomaly) ∧
        ∀ anomaly ∈ anomalies, anomaly.entry first ∈ first :: rest →
          ∃ leader ∈ chosen, leader.covers (anomaly.entry first) = true)
    ⟨fun h => ⟨h.1, h.2.1, h.2.2.1, h.2.2.2⟩,
      fun h => ⟨h.listed, h.apart, h.leads, h.entered⟩⟩

variable {first : Int} {rest : List Int} {anomalies chosen : List Anomaly}

/-- An anomaly enters with the first sample if it has started by then. -/
theorem entry_eq_first {anomaly : Anomaly} :
    anomaly.entry first = first ↔ anomaly.startTime ≤ first := by
  unfold Anomaly.entry
  omega

/-- It enters at a later time if it starts there. -/
theorem entry_eq_of_lt {anomaly : Anomaly} {time : Int} (h : first < time) :
    anomaly.entry first = time ↔ anomaly.startTime = time := by
  unfold Anomaly.entry
  omega

/-- Where the first anomaly is looked for that has started by the first sample, it is the first that
enters with it. -/
theorem find?_entry_first :
    anomalies.find? (·.entry first = first) = anomalies.find? (·.startTime ≤ first) := by
  simp only [entry_eq_first]

/-- Behind the first sample, what starts at a time is what enters there. -/
theorem find?_entry_of_lt {time : Int} (h : first < time) :
    anomalies.find? (·.entry first = time) = startingAt? anomalies time := by
  unfold startingAt?
  simp only [entry_eq_of_lt h]

/-- Two anomalies that enclose the same instant are one. -/
theorem Encloses.unique {grid : List Int} {instant : Int} {active active' : Option Anomaly}
    (h : Encloses anomalies instant active) (h' : Encloses anomalies instant active')
    (hlaid : Laid grid anomalies) : active = active' :=
  Option.ext fun _ => (h.eq_some_iff hlaid).trans (h'.eq_some_iff hlaid).symm

/-- The anomaly that is found where it enters is the chosen one that encloses the sample, unless a
chosen one that entered before does. -/
theorem Choice.encloses_find?_entry (h : Choice first rest anomalies chosen) {time : Int}
    (hmem : time ∈ first :: rest)
    (hfresh : ∀ anomaly ∈ chosen, anomaly.covers time = true → anomaly.entry first = time) :
    Encloses chosen time (anomalies.find? (·.entry first = time)) := by
  cases hfound : anomalies.find? (·.entry first = time) with
  | none =>
    intro anomaly hchosen hin
    have hnone : ∀ anomaly ∈ anomalies, anomaly.entry first ≠ time := by simpa using hfound
    exact hnone anomaly (h.listed anomaly hchosen) (hfresh anomaly hchosen hin)
  | some opened =>
    have hentry : opened.entry first = time := by simpa using List.find?_some hfound
    have hgrid : opened.entry first ∈ first :: rest := hentry.symm ▸ hmem
    obtain ⟨leader, hleader, hin⟩ :=
      h.entered opened (List.mem_of_find?_eq_some hfound) hgrid
    rw [hentry] at hin
    have hsame := hfresh leader hleader hin
    have hleads := h.leads leader hleader (hsame.symm ▸ hmem)
    rw [hsame, hfound] at hleads
    obtain rfl := Option.some.inj hleads
    exact ⟨hleader, hin⟩

namespace Lasting

/-- What is open before the first sample is open after it. -/
theorem activeAt_one (h : Lasting first rest anomalies) :
    activeAt anomalies anomalies (first :: rest) 1 =
      activeAt anomalies anomalies (first :: rest) 0 := by
  cases hopen : activeAt anomalies anomalies (first :: rest) 0 with
  | none => exact activeAt_one_of_zero hopen
  | some opened =>
    have hlate := h.late opened (of_activeAt_zero hopen).1
    rw [activeAt_succ (Nat.succ_pos _), hopen, List.getElem_cons_zero]
    exact if_neg (Int.ne_of_gt hlate)

/-- What is open after the first sample is what enters with it first in the list. -/
theorem activeAt_one_eq_find? (h : Lasting first rest anomalies) :
    activeAt anomalies anomalies (first :: rest) 1 =
      anomalies.find? (·.entry first = first) := by
  rw [h.activeAt_one, find?_entry_first]
  rfl

/-- A choice of them can be shown one by one. -/
theorem laid (h : Lasting first rest anomalies) (hchoice : Choice first rest anomalies chosen) :
    Laid (first :: rest) chosen where
  proper anomaly hmem := h.proper anomaly (hchoice.listed anomaly hmem)
  apart := hchoice.apart
  onGrid anomaly hmem := h.onGrid anomaly (hchoice.listed anomaly hmem)

/-- A choice of them lasts behind the first sample as well. -/
theorem of_choice (h : Lasting first rest anomalies)
    (hchoice : Choice first rest anomalies chosen) : Lasting first rest chosen where
  proper anomaly hmem := h.proper anomaly (hchoice.listed anomaly hmem)
  late anomaly hmem := h.late anomaly (hchoice.listed anomaly hmem)
  onGrid anomaly hmem := h.onGrid anomaly (hchoice.listed anomaly hmem)

/-- Behind the first sample the walk finds the chosen anomaly that encloses the sample, unless one
of them encloses it and the sample before. -/
theorem encloses_found (h : Lasting first rest anomalies) (hgrid : Ascending (first :: rest))
    (hchoice : Choice first rest anomalies chosen) {before time : Int}
    (hnext : Adjacent (first :: rest) before time)
    (hfresh : ∀ anomaly ∈ chosen, anomaly.covers time = true → anomaly.covers before ≠ true) :
    Encloses chosen time (startingAt? anomalies time) := by
  have hlaid := h.laid hchoice
  have hlater := hnext.first_lt hgrid
  obtain ⟨i, -, htime⟩ := id hnext
  rw [← find?_entry_of_lt hlater]
  refine hchoice.encloses_find?_entry (List.mem_of_getElem? htime) fun anomaly hmem hin => ?_
  exact (entry_eq_of_lt hlater).2
    (hlaid.start_eq hgrid hmem hnext (hfresh anomaly hmem hin) hin)

/-- What encloses a sample of a choice is followed by what encloses the next one. -/
theorem encloses_next (h : Lasting first rest anomalies) (hgrid : Ascending (first :: rest))
    (hchoice : Choice first rest anomalies chosen) {before time : Int} {active : Option Anomaly}
    (hnext : Adjacent (first :: rest) before time) (hactive : Encloses chosen before active) :
    Encloses chosen time (activeAfter anomalies anomalies active time) := by
  have hlaid := h.laid hchoice
  cases active with
  | none =>
    exact h.encloses_found hgrid hchoice hnext fun anomaly hmem _ => hactive anomaly hmem
  | some opened =>
    obtain ⟨hopen, hin⟩ := hactive
    by_cases hclosed : opened.endTime = time
    · simp only [activeAfter, if_pos hclosed]
      refine h.encloses_found hgrid hchoice hnext fun anomaly hmem htime hbefore => ?_
      obtain rfl := hlaid.eq_of_covers hmem hopen hbefore hin
      exact Int.ne_of_lt (Anomaly.covers_iff.1 htime).2 hclosed.symm
    · simp only [activeAfter, if_neg hclosed]
      refine ⟨hopen, ?_⟩
      by_contra hout
      exact hclosed (hlaid.end_eq hgrid hopen hnext hin hout)

/-- Along the grid the open anomaly is the chosen one that the sample lies in. -/
theorem encloses_activeAt (h : Lasting first rest anomalies) (hgrid : Ascending (first :: rest))
    (hchoice : Choice first rest anomalies chosen) {i : Nat} (hi : i < (first :: rest).length) :
    Encloses chosen (first :: rest)[i] (activeAt anomalies anomalies (first :: rest) (i + 1)) := by
  induction i with
  | zero =>
    rw [h.activeAt_one_eq_find?]
    refine hchoice.encloses_find?_entry List.mem_cons_self fun anomaly _ hin => ?_
    exact entry_eq_first.2 (Anomaly.covers_iff.1 hin).1
  | succ i ih =>
    have hbefore : i < (first :: rest).length := Nat.lt_of_succ_lt hi
    rw [activeAt_succ hi]
    exact h.encloses_next hgrid hchoice (adjacent_getElem hbefore hi) (ih hbefore)

/-- The walk opens and closes the chosen anomalies as if the others were not there. -/
theorem activeAt_choice (h : Lasting first rest anomalies) (hgrid : Ascending (first :: rest))
    (hchoice : Choice first rest anomalies chosen) {i : Nat} (hi : i ≤ (first :: rest).length) :
    activeAt anomalies anomalies (first :: rest) i = activeAt chosen chosen (first :: rest) i := by
  have hlaid := h.laid hchoice
  have hafter {i : Nat} (hi : i < (first :: rest).length) :
      activeAt anomalies anomalies (first :: rest) (i + 1) =
        activeAt chosen chosen (first :: rest) (i + 1) :=
    (h.encloses_activeAt hgrid hchoice hi).unique (Overlay.encloses_activeAt hgrid hlaid hi) hlaid
  cases i with
  | zero => rw [← h.activeAt_one, ← (h.of_choice hchoice).activeAt_one, hafter (Nat.succ_pos _)]
  | succ i => exact hafter hi

/-- What is open after a sample was found where it enters, or it was open after the sample before
and does not end here. What both keep holds of everything that is open along the grid. -/
theorem opened_induct (h : Lasting first rest anomalies) {motive : Nat → Anomaly → Prop}
    (found : ∀ i (hi : i < (first :: rest).length) opened,
      activeAt anomalies anomalies (first :: rest) (i + 1) = some opened →
        anomalies.find? (·.entry first = (first :: rest)[i]) = some opened → motive i opened)
    (stays : ∀ i (hi : i + 1 < (first :: rest).length) opened,
      activeAt anomalies anomalies (first :: rest) (i + 2) = some opened →
        opened.endTime ≠ (first :: rest)[i + 1] → motive i opened → motive (i + 1) opened)
    (hgrid : Ascending (first :: rest)) {i : Nat} (hi : i < (first :: rest).length)
    {opened : Anomaly}
    (hopen : activeAt anomalies anomalies (first :: rest) (i + 1) = some opened) :
    motive i opened := by
  induction i with
  | zero => exact found 0 hi opened hopen (h.activeAt_one_eq_find?.symm.trans hopen)
  | succ i ih =>
    have hbefore : i < (first :: rest).length := Nat.lt_of_succ_lt hi
    have hlater := (adjacent_getElem hbefore hi).first_lt hgrid
    have hstep := hopen
    rw [activeAt_succ hi] at hstep
    cases hactive : activeAt anomalies anomalies (first :: rest) (i + 1) with
    | none =>
      rw [hactive] at hstep
      exact found (i + 1) hi opened hopen ((find?_entry_of_lt hlater).trans hstep)
    | some active =>
      rw [hactive] at hstep
      by_cases hclosed : active.endTime = (first :: rest)[i + 1]
      · simp only [activeAfter, if_pos hclosed] at hstep
        exact found (i + 1) hi opened hopen ((find?_entry_of_lt hlater).trans hstep)
      · simp only [activeAfter, if_neg hclosed] at hstep
        obtain rfl := Option.some.inj hstep
        exact stays i hi active hopen hclosed (ih hbefore hactive)

/-- What is open after a sample lasts there. -/
theorem covers_of_activeAt (h : Lasting first rest anomalies) (hgrid : Ascending (first :: rest))
    {i : Nat} (hi : i < (first :: rest).length) {opened : Anomaly}
    (hopen : activeAt anomalies anomalies (first :: rest) (i + 1) = some opened) :
    opened ∈ anomalies ∧ opened.covers (first :: rest)[i] = true := by
  refine (h.opened_induct (motive := fun i opened => opened ∈ anomalies ∧
      ∀ hi : i < (first :: rest).length, opened.covers (first :: rest)[i] = true)
    (fun i hi opened _ hfound => ?_) (fun i hi opened _ hends hbefore => ?_) hgrid hi
      hopen).imp_right fun hin => hin hi
  · have hmem := List.mem_of_find?_eq_some hfound
    have hentry : opened.entry first = (first :: rest)[i] := by simpa using List.find?_some hfound
    have hproper := h.proper opened hmem
    have hlate := h.late opened hmem
    unfold Anomaly.entry at hentry
    exact ⟨hmem, fun _ => Anomaly.covers_iff.2 (by omega)⟩
  · obtain ⟨hmem, hin⟩ := hbefore
    have hnext := adjacent_getElem (Nat.lt_of_succ_lt hi) hi
    have htold := (h.onGrid opened hmem).stop.le_or_le hgrid hnext
    have hlt := hnext.lt hgrid
    have hlasts := Anomaly.covers_iff.1 (hin (Nat.lt_of_succ_lt hi))
    exact ⟨hmem, fun _ => Anomaly.covers_iff.2 (by omega)⟩

/-- It is the first in the list of those that enter with it. -/
theorem leads_of_activeAt (h : Lasting first rest anomalies) (hgrid : Ascending (first :: rest))
    {i : Nat} (hi : i < (first :: rest).length) {opened : Anomaly}
    (hopen : activeAt anomalies anomalies (first :: rest) (i + 1) = some opened) :
    anomalies.find? (·.entry first = opened.entry first) = some opened := by
  refine h.opened_induct (motive := fun _ opened =>
      anomalies.find? (·.entry first = opened.entry first) = some opened)
    (fun i hi opened _ hfound => ?_) (fun _ _ _ _ _ hbefore => hbefore) hgrid hi hopen
  have hentry : opened.entry first = (first :: rest)[i] := by simpa using List.find?_some hfound
  rw [hentry]
  exact hfound

/-- It stays open up to its end. -/
theorem activeAt_or_ended (hgrid : Ascending (first :: rest)) {i j : Nat} (hij : i ≤ j)
    (hj : j < (first :: rest).length) {opened : Anomaly}
    (hopen : activeAt anomalies anomalies (first :: rest) (i + 1) = some opened) :
    activeAt anomalies anomalies (first :: rest) (j + 1) = some opened ∨
      opened.endTime ≤ (first :: rest)[j] := by
  induction j with
  | zero =>
    obtain rfl := Nat.le_zero.1 hij
    exact .inl hopen
  | succ j ih =>
    rcases Nat.lt_or_eq_of_le hij with hlt | rfl
    · rcases ih (Nat.le_of_lt_succ hlt) (Nat.lt_of_succ_lt hj) with hactive | hended
      · rw [activeAt_succ hj, hactive]
        by_cases hclosed : opened.endTime = (first :: rest)[j + 1]
        · exact .inr (Int.le_of_eq hclosed)
        · exact .inl (if_neg hclosed)
      · exact .inr (Int.le_trans hended (hgrid.le hj (Nat.le_succ j)))
    · exact .inl hopen

/-- Of two anomalies that are open one after the other the first ends before the second starts. -/
theorem end_le_start_of_activeAt (h : Lasting first rest anomalies)
    (hgrid : Ascending (first :: rest)) {i j : Nat} (hij : i ≤ j)
    (hj : j < (first :: rest).length) {earlier later : Anomaly}
    (hearlier : activeAt anomalies anomalies (first :: rest) (i + 1) = some earlier)
    (hlater : activeAt anomalies anomalies (first :: rest) (j + 1) = some later) :
    earlier = later ∨ earlier.endTime ≤ later.startTime := by
  have hlate : first < earlier.endTime :=
    h.late earlier (h.covers_of_activeAt hgrid (Nat.lt_of_le_of_lt hij hj) hearlier).1
  refine h.opened_induct (motive := fun j later => i ≤ j →
      earlier = later ∨ earlier.endTime ≤ later.startTime)
    (fun j hj later hopen hfound hij => ?_) (fun j hj later hopen _ hbefore hij => ?_)
    hgrid hj hlater hij
  · rcases activeAt_or_ended hgrid hij hj hearlier with hsame | hended
    · exact .inl (Option.some.inj (hsame.symm.trans hopen))
    · have hentry : later.entry first = (first :: rest)[j] := by
        simpa using List.find?_some hfound
      unfold Anomaly.entry at hentry
      exact .inr (by omega)
  · rcases Nat.lt_or_eq_of_le hij with hlt | rfl
    · exact hbefore (Nat.le_of_lt_succ hlt)
    · exact .inl (Option.some.inj (hearlier.symm.trans hopen))

/-- Where an anomaly enters, some anomaly is open. -/
theorem activeAt_of_entry (h : Lasting first rest anomalies) (hgrid : Ascending (first :: rest))
    {anomaly : Anomaly} (hmem : anomaly ∈ anomalies) {i : Nat} (hi : i < (first :: rest).length)
    (hentry : anomaly.entry first = (first :: rest)[i]) :
    ∃ opened, activeAt anomalies anomalies (first :: rest) (i + 1) = some opened := by
  have hfound : ∃ opened, anomalies.find? (·.entry first = (first :: rest)[i]) = some opened := by
    apply Option.isSome_iff_exists.1
    rw [List.find?_isSome]
    exact ⟨anomaly, hmem, decide_eq_true hentry⟩
  cases i with
  | zero => rwa [h.activeAt_one_eq_find?]
  | succ i =>
    have hbefore : i < (first :: rest).length := Nat.lt_of_succ_lt hi
    have hlater := (adjacent_getElem hbefore hi).first_lt hgrid
    rw [find?_entry_of_lt hlater] at hfound
    rw [activeAt_succ hi]
    cases activeAt anomalies anomalies (first :: rest) (i + 1) with
    | none => exact hfound
    | some active =>
      by_cases hclosed : active.endTime = (first :: rest)[i + 1]
      · simp only [activeAfter, if_pos hclosed]
        exact hfound
      · exact ⟨active, if_neg hclosed⟩

/-- What is open along the grid is a choice. -/
theorem exists_choice (h : Lasting first rest anomalies) (hgrid : Ascending (first :: rest)) :
    ∃ chosen, Choice first rest anomalies chosen := by
  let opened : List Anomaly := ((List.range (first :: rest).length).filterMap fun i =>
    activeAt anomalies anomalies (first :: rest) (i + 1)).dedup
  have hopened {anomaly : Anomaly} (hmem : anomaly ∈ opened) :
      ∃ i, ∃ _ : i < (first :: rest).length,
        activeAt anomalies anomalies (first :: rest) (i + 1) = some anomaly := by
    obtain ⟨i, hrange, hactive⟩ := List.mem_filterMap.1 (List.mem_dedup.1 hmem)
    exact ⟨i, List.mem_range.1 hrange, hactive⟩
  refine ⟨opened, ?listed, ?apart, ?leads, ?entered⟩
  case listed =>
    intro anomaly hmem
    obtain ⟨i, hi, hactive⟩ := hopened hmem
    exact (h.covers_of_activeAt hgrid hi hactive).1
  case apart =>
    refine (List.nodup_dedup _).pairwise_of_forall_ne fun one hone other hother hne => ?_
    obtain ⟨i, hi, hactive⟩ := hopened hone
    obtain ⟨j, hj, hactive'⟩ := hopened hother
    refine Anomaly.apart_iff.2 (.inl ?_)
    rcases Nat.le_total i j with hij | hji
    · exact .inl ((h.end_le_start_of_activeAt hgrid hij hj hactive hactive').resolve_left hne)
    · exact .inr ((h.end_le_start_of_activeAt hgrid hji hi hactive' hactive).resolve_left hne.symm)
  case leads =>
    intro anomaly hmem _
    obtain ⟨i, hi, hactive⟩ := hopened hmem
    exact h.leads_of_activeAt hgrid hi hactive
  case entered =>
    intro anomaly hmem hentry
    obtain ⟨i, hi, htime⟩ := List.getElem_of_mem hentry
    obtain ⟨leader, hactive⟩ := h.activeAt_of_entry hgrid hmem hi htime.symm
    refine ⟨leader, List.mem_dedup.2 (List.mem_filterMap.2 ⟨i, List.mem_range.2 hi, hactive⟩), ?_⟩
    rw [← htime]
    exact (h.covers_of_activeAt hgrid hi hactive).2

end Lasting

/-- An anomaly that lasts at a sample has entered the grid. -/
theorem Lasting.entry_mem (h : Lasting first rest anomalies) {anomaly : Anomaly}
    (hmem : anomaly ∈ anomalies) {time : Int} (htime : time ∈ first :: rest)
    (hin : anomaly.covers time = true) : anomaly.entry first ∈ first :: rest := by
  have hstart := (Anomaly.covers_iff.1 hin).1
  by_cases hearly : anomaly.startTime ≤ first
  · rw [entry_eq_first.2 hearly]
    exact List.mem_cons_self
  · rw [(entry_eq_of_lt (Int.not_le.1 hearly)).2 rfl]
    rcases (h.onGrid anomaly hmem).start with hbefore | htold | hbehind
    · exact absurd (hbefore first List.mem_cons_self) hearly
    · exact htold
    · exact absurd (hbehind time htime) (Int.not_lt.2 hstart)

/-- No chosen anomaly lasts at a sample if and only if every anomaly that does had entered inside a
chosen one that has ended by then. -/
theorem Choice.not_covered_iff (hchoice : Choice first rest anomalies chosen)
    (h : Lasting first rest anomalies) (hgrid : Ascending (first :: rest)) {time : Int}
    (htime : time ∈ first :: rest) :
    (∀ anomaly ∈ chosen, anomaly.covers time ≠ true) ↔
      ∀ anomaly ∈ anomalies, anomaly.covers time = true →
        ∃ leader ∈ chosen, leader.covers (anomaly.entry first) = true ∧ leader.endTime ≤ time := by
  constructor
  · intro hnone anomaly hmem hin
    obtain ⟨leader, hleader, hentered⟩ :=
      hchoice.entered anomaly hmem (h.entry_mem hmem htime hin)
    refine ⟨leader, hleader, hentered, ?_⟩
    have hout := hnone leader hleader
    have hfirst : first ≤ time := Told.first_le (.inl htime) hgrid
    rw [Ne, Anomaly.covers_iff] at hout
    rw [Anomaly.covers_iff] at hin hentered
    unfold Anomaly.entry at hentered
    omega
  · intro hended anomaly hmem hin
    have hlisted := hchoice.listed anomaly hmem
    obtain ⟨leader, hleader, hentered, hend⟩ := hended anomaly hlisted hin
    -- the chosen anomaly lasts where it entered, so the leader can only be itself
    have hlasts : anomaly.covers (anomaly.entry first) = true := by
      have hproper := h.proper anomaly hlisted
      have hlate := h.late anomaly hlisted
      unfold Anomaly.entry
      exact Anomaly.covers_iff.2 (by omega)
    obtain rfl := (h.laid hchoice).eq_of_covers hleader hmem hentered hlasts
    exact absurd (Anomaly.covers_iff.1 hin).2 (Int.not_lt.2 hend)

/-- An overlay of anomalies that may overlap shows a choice of them, and is the overlay of the
chosen ones alone: there is such a choice, and every one gives the same overlay. A sample has its
height if a chosen anomaly lasts there and is a gap otherwise. So a sample is lost, although
anomalies last there, exactly if each of them entered inside a chosen one that has ended by then. -/
theorem draw_overlapping (hgrid : Ascending (first :: rest))
    (hlasting : Lasting first rest anomalies) (channel : Channel) (fill : Fill) :
    let grid := first :: rest
    let overlay := draw grid channel anomalies anomalies fill
    (∃ chosen, Choice first rest anomalies chosen) ∧
      ∀ chosen, Choice first rest anomalies chosen →
        overlay = draw grid channel chosen chosen fill ∧
          ∀ i (hi : i < grid.length),
            overlay.values[i]? = some (if ∃ anomaly ∈ chosen, anomaly.covers grid[i] = true then
                fill.heightAt channel i else none) ∧
              ((∀ anomaly ∈ chosen, anomaly.covers grid[i] ≠ true) ↔
                ∀ anomaly ∈ anomalies, anomaly.covers grid[i] = true →
                  ∃ leader ∈ chosen, leader.covers (anomaly.entry first) = true ∧
                    leader.endTime ≤ grid[i]) := by
  intro grid overlay
  refine ⟨hlasting.exists_choice hgrid, fun chosen hchoice => ⟨?_, fun i hi => ⟨?_, ?_⟩⟩⟩
  · exact draw_congr (fun i hi => hlasting.activeAt_choice hgrid hchoice hi) channel fill
  · have hencloses : Encloses chosen grid[i] (activeAt anomalies anomalies grid (i + 1)) :=
      hlasting.encloses_activeAt hgrid hchoice hi
    rw [getElem?_values anomalies anomalies channel fill hi]
    simp only [hencloses.isSome_iff, Anomaly.covers_iff]
  · exact hchoice.not_covered_iff hlasting hgrid (List.getElem_mem hi)

/-- Seven anomalies, not in order. The one that is open before the grid hides the one that starts at
5 and hands over at 10 to the first listed of two; this one hides what starts at 15 and at 20. What
starts at 20 lasts at 25 as well, which is a gap all the same. -/
theorem draw_overlapping_hidden :
    let lasting (start stop : Int) : Anomaly :=
      { metricUrn := "thirdeye:metric:7", startTime := start, endTime := stop }
    let rest : List Int := [5, 10, 15, 20, 25, 30]
    let chosen := [lasting (-3) 10, lasting 10 25, lasting 30 99]
    let anomalies := [lasting 5 15, lasting 20 30, lasting 30 99, lasting 10 25, lasting 10 20,
      lasting (-3) 10, lasting 15 20]
    let overlay (anomalies : List Anomaly) :=
      draw (0 :: rest) [some 1.0, some 2.0] anomalies anomalies (.constant 1.0)
    Ascending (0 :: rest) ∧ Lasting 0 rest anomalies ∧ Choice 0 rest anomalies chosen ∧
      overlay anomalies = overlay chosen ∧ (overlay anomalies).values[4]? = some (some 1.0) ∧
      (overlay anomalies).values[5]? = some none ∧ (lasting 20 30).covers 25 = true := by
  intro lasting rest chosen anomalies overlay
  have hgrid : Ascending (0 :: rest) := by decide
  have hlasting : Lasting 0 rest anomalies := by decide
  have hchoice : Choice 0 rest anomalies chosen := by decide
  obtain ⟨hsame, hvalues⟩ := (draw_overlapping hgrid hlasting [some 1.0, some 2.0]
    (.constant 1.0)).2 chosen hchoice
  exact ⟨hgrid, hlasting, hchoice, hsame, (hvalues 4 (by decide)).1, (hvalues 5 (by decide)).1,
    by decide⟩

/-- Of two anomalies that overlap the second is not found where the first ends. It lasts at 10, and
the sample is a gap. -/
theorem overlapping_anomaly_loses_sample :
    let lasting (start stop : Int) : Anomaly :=
      { metricUrn := "thirdeye:metric:7", startTime := start, endTime := stop }
    let rest : List Int := [5, 10, 15]
    let anomalies := [lasting 0 10, lasting 5 15]
    let values := (draw (0 :: rest) [some 1.0, some 2.0, some 3.0, some 4.0] anomalies anomalies
      (.constant 1.0)).values
    Ascending (0 :: rest) ∧ Lasting 0 rest anomalies ∧
      (∃ anomaly ∈ anomalies, anomaly.startTime ≤ 10 ∧ 10 < anomaly.endTime) ∧
      values = [some 1.0, some 1.0, none, none] ∧ values[2]? ≠ some (some 1.0) := by
  intro lasting rest anomalies values
  have hvalues : values = [some 1.0, some 1.0, none, none] := rfl
  refine ⟨by decide, by decide, by decide, hvalues, fun hsame => ?_⟩
  rw [hvalues] at hsame
  cases hsame

end Overlay

end AlertDetail
