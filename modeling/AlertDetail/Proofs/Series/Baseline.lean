import AlertDetail.Proofs.Run.Endings
import AlertDetail.Proofs.Series.Selection
import AlertDetail.Proofs.Sets.Window

/-!
# The baseline selected and the baseline shown

A baseline is selected before its series is there. If the series then fails, the selection stays and
the series of the baseline before is still shown; selecting the baseline again does nothing. Apart
from that, where operations are begun one after the other, the series shown belong to the baseline
selected: whatever else changes what series are made from requests them anew, or is a load, which
ends with a request of its own or fails.
-/

namespace AlertDetail

/-- The same slice, rule, predictions and baseline, whatever the range. -/
def Session.SeriesInputs.SameChoice (inputs other : Session.SeriesInputs) : Prop :=
  { inputs with range := other.range } = other

/-- Whether a move selects a baseline. -/
def Move.selectsBaseline : Move → Bool
  | begin (.selectBaseline _) _ => true
  | _ => false

/-- Whether a result is a refusal or a failure. -/
def Result.isRefused : Result → Bool
  | refused _ => true
  | _ => false

namespace LiveView

/-- A view that shows the same series. -/
structure SameShown (live after : LiveView) : Prop where
  timeseries : after.session.timeseries = live.session.timeseries
  baseline : after.session.baseline = live.session.baseline
  revision : after.session.seriesRevision = live.session.seriesRevision
  zone : after.zone = live.zone
  visible : after.session.rulesVisible = live.session.rulesVisible

/-- Showing the same series is transitive. -/
theorem SameShown.trans {live middle after : LiveView} (h : live.SameShown middle)
    (h' : middle.SameShown after) : live.SameShown after where
  timeseries := h'.timeseries.trans h.timeseries
  baseline := h'.baseline.trans h.baseline
  revision := h'.revision.trans h.revision
  zone := h'.zone.trans h.zone
  visible := h'.visible.trans h.visible

/-- A step that leaves what series are made from, but for the range, and waits for none. -/
structure Quiet (live : LiveView) (step : LiveView × Next) : Prop where
  /-- The same series are shown. -/
  shown : live.SameShown step.1
  /-- They are made from the same. -/
  inputs : live.session.seriesInputs.SameChoice step.1.session.seriesInputs
  /-- A failure is neither noted nor forgotten. -/
  errored : step.1.session.errored = live.session.errored
  /-- What comes next is not a load and waits for no series. -/
  next : ∀ stage, step.2.stage? = some stage → stage.purpose? = none

/-- A step of an operation that loads or requests series: it waits for anomalies, fails, or requests
series. Only if it `selects` one is another baseline selected. -/
inductive Advance (live : LiveView) (selects : Prop) : LiveView × Next → Prop
  | pass {after : LiveView} {call : Call} {stage : Stage} (hshown : live.SameShown after)
    (hoffset : after.session.baselineOffset = live.session.baselineOffset)
    (hstage : stage.isPass = true) :
    Advance live selects (after, .ask call stage)
  | failed {after : LiveView} {result : Result} (hshown : live.SameShown after)
    (hoffset : after.session.baselineOffset = live.session.baselineOffset)
    (herrored : after.session.errored = true) :
    Advance live selects (after, .finish result)
  | requested {after : LiveView} {purpose : Purpose} (hshown : live.SameShown after)
    (hoffset : after.session.baselineOffset = live.session.baselineOffset ∨
      selects ∧ purpose = .baseline) :
    Advance live selects (after.requestSeries purpose)

variable {live prepared : LiveView} {selects : Prop}

/-- A pass begins to wait for anomalies or fails. -/
theorem beginPass_advance (hshown : live.SameShown prepared)
    (hoffset : prepared.session.baselineOffset = live.session.baselineOffset) (reentered : Bool) :
    Advance live selects (prepared.beginPass reentered) := by
  have hstart := prepared.beginPass_start reentered
  generalize prepared.beginPass reentered = step at hstart ⊢
  cases hstart with
  | failed => exact .failed (hshown.trans ⟨rfl, rfl, rfl, rfl, rfl⟩) hoffset rfl
  | evaluation => exact .pass (hshown.trans ⟨rfl, rfl, rfl, rfl, rfl⟩) hoffset rfl
  | detected => exact .pass (hshown.trans ⟨rfl, rfl, rfl, rfl, rfl⟩) hoffset rfl

/-- Merging anomalies shows the same series and selects no other baseline. -/
theorem merged_shown (live : LiveView) (pass : Pass) (choice : SliceChoice)
    (result : FetchResult) :
    live.SameShown (live.merged pass choice result) ∧
      (live.merged pass choice result).session.baselineOffset = live.session.baselineOffset := by
  have hsession := (live.merged_session pass choice result).trans (merge_apply_eq _ _ _ _)
  exact ⟨⟨by rw [hsession], by rw [hsession], by rw [hsession], rfl, by rw [hsession]; rfl⟩,
    by rw [hsession]⟩

/-- The end of a pass begins the second one, fails, or requests series. -/
theorem finishPass_advance (live : LiveView) (pass : Pass) (choice : SliceChoice)
    (result : FetchResult) : Advance live selects (live.finishPass pass choice result) := by
  obtain ⟨hshown, hoffset⟩ := live.merged_shown pass choice result
  have hend := live.finishPass_end pass choice result
  generalize live.finishPass pass choice result = step at hend ⊢
  cases hend with
  | again => exact beginPass_advance hshown hoffset true
  | missing => exact .failed (hshown.trans ⟨rfl, rfl, rfl, rfl, rfl⟩) hoffset rfl
  | series => exact .requested hshown (.inl hoffset)

/-- An answer takes a pass on. -/
theorem resume_advance (live : LiveView) (first : Bool) (answer : Answer) {stage : Stage}
    (hstage : stage.isPass = true) : Advance live selects (live.resume first answer stage) := by
  have hanswer := live.resume_passAnswer first answer hstage
  generalize live.resume first answer stage = step at hanswer ⊢
  cases hanswer with
  | failed => exact .failed ⟨rfl, rfl, rfl, rfl, rfl⟩ rfl rfl
  | reads => exact .pass ⟨rfl, rfl, rfl, rfl, rfl⟩ rfl rfl
  | evaluated => exact finishPass_advance _ _ _ _
  | detected => exact finishPass_advance _ _ _ _

/-- The reply to a report ends its operation and changes nothing of this. -/
theorem resume_quiet (live : LiveView) (first : Bool) (answer : Answer) (report : Report) :
    Quiet live (live.resume first answer (.report report)) := by
  unfold resume takeReport
  cases answer.accepted <;>
    exact ⟨⟨rfl, rfl, rfl, rfl, rfl⟩, rfl, rfl, fun _ hstage => (nomatch hstage)⟩

/-- A triggered load is suppressed or begins. -/
theorem beginTriggered_advance (hshown : live.SameShown prepared)
    (hinputs : live.session.seriesInputs.SameChoice prepared.session.seriesInputs)
    (herrored : prepared.session.errored = live.session.errored) :
    Quiet live (prepared.beginTriggered false) ∨
      Advance live selects (prepared.beginTriggered false) := by
  have hoffset : prepared.session.baselineOffset = live.session.baselineOffset :=
    (congrArg Session.SeriesInputs.offset hinputs).symm
  unfold beginTriggered
  split
  · exact .inl ⟨hshown, hinputs, herrored, fun _ hstage => (nomatch hstage)⟩
  · exact .inr (beginPass_advance hshown hoffset false)

/-- A selected range is refused, remembered, or loaded. -/
theorem selectRange_advance (live : LiveView) (start stop : Int) (duration : RangePreset) :
    Quiet live (live.selectRange false start stop duration) ∨
      Advance live selects (live.selectRange false start stop duration) := by
  unfold selectRange
  split
  · unfold showRange
    dsimp only
    split
    · split <;> exact beginTriggered_advance ⟨rfl, rfl, rfl, rfl, rfl⟩ rfl rfl
    · exact .inl ⟨⟨rfl, rfl, rfl, rfl, rfl⟩, rfl, rfl, fun _ hstage => (nomatch hstage)⟩
  · exact .inl ⟨⟨rfl, rfl, rfl, rfl, rfl⟩, rfl, rfl, fun _ hstage => (nomatch hstage)⟩

/-- An operation that begins while nothing is in flight is quiet, loads or requests series; only the
selection of a baseline selects another one. -/
theorem begin_advance (live : LiveView) (operation : Operation) :
    Quiet live (live.begin false operation) ∨
      Advance live (∃ offset, operation = .selectBaseline offset) (live.begin false operation) := by
  have hsame : live.SameShown live := ⟨rfl, rfl, rfl, rfl, rfl⟩
  cases operation with
  | start =>
    unfold begin
    dsimp only
    split
    · exact .inl ⟨hsame, rfl, rfl, fun _ hstage => (nomatch hstage)⟩
    · exact .inr (beginPass_advance hsame rfl false)
  | requestPreview =>
    right
    refine beginPass_advance ?_ ?_ false
    · exact ⟨rfl, rfl, rfl, rfl, rfl⟩
    · rfl
  | triggerFetch => exact beginTriggered_advance hsame rfl rfl
  | setYaml yaml =>
    exact .inl ⟨⟨rfl, rfl, rfl, rfl, rfl⟩, rfl, rfl, fun _ hstage => (nomatch hstage)⟩
  | selectRule rule => exact .inr (.requested ⟨rfl, rfl, rfl, rfl, rfl⟩ (.inl rfl))
  | selectDimension label =>
    unfold begin
    dsimp only
    split
    · exact .inl ⟨hsame, rfl, rfl, fun _ hstage => (nomatch hstage)⟩
    · exact .inr (.requested ⟨rfl, rfl, rfl, rfl, rfl⟩ (.inl rfl))
  | selectBaseline offset =>
    unfold begin
    dsimp only
    split
    · exact .inl ⟨hsame, rfl, rfl, fun _ hstage => (nomatch hstage)⟩
    · exact .inr (.requested ⟨rfl, rfl, rfl, rfl, rfl⟩ (.inr ⟨⟨offset, rfl⟩, rfl⟩))
  | selectRange start stop duration => exact selectRange_advance live start stop duration
  | selectPreset preset =>
    unfold begin
    dsimp only
    split
    · exact .inl ⟨hsame, rfl, rfl, fun _ hstage => (nomatch hstage)⟩
    · exact selectRange_advance live _ _ preset
  | submitReport form =>
    left
    unfold begin submit
    dsimp only
    split
    · refine ⟨⟨rfl, rfl, rfl, rfl, rfl⟩, rfl, rfl, fun stage hstage => ?_⟩
      cases hstage
      rfl
    · exact ⟨⟨rfl, rfl, rfl, rfl, rfl⟩, rfl, rfl, fun _ hstage => (nomatch hstage)⟩
    · exact ⟨⟨rfl, rfl, rfl, rfl, rfl⟩, rfl, rfl, fun _ hstage => (nomatch hstage)⟩

end LiveView

/-- The same choice is transitive. -/
theorem Session.SeriesInputs.SameChoice.trans {inputs middle other : Session.SeriesInputs}
    (h : inputs.SameChoice middle) (h' : middle.SameChoice other) : inputs.SameChoice other := by
  unfold SameChoice at h h' ⊢
  rw [← h', ← h]

/-- A stage that requests no series waits for no baseline. -/
theorem Stage.purpose?_ne_baseline {stage : Stage} (h : stage.request? = none) :
    stage.purpose? ≠ some .baseline := by
  unfold purpose?
  rw [h]
  split
  · exact fun hload => nomatch hload
  · exact fun hnone => nomatch hnone

namespace Run

/-- The series shown are those that inputs prescribe, by answers to calls that were made. -/
structure Installed (oracle : Oracle) (run : Run) (inputs : Session.SeriesInputs) : Prop where
  /-- Rules were visible as they are. -/
  visible : inputs.rulesVisible = run.live.session.rulesVisible
  /-- The series were prescribed. -/
  prescribed : ∃ calls, Prescribes oracle run.live.zone.name inputs calls
    run.live.session.timeseries run.live.session.baseline ∧
      ∀ id call, (id, call) ∈ calls → run.call? id = some call

/-- The baseline of inputs is selected, unless the selection of another one is under way or came to
nothing. -/
def OffsetKept (selecting : Nat → Prop) (inputs : Session.SeriesInputs) (run : Run) : Prop :=
  run.live.session.baselineOffset = inputs.offset ∨
    (∃ flight ∈ run.flights, selecting flight.operation ∧
      flight.stage.purpose? = some .baseline) ∨
    ∃ number cause, selecting number ∧ (number, .refused cause) ∈ run.results

/-- Series would be made from the same as inputs, unless they are under way or something failed. -/
def ChoiceKept (inputs : Session.SeriesInputs) (run : Run) : Prop :=
  inputs.SameChoice run.live.session.seriesInputs ∨
    (∃ flight ∈ run.flights, flight.stage.purpose?.isSome = true) ∨
    run.live.session.errored = true

/-- An operation in flight waits for the series of what is selected. -/
def Awaits (oracle : Oracle) (run : Run) (flight : Flight) : Prop :=
  ∃ issue : SeriesIssue,
    issue.Waits oracle flight.stage flight.waiting (run.callsOf Call.isSeries issue.since) ∧
      issue.since ≤ run.calls.length ∧ issue.ticket = run.live.ticket ∧
      issue.timezone = run.live.zone.name ∧ issue.inputs = run.live.session.seriesInputs

/-- A run in which operations go on one after the other. The series shown are those of a `revision`
that is left open, or they belong to what is selected, as far as operations that are `selecting` a
baseline did not come to nothing. -/
structure Attuned (oracle : Oracle) (revision : Option Nat) (selecting : Nat → Prop)
    (run : Run) : Prop where
  /-- Numbers are proper. -/
  numbered : run.Numbered
  /-- At most one operation is in flight. -/
  alone : run.flights = [] ∨ ∃ flight, run.flights = [flight]
  /-- If it waits for series, they are those of what is selected. -/
  awaits : ∀ flight ∈ run.flights, flight.stage.request?.isSome = true →
    run.Awaits oracle flight
  /-- The series shown are accounted for. -/
  shown : revision = some run.live.session.seriesRevision ∨
    ∃ inputs, run.Installed oracle inputs ∧ OffsetKept selecting inputs run ∧
      ChoiceKept inputs run

variable {oracle : Oracle} {revision : Option Nat} {selecting : Nat → Prop} {run : Run}
  {live : LiveView} {operation : Nat} {waiting : List Nat} {next : Next}
  {inputs : Session.SeriesInputs}

/-- An operation that goes on alone is alone or ended. -/
theorem alone_hold (run : Run) (live : LiveView) (operation : Nat) (waiting : List Nat)
    (next : Next) :
    ({ run with live := live, flights := [] }.hold operation waiting next).flights = [] ∨
      ∃ flight, ({ run with live := live, flights := [] }.hold operation waiting
        next).flights = [flight] := by
  cases next with
  | ask call stage => exact .inr ⟨_, rfl⟩
  | wait stage => exact .inr ⟨_, rfl⟩
  | finish result => exact .inl rfl

/-- What is in flight while an operation goes on alone is this operation. -/
theorem stage?_of_mem_alone {flight : Flight}
    (h : flight ∈ ({ run with live := live, flights := [] }.hold operation waiting next).flights) :
    next.stage? = some flight.stage := by
  rcases mem_flights_hold h with hother | ⟨-, hstage⟩
  · exact absurd hother List.not_mem_nil
  · exact hstage

/-- An operation that goes on alone and waits is in flight. -/
theorem exists_mem_alone (run : Run) (live : LiveView) (operation : Nat) (waiting : List Nat)
    {stage : Stage} (hstage : next.stage? = some stage) :
    ∃ flight ∈ ({ run with live := live, flights := [] }.hold operation waiting next).flights,
      flight.operation = operation ∧ flight.stage = stage := by
  cases next with
  | ask call stage' =>
    obtain rfl := Option.some.inj hstage
    exact ⟨_, mem_flights_park.2 (.inr rfl), rfl, rfl⟩
  | wait stage' =>
    obtain rfl := Option.some.inj hstage
    exact ⟨_, mem_flights_park.2 (.inr rfl), rfl, rfl⟩
  | finish result => cases hstage

/-- The series shown stay those of their inputs while an operation shows no others. -/
theorem Installed.hold (h : run.Installed oracle inputs) (hshown : run.live.SameShown live)
    (operation : Nat) (waiting : List Nat) (next : Next) :
    ({ run with live := live, flights := [] }.hold operation waiting next).Installed oracle
      inputs := by
  obtain ⟨calls, hprescribed, hcalls⟩ := h.prescribed
  have hlive := live_hold { run with live := live, flights := [] } operation waiting next
  refine ⟨?_, calls, ?_, fun id call hmem => ?_⟩
  · rw [hlive]
    exact h.visible.trans hshown.visible.symm
  · rw [hlive]
    dsimp only
    rw [hshown.zone, hshown.timeseries, hshown.baseline]
    exact hprescribed
  · have hmade : { run with live := live, flights := [] }.call? id = some call :=
      hcalls id call hmem
    exact call?_hold hmade operation waiting next

/-- The baseline selected stays the one of inputs while an operation that selects none goes on. -/
theorem OffsetKept.hold (h : OffsetKept selecting inputs run)
    (hnone : ∀ flight ∈ run.flights, flight.stage.purpose? ≠ some .baseline)
    (hoffset : live.session.baselineOffset = run.live.session.baselineOffset) (operation : Nat)
    (waiting : List Nat) (next : Next) :
    OffsetKept selecting inputs
      ({ run with live := live, flights := [] }.hold operation waiting next) := by
  rcases h with hsame | ⟨flight, hflight, -, hpurpose⟩ | ⟨number, cause, hselecting, hresult⟩
  · left
    rw [live_hold]
    exact hoffset.trans hsame
  · exact absurd hpurpose (hnone flight hflight)
  · exact .inr (.inr ⟨number, cause, hselecting, mem_results_hold operation waiting next hresult⟩)

/-- A run stays attuned by a step of an operation that is quiet. -/
theorem Attuned.quiet {step : LiveView × Next} (h : run.Attuned oracle revision selecting)
    (hnone : ∀ flight ∈ run.flights, flight.stage.purpose? = none)
    (hstep : run.live.Quiet step)
    (hnumbered : ({ run with live := step.1, flights := [] }.hold operation waiting
      step.2).Numbered) :
    ({ run with live := step.1, flights := [] }.hold operation waiting step.2).Attuned oracle
      revision selecting := by
  have hlive := live_hold { run with live := step.1, flights := [] } operation waiting step.2
  refine ⟨hnumbered, alone_hold run step.1 operation waiting step.2,
    fun flight hflight hrequest => ?_, ?_⟩
  · have hpurpose := hstep.next _ (stage?_of_mem_alone hflight)
    obtain ⟨request, hrequest⟩ := Option.isSome_iff_exists.1 hrequest
    rw [Stage.purpose?_of_request? hrequest] at hpurpose
    cases hpurpose
  · rcases h.shown with hopen | ⟨inputs, hinstalled, hoffset, hchoice⟩
    · left
      rw [hlive]
      exact hopen.trans (congrArg some hstep.shown.revision.symm)
    · refine .inr ⟨inputs, hinstalled.hold hstep.shown _ _ _, hoffset.hold ?_ ?_ _ _ _, ?_⟩
      · intro flight hflight hpurpose
        rw [hnone flight hflight] at hpurpose
        cases hpurpose
      · exact (congrArg Session.SeriesInputs.offset hstep.inputs).symm
      · unfold ChoiceKept
        rw [hlive]
        rcases hchoice with hsame | ⟨flight, hflight, hpurpose⟩ | herrored
        · exact .inl (hsame.trans hstep.inputs)
        · rw [hnone flight hflight] at hpurpose
          cases hpurpose
        · exact .inr (.inr (hstep.errored.trans herrored))

/-- A run is attuned once the series of what is selected are complete. -/
theorem Attuned.complete {request : SeriesRequest} {calls : List (Nat × Call)}
    {measured baseline : Option TimeSeries} (hticket : live.ticket = request.ticket)
    (hprescribed : Prescribes oracle live.zone.name live.session.seriesInputs calls measured
      baseline) (hcalls : ∀ id call, (id, call) ∈ calls → run.call? id = some call)
    (hnumbered : ({ run with
      live := (live.finishSeries request measured baseline).1, flights := [] }.hold operation
        waiting (live.finishSeries request measured baseline).2).Numbered) :
    ({ run with
      live := (live.finishSeries request measured baseline).1, flights := [] }.hold operation
        waiting (live.finishSeries request measured baseline).2).Attuned oracle revision
          selecting := by
  have hinstall : live.finishSeries request measured baseline = (live.update fun session =>
      { session.setSeries measured baseline with isLoadingSeries := false },
        .finish request.purpose.success) := by
    simp only [LiveView.finishSeries, LiveView.install, if_pos hticket]
  rw [hinstall] at hnumbered ⊢
  exact ⟨hnumbered, .inl rfl, fun flight hflight => absurd hflight List.not_mem_nil,
    .inr ⟨live.session.seriesInputs, ⟨rfl, calls, hprescribed, hcalls⟩, .inl rfl, .inl rfl⟩⟩

/-- A run stays attuned by an operation that waits, for anomalies or for the series of what is
selected. If it selects another baseline, this counts. -/
theorem Attuned.wait (h : run.Attuned oracle revision selecting) (hshown : run.live.SameShown live)
    {stage : Stage} (hstage : next.stage? = some stage) {purpose : Purpose}
    (hpurpose : stage.purpose? = some purpose)
    (hoffset : ∀ inputs, OffsetKept selecting inputs run → OffsetKept selecting inputs
      ({ run with live := live, flights := [] }.hold operation waiting next))
    (hawaits : ∀ flight ∈ ({ run with live := live, flights := [] }.hold operation waiting
      next).flights, flight.stage.request?.isSome = true →
        ({ run with live := live, flights := [] }.hold operation waiting next).Awaits oracle flight)
    (hnumbered : ({ run with live := live, flights := [] }.hold operation waiting next).Numbered) :
    ({ run with live := live, flights := [] }.hold operation waiting next).Attuned oracle revision
      selecting := by
  refine ⟨hnumbered, alone_hold run live operation waiting next, hawaits, ?_⟩
  rcases h.shown with hopen | ⟨inputs, hinstalled, hkept, -⟩
  · left
    rw [live_hold]
    exact hopen.trans (congrArg some hshown.revision.symm)
  · obtain ⟨flight, hflight, -, hsame⟩ := exists_mem_alone run live operation waiting hstage
    refine .inr ⟨inputs, hinstalled.hold hshown _ _ _, hoffset inputs hkept,
      .inr (.inl ⟨flight, hflight, ?_⟩)⟩
    rw [hsame, hpurpose]
    rfl

/-- A run stays attuned by an operation that fails. If it selected a baseline, this counts. -/
theorem Attuned.fail {result : Result} (h : run.Attuned oracle revision selecting)
    (hshown : run.live.SameShown live) (herrored : live.session.errored = true)
    (hoffset : ∀ inputs, OffsetKept selecting inputs run →
      OffsetKept selecting inputs
        ({ run with live := live, flights := [] }.finish operation result))
    (hnumbered : ({ run with live := live, flights := [] }.finish operation result).Numbered) :
    ({ run with live := live, flights := [] }.finish operation result).Attuned oracle revision
      selecting := by
  refine ⟨hnumbered, .inl rfl, fun flight hflight => absurd hflight List.not_mem_nil, ?_⟩
  rcases h.shown with hopen | ⟨inputs, hinstalled, hkept, -⟩
  · exact .inl (hopen.trans (congrArg some hshown.revision.symm))
  · exact .inr ⟨inputs, hinstalled.hold hshown operation [] (.finish result), hoffset inputs hkept,
      .inr (.inr herrored)⟩

/-- A run stays attuned by an operation that requests the series of what is selected. -/
theorem Attuned.request {after : LiveView} {purpose : Purpose}
    (h : run.Attuned oracle revision selecting)
    (hnone : ∀ flight ∈ run.flights, flight.stage.purpose? ≠ some .baseline)
    (hshown : run.live.SameShown after)
    (hoffset : after.session.baselineOffset = run.live.session.baselineOffset ∨
      selecting operation ∧ purpose = .baseline)
    (hnumbered : ({ run with live := (after.requestSeries purpose).1, flights := [] }.hold operation
      waiting (after.requestSeries purpose).2).Numbered) :
    ({ run with live := (after.requestSeries purpose).1, flights := [] }.hold operation waiting
      (after.requestSeries purpose).2).Attuned oracle revision selecting := by
  -- a call that is made waits for the series of what is selected
  have hwait {call : Call} {stage : Stage} (hcall : call.isSeries = true)
      (hpurpose : stage.purpose? = some purpose)
      (hwaits : (SeriesIssue.ofView operation run.calls.length after).Waits oracle stage
        [run.calls.length + 1] [(run.calls.length + 1, call)])
      (hnumbered : ({ run with live := after.issued, flights := [] }.hold operation waiting
        (.ask call stage)).Numbered) :
      ({ run with live := after.issued, flights := [] }.hold operation waiting
        (.ask call stage)).Attuned oracle revision selecting := by
    refine h.wait (hshown.trans ⟨rfl, rfl, rfl, rfl, rfl⟩) rfl hpurpose (fun inputs hkept => ?_)
      (fun flight hflight _ => ?_) hnumbered
    · rcases hoffset with hsame | ⟨hselecting, rfl⟩
      · have hissued : after.issued.session.baselineOffset = run.live.session.baselineOffset :=
          hsame
        exact hkept.hold hnone hissued operation waiting _
      · exact .inr (.inl ⟨_, mem_flights_park.2 (.inr rfl), hselecting, hpurpose⟩)
    · have hrecord := run.callsOf_record_of_kind (Nat.le_refl _) hcall
      rw [callsOf_length, List.nil_append] at hrecord
      obtain rfl : flight = ⟨operation, stage, [run.calls.length + 1]⟩ :=
        List.mem_singleton.1 hflight
      refine ⟨SeriesIssue.ofView operation run.calls.length after, hrecord.symm ▸ hwaits, ?_, rfl,
        rfl, rfl⟩
      exact calls_length_hold { run with live := after.issued, flights := [] } operation waiting
        (.ask call stage)
  have hstart := after.requestSeries_start purpose
  generalize after.requestSeries purpose = step at hstart hnumbered ⊢
  cases hstart with
  | missing =>
    refine h.fail (hshown.trans ⟨rfl, rfl, rfl, rfl, rfl⟩) rfl (fun inputs hkept => ?_) hnumbered
    rcases hoffset with hsame | ⟨hselecting, rfl⟩
    · have hfailed : ({ after with ticket := after.ticket + 1 }.fail
          .missingSlice).session.baselineOffset = run.live.session.baselineOffset := hsame
      exact hkept.hold hnone hfailed operation [] (.finish _)
    · exact .inr (.inr ⟨operation, _, hselecting,
        List.mem_append_right _ (List.mem_singleton_self _)⟩)
  | unpredicted hslice hvisible hprediction =>
    exact .complete rfl
      (.unpredicted hslice hvisible (Prediction.find?_eq_none_iff.1 hprediction))
      (fun _ _ hmem => absurd hmem List.not_mem_nil) hnumbered
  | predicted hslice hvisible hprediction hoffset' =>
    exact .complete rfl
      (.predicted hslice hvisible (Prediction.find?_eq_some_iff.1 hprediction) hoffset')
      (fun _ _ hmem => absurd hmem List.not_mem_nil) hnumbered
  | compared hslice hvisible hprediction hoffset' =>
    exact hwait rfl rfl
      (.compared hslice hvisible (Prediction.find?_eq_some_iff.1 hprediction) hoffset') hnumbered
  | measured hslice hvisible => exact hwait rfl rfl (.measured hslice hvisible) hnumbered

/-- A run stays attuned by an operation that loads or requests series. -/
theorem Attuned.advance {step : LiveView × Next} {selects : Prop}
    (h : run.Attuned oracle revision selecting)
    (hnone : ∀ flight ∈ run.flights, flight.stage.request? = none)
    (hstep : run.live.Advance selects step) (hselects : selects → selecting operation)
    (hnumbered : ({ run with live := step.1, flights := [] }.hold operation waiting
      step.2).Numbered) :
    ({ run with live := step.1, flights := [] }.hold operation waiting step.2).Attuned oracle
      revision selecting := by
  have hother : ∀ flight ∈ run.flights, flight.stage.purpose? ≠ some .baseline :=
    fun flight hflight => Stage.purpose?_ne_baseline (hnone flight hflight)
  cases hstep with
  | @pass after call stage hshown hoffset hstage =>
    refine h.wait hshown rfl (Stage.purpose?_of_isPass hstage)
      (fun inputs hkept => hkept.hold hother hoffset _ _ _) (fun flight hflight hrequest => ?_)
      hnumbered
    obtain rfl : flight = ⟨operation, stage, [run.calls.length + 1]⟩ := List.mem_singleton.1 hflight
    obtain ⟨request, hrequest⟩ := Option.isSome_iff_exists.1 hrequest
    exact absurd ((Stage.isPass_of_request? hrequest).symm.trans hstage) Bool.false_ne_true
  | failed hshown hoffset herrored =>
    exact h.fail hshown herrored
      (fun inputs hkept => hkept.hold hother hoffset operation [] (.finish _)) hnumbered
  | requested hshown hoffset =>
    exact h.request hother hshown (hoffset.imp_right (And.imp_left hselects)) hnumbered

/-- The baseline selected stays the one of inputs while the only operation in flight goes on to
wait for its own sake. -/
theorem OffsetKept.onward (h : OffsetKept selecting inputs run) {stage stage' : Stage}
    {waiting' : List Nat} (hflights : run.flights = [⟨operation, stage, waiting'⟩])
    (hstage : next.stage? = some stage') (hpurpose : stage'.purpose? = stage.purpose?)
    (waiting : List Nat) :
    OffsetKept selecting inputs
      ({ run with live := run.live, flights := [] }.hold operation waiting next) := by
  rcases h with hsame | ⟨flight, hflight, hselecting, hbaseline⟩ |
    ⟨number, cause, hselecting, hresult⟩
  · left
    rw [live_hold]
    exact hsame
  · rw [hflights] at hflight
    obtain rfl := List.mem_singleton.1 hflight
    obtain ⟨flight, hflight, hoperation, hsame⟩ :=
      exists_mem_alone run run.live operation waiting hstage
    refine .inr (.inl ⟨flight, hflight, hoperation ▸ hselecting, ?_⟩)
    rw [hsame, hpurpose]
    exact hbaseline
  · exact .inr (.inr ⟨number, cause, hselecting, mem_results_hold operation waiting next hresult⟩)

/-- A run stays attuned when the series of what is selected arrive or fail. -/
theorem Attuned.answer {stage : Stage} {id : Nat} {call : Call} {request : SeriesRequest}
    (h : run.Attuned oracle revision selecting)
    (hflights : run.flights = [⟨operation, stage, waiting⟩]) (hid : id ∈ waiting)
    (hcall : run.call? id = some call) (hrequest : stage.request? = some request)
    (hnumbered : (run.taken [] ⟨operation, stage, waiting⟩ id (oracle id call)).Numbered) :
    (run.taken [] ⟨operation, stage, waiting⟩ id (oracle id call)).Attuned oracle revision
      selecting := by
  have hmem : (⟨operation, stage, waiting⟩ : Flight) ∈ run.flights := by
    rw [hflights]
    exact List.mem_singleton_self _
  have hpurpose := Stage.purpose?_of_request? hrequest
  obtain ⟨issue, hwaits, hsince, hticket, hzone, hinputs⟩ :=
    h.awaits _ hmem (Option.isSome_iff_exists.2 ⟨request, hrequest⟩)
  have hasked : ∀ call', (id, call') ∈ run.callsOf Call.isSeries issue.since → call' = call := by
    intro call' hmade
    rw [call?_of_mem_callsOf hmade] at hcall
    exact Option.some.inj hcall
  have hanswered := hwaits.answer hid hasked
    (run.live.resume_series (waiting.head? == some id) (oracle id call) hrequest)
  have hturn := run.live.resume_turn (waiting.head? == some id) (oracle id call) hpurpose
  rw [taken_eq] at hnumbered ⊢
  dsimp only at hnumbered ⊢
  generalize run.live.resume (waiting.head? == some id) (oracle id call) stage = step
    at hanswered hturn hnumbered ⊢
  cases hanswered with
  | @failed purpose cause =>
    refine h.fail ⟨rfl, rfl, rfl, rfl, rfl⟩ rfl (fun inputs hkept => ?_) hnumbered
    rcases hkept with hsame | ⟨flight, hflight, hselecting, hbaseline⟩ |
      ⟨number, cause', hother, hresult⟩
    · exact .inl hsame
    -- the selection of a baseline that fails is refused
    · rw [hflights] at hflight
      obtain rfl := List.mem_singleton.1 hflight
      have hsame : request.purpose = .baseline := Option.some.inj (hpurpose.symm.trans hbaseline)
      obtain ⟨cause', hrefused⟩ : ∃ cause', purpose.failure cause = .refused cause' := by
        rcases hturn.result rfl with hsuccess | ⟨cause', hfailure⟩
        · have hfailed := purpose.isSuccess_failure cause
          rw [hsuccess, hsame] at hfailed
          cases hfailed
        · rw [hsame] at hfailure
          exact ⟨cause', hfailure⟩
      exact .inr (.inr ⟨operation, cause', hselecting,
        List.mem_append_right _ (List.mem_singleton.2 (congrArg _ hrefused.symm))⟩)
    · exact .inr (.inr ⟨number, cause', hother, List.mem_append_left _ hresult⟩)
  | ended hprescribed =>
    rw [hzone, hinputs] at hprescribed
    exact .complete hticket.symm hprescribed (fun _ _ hmade => call?_of_mem_callsOf hmade) hnumbered
  | @asked call' stage' hseries hwaits' =>
    refine h.wait ⟨rfl, rfl, rfl, rfl, rfl⟩ rfl (hturn.purpose? rfl)
      (fun inputs hkept => hkept.onward hflights rfl ((hturn.purpose? rfl).trans hpurpose.symm) _)
      (fun flight hflight _ => ?_) hnumbered
    obtain rfl : flight = ⟨operation, stage', [run.calls.length + 1]⟩ :=
      List.mem_singleton.1 hflight
    have hrecord := run.callsOf_record_of_kind hsince hseries
    refine ⟨issue, hrecord.symm ▸ hwaits' _, Nat.le_trans hsince ?_, hticket, hzone, hinputs⟩
    exact calls_length_hold { run with flights := [] } operation [] (.ask call' stage')
  | @waits stage' hwaits' =>
    refine h.wait ⟨rfl, rfl, rfl, rfl, rfl⟩ rfl (hturn.purpose? rfl)
      (fun inputs hkept => hkept.onward hflights rfl ((hturn.purpose? rfl).trans hpurpose.symm) _)
      (fun flight hflight _ => ?_) hnumbered
    obtain rfl : flight = ⟨operation, stage', waiting.erase id⟩ := List.mem_singleton.1 hflight
    exact ⟨issue, hwaits', hsince, hticket, hzone, hinputs⟩

/-- A run stays attuned when the baseline is called for as well. -/
theorem Attuned.double {request : SeriesRequest} {id : Nat}
    (h : run.Attuned oracle revision selecting)
    (hflights : run.flights = [⟨operation, .measured request, [id]⟩]) :
    (run.doubled [] operation id request).Attuned oracle revision selecting := by
  have hmem : (⟨operation, .measured request, [id]⟩ : Flight) ∈ run.flights := by
    rw [hflights]
    exact List.mem_singleton_self _
  obtain ⟨issue, hwaits, hsince, hticket, hzone, hinputs⟩ := h.awaits _ hmem rfl
  have hid := (h.numbered.asked _ hmem id (List.mem_singleton_self _)).2
  refine ⟨(Numbered.keeps oracle operation []).double hflights h.numbered, .inr ⟨_, rfl⟩,
    fun flight hflight _ => ?_, ?_⟩
  · obtain rfl : flight = ⟨operation, .both request, [id, run.calls.length + 1]⟩ :=
      List.mem_singleton.1 hflight
    refine ⟨issue, ?_, ?_, hticket, hzone, hinputs⟩
    · dsimp only at hwaits
      generalize hcalls : run.callsOf Call.isSeries issue.since = calls at hwaits
      cases hwaits with
      | @measured urn purpose _ hslice hvisible =>
        have hbaseline : (issue.call urn issue.inputs.offset).isSeries = true := rfl
        have hrecord := run.callsOf_record_of_kind hsince hbaseline
        rw [hcalls] at hrecord
        exact hrecord ▸ .both hslice hvisible (Nat.lt_succ_of_le hid)
    · have hlength : run.calls.length ≤ (run.calls ++ [request.baselineCall]).length := by
        rw [List.length_append]
        omega
      exact Nat.le_trans hsince hlength
  · rcases h.shown with hopen | ⟨inputs, hinstalled, hkept, -⟩
    · exact .inl hopen
    · obtain ⟨calls, hprescribed, hcalls⟩ := hinstalled.prescribed
      refine .inr ⟨inputs, ⟨hinstalled.visible, calls, hprescribed, fun number call hmade =>
        call?_record_of_some (hcalls number call hmade) _⟩, ?_, ?_⟩
      · refine hkept.imp_right (Or.imp_left fun hselecting => ?_)
        obtain ⟨flight, hflight, hselecting, hbaseline⟩ := hselecting
        rw [hflights] at hflight
        obtain rfl := List.mem_singleton.1 hflight
        exact ⟨_, List.mem_singleton_self _, hselecting, hbaseline⟩
      · exact .inr (.inl ⟨_, List.mem_singleton_self _, rfl⟩)

/-- A run stays attuned while an operation goes on alone. -/
theorem Attuned.keeps (oracle : Oracle) (revision : Option Nat) (selecting : Nat → Prop)
    (operation : Nat) : Keeps oracle operation [] (Attuned oracle revision selecting) where
  take := by
    intro run stage waiting id call hflights hid hcall h
    have hnumbered := (Numbered.keeps oracle operation []).take hflights hid hcall h.numbered
    have honly {flight : Flight} (hflight : flight ∈ run.flights) : flight.stage = stage := by
      rw [hflights] at hflight
      rw [List.mem_singleton.1 hflight]
    rcases stage.pass_or_series_or_report with hpass | ⟨request, hrequest⟩ | ⟨report, rfl⟩
    · refine h.advance (fun flight hflight => ?_) (run.live.resume_advance _ _ hpass) False.elim
        hnumbered
      rw [honly hflight]
      cases stage <;> first | rfl | cases hpass
    · exact h.answer hflights hid hcall hrequest hnumbered
    · have hquiet := run.live.resume_quiet (waiting.head? == some id) (oracle id call) report
      refine h.quiet (fun flight hflight => ?_) hquiet hnumbered
      rw [honly hflight]
      rfl
  double := fun hflights h => h.double hflights

/-- A run stays attuned when an operation begins and no other is in flight. -/
theorem Attuned.started (h : run.Attuned oracle revision selecting) (hnone : run.flights = [])
    (operation : Operation)
    (hselecting : (∃ offset, operation = .selectBaseline offset) → selecting run.begun) :
    (run.started operation).Attuned oracle revision selecting := by
  have hnumbered : (run.started operation).Numbered := (h.numbered.next _).hold _
  rw [run.started_alone hnone] at hnumbered ⊢
  have hempty (flight : Flight) : flight ∉ run.flights := by
    rw [hnone]
    exact List.not_mem_nil
  rcases run.live.begin_advance operation with hquiet | hadvance
  · exact h.quiet (fun flight hflight => absurd hflight (hempty flight)) hquiet hnumbered
  · exact h.advance (fun flight hflight => absurd hflight (hempty flight)) hadvance hselecting
      hnumbered

/-- A run stays attuned by every move of an operation in its turn. -/
theorem Attuned.step (h : run.Attuned oracle revision selecting) {move : Move}
    (hturn : run.inTurn move = true)
    (hselecting : move.selectsBaseline = true → selecting run.begun) :
    (run.step oracle move).Attuned oracle revision selecting := by
  have haside (live : LiveView) (hsession : live.session = run.live.session)
      (hticket : live.ticket = run.live.ticket) (hzone : live.zone = run.live.zone) :
      { run with live := live }.Attuned oracle revision selecting := by
    refine ⟨⟨h.numbered.asked, h.numbered.once, h.numbered.operations⟩, h.alone, ?_, ?_⟩
    · intro flight hflight hrequest
      obtain ⟨issue, hwaits, hsince, hlatest, hzone', hinputs⟩ := h.awaits flight hflight hrequest
      refine ⟨issue, hwaits, hsince, hlatest.trans hticket.symm, ?_, ?_⟩
      · exact hzone'.trans (congrArg Zone.name hzone.symm)
      · exact hinputs.trans (congrArg Session.seriesInputs hsession.symm)
    · rcases h.shown with hopen | ⟨inputs, ⟨hvisible, hprescribed⟩, hkept, hchoice⟩
      · left
        dsimp only
        rw [hsession]
        exact hopen
      · unfold OffsetKept at hkept
        unfold ChoiceKept at hchoice
        rw [← hsession] at hvisible hprescribed hkept hchoice
        rw [← hzone] at hprescribed
        exact .inr ⟨inputs, ⟨hvisible, hprescribed⟩, hkept, hchoice⟩
  cases move with
  | begin operation prompt =>
    have hnone : run.flights = [] := List.isEmpty_iff.1 (by simpa [inTurn, Move.begins] using hturn)
    have hkeeps : Keeps oracle run.begun run.flights (Attuned oracle revision selecting) := by
      rw [hnone]
      exact Attuned.keeps oracle revision selecting run.begun
    refine hkeeps.begin prompt (h.started hnone operation fun hselects => hselecting ?_)
    obtain ⟨offset, rfl⟩ := hselects
    rfl
  | settle id prompt =>
    have halone : ∃ operation, run.flights = [] ∨
        ∃ stage waiting, run.flights = [⟨operation, stage, waiting⟩] := by
      rcases h.alone with hnone | ⟨flight, hone⟩
      · exact ⟨0, .inl hnone⟩
      · exact ⟨flight.operation, .inr ⟨_, _, hone⟩⟩
    obtain ⟨operation, halone⟩ := halone
    exact (Attuned.keeps oracle revision selecting operation).settle_alone h.numbered halone h id
      prompt
  | setClock now => exact haside _ rfl rfl rfl
  | drain => exact haside _ rfl rfl rfl
  | look => exact haside _ rfl rfl rfl

/-- A run stays attuned by every list of moves of operations in their turn. -/
theorem Attuned.after (h : run.Attuned oracle revision selecting) {moves : List Move}
    (hturn : Along oracle (fun run move => run.inTurn move = true) run moves)
    (hselecting : Along oracle (fun run move => move.selectsBaseline = true → selecting run.begun)
      run moves) :
    (run.after oracle moves).Attuned oracle revision selecting := by
  induction moves generalizing run with
  | nil => exact h
  | cons move rest ih => exact ih (h.step hturn.1 hselecting.1) hturn.2 hselecting.2

/-- Moves of a list are allowed where they are made if those of its parts are. -/
theorem along_append {allowed : Run → Move → Prop} {moves later : List Move} :
    Along oracle allowed run (moves ++ later) ↔
      Along oracle allowed run moves ∧ Along oracle allowed (run.after oracle moves) later := by
  induction moves generalizing run with
  | nil => exact ⟨fun h => ⟨trivial, h⟩, And.right⟩
  | cons move rest ih => exact (and_congr_right fun _ => ih).trans and_assoc.symm

/-- What is allowed everywhere is allowed along every list of moves. -/
theorem along_of_forall {allowed : Run → Move → Prop} (h : ∀ run move, allowed run move)
    (run : Run) (moves : List Move) : Along oracle allowed run moves := by
  induction moves generalizing run with
  | nil => trivial
  | cons move rest ih => exact ⟨h run move, ih _⟩

/-- A view that nothing was begun on is attuned to the series that it shows. -/
theorem attuned_new (oracle : Oracle) (selecting : Nat → Prop) (live : LiveView) :
    Attuned oracle (some live.session.seriesRevision) selecting { live := live } where
  numbered := (atRest_new live).numbered
  alone := .inl rfl
  awaits _ hflight := absurd hflight List.not_mem_nil
  shown := .inl rfl

/-- Whatever series a run shows may be left open, and whatever selections count. -/
theorem Attuned.reopen (h : run.Attuned oracle revision selecting) (selecting' : Nat → Prop) :
    run.Attuned oracle (some run.live.session.seriesRevision) selecting' where
  numbered := h.numbered
  alone := h.alone
  awaits := h.awaits
  shown := .inl rfl

/-- Series that are not those of the revision left open belong to what is selected. -/
theorem Attuned.close (h : run.Attuned oracle revision selecting)
    (hinstalled : revision ≠ some run.live.session.seriesRevision) :
    run.Attuned oracle none selecting where
  numbered := h.numbered
  alone := h.alone
  awaits := h.awaits
  shown := .inr (h.shown.resolve_left hinstalled)

/-- The selection of a baseline that changes nothing finds it selected. -/
theorem offset_of_unchanged (hrun : run.Numbered) (hidle : run.flights = []) {offset : Offset}
    {prompt : Nat → Call → Bool} (hresult : (run.begun, .changed false) ∈
      (run.step oracle (.begin (.selectBaseline offset) prompt)).results) :
    run.live.session.baselineOffset = offset := by
  by_contra hother
  have hbegin : run.live.begin false (.selectBaseline offset) =
      (run.live.update fun session => { session with baselineOffset := offset }).requestSeries
        .baseline := if_neg hother
  have hgoing : Going run.begun .baseline run.results run.live.notices
      (run.step oracle (.begin (.selectBaseline offset) prompt)) := by
    have hkeeps : Keeps oracle run.begun run.flights
        (Going run.begun .baseline run.results run.live.notices) := by
      rw [hidle]
      exact Going.keeps oracle
    refine hkeeps.begin prompt ?_
    rw [run.started_alone hidle, hbegin]
    refine Going.hold (LiveView.requestSeries_turn _ .baseline) ?_ ?_ [] <;> rfl
  have hfresh : (run.begun, Result.changed false) ∉ run.results := by
    intro hmem
    have hnumber : run.begun ∈ run.results.map (·.1) := List.mem_map_of_mem hmem
    exact absurd (hrun.lt_begun (List.mem_append_right _ hnumber)) (Nat.lt_irrefl _)
  cases hgoing with
  | waits _ _ hresults =>
    rw [hresults] at hresult
    exact hfresh hresult
  | complete _ hresults =>
    rw [hresults, List.mem_append, List.mem_singleton] at hresult
    exact hresult.elim hfresh fun hsame => (nomatch hsame)
  | failed _ hresults =>
    rw [hresults, List.mem_append, List.mem_singleton] at hresult
    exact hresult.elim hfresh fun hsame => (nomatch hsame)

/-- Whether an operation came out refused or failed. -/
def refused (run : Run) (operation : Nat) : Bool :=
  run.results.any fun result => result.1 == operation && result.2.isRefused

/-- An operation came out refused if this is among the results. -/
theorem refused_of_mem {number : Nat} {cause : ChartError}
    (h : (number, Result.refused cause) ∈ run.results) : run.refused number = true :=
  List.any_eq_true.2 ⟨_, h, by simp [Result.isRefused]⟩

/-- After a move in which series are installed, a run is attuned to them, and selections count from
there as far as wanted. -/
theorem attuned_since_installed {live : LiveView} {earlier : List Move} {move : Move}
    {later : List Move} (hturn : Along oracle (fun run move => run.inTurn move = true)
      { live := live } (earlier ++ move :: later))
    (hinstalled : ((after oracle { live := live } earlier).step oracle
      move).live.session.seriesRevision ≠
        (after oracle { live := live } earlier).live.session.seriesRevision)
    (hselecting : Along oracle (fun run move => move.selectsBaseline = true → selecting run.begun)
      (after oracle { live := live } earlier) (move :: later)) :
    ((after oracle { live := live } earlier).after oracle (move :: later)).Attuned oracle none
      selecting := by
  obtain ⟨hearlier, hlater⟩ := along_append.1 hturn
  have hbefore : (after oracle { live := live } earlier).Attuned oracle
      (some live.session.seriesRevision) fun _ => True :=
    (attuned_new oracle _ live).after hearlier (along_of_forall (fun _ _ _ => trivial) _ _)
  have hmove := (hbefore.reopen selecting).step hlater.1 hselecting.1
  have hclosed := hmove.close fun hsame => hinstalled (Option.some.inj hsame).symm
  exact hclosed.after hlater.2 hselecting.2

/-- Once nothing is in flight, the series shown were made for the baseline selected, if the view is
not errored or no selection that counts was refused. -/
theorem Attuned.settled (h : run.Attuned oracle none selecting) (hidle : run.flights = [])
    (hserved : run.live.session.errored = false ∨
      ∀ number, selecting number → run.refused number = false) :
    ∃ inputs, run.Installed oracle inputs ∧
      inputs.offset = run.live.session.baselineOffset ∧
        (run.live.session.errored = false →
          inputs.SameChoice run.live.session.seriesInputs) := by
  have hempty (flight : Flight) : flight ∉ run.flights := by
    rw [hidle]
    exact List.not_mem_nil
  obtain hopen | ⟨inputs, hinstalled, hkept, hchoice⟩ := h.shown
  · cases hopen
  have hfresh (herrored : run.live.session.errored = false) :
      inputs.SameChoice run.live.session.seriesInputs := by
    rcases hchoice with hsame | ⟨flight, hflight, -⟩ | hfailed
    · exact hsame
    · exact absurd hflight (hempty flight)
    · exact absurd (herrored.symm.trans hfailed) Bool.false_ne_true
  refine ⟨inputs, hinstalled, ?_, hfresh⟩
  rcases hserved with herrored | hserved
  · exact congrArg Session.SeriesInputs.offset (hfresh herrored)
  · rcases hkept with hsame | ⟨flight, hflight, -⟩ | ⟨number, cause, hselecting, hrefused⟩
    · exact hsame.symm
    · exact absurd hflight (hempty flight)
    · have hnumber := hserved number hselecting
      exact absurd (hnumber.symm.trans (refused_of_mem hrefused)) Bool.false_ne_true

/-- A baseline shown was fetched for the baseline of its inputs, or it is the series of the first
prediction that matches. With rules visible there may be none, if no prediction matches. -/
theorem Installed.origin (h : run.Installed oracle inputs) :
    (∃ id urn range series,
      run.call? id = some (.timeseries urn range inputs.offset run.live.zone.name) ∧
        (oracle id (.timeseries urn range inputs.offset run.live.zone.name)).series =
          .ok series ∧ run.live.session.baseline = some series) ∨
      (run.live.session.rulesVisible = true ∧ ∃ urn, inputs.metricUrn = some urn ∧
        ((inputs.offset = .predicted ∧ ∃ prediction,
            Prediction.FirstMatch inputs.predictions inputs.rule urn prediction ∧
              run.live.session.baseline = some prediction.series) ∨
          ((∀ prediction ∈ inputs.predictions, ¬ prediction.Matches inputs.rule urn) ∧
            run.live.session.baseline = none))) := by
  obtain ⟨calls, hprescribed, hcalls⟩ := h.prescribed
  have hvisible : run.live.session.rulesVisible = inputs.rulesVisible := h.visible.symm
  generalize run.live.session.timeseries = measured at hprescribed
  generalize run.live.session.baseline = baseline at hprescribed ⊢
  cases hprescribed with
  | unpredicted hslice hrules hprediction =>
    exact .inr ⟨hvisible.trans hrules, _, hslice, .inr ⟨hprediction, rfl⟩⟩
  | predicted hslice hrules hprediction hpredicted =>
    exact .inr ⟨hvisible.trans hrules, _, hslice, .inl ⟨hpredicted, _, hprediction, rfl⟩⟩
  | compared hslice hrules hprediction hother hanswer =>
    exact .inl ⟨_, _, _, _, hcalls _ _ List.mem_cons_self, hanswer, rfl⟩
  | measured hslice hrules hanswer hanswer' =>
    exact .inl ⟨_, _, _, _, hcalls _ _ (List.mem_cons_of_mem _ List.mem_cons_self), hanswer', rfl⟩

/-- Selecting the baseline that is selected changes nothing, and there is nothing to change if no
selection failed. Take any view, operations that are begun one after the other, a move in which
series are installed, and the moves up to one after which nothing is in flight. If the selection of
a baseline then says that nothing changed, and the view is not errored, or no baseline selected
since series were installed came to nothing, then the series shown were made for this baseline. With
rules hidden, or another baseline than the predicted, it is the answer to a call for its series.
With rules visible it is the series of the first prediction that matches a rule and a slice, or
there is none because no prediction matches these; they are the rule and the slice selected unless
the view is errored. -/
theorem unchanged_baseline_shown (oracle : Oracle) (live : LiveView) (earlier : List Move)
    (move : Move) (later : List Move)
    (hturn : Along oracle (fun run move => run.inTurn move = true) { live := live }
      (earlier ++ move :: later))
    (hinstalled : ((after oracle { live := live } earlier).step oracle
      move).live.session.seriesRevision ≠
        (after oracle { live := live } earlier).live.session.seriesRevision) :
    let before := after oracle { live := live } earlier
    let final := before.after oracle (move :: later)
    let session := final.live.session
    final.flights = [] → ∀ offset prompt,
      (final.begun, .changed false) ∈
        (final.step oracle (.begin (.selectBaseline offset) prompt)).results →
      (session.errored = false ∨ Along oracle (fun run move =>
        move.selectsBaseline = true → final.refused run.begun = false) before (move :: later)) →
      ∃ inputs : Session.SeriesInputs, inputs.offset = offset ∧
        (session.errored = false → inputs.SameChoice session.seriesInputs) ∧
        ((∃ id urn range series,
            final.call? id = some (.timeseries urn range offset final.live.zone.name) ∧
              (oracle id (.timeseries urn range offset final.live.zone.name)).series =
                .ok series ∧ session.baseline = some series) ∨
          (session.rulesVisible = true ∧ ∃ urn, inputs.metricUrn = some urn ∧
            ((offset = .predicted ∧ ∃ prediction,
                Prediction.FirstMatch inputs.predictions inputs.rule urn prediction ∧
                  session.baseline = some prediction.series) ∨
              ((∀ prediction ∈ inputs.predictions, ¬ prediction.Matches inputs.rule urn) ∧
                session.baseline = none)))) := by
  intro before final session hidle offset prompt hresult hserved
  have hattuned : final.Attuned oracle none fun _ => True :=
    attuned_since_installed hturn hinstalled (along_of_forall (fun _ _ _ => trivial) _ _)
  have hselected : session.baselineOffset = offset :=
    offset_of_unchanged hattuned.numbered hidle hresult
  obtain ⟨inputs, hshown, hsame, hchoice⟩ : ∃ inputs, final.Installed oracle inputs ∧
      inputs.offset = session.baselineOffset ∧
        (session.errored = false → inputs.SameChoice session.seriesInputs) := by
    rcases hserved with herrored | hserved
    · exact hattuned.settled hidle (.inl herrored)
    · have hcounted : final.Attuned oracle none fun number => final.refused number = false :=
        attuned_since_installed hturn hinstalled hserved
      exact hcounted.settled hidle (.inr fun _ => id)
  obtain rfl : inputs.offset = offset := hsame.trans hselected
  exact ⟨inputs, rfl, hchoice, hshown.origin⟩

/-- A dimension selected after the selection of a baseline failed requests what the baseline did not
get. The view is still errored, and yet selecting the baseline again changes nothing, as its series
are shown. -/
theorem unchanged_baseline_shown_after_failure :
    let options : ViewOptions := { alertId := 7, range := some ⟨0, 1000⟩ }
    let live : LiveView := {
      zone := default, now := 2000, session := {
        alertId := 7, preview := false, edit := false, granularity := none
        dimensionExploration := false, alertYaml := none, savedYaml := none
        range := ⟨0, 1000⟩, duration := .custom, baselineOffset := .wo1w
        showDetails := true, isCurrent := true } }
    let oracle : Oracle := fun id call => match call with
      | .anomalies .. => .ok (.anomalies [
          { id := some 1, metricUrn := "thirdeye:metric:7", startTime := 0, endTime := 5 }])
      | _ => if id = 4 then .error (.fetch "late") else .ok (.series { timestamp := [id] })
    let always : Nat → Call → Bool := fun _ _ => true
    let earlier : List Move := [.begin .start always, .begin (.selectBaseline .wo2w) always]
    let move : Move := .begin (.selectDimension "All Dimensions") always
    let final := (after oracle { live := live } earlier).after oracle [move]
    let session := final.live.session
    LiveView.open? options 172800000 2000 default .empty = .ok live ∧
      final.refused 1 = true ∧ session.errored = true ∧
      (3, .changed false) ∈
        (final.step oracle (.begin (.selectBaseline .wo2w) always)).results ∧
      ∃ id urn range series,
        final.call? id = some (.timeseries urn range .wo2w final.live.zone.name) ∧
          (oracle id (.timeseries urn range .wo2w final.live.zone.name)).series = .ok series ∧
            session.baseline = some series := by
  intro options live oracle always earlier move final session
  have hturn : Along oracle (fun run move => run.inTurn move = true) { live := live }
      (earlier ++ [move]) := by
    dsimp only [earlier, move, live, oracle, always]
    decide +kernel
  have hinstalled : ((after oracle { live := live } earlier).step oracle
      move).live.session.seriesRevision ≠
        (after oracle { live := live } earlier).live.session.seriesRevision := by
    dsimp only [earlier, move, live, oracle, always]
    decide +kernel
  have hfinal : final.flights.isEmpty = true ∧ final.refused 1 = true ∧ session.errored = true ∧
      final.begun = 3 ∧ session.rulesVisible = false := by
    dsimp only [session, final, earlier, move, live, oracle, always]
    decide +kernel
  obtain ⟨hidle, hrefused, herrored, hbegun, hhidden⟩ := hfinal
  have hresult : (3, .changed false) ∈
      (final.step oracle (.begin (.selectBaseline .wo2w) always)).results := by
    dsimp only [final, earlier, move, live, oracle, always]
    decide +kernel
  have hserved : Along oracle (fun run move =>
      move.selectsBaseline = true → final.refused run.begun = false)
        (after oracle { live := live } earlier) [move] :=
    ⟨fun hselects => absurd hselects Bool.false_ne_true, trivial⟩
  obtain ⟨_, -, -, hfetched | ⟨hvisible, -⟩⟩ :=
    unchanged_baseline_shown oracle live earlier move [] hturn hinstalled (List.isEmpty_iff.1 hidle)
      .wo2w always (hbegun.symm ▸ hresult) (.inr hserved)
  · exact ⟨rfl, hrefused, herrored, hresult, hfetched⟩
  · exact absurd (hhidden.symm.trans hvisible) Bool.false_ne_true

/-- Selecting a baseline again does not make up for a selection that failed: nothing changes, and
the series shown are still those of the baseline before. -/
theorem failed_selection_keeps_baseline :
    let options : ViewOptions := { alertId := 7, range := some ⟨0, 1000⟩ }
    let live : LiveView := {
      zone := default, now := 2000, session := {
        alertId := 7, preview := false, edit := false, granularity := none
        dimensionExploration := false, alertYaml := none, savedYaml := none
        range := ⟨0, 1000⟩, duration := .custom, baselineOffset := .wo1w
        showDetails := true, isCurrent := true } }
    let oracle : Oracle := fun id call => match call with
      | .anomalies .. => .ok (.anomalies [
          { id := some 1, metricUrn := "thirdeye:metric:7", startTime := 0, endTime := 5 }])
      | .timeseries _ _ .wo2w _ => .error (.fetch "late")
      | _ => .ok (.series { timestamp := [id] })
    let always : Nat → Call → Bool := fun _ _ => true
    let started := after oracle { live := live } [.begin .start always]
    let final := started.after oracle [.begin (.selectBaseline .wo2w) always]
    let session := final.live.session
    LiveView.open? options 172800000 2000 default .empty = .ok live ∧
      started.results = [(0, .loaded .completed)] ∧ started.live.session.seriesRevision = 1 ∧
      final.flights = [] ∧
      (2, .changed false) ∈
        (final.step oracle (.begin (.selectBaseline .wo2w) always)).results ∧
      session.baseline = some { timestamp := [3] } ∧ session.rulesVisible = false ∧
      ¬∃ id urn range zone series, final.call? id = some (.timeseries urn range .wo2w zone) ∧
        (oracle id (.timeseries urn range .wo2w zone)).series = .ok series := by
  intro options live oracle always started final session
  refine ⟨rfl, ?_, ?_, List.isEmpty_iff.1 ?_, ?_, ?_, ?_, ?_⟩
  · dsimp only [started, live, oracle, always]
    decide +kernel
  · dsimp only [started, live, oracle, always]
    decide +kernel
  · dsimp only [final, started, live, oracle, always]
    decide +kernel
  · dsimp only [final, started, live, oracle, always]
    decide +kernel
  · dsimp only [session, final, started, live, oracle, always]
    decide +kernel
  · dsimp only [session, final, started, live, oracle, always]
    decide +kernel
  · rintro ⟨id, urn, range, zone, series, -, hanswer⟩
    cases hanswer

end Run

end AlertDetail
