import AlertDetail.Proofs.Draft.Comparison
import AlertDetail.Proofs.Sets.Passes

/-!
# Suppressed loads

A view whose last load failed loads nothing any more until somebody asks for it. Everything else can
still be done with it: rules, slices and baselines are selected, and their series arrive or fail; a
range is selected, which empties the sets of a draft; the configuration is changed, a missed anomaly
reported. None of this takes the failure back or calls for anomalies, in whatever order answers
arrive.
-/

namespace AlertDetail

/-- Whether an operation loads although the last load failed. -/
def Operation.insists : Operation → Bool
  | start | requestPreview => true
  | _ => false

/-- Whether a move begins an operation that loads although the last load failed. -/
def Move.insists : Move → Bool
  | begin operation _ => operation.insists
  | _ => false

/-- What comes next is no part of a load and calls for no anomalies. -/
structure Next.LoadsNothing (next : Next) : Prop where
  /-- An operation that waits is no load. -/
  stage : ∀ stage, next.stage? = some stage → stage.isLoad = false
  /-- What is called for are no anomalies. -/
  call : ∀ call stage, next = .ask call stage → call.isAnomaly = false

/-- An operation at its end loads nothing. -/
theorem Next.loadsNothing_finish (result : Result) : (Next.finish result).LoadsNothing :=
  ⟨fun _ hstage => (nomatch hstage), fun _ _ hask => (nomatch hask)⟩

/-- What is left to an operation that waits for series requested for another reason than a load
loads nothing. -/
theorem Next.OnlySeries.loadsNothing {next : Next} (h : next.OnlySeries)
    (hpurpose : ∀ stage, next.stage? = some stage →
      ∃ request, stage.request? = some request ∧ request.purpose ≠ .load) : next.LoadsNothing where
  stage stage hstage := by
    obtain ⟨request, hrequest, hother⟩ := hpurpose stage hstage
    rw [Stage.isLoad_of_request? hrequest]
    exact beq_false_of_ne hother
  call call stage hask := by
    subst hask
    exact Call.isAnomaly_of_isSeries h.1

namespace LiveView

/-- A step of an operation on an errored view: the view stays errored, each of its sets stays as it
is or is emptied, and nothing is loaded. -/
structure SuppressedStep (live : LiveView) (step : LiveView × Next) : Prop where
  /-- The failure is not taken back. -/
  errored : step.1.session.errored = true
  /-- The old set stays or is emptied. -/
  old : step.1.session.old = live.session.old ∨ step.1.session.old = []
  /-- So does the new one. -/
  new : step.1.session.new = live.session.new ∨ step.1.session.new = []
  /-- Nothing is loaded. -/
  next : step.2.LoadsNothing

variable {live prepared : LiveView}

/-- An operation that ends at once. -/
theorem SuppressedStep.finished (herrored : live.session.errored = true) (result : Result) :
    SuppressedStep live (live, .finish result) :=
  ⟨herrored, .inl rfl, .inl rfl, Next.loadsNothing_finish result⟩

/-- A step from a view whose sets were kept or emptied. -/
theorem SuppressedStep.of_prepared {step : LiveView × Next} (h : SuppressedStep prepared step)
    (hold : prepared.session.old = live.session.old ∨ prepared.session.old = [])
    (hnew : prepared.session.new = live.session.new ∨ prepared.session.new = []) :
    SuppressedStep live step where
  errored := h.errored
  old := h.old.elim (fun hsame => by rwa [hsame]) .inr
  new := h.new.elim (fun hsame => by rwa [hsame]) .inr
  next := h.next

/-- A step beside the sets that loads nothing. -/
theorem SuppressedStep.of_aside {step : LiveView × Next} (h : Aside live step)
    (herrored : live.session.errored = true) (hnext : step.2.LoadsNothing) :
    SuppressedStep live step :=
  ⟨h.errored herrored, .inl (congrArg SetState.old h.sets), .inl (congrArg SetState.new h.sets),
    hnext⟩

/-- Selections on an errored view only request series. -/
theorem requestSeries_suppressed (herrored : live.session.errored = true) {purpose : Purpose}
    (hpurpose : purpose ≠ .load) : SuppressedStep live (live.requestSeries purpose) := by
  obtain ⟨-, -, hstages⟩ := (live.requestSeries_start purpose).next
  refine .of_aside (requestSeries_aside live purpose) herrored
    ((requestSeries_onlySeries live purpose).loadsNothing fun stage hstage => ?_)
  obtain ⟨urn, hrequest⟩ := hstages stage hstage
  exact ⟨_, hrequest, hpurpose⟩

/-- An answer to an operation that is no load does not begin one. -/
theorem resume_suppressed (herrored : live.session.errored = true) (first : Bool)
    (answer : Answer) {stage : Stage} (hstage : stage.isLoad = false) :
    SuppressedStep live (live.resume first answer stage) := by
  have hpass : stage.isPass = false := Bool.eq_false_iff.2 fun hpass =>
    absurd (hstage.symm.trans (Stage.isLoad_of_isPass hpass)) Bool.false_ne_true
  refine .of_aside (live.resume_aside first answer hpass) herrored ?_
  rcases stage.pass_or_series_or_report with h | ⟨request, hrequest⟩ | ⟨report, rfl⟩
  · exact absurd (hpass.symm.trans h) Bool.false_ne_true
  · obtain ⟨-, -, hnext⟩ := (live.resume_series first answer hrequest).next
    refine (live.resume_onlySeries first answer hrequest).loadsNothing fun stage' hstage' =>
      ⟨request, (hnext stage' hstage').trans hrequest, fun hload => ?_⟩
    rw [Stage.isLoad_of_request? hrequest, hload] at hstage
    cases hstage
  · obtain ⟨after, result, hreport, -⟩ := live.resume_report first answer report
    rw [hreport]
    exact Next.loadsNothing_finish result

/-- A load that nobody asked for is suppressed. -/
theorem beginTriggered_suppressed (herrored : live.session.errored = true) (busy : Bool) :
    SuppressedStep live (live.beginTriggered busy) := by
  unfold beginTriggered
  rw [if_pos herrored]
  exact .finished herrored _

/-- A range that is selected is only shown. -/
theorem selectRange_suppressed (herrored : live.session.errored = true) (busy : Bool)
    (start stop : Int) (duration : RangePreset) :
    SuppressedStep live (live.selectRange busy start stop duration) := by
  unfold selectRange
  split
  · next range hrange =>
    have hshown : (live.update fun session =>
        { session with range := range, duration := duration }).session.errored = true := herrored
    unfold showRange
    dsimp only
    split
    · split
      · have hcleared : ((live.update fun session =>
            { session with range := range, duration := duration }).update
              Session.clear).session.errored = true := herrored
        exact (beginTriggered_suppressed hcleared busy).of_prepared (.inr rfl) (.inr rfl)
      · exact (beginTriggered_suppressed hshown busy).of_prepared (.inl rfl) (.inl rfl)
    · exact (SuppressedStep.finished hshown _).of_prepared (.inl rfl) (.inl rfl)
  · exact .finished herrored _

/-- How an operation begins on an errored view, unless it loads although the last load failed. -/
theorem begin_suppressed (herrored : live.session.errored = true) (busy : Bool)
    {operation : Operation} (hoperation : operation.insists = false) :
    SuppressedStep live (live.begin busy operation) := by
  -- what an operation prepares before it requests series leaves the failure and the sets alone
  have hseries {prepared : LiveView} {purpose : Purpose}
      (hprepared : prepared.session.errored = live.session.errored)
      (hold : prepared.session.old = live.session.old)
      (hnew : prepared.session.new = live.session.new) (hpurpose : purpose ≠ .load) :
      SuppressedStep live (prepared.requestSeries purpose) :=
    (requestSeries_suppressed (hprepared.trans herrored) hpurpose).of_prepared (.inl hold)
      (.inl hnew)
  have hfinished {prepared : LiveView} (hprepared : prepared.session.errored = live.session.errored)
      (hold : prepared.session.old = live.session.old)
      (hnew : prepared.session.new = live.session.new) (result : Result) :
      SuppressedStep live (prepared, .finish result) :=
    (SuppressedStep.finished (hprepared.trans herrored) result).of_prepared (.inl hold) (.inl hnew)
  cases operation with
  | start => cases hoperation
  | requestPreview => cases hoperation
  | triggerFetch => exact beginTriggered_suppressed herrored busy
  | setYaml yaml => refine hfinished ?_ ?_ ?_ _ <;> rfl
  | selectRule rule => exact hseries rfl rfl rfl Purpose.noConfusion
  | selectDimension label =>
    unfold begin
    dsimp only
    split
    · exact .finished herrored _
    · exact hseries rfl rfl rfl Purpose.noConfusion
  | selectBaseline offset =>
    unfold begin
    dsimp only
    split
    · exact .finished herrored _
    · exact hseries rfl rfl rfl Purpose.noConfusion
  | selectRange start stop duration => exact selectRange_suppressed herrored busy _ _ _
  | selectPreset preset =>
    unfold begin
    dsimp only
    split
    · exact .finished herrored _
    · exact selectRange_suppressed herrored busy _ _ _
  | submitReport form =>
    unfold begin submit
    dsimp only
    split
    · refine ⟨herrored, .inl rfl, .inl rfl, ⟨fun stage hstage => ?_, fun call stage hask => ?_⟩⟩
      · cases hstage
        rfl
      · cases hask
        rfl
    · refine hfinished ?_ ?_ ?_ _ <;> rfl
    · refine hfinished ?_ ?_ ?_ _ <;> rfl

end LiveView

namespace Run

/-- A run on an errored view since it had made some calls and held some sets: nobody loads, no
anomalies were called for since, and each set is as it was or empty. -/
structure Suppressed (since : Nat) (old new : List Anomaly) (run : Run) : Prop where
  /-- The view stays errored. -/
  errored : run.live.session.errored = true
  /-- No load is in flight. -/
  idle : ∀ flight ∈ run.flights, flight.stage.isLoad = false
  /-- The old set is as it was or empty. -/
  old : run.live.session.old = old ∨ run.live.session.old = []
  /-- So is the new one. -/
  new : run.live.session.new = new ∨ run.live.session.new = []
  /-- The calls made before are among those made. -/
  made : since ≤ run.calls.length
  /-- No anomalies were called for since. -/
  calls : run.callsOf Call.isAnomaly since = []

variable {run : Run} {since : Nat} {old new : List Anomaly}

/-- An operation that goes on beside others without loading anything keeps this. -/
theorem Suppressed.hold (h : run.Suppressed since old new) {others : List Flight}
    (hothers : ∀ flight ∈ others, flight ∈ run.flights) {step : LiveView × Next}
    (hstep : run.live.SuppressedStep step) (operation : Nat) (waiting : List Nat) :
    ({ run with live := step.1, flights := others }.hold operation waiting
      step.2).Suppressed since old new where
  errored := by
    rw [live_hold]
    exact hstep.errored
  idle flight hflight := by
    rcases mem_flights_hold hflight with hother | ⟨-, hstage⟩
    · exact h.idle flight (hothers flight hother)
    · exact hstep.next.stage _ hstage
  old := by
    rw [live_hold]
    exact hstep.old.elim (fun hsame => by rw [hsame]; exact h.old) .inr
  new := by
    rw [live_hold]
    exact hstep.new.elim (fun hsame => by rw [hsame]; exact h.new) .inr
  made := Nat.le_trans h.made
    (calls_length_hold { run with live := step.1, flights := others } operation waiting step.2)
  calls := (callsOf_hold { run with live := step.1, flights := others } Call.isAnomaly h.made
    operation waiting hstep.next.call).trans h.calls

/-- It is kept while an operation goes on. -/
theorem Suppressed.keeps (oracle : Oracle) (operation : Nat) (others : List Flight) :
    Keeps oracle operation others (Suppressed since old new) where
  take := by
    intro run stage waiting id call hflights _ _ h
    have hstage := h.idle _ (last_mem_flights hflights)
    rw [taken_eq]
    exact h.hold (fun _ => mem_flights_of_others hflights)
      (LiveView.resume_suppressed h.errored _ _ hstage) operation _
  double := by
    intro run request id hflights h
    have hlength := calls_length_hold { run with flights := others } operation []
      (.ask request.baselineCall (.both request))
    refine ⟨h.errored, fun flight hflight => ?_, h.old, h.new, Nat.le_trans h.made hlength, ?_⟩
    · rcases mem_flights_doubled.1 hflight with hother | rfl
      · exact h.idle flight (mem_flights_of_others hflights hother)
      · have hmeasured := h.idle _ (last_mem_flights hflights)
        exact hmeasured
    · have hrecord := { run with flights := others }.callsOf_record Call.isAnomaly h.made
        request.baselineCall
      exact hrecord.trans ((List.append_nil _).trans h.calls)

/-- An operation that begins keeps it, unless it loads although the last load failed. -/
theorem Suppressed.started (h : run.Suppressed since old new) {operation : Operation}
    (hoperation : operation.insists = false) : (run.started operation).Suppressed since old new :=
  h.hold (fun _ => id) (LiveView.begin_suppressed h.errored run.busy hoperation) run.begun []

/-- It does not depend on the clock, the notices and the remembered views. -/
theorem Suppressed.aside (h : run.Suppressed since old new) {live : LiveView}
    (hsession : live.session = run.live.session) :
    { run with live := live }.Suppressed since old new := by
  refine ⟨?_, h.idle, ?_, ?_, h.made, h.calls⟩ <;> dsimp only <;> rw [hsession]
  · exact h.errored
  · exact h.old
  · exact h.new

/-- Every move keeps it that begins no operation which loads although the last load failed. -/
theorem Suppressed.step (h : run.Suppressed since old new) (hrun : run.Numbered) (oracle : Oracle)
    {move : Move} (hmove : move.insists = false) :
    (run.step oracle move).Suppressed since old new := by
  cases move with
  | begin operation prompt =>
    exact (Suppressed.keeps oracle run.begun run.flights).begin prompt (h.started hmove)
  | settle id prompt =>
    refine hrun.settle_induct prompt h fun hflights _ => ⟨Suppressed.keeps oracle _ _, ?_⟩
    exact ⟨h.errored, fun flight hflight => h.idle flight ((mem_rotate hflights flight).1 hflight),
      h.old, h.new, h.made, h.calls⟩
  | setClock now => exact h.aside rfl
  | drain => exact h.aside rfl
  | look => exact h.aside rfl

/-- So does every list of such moves. -/
theorem Suppressed.after (h : run.Suppressed since old new) (hrun : run.AtRest) (oracle : Oracle)
    {moves : List Move} (hmoves : ∀ move ∈ moves, move.insists = false) :
    (run.after oracle moves).Suppressed since old new :=
  hrun.keeps (fun hrest hmove h => h.step hrest.numbered oracle hmove) hmoves h

/-- An errored view shows so and stays errored until somebody insists on a load. Take any run after
which no operation is in flight and the view is errored, and go on with any moves that begin neither
the first load nor a requested preview, in any order and with any answers. After them, and so after
every one of them, the view is errored and shown as such, no anomalies and no evaluation were called
for, and each set is as it was or empty. -/
theorem errored_until_insisted (oracle : Oracle) (live : LiveView) (earlier : List Move)
    (hidle : (after oracle { live := live } earlier).flights = [])
    (herrored : (after oracle { live := live } earlier).live.session.errored = true)
    {later : List Move} (hlater : ∀ move ∈ later, move.insists = false) :
    let run := after oracle { live := live } earlier
    let before := run.live.session
    let final := run.after oracle later
    let session := final.live.session
    session.errored = true ∧ session.viewState = .errored ∧
      final.live.chartView.1.viewState = .errored ∧
      final.callsOf Call.isAnomaly run.calls.length = [] ∧
      (session.old = before.old ∨ session.old = []) ∧
      (session.new = before.new ∨ session.new = []) := by
  intro run before final session
  have hrun : run.Suppressed run.calls.length before.old before.new := by
    refine ⟨herrored, fun flight hflight => ?_, .inl rfl, .inl rfl, Nat.le_refl _,
      run.callsOf_length _⟩
    rw [hidle] at hflight
    cases hflight
  have hfinal : final.Suppressed run.calls.length before.old before.new :=
    hrun.after ((atRest_new live).after oracle earlier) oracle hlater
  have hstate : session.viewState = .errored := by
    unfold Session.viewState ViewState.resolve
    exact if_pos hfinal.errored
  exact ⟨hfinal.errored, hstate, hstate, hfinal.calls, hfinal.old, hfinal.new⟩

/-- The second preview of a draft fails. Then a baseline is selected, whose series fail as well, and
another range, which empties the sets and asks for a load that is suppressed. -/
theorem errored_until_insisted_new_range :
    let live : LiveView := {
      zone := default, now := 2000, session := {
        alertId := 7, preview := true, edit := false, granularity := none
        dimensionExploration := false, alertYaml := some "draft", savedYaml := none
        range := ⟨0, 1000⟩, duration := .custom, baselineOffset := .predicted } }
    let evaluation : Evaluation := {
      anomalies := [{ metricUrn := "thirdeye:metric:7", startTime := 1, endTime := 2 }]
      predictions := [{ detectorName := "mean:rule", metricUrn := "thirdeye:metric:7" }]
      diagnostics := [("0", .obj [("thirdeye:metric:7", .null)])] }
    let oracle : Oracle := fun id _ =>
      if id = 1 then .ok (.evaluation evaluation) else .error (.fetch "unavailable")
    let always : Nat → Call → Bool := fun _ _ => true
    let earlier : List Move := [.begin .requestPreview always, .begin .requestPreview always]
    let later : List Move := [.begin (.selectBaseline .wo2w) always,
      .begin (.selectRange 0 500 .custom) always, .look]
    let run := after oracle { live := live } earlier
    let final := run.after oracle later
    run.live.session.errored = true ∧ run.live.session.old = evaluation.anomalies ∧
      final.calls.length = 3 ∧ final.results = [(0, .loaded .completed), (1, .loaded .failed),
        (2, .refused (.fetch "unavailable")), (3, .loaded .suppressed)] ∧
      final.live.session.old = [] ∧
      ((after oracle { live := live } earlier).after oracle later).live.session.errored = true ∧
      ((after oracle { live := live } earlier).after oracle later).callsOf Call.isAnomaly
        (after oracle { live := live } earlier).calls.length = [] := by
  intro live evaluation oracle always earlier later run final
  have hbefore : (after oracle { live := live } earlier).flights.isEmpty = true ∧
      (after oracle { live := live } earlier).live.session.errored = true := by
    dsimp only [earlier, live, oracle, evaluation, always]
    decide +kernel
  have hlater : ∀ move ∈ later, move.insists = false := by
    simp [later, Move.insists, Operation.insists]
  obtain ⟨herrored, -, -, hcalls, -⟩ := errored_until_insisted oracle live earlier
    (List.isEmpty_iff.1 hbefore.1) hbefore.2 hlater
  have hsets : run.live.session.errored = true ∧ run.live.session.old = evaluation.anomalies ∧
      final.calls.length = 3 ∧ final.results = [(0, .loaded .completed), (1, .loaded .failed),
        (2, .refused (.fetch "unavailable")), (3, .loaded .suppressed)] ∧
      final.live.session.old = [] := by
    dsimp only [final, run, later, earlier, live, oracle, evaluation, always]
    decide +kernel
  exact ⟨hsets.1, hsets.2.1, hsets.2.2.1, hsets.2.2.2.1, hsets.2.2.2.2, herrored, hcalls⟩

end Run

end AlertDetail
