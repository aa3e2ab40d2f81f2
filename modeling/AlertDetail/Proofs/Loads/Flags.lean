import AlertDetail.Proofs.Run.Preparation
import AlertDetail.Proofs.Sets.Passes

/-!
# What is said to be loading

A view says whether anomalies and whether series are being loaded. Operations set and clear both in
several places: a pass sets the first where it begins and clears it where its anomalies are merged,
the latest request sets the second where it is issued and clears it where its series are installed,
and a failure clears both, whichever operation failed. A superseded request clears nothing. So a
view may say less than what is under way, after a failure, but never more: neither is said longer
than the operation that it is said for is in flight.
-/

namespace AlertDetail

namespace LiveView

/-- What a step of an operation makes of what a view says to be loading. The operation begins, or it
took an answer at a stage. What is said afterwards is said for what it waits for next, or was said
before for something else than what it waited for. -/
structure FlagStep (live : LiveView) (answered : Option Stage) (step : LiveView × Next) : Prop where
  /-- Anomalies are said to be loading for a pass. -/
  anomalies : step.1.session.isLoading = true →
    (∃ stage, step.2.stage? = some stage ∧ stage.isPass = true) ∨
      live.session.isLoading = true ∧ ∀ stage, answered = some stage → stage.isPass = false
  /-- Series are said to be loading for the latest request. -/
  series : step.1.session.isLoadingSeries = true →
    (∃ stage request, step.2.stage? = some stage ∧ stage.request? = some request ∧
        request.ticket = step.1.ticket) ∨
      live.session.isLoadingSeries = true ∧ step.1.ticket = live.ticket ∧
        ∀ stage request, answered = some stage → stage.request? = some request →
          request.ticket ≠ live.ticket

variable {live prepared : LiveView} {answered : Option Stage} {step : LiveView × Next}

/-- After a failure nothing is said to be loading. -/
theorem FlagStep.fail (live after : LiveView) (answered : Option Stage) (cause : ChartError)
    (next : Next) : FlagStep live answered (after.fail cause, next) where
  anomalies h := absurd h Bool.false_ne_true
  series h := absurd h Bool.false_ne_true

/-- A step from a view that says the same and has issued the same requests. -/
theorem FlagStep.of_same (h : FlagStep prepared answered step)
    (hanomalies : prepared.session.isLoading = live.session.isLoading)
    (hseries : prepared.session.isLoadingSeries = live.session.isLoadingSeries)
    (hticket : prepared.ticket = live.ticket) : FlagStep live answered step where
  anomalies hloading := by
    rw [← hanomalies]
    exact h.anomalies hloading
  series hloading := by
    rw [← hseries, ← hticket]
    exact h.series hloading

/-- An operation that ends where it begins says nothing new. -/
theorem FlagStep.finished (result : Result) : FlagStep live none (live, .finish result) where
  anomalies h := .inr ⟨h, fun _ hstage => nomatch hstage⟩
  series h := .inr ⟨h, rfl, fun _ _ hstage => nomatch hstage⟩

/-- A completed request takes back what is said of series if it is the latest. -/
theorem finishSeries_flags (live : LiveView) (request : SeriesRequest)
    (measured baseline : Option TimeSeries) {stage : Stage}
    (hstage : stage.request? = some request) :
    FlagStep live (some stage) (live.finishSeries request measured baseline) := by
  have hpass := Stage.isPass_of_request? hstage
  unfold finishSeries install
  by_cases hlatest : live.ticket = request.ticket
  · rw [if_pos hlatest]
    refine ⟨fun h => .inr ⟨h, fun stage' hsame => ?_⟩, fun h => absurd h Bool.false_ne_true⟩
    cases hsame
    exact hpass
  · rw [if_neg hlatest]
    refine ⟨fun h => .inr ⟨h, fun stage' hsame => ?_⟩, fun h =>
      .inr ⟨h, rfl, fun stage' request' hsame hrequest hticket => ?_⟩⟩
    · cases hsame
      exact hpass
    · cases hsame
      obtain rfl := Option.some.inj (hstage.symm.trans hrequest)
      exact hlatest hticket.symm

/-- A request for series that is complete where it begins leaves nothing said of series. -/
theorem finishSeries_issued_flags (live : LiveView) (purpose : Purpose) (urn : String)
    (measured baseline : Option TimeSeries) :
    FlagStep live none
      (live.issued.finishSeries (live.nextRequest purpose urn) measured baseline) := by
  have hlatest : live.issued.ticket = (live.nextRequest purpose urn).ticket := rfl
  unfold finishSeries install
  rw [if_pos hlatest]
  exact ⟨fun h => .inr ⟨h, fun _ hstage => nomatch hstage⟩, fun h => absurd h Bool.false_ne_true⟩

/-- An operation that requests series says so, and waits for them as those of the latest request. -/
theorem requestSeries_flags (live : LiveView) (purpose : Purpose) :
    FlagStep live none (live.requestSeries purpose) := by
  have hstart := live.requestSeries_start purpose
  generalize live.requestSeries purpose = step at hstart ⊢
  cases hstart with
  | missing => exact .fail _ _ _ _ _
  | unpredicted => exact finishSeries_issued_flags _ _ _ _ _
  | predicted => exact finishSeries_issued_flags _ _ _ _ _
  | compared =>
    exact ⟨fun h => .inr ⟨h, fun _ hstage => nomatch hstage⟩, fun _ => .inl ⟨_, _, rfl, rfl, rfl⟩⟩
  | measured =>
    exact ⟨fun h => .inr ⟨h, fun _ hstage => nomatch hstage⟩, fun _ => .inl ⟨_, _, rfl, rfl, rfl⟩⟩

/-- A pass that begins says so, and waits for anomalies unless it fails. -/
theorem beginPass_flags (live : LiveView) (reentered : Bool) :
    FlagStep live none (live.beginPass reentered) := by
  have hstart := live.beginPass_start reentered
  generalize live.beginPass reentered = step at hstart ⊢
  cases hstart with
  | failed => exact .fail _ _ _ _ _
  | evaluation =>
    exact ⟨fun _ => .inl ⟨_, rfl, rfl⟩, fun h => .inr ⟨h, rfl, fun _ _ hstage => nomatch hstage⟩⟩
  | detected =>
    exact ⟨fun _ => .inl ⟨_, rfl, rfl⟩, fun h => .inr ⟨h, rfl, fun _ _ hstage => nomatch hstage⟩⟩

/-- A load that goes on from merged anomalies, which are no longer said to be loading. -/
theorem FlagStep.of_merged (h : FlagStep prepared none step)
    (hmerged : prepared.session.isLoading = false)
    (hseries : prepared.session.isLoadingSeries = live.session.isLoadingSeries)
    (hticket : prepared.ticket = live.ticket) {stage : Stage} (hstage : stage.isPass = true) :
    FlagStep live (some stage) step where
  anomalies hloading := by
    rcases h.anomalies hloading with hpass | ⟨hbefore, -⟩
    · exact .inl hpass
    · exact absurd (hmerged.symm.trans hbefore) Bool.false_ne_true
  series hloading := by
    rcases h.series hloading with hlatest | ⟨hbefore, hsame, -⟩
    · exact .inl hlatest
    · refine .inr ⟨hseries ▸ hbefore, hsame.trans hticket, fun stage' request hsame hrequest => ?_⟩
      cases hsame
      have hnone := Stage.isPass_of_request? hrequest
      exact absurd (hnone.symm.trans hstage) Bool.false_ne_true

/-- Merging ends the loading of anomalies and says nothing of series. -/
theorem merged_flags (live : LiveView) (pass : Pass) (choice : SliceChoice) (result : FetchResult) :
    (live.merged pass choice result).session.isLoading = false ∧
      (live.merged pass choice result).session.isLoadingSeries = live.session.isLoadingSeries := by
  rw [merged_session, merge_apply_eq]
  exact ⟨rfl, rfl⟩

/-- The end of a pass ends the loading of anomalies, unless the second pass begins. -/
theorem finishPass_flags (live : LiveView) (pass : Pass) (choice : SliceChoice)
    (result : FetchResult) {stage : Stage} (hstage : stage.isPass = true) :
    FlagStep live (some stage) (live.finishPass pass choice result) := by
  obtain ⟨hloading, hseries⟩ := live.merged_flags pass choice result
  have hend := live.finishPass_end pass choice result
  generalize live.finishPass pass choice result = step at hend ⊢
  cases hend with
  | again => exact (beginPass_flags _ true).of_merged hloading hseries rfl hstage
  | missing => exact .fail _ _ _ _ _
  | series => exact (requestSeries_flags _ .load).of_merged hloading hseries rfl hstage

/-- A step that keeps the view and waits for the series of the same request. -/
theorem FlagStep.same_request {stage stage' : Stage} {request : SeriesRequest} {next : Next}
    (hstage : stage.request? = some request) (hnext : next.stage? = some stage')
    (hstage' : stage'.request? = some request) : FlagStep live (some stage) (live, next) where
  anomalies h := by
    refine .inr ⟨h, fun stage'' hsame => ?_⟩
    cases hsame
    exact Stage.isPass_of_request? hstage
  series h := by
    by_cases hlatest : request.ticket = live.ticket
    · exact .inl ⟨stage', request, hnext, hstage', hlatest⟩
    · refine .inr ⟨h, rfl, fun stage'' request' hsame hrequest => ?_⟩
      cases hsame
      obtain rfl := Option.some.inj (hstage.symm.trans hrequest)
      exact hlatest

/-- What taking an answer makes of what is said to be loading. -/
theorem resume_flags (live : LiveView) (first : Bool) (answer : Answer) (stage : Stage) :
    FlagStep live (some stage) (live.resume first answer stage) := by
  rcases stage.pass_or_series_or_report with hpass | ⟨request, hrequest⟩ | ⟨report, rfl⟩
  · have hanswer := live.resume_passAnswer first answer hpass
    generalize live.resume first answer stage = step at hanswer ⊢
    cases hanswer with
    | failed => exact .fail _ _ _ _ _
    | reads =>
      refine ⟨fun _ => .inl ⟨_, rfl, rfl⟩, fun h => .inr ⟨h, rfl, fun stage request hsame => ?_⟩⟩
      cases hsame
      exact fun hrequest => nomatch hrequest
    | evaluated => exact finishPass_flags _ _ _ _ hpass
    | detected => exact finishPass_flags _ _ _ _ hpass
  · have hanswer := live.resume_series first answer hrequest
    generalize live.resume first answer stage = step at hanswer ⊢
    cases hanswer with
    | failed => exact .fail _ _ _ _ _
    | measured => exact .same_request hrequest rfl hrequest
    | bothMeasured => exact .same_request hrequest rfl hrequest
    | bothBaseline => exact .same_request hrequest rfl hrequest
    | lastMeasured =>
      cases hrequest
      exact finishSeries_flags _ _ _ _ rfl
    | lastBaseline =>
      cases hrequest
      exact finishSeries_flags _ _ _ _ rfl
  · have hreport : (live.resume first answer (.report report)).1.session.isLoading =
          live.session.isLoading ∧
        (live.resume first answer (.report report)).1.session.isLoadingSeries =
          live.session.isLoadingSeries ∧
        (live.resume first answer (.report report)).1.ticket = live.ticket := by
      unfold resume takeReport
      cases answer.accepted <;> exact ⟨rfl, rfl, rfl⟩
    obtain ⟨hanomalies, hseries, hticket⟩ := hreport
    refine ⟨fun h => .inr ⟨hanomalies ▸ h, fun stage hsame => ?_⟩,
      fun h => .inr ⟨hseries ▸ h, hticket, fun stage request hsame => ?_⟩⟩
    · cases hsame
      rfl
    · cases hsame
      exact fun hrequest => nomatch hrequest

/-- What an operation prepares says nothing of what is being loaded. -/
theorem Prepared.flags (h : Prepared live prepared) :
    prepared.session.isLoading = live.session.isLoading ∧
      prepared.session.isLoadingSeries = live.session.isLoadingSeries ∧
      prepared.ticket = live.ticket := by
  cases h <;> exact ⟨rfl, rfl, rfl⟩

/-- What the beginning of an operation makes of what is said to be loading. -/
theorem begin_flags (live : LiveView) (busy : Bool) (operation : Operation) :
    FlagStep live none (live.begin busy operation) := by
  have hstart := live.begin_start busy operation
  generalize live.begin busy operation = step at hstart ⊢
  have hsame {prepared : LiveView} {step : LiveView × Next} (hprepared : Prepared live prepared)
      (hstep : FlagStep prepared none step) : FlagStep live none step := by
    obtain ⟨hanomalies, hseries, hticket⟩ := hprepared.flags
    exact hstep.of_same hanomalies hseries hticket
  cases hstart with
  | finished hprepared => exact hsame hprepared (.finished _)
  | load hprepared => exact hsame hprepared (beginPass_flags _ false)
  | series hprepared => exact hsame hprepared (requestSeries_flags _ _)
  | report hprepared =>
    exact hsame hprepared ⟨fun h => .inr ⟨h, fun _ hstage => nomatch hstage⟩,
      fun h => .inr ⟨h, rfl, fun _ _ hstage => nomatch hstage⟩⟩

end LiveView

namespace Run

/-- Whatever is said to be loading is waited for by an operation in flight. -/
structure Flagged (run : Run) : Prop where
  /-- Anomalies are said to be loading while a pass is in flight. -/
  anomalies : run.live.session.isLoading = true → ∃ flight ∈ run.flights, flight.stage.isPass = true
  /-- Series are said to be loading while those of the latest request are waited for. -/
  series : run.live.session.isLoadingSeries = true → ∃ flight ∈ run.flights, ∃ request,
    flight.stage.request? = some request ∧ request.ticket = run.live.ticket

variable {run : Run}

/-- An operation that goes on is in flight at its next stage. -/
theorem exists_mem_flights_hold (run : Run) (operation : Nat) (waiting : List Nat) {next : Next}
    {stage : Stage} (h : next.stage? = some stage) :
    ∃ flight ∈ (run.hold operation waiting next).flights, flight.stage = stage := by
  cases next with
  | ask call stage' =>
    cases h
    exact ⟨_, mem_flights_park.2 (.inr rfl), rfl⟩
  | wait stage' =>
    cases h
    exact ⟨_, mem_flights_park.2 (.inr rfl), rfl⟩
  | finish result => cases h

/-- An operation that goes on beside others keeps this, if what was said before was said for one of
the others or for what the operation waited for. -/
theorem Flagged.hold {others : List Flight} {answered : Option Stage} {step : LiveView × Next}
    (h : LiveView.FlagStep run.live answered step)
    (hanomalies : run.live.session.isLoading = true →
      (∃ flight ∈ others, flight.stage.isPass = true) ∨
        ∃ stage, answered = some stage ∧ stage.isPass = true)
    (hseries : run.live.session.isLoadingSeries = true →
      (∃ flight ∈ others, ∃ request, flight.stage.request? = some request ∧
          request.ticket = run.live.ticket) ∨
        ∃ stage request, answered = some stage ∧ stage.request? = some request ∧
          request.ticket = run.live.ticket)
    (operation : Nat) (waiting : List Nat) :
    ({ run with live := step.1, flights := others }.hold operation waiting step.2).Flagged := by
  let released : Run := { run with live := step.1, flights := others }
  have hnext {stage : Stage} (hstage : step.2.stage? = some stage) :=
    released.exists_mem_flights_hold operation waiting hstage
  have hothers {flight : Flight} (hflight : flight ∈ released.flights) :=
    mem_hold_of_mem operation waiting step.2 hflight
  refine ⟨fun hloading => ?_, fun hloading => ?_⟩ <;> rw [live_hold] at hloading
  · rcases h.anomalies hloading with ⟨stage, hstage, hpass⟩ | ⟨hbefore, hnone⟩
    · obtain ⟨flight, hflight, rfl⟩ := hnext hstage
      exact ⟨flight, hflight, hpass⟩
    · rcases hanomalies hbefore with ⟨flight, hflight, hpass⟩ | ⟨stage, hsome, hpass⟩
      · exact ⟨flight, hothers hflight, hpass⟩
      · exact absurd ((hnone stage hsome).symm.trans hpass) Bool.false_ne_true
  · rw [live_hold]
    rcases h.series hloading with ⟨stage, request, hstage, hrequest, hticket⟩ |
      ⟨hbefore, hsame, hnone⟩
    · obtain ⟨flight, hflight, rfl⟩ := hnext hstage
      exact ⟨flight, hflight, request, hrequest, hticket⟩
    · rcases hseries hbefore with ⟨flight, hflight, request, hrequest, hticket⟩ |
        ⟨stage, request, hsome, hrequest, hticket⟩
      · exact ⟨flight, hothers hflight, request, hrequest, hticket.trans hsame.symm⟩
      · exact absurd hticket (hnone stage request hsome hrequest)

/-- It is kept while an operation goes on. -/
theorem Flagged.keeps (oracle : Oracle) (operation : Nat) (others : List Flight) :
    Keeps oracle operation others Flagged where
  take := by
    intro run stage waiting id call hflights _ _ h
    rw [taken_eq]
    refine .hold (run.live.resume_flags _ _ stage) (fun hloading => ?_) (fun hloading => ?_) _ _
    · obtain ⟨flight, hflight, hpass⟩ := h.anomalies hloading
      rcases (mem_flights_concat hflights).1 hflight with hother | rfl
      · exact .inl ⟨flight, hother, hpass⟩
      · exact .inr ⟨stage, rfl, hpass⟩
    · obtain ⟨flight, hflight, request, hrequest, hticket⟩ := h.series hloading
      rcases (mem_flights_concat hflights).1 hflight with hother | rfl
      · exact .inl ⟨flight, hother, request, hrequest, hticket⟩
      · exact .inr ⟨stage, request, rfl, hrequest, hticket⟩
  double := by
    intro run request id hflights h
    refine ⟨fun hloading => ?_, fun hloading => ?_⟩
    · obtain ⟨flight, hflight, hpass⟩ := h.anomalies hloading
      rcases (mem_flights_concat hflights).1 hflight with hother | rfl
      · exact ⟨flight, mem_flights_doubled.2 (.inl hother), hpass⟩
      · cases hpass
    · obtain ⟨flight, hflight, request', hrequest, hticket⟩ := h.series hloading
      rcases (mem_flights_concat hflights).1 hflight with hother | rfl
      · exact ⟨flight, mem_flights_doubled.2 (.inl hother), request', hrequest, hticket⟩
      · exact ⟨_, mem_flights_doubled.2 (.inr rfl), request', hrequest, hticket⟩

/-- An operation that begins keeps it. -/
theorem Flagged.started (h : run.Flagged) (operation : Operation) :
    (run.started operation).Flagged :=
  .hold (run.live.begin_flags run.busy operation) (fun hloading => .inl (h.anomalies hloading))
    (fun hloading => .inl (h.series hloading)) run.begun []

/-- Every move keeps it. -/
theorem Flagged.step (h : run.Flagged) (hrun : run.Numbered) (oracle : Oracle) (move : Move) :
    (run.step oracle move).Flagged := by
  cases move with
  | begin operation prompt =>
    exact (Flagged.keeps oracle run.begun run.flights).begin prompt (h.started operation)
  | settle id prompt =>
    refine hrun.settle_induct prompt h fun hflights _ => ⟨Flagged.keeps oracle _ _, ?_⟩
    have hmem := mem_rotate hflights
    refine ⟨fun hloading => ?_, fun hloading => ?_⟩
    · obtain ⟨flight, hflight, hpass⟩ := h.anomalies hloading
      exact ⟨flight, (hmem flight).2 hflight, hpass⟩
    · obtain ⟨flight, hflight, hrequest⟩ := h.series hloading
      exact ⟨flight, (hmem flight).2 hflight, hrequest⟩
  | setClock now => exact ⟨h.anomalies, h.series⟩
  | drain => exact ⟨h.anomalies, h.series⟩
  | look => exact ⟨h.anomalies, h.series⟩

/-- So does every list of moves. -/
theorem Flagged.after (h : run.Flagged) (hrun : run.AtRest) (oracle : Oracle) (moves : List Move) :
    (run.after oracle moves).Flagged :=
  hrun.keeps (fun hrest _ h => h.step hrest.numbered oracle _) (fun _ _ => trivial) h

/-- Nothing is said to be loading longer than it is. Take a view from its opening through any run.
While it says that anomalies are being loaded, a load is in flight that waits for anomalies. While
it says that series are being loaded, an operation is in flight that waits for the series of the
latest request. So it says neither when no operation is in flight. -/
theorem loading_while_in_flight {options : ViewOptions} {window now : Int} {zone : Zone}
    {notices : NoticeBoard} {live : LiveView}
    (hopen : LiveView.open? options window now zone notices = .ok live)
    (oracle : Oracle) (moves : List Move) :
    let run := after oracle { live := live } moves
    let session := run.live.session
    (session.isLoading = true → ∃ flight ∈ run.flights, flight.stage.isPass = true) ∧
      (session.isLoadingSeries = true → ∃ flight ∈ run.flights, ∃ request,
        flight.stage.request? = some request ∧ request.ticket = run.live.ticket) ∧
      (run.flights = [] → session.isLoading = false ∧ session.isLoadingSeries = false) := by
  intro run session
  have hopened := LiveView.open?_session hopen
  have hnew : Flagged { live := live } := by
    refine ⟨fun h => ?_, fun h => ?_⟩ <;> rw [hopened] at h <;> cases h
  have hrun : run.Flagged := hnew.after (atRest_new live) oracle moves
  refine ⟨hrun.anomalies, hrun.series, fun hnone => ⟨?_, ?_⟩⟩
  · refine Bool.eq_false_iff.2 fun hloading => ?_
    obtain ⟨flight, hflight, -⟩ := hrun.anomalies hloading
    rw [hnone] at hflight
    cases hflight
  · refine Bool.eq_false_iff.2 fun hloading => ?_
    obtain ⟨flight, hflight, -⟩ := hrun.series hloading
    rw [hnone] at hflight
    cases hflight

/-- A baseline is selected while a load waits for its series. When these arrive they are superseded,
and series stay said to be loading until those of the selection are there. -/
theorem loading_while_in_flight_superseded :
    let options : ViewOptions := { alertId := 7, range := some ⟨0, 1000⟩ }
    let live : LiveView := {
      zone := default, now := 2000, session := {
        alertId := 7, preview := false, edit := false, granularity := none
        dimensionExploration := false, alertYaml := none, savedYaml := none
        range := ⟨0, 1000⟩, duration := .custom, baselineOffset := .wo1w
        showDetails := true, isCurrent := true } }
    let oracle : Oracle := fun id call => match call with
      | .anomalies .. => .ok (.anomalies [
          { id := some 1, metricUrn := "thirdeye:metric:7", startTime := 0, endTime := 5 }])
      | _ => .ok (.series { timestamp := [id] })
    let never : Nat → Call → Bool := fun _ _ => false
    let superseded : List Move := [.begin .start never, .settle 1 never,
      .begin (.selectBaseline .wo2w) never, .settle 3 never, .settle 2 never]
    let complete : List Move := superseded ++ [.settle 4 never, .settle 5 never]
    LiveView.open? options 172800000 2000 default .empty = .ok live ∧
      (0, .loaded .completed) ∈ (after oracle { live := live } superseded).results ∧
      (after oracle { live := live } superseded).live.session.isLoadingSeries = true ∧
      (∃ flight ∈ (after oracle { live := live } superseded).flights, ∃ request,
        flight.stage.request? = some request ∧
          request.ticket = (after oracle { live := live } superseded).live.ticket) ∧
      (after oracle { live := live } complete).live.session.isLoading = false ∧
      (after oracle { live := live } complete).live.session.isLoadingSeries = false := by
  intro options live oracle never superseded complete
  have hopen : LiveView.open? options 172800000 2000 default .empty = .ok live := rfl
  have hsuperseded : (0, .loaded .completed) ∈ (after oracle { live := live } superseded).results ∧
      (after oracle { live := live } superseded).live.session.isLoadingSeries = true := by
    dsimp only [superseded, live, oracle, never]
    decide +kernel
  have hcomplete : (after oracle { live := live } complete).flights.isEmpty = true := by
    dsimp only [complete, superseded, live, oracle, never]
    decide +kernel
  obtain ⟨-, hseries, -⟩ := loading_while_in_flight hopen oracle superseded
  obtain ⟨-, -, hnone⟩ := loading_while_in_flight hopen oracle complete
  exact ⟨hopen, hsuperseded.1, hsuperseded.2, hseries hsuperseded.2,
    hnone (List.isEmpty_iff.1 hcomplete)⟩

end Run

end AlertDetail
