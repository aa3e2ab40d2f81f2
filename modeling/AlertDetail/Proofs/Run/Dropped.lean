import AlertDetail.Proofs.Run.Ended

/-!
# Dropped loads

A load that is asked for while another one is in flight is dropped: its operation ends at once,
without a call. The first load for an alert and a load because something changed leave the view as
it is when they are dropped, so that the run goes on as if they had not been begun; only operations
that begin later have other numbers. A load on request has by then shown the details, declared the
sets current and cleared the failure, and these stay when it is dropped.
-/

namespace AlertDetail

/-- A load on request shows the details, declares the sets current and clears a failure. This
changes nothing exactly where all of it is so already. -/
theorem LiveView.update_requested_iff (live : LiveView) :
    (live.update fun session =>
        { session with showDetails := true, isCurrent := true, errored := false }) = live ↔
      live.session.showDetails = true ∧ live.session.isCurrent = true ∧
        live.session.errored = false := by
  constructor
  · intro h
    have hshown := congrArg (·.session.showDetails) h
    have hcurrent := congrArg (·.session.isCurrent) h
    have herrored := congrArg (·.session.errored) h
    exact ⟨hshown.symm, hcurrent.symm, herrored.symm⟩
  · rintro ⟨hshown, hcurrent, herrored⟩
    obtain ⟨zone, now, session, ticket, notices, views⟩ := live
    cases session
    cases hshown
    cases hcurrent
    cases herrored
    rfl

/-- Whether an operation asks for a load, and nothing but whether another one is in flight decides
on it. -/
def Operation.asksLoad (session : Session) : Operation → Bool
  | start => !session.preview
  | requestPreview => true
  | triggerFetch => !session.errored
  | _ => false

namespace Run

/-- A run in which one more operation was begun, under `number`, and dropped: operations begun later
have the next number, and nothing else differs. -/
structure WithDropped (number : Nat) (run full : Run) : Prop where
  /-- The view is the same. -/
  live : full.live = run.live
  /-- The calls are the same. -/
  calls : full.calls = run.calls
  /-- The same operations are in flight, waiting for the same calls. -/
  flights : full.flights = run.flights.map (Flight.shift number)
  /-- The operation was dropped. -/
  dropped : (number, .loaded .dropped) ∈ full.results
  /-- The others came out in the same way. -/
  results : full.results.filter (·.1 ≠ number) =
    run.results.map fun (operation, result) => (shifted number operation, result)
  /-- One more was begun. -/
  begun : full.begun = run.begun + 1

variable {number : Nat} {run full : Run}

/-- A run with a dropped operation is one with an operation that was dropped and left no trace. -/
theorem withDropped_iff :
    WithDropped number run full ↔ WithEnded number (.loaded .dropped) run full :=
  ⟨fun h => ⟨h.live, h.calls, h.flights, h.dropped, h.results, h.begun⟩,
    fun h => ⟨h.live, h.calls, h.flights, h.ended, h.results, h.begun⟩⟩

/-- Every list of moves is made in both. -/
theorem WithDropped.after (h : WithDropped number run full) (hfull : full.AtRest) (oracle : Oracle)
    (moves : List Move) :
    WithDropped number (run.after oracle moves) (full.after oracle moves) :=
  withDropped_iff.2 ((withDropped_iff.1 h).after hfull oracle moves)

/-- A dropped operation that leaves the view as it is is one more in the run, and nothing else. -/
theorem Numbered.withDropped (h : run.Numbered) :
    WithDropped run.begun run
      { run with results := run.results ++ [(run.begun, .loaded .dropped)] } :=
  withDropped_iff.2 (h.withEnded (.loaded .dropped))

/-- What an operation that asks for a load does while another load is in flight. -/
theorem begin_dropped {operation : Operation} (hbusy : run.busy = true)
    (hasks : operation.asksLoad run.live.session = true) (oracle : Oracle)
    (prompt : Nat → Call → Bool) :
    run.step oracle (.begin operation prompt) =
      { run with
        live := if operation = .requestPreview then run.live.update fun session =>
            { session with showDetails := true, isCurrent := true, errored := false }
          else run.live
        results := run.results ++ [(run.begun, .loaded .dropped)] } := by
  have hdrop (live : LiveView) : live.beginLoad run.busy = (live, .finish (.loaded .dropped)) := by
    rw [hbusy]
    rfl
  have hbegin : run.live.begin run.busy operation =
      (if operation = .requestPreview then run.live.update fun session =>
          { session with showDetails := true, isCurrent := true, errored := false }
        else run.live, .finish (.loaded .dropped)) := by
    cases operation with
    | start =>
      have hpreview : run.live.session.preview = false := by
        simpa [Operation.asksLoad] using hasks
      simp only [LiveView.begin, hpreview, hdrop]
      rfl
    | requestPreview => exact hdrop _
    | triggerFetch =>
      have herrored : run.live.session.errored = false := by
        simpa [Operation.asksLoad] using hasks
      simp only [LiveView.begin, LiveView.beginTriggered, herrored, hdrop]
      rfl
    | _ => cases hasks
  exact step_of_finished hbegin oracle prompt

/-- Take any run in which a load is in flight, and an operation that asks for another: the first
load of a view that evaluates no draft, a load on request, or one because something changed while
the view is not errored. It is dropped: no call is made and no notice put up. The view stays exactly
as it is, unless the load was asked for on request while the details were not shown, the sets were
not current or the view was errored, which are then changed. Where the view stays as it is, whatever
happens afterwards leads to the same view, by the same calls and with the same outcomes, as if the
operation had not been begun. -/
theorem dropped_load (oracle : Oracle) (live : LiveView) (earlier : List Move)
    (operation : Operation) (prompt : Nat → Call → Bool) :
    let run := after oracle { live := live } earlier
    run.busy = true → operation.asksLoad run.live.session = true →
      let dropped := run.step oracle (.begin operation prompt)
      dropped.results = run.results ++ [(run.begun, .loaded .dropped)] ∧
        dropped.calls = run.calls ∧ dropped.flights = run.flights ∧
        dropped.live.notices = run.live.notices ∧
        dropped.live = (if operation = .requestPreview then run.live.update fun session =>
            { session with showDetails := true, isCurrent := true, errored := false }
          else run.live) ∧
        (dropped.live = run.live ↔ (operation = .requestPreview →
          run.live.session.showDetails = true ∧ run.live.session.isCurrent = true ∧
            run.live.session.errored = false)) ∧
        (dropped.live = run.live → ∀ later,
          WithDropped run.begun (run.after oracle later) (dropped.after oracle later)) := by
  intro run hbusy hasks dropped
  have hrest : run.AtRest := (atRest_new live).after oracle earlier
  have hfull : dropped.AtRest := hrest.step oracle (.begin operation prompt)
  have hdropped : dropped = _ := begin_dropped hbusy hasks oracle prompt
  refine ⟨by rw [hdropped], by rw [hdropped], by rw [hdropped], ?_, by rw [hdropped], ?_,
    fun hsame later => ?_⟩
  · rw [hdropped]
    dsimp only
    split <;> rfl
  · rw [hdropped]
    by_cases hrequest : operation = .requestPreview
    · simp only [hrequest, if_true, forall_const]
      exact run.live.update_requested_iff
    · simp only [hrequest, if_false, false_implies]
  · have hwith : WithDropped run.begun run dropped := by
      rw [hdropped] at hsame ⊢
      dsimp only at hsame
      rw [hsame]
      exact hrest.numbered.withDropped
    exact hwith.after hfull oracle later

/-- A preview is asked for again while the first one is under way, and nothing came between: the
second request leaves no trace. -/
theorem dropped_load_repeated_request :
    let live : LiveView := {
      zone := default, now := 2000, session := {
        alertId := 7, preview := true, edit := false, granularity := none
        dimensionExploration := false, alertYaml := some "draft", savedYaml := none
        range := ⟨0, 1000⟩, duration := .custom, baselineOffset := .predicted } }
    let oracle : Oracle := fun _ _ => .ok (.evaluation {
      predictions := [{ detectorName := "mean:rule", metricUrn := "thirdeye:metric:7" }]
      diagnostics := [("0", .obj [("thirdeye:metric:7", .null)])] })
    let never : Nat → Call → Bool := fun _ _ => false
    let run := after oracle { live := live } [.begin .requestPreview never]
    let dropped := run.step oracle (.begin .requestPreview never)
    run.busy = true ∧ dropped.results = [(1, .loaded .dropped)] ∧
      (dropped.after oracle [.settle 1 never]).results =
        [(1, .loaded .dropped), (0, .loaded .completed)] ∧
      (dropped.after oracle [.settle 1 never]).live =
        (run.after oracle [.settle 1 never]).live := by
  intro live oracle never run dropped
  have hbusy : run.busy = true := by
    dsimp only [run, live, oracle, never]
    decide +kernel
  obtain ⟨-, -, -, -, -, hsame, hafter⟩ :=
    dropped_load oracle live [.begin .requestPreview never] .requestPreview never hbusy rfl
  have hflags : run.live.session.showDetails = true ∧ run.live.session.isCurrent = true ∧
      run.live.session.errored = false := by
    dsimp only [run, live, oracle, never]
    decide +kernel
  refine ⟨hbusy, ?_, ?_, (hafter (hsame.2 fun _ => hflags) [.settle 1 never]).live⟩
  · dsimp only [dropped, run, live, oracle, never]
    decide +kernel
  · dsimp only [dropped, run, live, oracle, never]
    decide +kernel

/-- If the configuration was changed in between, the dropped request declares the sets current,
although those that the first request brings belong to the configuration before. -/
theorem dropped_request_changes_outcome :
    let options : ViewOptions := {
      alertId := 7, preview := true, alertYaml := some "live", savedYaml := some "saved"
      range := some ⟨0, 1000⟩ }
    let live : LiveView := {
      zone := default, now := 2000, session := {
        alertId := 7, preview := true, edit := false, granularity := none
        dimensionExploration := false, alertYaml := some "live", savedYaml := some "saved"
        range := ⟨0, 1000⟩, duration := .custom, baselineOffset := .predicted } }
    let oracle : Oracle := fun _ _ => .ok (.evaluation {
      anomalies := [{ metricUrn := "thirdeye:metric:7", startTime := 0, endTime := 5 }]
      predictions := [{ detectorName := "mean:rule", metricUrn := "thirdeye:metric:7" }]
      diagnostics := [("0", .obj [("thirdeye:metric:7", .null)])] })
    let never : Nat → Call → Bool := fun _ _ => false
    let run := after oracle { live := live }
      [.begin .requestPreview never, .begin (.setYaml "edited") never]
    let dropped := run.step oracle (.begin .requestPreview never)
    let final := run.after oracle [.settle 1 never]
    let final' := dropped.after oracle [.settle 1 never]
    LiveView.open? options 172800000 2000 default .empty = .ok live ∧ run.busy = true ∧
      dropped.results = run.results ++ [(run.begun, .loaded .dropped)] ∧
      final.flights.isEmpty = true ∧ final'.flights.isEmpty = true ∧
      final.live.session.alertYaml = some "edited" ∧ final.live.session.isCurrent = false ∧
      final'.live.session.isCurrent = true := by
  intro options live oracle never run dropped final final'
  refine ⟨rfl, ?_⟩
  dsimp only [final', final, dropped, run, live, oracle, never]
  decide +kernel

end Run

end AlertDetail
