import AlertDetail.Proofs.Run.Order

/-!
# Superseded requests

A request for series is superseded once a later one is issued. The answers to its calls still come,
in any order and also after those of the later one. Series that arrive for it are dropped without a
trace, whether they complete the request or not. A failure of it is not dropped: it marks the view
as errored, takes back what is said of the loading of the later request, and is told to the user,
just like a failure of the latest request.
-/

namespace AlertDetail

namespace LiveView

variable {live : LiveView}

/-- The series of a superseded request are not installed. -/
theorem finishSeries_superseded {request : SeriesRequest} (h : request.ticket < live.ticket)
    (measured baseline : Option TimeSeries) :
    live.finishSeries request measured baseline = (live, .finish request.purpose.success) := by
  unfold finishSeries install
  rw [if_neg (Nat.ne_of_gt h)]

/-- What an answer does to an operation that waits for the series of a superseded request and has
made its calls: a series is kept until the other one is there, the last one ends the operation, and
neither changes the view; a failure ends it and does. -/
theorem SeriesAnswer.superseded {first : Bool} {answer : Answer} {stage : Stage}
    {step : LiveView × Next} (h : SeriesAnswer live first answer stage step)
    {request : SeriesRequest} (hrequest : stage.request? = some request)
    (hticket : request.ticket < live.ticket) (hcalled : stage.isMeasured = false) :
    (∃ series, answer.series = .ok series ∧
        ((∃ stage', step = (live, .wait stage')) ∨
          step = (live, .finish request.purpose.success))) ∨
      ∃ cause, answer.series = .error cause ∧
        step = (live.fail cause, .finish (request.purpose.failure cause)) := by
  cases h with
  | failed hstage hanswer =>
    obtain rfl := Option.some.inj (hstage.symm.trans hrequest)
    exact .inr ⟨_, hanswer, rfl⟩
  | measured => cases hcalled
  | bothMeasured hfirst hanswer => exact .inl ⟨_, hanswer, .inl ⟨_, rfl⟩⟩
  | bothBaseline hfirst hanswer => exact .inl ⟨_, hanswer, .inl ⟨_, rfl⟩⟩
  | lastMeasured hanswer =>
    cases hrequest
    exact .inl ⟨_, hanswer, .inr (finishSeries_superseded hticket _ _)⟩
  | lastBaseline hanswer =>
    cases hrequest
    exact .inl ⟨_, hanswer, .inr (finishSeries_superseded hticket _ _)⟩

end LiveView

namespace Run

/-- Take any run and any operation in it that waits for the series of a request, while a later one
was issued. When one of its calls is answered by a series, the operation waits on or succeeds, and
the view is exactly what it was: the session, the notices and everything else. When the call fails,
the operation fails; the session is then marked as failed, with nothing said to be loading any more,
and one notice of the cause is put up. In neither case is a call made. -/
theorem superseded_answer (oracle : Oracle) (live : LiveView) (moves : List Move) :
    let run := after oracle { live := live } moves
    ∀ flight ∈ run.flights, ∀ request, flight.stage.request? = some request →
      request.ticket < run.live.ticket → ∀ id ∈ flight.waiting, ∀ prompt,
        let final := run.step oracle (.settle id prompt)
        ∃ call, run.call? id = some call ∧ final.calls = run.calls ∧
          ((∃ series, (oracle id call).series = .ok series ∧ final.live = run.live ∧
              (final.results = run.results ∨
                final.results = run.results ++ [(flight.operation, request.purpose.success)])) ∨
            ∃ cause, (oracle id call).series = .error cause ∧
              final.live = { run.live with
                session := run.live.session.failed
                notices := run.live.notices.post ⟨true, "Error", cause.message⟩ } ∧
              final.results =
                run.results ++ [(flight.operation, request.purpose.failure cause)]) := by
  intro run flight hflight request hrequest hticket id hid prompt final
  have hrest : run.AtRest := (atRest_new live).after oracle moves
  obtain ⟨call, hcall⟩ := hrest.numbered.call?_of_waiting hflight hid
  have hanswer := run.live.resume_series (flight.waiting.head? == some id) (oracle id call) hrequest
  have hcases := hanswer.superseded hrequest hticket (hrest.called flight hflight)
  have hsettle : final = run.settle (oracle.backend prompt) id (oracle id call) := by
    simp only [final, Run.step, hcall]
  rw [hrest.numbered.settle_waiting hflight hid] at hsettle
  refine ⟨call, hcall, ?_⟩
  generalize run.live.resume (flight.waiting.head? == some id) (oracle id call) flight.stage = step
    at hsettle hcases
  rw [hsettle]
  rcases hcases with ⟨series, hseries, hstep⟩ | ⟨cause, hcause, rfl⟩
  · rcases hstep with ⟨stage, rfl⟩ | rfl
    · rw [drive_eq_hold _ _ _ _ fun _ _ => Next.noConfusion]
      exact ⟨rfl, .inl ⟨series, hseries, rfl, .inl rfl⟩⟩
    · rw [drive_eq_hold _ _ _ _ fun _ _ => Next.noConfusion]
      exact ⟨rfl, .inl ⟨series, hseries, rfl, .inr rfl⟩⟩
  · rw [drive_eq_hold _ _ _ _ fun _ _ => Next.noConfusion]
    exact ⟨rfl, .inr ⟨cause, hcause, rfl, rfl⟩⟩

/-- Of two baselines selected one after the other, the series of the first may arrive last, and
nothing happens then. -/
theorem superseded_answer_last_series :
    let live : LiveView := {
      zone := default, now := 2000, session := {
        alertId := 7, preview := false, edit := false, granularity := none
        dimensionExploration := false, alertYaml := none, savedYaml := none
        range := ⟨0, 1000⟩, duration := .custom, baselineOffset := .wo1w
        metricUrn := some "thirdeye:metric:7" } }
    let oracle : Oracle := fun id _ => .ok (.series { timestamp := [id] })
    let never : Nat → Call → Bool := fun _ _ => false
    let run := after oracle { live := live }
      [.begin (.selectBaseline .wo2w) never, .begin (.selectBaseline .wo3w) never,
        .settle 3 never, .settle 4 never, .settle 2 never]
    let final := run.step oracle (.settle 1 never)
    run.live.session.baseline = some { timestamp := [4] } ∧ final.live = run.live ∧
      final.results = [(1, .changed true), (0, .changed true)] := by
  intro live oracle never
  have hflights : (after oracle { live := live }
      [.begin (.selectBaseline .wo2w) never, .begin (.selectBaseline .wo3w) never,
        .settle 3 never, .settle 4 never, .settle 2 never]).flights.map (fun flight =>
          (flight.stage.request?, flight.waiting)) =
      [(some ⟨1, "thirdeye:metric:7", ⟨0, 1000⟩, .wo2w, default, .baseline⟩, [1])] := by
    dsimp only [live, oracle, never]
    decide +kernel
  obtain ⟨flight, rest, hcons, hflight, -⟩ := List.map_eq_cons_iff.1 hflights
  obtain ⟨hrequest, hwaiting⟩ := Prod.mk.inj hflight
  intro run final
  have hmem : flight ∈ run.flights := by
    rw [hcons]
    exact List.mem_cons_self
  have hticket : 1 < run.live.ticket := by
    dsimp only [run, live, oracle, never]
    decide +kernel
  have hid : 1 ∈ flight.waiting := by
    rw [hwaiting]
    exact List.mem_singleton_self 1
  obtain ⟨call, hcall, hcalls, hcases⟩ :=
    superseded_answer oracle live _ flight hmem _ hrequest hticket 1 hid never
  rcases hcases with ⟨series, hseries, hlive, hresults⟩ | ⟨cause, hcause, -⟩
  · refine ⟨?_, hlive, ?_⟩
    · dsimp only [run, live, oracle, never]
      decide +kernel
    · dsimp only [final, run, live, oracle, never]
      decide +kernel
  · cases hcause

/-- If one of its calls fails instead, the view is errored although the later request is still under
way, and the user is told of a failure that concerns nothing shown. -/
theorem superseded_failure_changes_view :
    let options : ViewOptions := { alertId := 7, range := some ⟨0, 1000⟩ }
    let live : LiveView := {
      zone := default, now := 2000, session := {
        alertId := 7, preview := false, edit := false, granularity := none
        dimensionExploration := false, alertYaml := none, savedYaml := none
        range := ⟨0, 1000⟩, duration := .custom, baselineOffset := .wo1w
        showDetails := true, isCurrent := true } }
    let oracle : Oracle := fun id call => match call with
      | .anomalies .. => .ok (.anomalies [
          { id := some 1, metricUrn := "thirdeye:metric:7", startTime := 0, endTime := 5 }])
      | _ => if id = 4 then .error (.fetch "late") else .ok (.series { timestamp := [0, 5] })
    let never : Nat → Call → Bool := fun _ _ => false
    let run := after oracle { live := live } [.begin .start fun _ _ => true,
      .begin (.selectBaseline .wo2w) never, .begin (.selectBaseline .wo3w) never]
    let final := run.step oracle (.settle 4 never)
    LiveView.open? options 172800000 2000 default .empty = .ok live ∧
      (∃ flight ∈ run.flights, ∃ request, flight.stage.request? = some request ∧
        request.ticket < run.live.ticket ∧ 4 ∈ flight.waiting ∧
        (flight.operation, .refused (.fetch "late")) ∈ final.results) ∧
      run.live.session.errored = false ∧ final.live.session.errored = true ∧
      run.live.session.isLoadingSeries = true ∧ final.live.session.isLoadingSeries = false ∧
      run.live.notices = .empty ∧
      final.live.notices = .kept [⟨true, "Error", "fetch failed: late"⟩] := by
  intro options live oracle never run final
  have hflights : run.flights.map (fun flight =>
      (flight.operation, flight.stage.request?.map (·.ticket), flight.waiting)) =
        [(1, some 2, [4, 5]), (2, some 3, [6, 7])] := by
    dsimp only [run, live, oracle, never]
    decide +kernel
  obtain ⟨flight, rest, hcons, hflight, -⟩ := List.map_eq_cons_iff.1 hflights
  obtain ⟨hoperation, hinner⟩ := Prod.mk.inj hflight
  obtain ⟨hrequest, hwaiting⟩ := Prod.mk.inj hinner
  obtain ⟨request, hstage, hticket⟩ := Option.map_eq_some_iff.1 hrequest
  refine ⟨rfl, ⟨flight, ?_, request, hstage, ?_, ?_, ?_⟩, ?_⟩
  · rw [hcons]
    exact List.mem_cons_self
  · rw [hticket]
    dsimp only [run, live, oracle, never]
    decide +kernel
  · rw [hwaiting]
    exact List.mem_cons_self
  · rw [hoperation]
    dsimp only [final, run, live, oracle, never]
    decide +kernel
  · dsimp only [final, run, live, oracle, never]
    decide +kernel

end Run

end AlertDetail
