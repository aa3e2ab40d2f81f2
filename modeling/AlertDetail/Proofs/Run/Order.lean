import AlertDetail.Proofs.Run.Numbering
import AlertDetail.Proofs.Run.Options

/-!
# Order of a run

Requests for series are numbered in the order in which they are issued, and at most one load is in
flight at any time. Numbers of requests never go back, so no operation in flight has a request that
is later than the latest.
-/

namespace AlertDetail

namespace LiveView

variable {live : LiveView} {step : LiveView × Next}

/-- A completed request issues no other. -/
theorem finishSeries_ticket (live : LiveView) (request : SeriesRequest)
    (measured baseline : Option TimeSeries) :
    (live.finishSeries request measured baseline).1.ticket = live.ticket := by
  unfold finishSeries install
  split <;> rfl

/-- Nor does it change the zone. -/
theorem finishSeries_zone (live : LiveView) (request : SeriesRequest)
    (measured baseline : Option TimeSeries) :
    (live.finishSeries request measured baseline).1.zone = live.zone := by
  unfold finishSeries install
  split <;> rfl

/-- A request takes the next number, and an operation that waits for its series keeps it. -/
theorem SeriesStart.next {purpose : Purpose} (h : SeriesStart live purpose step) :
    step.1.ticket = live.ticket + 1 ∧ step.1.zone = live.zone ∧
      ∀ stage, step.2.stage? = some stage →
        ∃ urn, stage.request? = some (live.nextRequest purpose urn) := by
  cases h with
  | missing => exact ⟨rfl, rfl, fun stage hstage => by cases hstage⟩
  | unpredicted =>
    refine ⟨finishSeries_ticket _ _ _ _, finishSeries_zone _ _ _ _, fun stage hstage => ?_⟩
    cases hstage
  | predicted =>
    refine ⟨finishSeries_ticket _ _ _ _, finishSeries_zone _ _ _ _, fun stage hstage => ?_⟩
    cases hstage
  | @compared urn =>
    refine ⟨rfl, rfl, fun stage hstage => ⟨urn, ?_⟩⟩
    cases hstage
    rfl
  | @measured urn =>
    refine ⟨rfl, rfl, fun stage hstage => ⟨urn, ?_⟩⟩
    cases hstage
    rfl

/-- An operation that waits for the series of a request goes on with the same request. -/
theorem SeriesAnswer.next {first : Bool} {answer : Answer} {stage : Stage}
    (h : SeriesAnswer live first answer stage step) :
    step.1.ticket = live.ticket ∧ step.1.zone = live.zone ∧
      ∀ stage', step.2.stage? = some stage' → stage'.request? = stage.request? := by
  cases h with
  | failed => exact ⟨rfl, rfl, fun stage' hstage => by cases hstage⟩
  | measured => exact ⟨rfl, rfl, fun stage' hstage => by cases hstage; rfl⟩
  | bothMeasured => exact ⟨rfl, rfl, fun stage' hstage => by cases hstage; rfl⟩
  | bothBaseline => exact ⟨rfl, rfl, fun stage' hstage => by cases hstage; rfl⟩
  | lastMeasured =>
    refine ⟨finishSeries_ticket _ _ _ _, finishSeries_zone _ _ _ _, fun stage' hstage => ?_⟩
    cases hstage
  | lastBaseline =>
    refine ⟨finishSeries_ticket _ _ _ _, finishSeries_zone _ _ _ _, fun stage' hstage => ?_⟩
    cases hstage

/-- A load stays a load, and what it requests has the latest number. -/
theorem LoadStep.next (h : LoadStep live step) :
    live.ticket ≤ step.1.ticket ∧ step.1.zone = live.zone ∧
      ∀ stage, step.2.stage? = some stage →
        ∀ request, stage.request? = some request → request.ticket ≤ step.1.ticket := by
  cases h with
  | @pass after call stage hstate hzone hcall hstage =>
    have hticket : after.ticket = live.ticket := congrArg SeriesState.ticket hstate
    refine ⟨Nat.le_of_eq hticket.symm, hzone, fun stage' hnext request hrequest => ?_⟩
    cases hnext
    exact absurd ((Stage.isPass_of_request? hrequest).symm.trans hstage) Bool.false_ne_true
  | @failed after hstate hzone =>
    have hticket : after.ticket = live.ticket := congrArg SeriesState.ticket hstate
    exact ⟨Nat.le_of_eq hticket.symm, hzone, fun stage hnext => by cases hnext⟩
  | @series after hstate hzone =>
    have hticket : after.ticket = live.ticket := congrArg SeriesState.ticket hstate
    obtain ⟨hticket', hzone', hstages⟩ := (after.requestSeries_start .load).next
    refine ⟨by omega, hzone'.trans hzone, fun stage hnext request hrequest => ?_⟩
    obtain ⟨urn, hurn⟩ := hstages stage hnext
    rw [hrequest] at hurn
    rw [Option.some.inj hurn, hticket']
    exact Nat.le_refl _

/-- What taking an answer does to numbers: they never go back, a request that an operation still
waits for is not later than the latest, and no operation becomes a load. -/
theorem resume_next (live : LiveView) (first : Bool) (answer : Answer) (stage : Stage)
    (hstage : ∀ request, stage.request? = some request → request.ticket ≤ live.ticket) :
    let step := live.resume first answer stage
    live.ticket ≤ step.1.ticket ∧ step.1.zone = live.zone ∧
      ∀ stage', step.2.stage? = some stage' →
        (stage'.isLoad = true → stage.isLoad = true) ∧
          ∀ request, stage'.request? = some request → request.ticket ≤ step.1.ticket := by
  intro step
  rcases stage.pass_or_series_or_report with hpass | ⟨request, hrequest⟩ | ⟨report, rfl⟩
  · obtain ⟨hticket, hzone, hnext⟩ := (live.resume_pass first answer hpass).next
    exact ⟨hticket, hzone, fun stage' hstage' =>
      ⟨fun _ => Stage.isLoad_of_isPass hpass, hnext stage' hstage'⟩⟩
  · obtain ⟨hticket, hzone, hnext⟩ := (live.resume_series first answer hrequest).next
    refine ⟨Nat.le_of_eq hticket.symm, hzone, fun stage' hstage' => ?_⟩
    have hsame := hnext stage' hstage'
    constructor
    · intro hload
      rwa [Stage.isLoad_of_request? (hsame.trans hrequest),
        ← Stage.isLoad_of_request? hrequest] at hload
    · intro request' hrequest'
      rw [hticket]
      exact hstage request' (hsame.symm.trans hrequest')
  · obtain ⟨after, result, hreport, hstate, hzone, -⟩ := live.resume_report first answer report
    have hticket : after.ticket = live.ticket := congrArg SeriesState.ticket hstate
    simp only [step, hreport]
    exact ⟨Nat.le_of_eq hticket.symm, hzone, fun stage' hstage' => by cases hstage'⟩

/-- What the beginning of an operation does to numbers: they never go back, a request that it waits
for is not later than the latest, and it is a load only if no other one is in flight. -/
theorem begin_next (live : LiveView) (busy : Bool) (operation : Operation) :
    let step := live.begin busy operation
    live.ticket ≤ step.1.ticket ∧ step.1.zone = live.zone ∧
      ∀ stage, step.2.stage? = some stage →
        (stage.isLoad = true → busy = false) ∧
          ∀ request, stage.request? = some request → request.ticket ≤ step.1.ticket := by
  intro step
  have hopening : Opening live busy operation step := live.begin_opening busy operation
  generalize step = step at hopening
  cases hopening with
  | @finished after result hstate hzone =>
    have hticket : after.ticket = live.ticket := congrArg SeriesState.ticket hstate
    exact ⟨Nat.le_of_eq hticket.symm, hzone, fun stage hstage => by cases hstage⟩
  | @reported after call report hstate hzone =>
    have hticket : after.ticket = live.ticket := congrArg SeriesState.ticket hstate
    refine ⟨Nat.le_of_eq hticket.symm, hzone, fun stage hstage => ?_⟩
    cases hstage
    constructor
    · intro hload
      cases hload
    · intro request hrequest
      cases hrequest
  | load hbusy hstep =>
    obtain ⟨hticket, hzone, hnext⟩ := hstep.next
    exact ⟨hticket, hzone, fun stage hstage => ⟨fun _ => hbusy, hnext stage hstage⟩⟩
  | @series after purpose hstate hzone hpurpose =>
    have hticket : after.ticket = live.ticket := congrArg SeriesState.ticket hstate
    obtain ⟨hticket', hzone', hstages⟩ := (after.requestSeries_start purpose).next
    refine ⟨by omega, hzone'.trans hzone, fun stage hnext => ?_⟩
    obtain ⟨urn, hurn⟩ := hstages stage hnext
    constructor
    · intro hload
      rw [Stage.isLoad_of_request? hurn] at hload
      exact absurd (eq_of_beq hload) hpurpose
    · intro request hrequest
      rw [hrequest] at hurn
      rw [Option.some.inj hurn, hticket']
      exact Nat.le_refl _

end LiveView

namespace Run

/-- The zone stays the same through every run. -/
theorem after_zone (oracle : Oracle) (run : Run) (moves : List Move) :
    (run.after oracle moves).live.zone = run.live.zone := by
  have hstable : LiveView.Stable fun live => live.zone = run.live.zone := {
    begin := fun live busy operation h => (live.begin_next busy operation).2.1.trans h
    resume := fun live first answer stage h => by
      rcases stage.pass_or_series_or_report with hpass | ⟨request, hrequest⟩ | ⟨report, rfl⟩
      · exact (live.resume_pass first answer hpass).next.2.1.trans h
      · exact (live.resume_series first answer hrequest).next.2.1.trans h
      · obtain ⟨after, result, hreport, -, hzone, -⟩ := live.resume_report first answer report
        rw [hreport]
        exact hzone.trans h
    aside := fun live live' _ _ hzone h => hzone.trans h }
  exact after_stable hstable oracle rfl moves

/-- Operations, requests and loads of a run are in order. -/
structure Orderly (run : Run) : Prop extends run.Numbered where
  /-- At most one load is in flight. -/
  loads : ∀ flight ∈ run.flights, ∀ other ∈ run.flights, flight.stage.isLoad = true →
    other.stage.isLoad = true → flight.operation = other.operation
  /-- No request in flight is later than the latest. -/
  tickets : ∀ flight ∈ run.flights, ∀ request, flight.stage.request? = some request →
    request.ticket ≤ run.live.ticket

variable {run : Run}

/-- The other operations in flight have other numbers than one that is moved behind them. -/
theorem Numbered.others_ne (h : run.Numbered) {others : List Flight} {flight : Flight}
    (hflights : run.flights = others ++ [flight]) {other : Flight} (hother : other ∈ others) :
    other.operation ≠ flight.operation := by
  intro hsame
  have hnodup := (List.nodup_append.1 h.nodup).1
  rw [hflights, List.map_append] at hnodup
  have hdisjoint := List.disjoint_of_nodup_append hnodup
  refine hdisjoint (List.mem_map.2 ⟨other, hother, rfl⟩) ?_
  rw [hsame]
  exact List.mem_map.2 ⟨flight, List.mem_singleton_self _, rfl⟩

/-- No operation has the number of the one that begins next. -/
theorem Numbered.lt_begun (h : run.Numbered) {operation : Nat}
    (hoperation : operation ∈ run.flights.map (·.operation) ++ run.results.map (·.1)) :
    operation < run.begun :=
  List.mem_range.1 (h.operations.mem_iff.1 hoperation)

/-- In particular none in flight has it. -/
theorem Numbered.flight_lt_begun (h : run.Numbered) {flight : Flight}
    (hflight : flight ∈ run.flights) : flight.operation < run.begun :=
  h.lt_begun (List.mem_append_left _ (List.mem_map_of_mem hflight))

/-- Nor has one that came out. -/
theorem Numbered.result_lt_begun (h : run.Numbered) {result : Nat × Result}
    (hresult : result ∈ run.results) : result.1 < run.begun :=
  h.lt_begun (List.mem_append_right _ (List.mem_map_of_mem hresult))

/-- Order is kept by an operation that goes on with what it does next. -/
theorem Orderly.hold {others : List Flight} {live : LiveView} {operation : Nat}
    {waiting : List Nat} {next : Next}
    (hnumbered : ({ run with live := live, flights := others }.hold operation waiting
      next).Numbered)
    (hloads : ∀ flight ∈ others, ∀ other ∈ others, flight.stage.isLoad = true →
      other.stage.isLoad = true → flight.operation = other.operation)
    (htickets : ∀ flight ∈ others, ∀ request, flight.stage.request? = some request →
      request.ticket ≤ live.ticket)
    (hload : ∀ stage, next.stage? = some stage → stage.isLoad = true →
      ∀ flight ∈ others, flight.stage.isLoad = true → flight.operation = operation)
    (hticket : ∀ stage, next.stage? = some stage →
      ∀ request, stage.request? = some request → request.ticket ≤ live.ticket) :
    ({ run with live := live, flights := others }.hold operation waiting next).Orderly where
  toNumbered := hnumbered
  loads flight hflight other hother hflightLoad hotherLoad := by
    rcases mem_flights_hold hflight with hflight | ⟨hflight, hstage⟩
    · rcases mem_flights_hold hother with hother | ⟨hother, hstage'⟩
      · exact hloads flight hflight other hother hflightLoad hotherLoad
      · rw [hother]
        exact hload _ hstage' hotherLoad flight hflight hflightLoad
    · rcases mem_flights_hold hother with hother | ⟨hother, hstage'⟩
      · rw [hflight]
        exact (hload _ hstage hflightLoad other hother hotherLoad).symm
      · rw [hflight, hother]
  tickets flight hflight request hrequest := by
    rw [live_hold]
    rcases mem_flights_hold hflight with hflight | ⟨-, hstage⟩
    · exact htickets flight hflight request hrequest
    · exact hticket _ hstage request hrequest

/-- Order is kept while an operation goes on. -/
theorem Orderly.keeps (oracle : Oracle) (operation : Nat) (others : List Flight) :
    Keeps oracle operation others Orderly where
  take := by
    intro run stage waiting id call hflights hid hcall h
    have hmem := last_mem_flights hflights
    have hothers : ∀ flight ∈ others, flight ∈ run.flights :=
      fun _ => mem_flights_of_others hflights
    obtain ⟨hticket, -, hnext⟩ := run.live.resume_next (waiting.head? == some id) (oracle id call)
      stage (h.tickets _ hmem)
    have hnumbered := (Numbered.keeps oracle operation others).take hflights hid hcall h.toNumbered
    rw [taken_eq] at hnumbered ⊢
    refine .hold hnumbered ?_ ?_ ?_ ?_
    · intro flight hflight other hother
      exact h.loads flight (hothers flight hflight) other (hothers other hother)
    · intro flight hflight request hrequest
      exact Nat.le_trans (h.tickets flight (hothers flight hflight) request hrequest) hticket
    · intro stage' hstage' hload flight hflight hflightLoad
      exact h.loads flight (hothers flight hflight) _ hmem hflightLoad
        ((hnext stage' hstage').1 hload)
    · intro stage' hstage'
      exact (hnext stage' hstage').2
  double := by
    intro run request id hflights h
    have hmem := last_mem_flights hflights
    have hothers : ∀ flight ∈ others, flight ∈ run.flights :=
      fun _ => mem_flights_of_others hflights
    have hnumbered := (Numbered.keeps oracle operation others).double hflights h.toNumbered
    have hcases {flight : Flight} (hflight : flight ∈ (run.doubled others operation id
        request).flights) : ∃ before ∈ run.flights, before.operation = flight.operation ∧
          before.stage.isLoad = flight.stage.isLoad ∧
          before.stage.request? = flight.stage.request? := by
      rcases mem_flights_doubled.1 hflight with hother | rfl
      · exact ⟨flight, hothers flight hother, rfl, rfl, rfl⟩
      · exact ⟨_, hmem, rfl, rfl, rfl⟩
    refine ⟨hnumbered, ?_, ?_⟩
    · intro flight hflight other hother hflightLoad hotherLoad
      obtain ⟨before, hbefore, hoperation, hload, -⟩ := hcases hflight
      obtain ⟨before', hbefore', hoperation', hload', -⟩ := hcases hother
      rw [← hoperation, ← hoperation']
      exact h.loads before hbefore before' hbefore' (hload.trans hflightLoad)
        (hload'.trans hotherLoad)
    · intro flight hflight request' hrequest'
      obtain ⟨before, hbefore, -, -, hrequest⟩ := hcases hflight
      exact h.tickets before hbefore request' (hrequest.trans hrequest')

/-- Order does not depend on where an operation stands among those in flight. -/
theorem Orderly.rotate (h : run.Orderly) {before after : List Flight} {flight : Flight}
    (hflights : run.flights = before ++ flight :: after) :
    { run with flights := before ++ after ++ [flight] }.Orderly where
  toNumbered := h.toNumbered.rotate hflights
  loads other hother other' hother' := by
    have hmem := mem_rotate hflights
    exact h.loads other ((hmem other).1 hother) other' ((hmem other').1 hother')
  tickets other hother := h.tickets other ((mem_rotate hflights other).1 hother)

/-- An operation that begins keeps order. -/
theorem Orderly.started (h : run.Orderly) (operation : Operation) :
    (run.started operation).Orderly := by
  obtain ⟨hticket, -, hnext⟩ := run.live.begin_next run.busy operation
  have hnumbered : (run.started operation).Numbered := (h.toNumbered.next _).hold _
  refine .hold hnumbered h.loads ?_ ?_ ?_
  · intro flight hflight request hrequest
    exact Nat.le_trans (h.tickets flight hflight request hrequest) hticket
  · intro stage hstage hload flight hflight hflightLoad
    have hbusy := (hnext stage hstage).1 hload
    rw [busy, List.any_eq_false] at hbusy
    exact absurd hflightLoad (hbusy flight hflight)
  · intro stage hstage
    exact (hnext stage hstage).2

/-- Order is kept by every move. -/
theorem Orderly.step (h : run.Orderly) (oracle : Oracle) (move : Move) :
    (run.step oracle move).Orderly := by
  cases move with
  | begin operation prompt =>
    exact (Orderly.keeps oracle run.begun run.flights).begin prompt (h.started operation)
  | settle id prompt =>
    exact h.toNumbered.settle_induct prompt h fun hflights _ =>
      ⟨Orderly.keeps oracle _ _, h.rotate hflights⟩
  | setClock now => exact ⟨⟨h.asked, h.once, h.operations⟩, h.loads, h.tickets⟩
  | drain => exact ⟨⟨h.asked, h.once, h.operations⟩, h.loads, h.tickets⟩
  | look => exact ⟨⟨h.asked, h.once, h.operations⟩, h.loads, h.tickets⟩

/-- Order is kept through every run. -/
theorem Orderly.after (h : run.Orderly) (oracle : Oracle) (moves : List Move) :
    (run.after oracle moves).Orderly := by
  induction moves generalizing run with
  | nil => exact h
  | cons move rest ih => exact ih (h.step oracle move)

/-- A run on which nothing was begun is in order. -/
theorem orderly_new (live : LiveView) : Orderly { live := live } where
  toNumbered := (atRest_new live).numbered
  loads _ hflight := nomatch hflight
  tickets _ hflight := nomatch hflight

end Run

end AlertDetail
