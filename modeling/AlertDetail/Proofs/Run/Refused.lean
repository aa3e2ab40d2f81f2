import AlertDetail.Proofs.Run.Ended
import AlertDetail.Proofs.Run.Endings

/-!
# Refused actions

A view refuses to select a slice that it does not know, a range without length, a preset without a
range, or the baseline that is selected already; a load because something changed is suppressed
after a failure and dropped while another one is in flight. Whatever is in flight meanwhile, none of
this leaves a trace: the view stays as it is, nothing is called for, and the run goes on as if the
action had not been tried.
-/

namespace AlertDetail

namespace Slice

/-- A slice is meant by its label and by its filters. -/
theorem isSelectedBy_iff {selected urn : String} :
    isSelectedBy selected urn = true ↔ label urn = selected ∨ tail urn = selected := by
  unfold isSelectedBy label
  by_cases htail : tail urn = ""
  · simp only [htail, decide_true, Bool.true_and, Bool.or_eq_true, decide_eq_true_eq, if_true]
    constructor
    · rintro (hempty | hwhole)
      · exact .inr hempty
      · exact .inl hwhole.symm
    · rintro (hwhole | hempty)
      · exact .inr hwhole.symm
      · exact .inl hempty
  · simp [htail]

/-- A text means none of some slices if it is neither the label nor the filters of one. -/
theorem resolve?_eq_none_iff {urns : List String} {selected : String} :
    resolve? urns selected = none ↔
      ∀ urn ∈ urns, label urn ≠ selected ∧ tail urn ≠ selected := by
  unfold resolve?
  rw [List.find?_eq_none]
  refine forall₂_congr fun urn _ => ?_
  rw [isSelectedBy_iff, not_or]

end Slice

/-- A preset with bounds of its own has no range. -/
theorem RangePreset.range?_custom (now : Int) (zone : Zone) : custom.range? now zone = none := rfl

/-- The actions that a view refuses, and how they come out. -/
inductive LiveView.Refuses (live : LiveView) : Operation → Result → Prop
  /-- A slice is selected by a text that means none. -/
  | dimension {label : String}
    (hlabel : ∀ urn ∈ live.session.metricUrns, Slice.label urn ≠ label ∧ Slice.tail urn ≠ label) :
    Refuses live (.selectDimension label) (.refused (.validation ("unknown dimension " ++ label)))
  /-- A range is selected that does not start before it ends. -/
  | range {start stop : Int} {duration : RangePreset} (hlength : stop ≤ start) :
    Refuses live (.selectRange start stop duration) (.refused (.invalidRange start stop))
  /-- A preset is selected that has no range. -/
  | preset {preset : RangePreset}
    (hrange : preset = .custom ∨ preset.range? live.now live.zone = none) :
    Refuses live (.selectPreset preset)
      (.refused (.validation "custom ranges need explicit bounds"))
  /-- The baseline is selected that is selected already. -/
  | baseline : Refuses live (.selectBaseline live.session.baselineOffset) (.changed false)

/-- A refused action ends at once and leaves the view as it is. -/
theorem LiveView.Refuses.begin {live : LiveView} {operation : Operation} {result : Result}
    (h : live.Refuses operation result) (busy : Bool) :
    live.begin busy operation = (live, .finish result) := by
  cases h with
  | dimension hlabel => simp only [LiveView.begin, Slice.resolve?_eq_none_iff.2 hlabel, refuse]
  | @range start stop duration hlength =>
    have hnew : AnalysisRange.new start stop = .error (.invalidRange start stop) :=
      if_neg (Int.not_lt.2 hlength)
    simp only [LiveView.begin, LiveView.selectRange, hnew, refuse]
  | @preset preset hrange =>
    have hnone : preset.range? live.now live.zone = none := by
      rcases hrange with rfl | hnone
      · exact RangePreset.range?_custom live.now live.zone
      · exact hnone
    simp only [LiveView.begin, hnone, refuse]
  | baseline => simp only [LiveView.begin, if_true]

namespace Run

variable {number : Nat} {purpose : Purpose} {run : Run}

/-- An operation is under way for a purpose, or came out with the success or a failure of it. -/
structure Pursues (number : Nat) (purpose : Purpose) (run : Run) : Prop where
  /-- The operation was begun. -/
  begun : number < run.begun
  /-- While it is in flight it waits for the sake of its purpose. -/
  waits : ∀ flight ∈ run.flights, flight.operation = number →
    flight.stage.purpose? = some purpose
  /-- It comes out as its purpose does. -/
  ends : ∀ result, (number, result) ∈ run.results →
    result = purpose.success ∨ ∃ cause, result = purpose.failure cause

/-- It stays so when an operation goes on with what it does next, be it this one or another. -/
theorem Pursues.hold {others : List Flight} {live : LiveView} {operation : Nat}
    {waiting : List Nat} {next : Next} (hbegun : number ≤ { run with flights := others }.begun)
    (hwaits : ∀ flight ∈ others, flight.operation = number →
      flight.stage.purpose? = some purpose)
    (hends : ∀ result, (number, result) ∈ run.results →
      result = purpose.success ∨ ∃ cause, result = purpose.failure cause)
    (hturn : operation = number → ∃ view : LiveView, view.Turn purpose (live, next)) :
    Pursues number purpose
      ({ run with live := live, flights := others }.hold operation waiting next) where
  begun := by
    rw [begun_hold]
    exact Nat.lt_succ_of_le hbegun
  waits flight hflight hnumber := by
    rcases mem_flights_hold hflight with hother | ⟨hsame, hstage⟩
    · exact hwaits flight hother hnumber
    · obtain ⟨view, hview⟩ := hturn (hsame.symm.trans hnumber)
      exact hview.purpose? hstage
  ends result hresult := by
    cases next with
    | ask call stage => exact hends result hresult
    | wait stage => exact hends result hresult
    | finish last =>
      rcases List.mem_append.1 hresult with hearlier | hlast
      · exact hends result hearlier
      · obtain ⟨rfl, rfl⟩ := Prod.mk.inj (List.mem_singleton.1 hlast)
        obtain ⟨view, hview⟩ := hturn rfl
        exact hview.result rfl

/-- One operation fewer is in flight while one of them takes an answer. -/
theorem begun_of_last {others : List Flight} {last : Flight}
    (hflights : run.flights = others ++ [last]) :
    run.begun = { run with flights := others }.begun + 1 := by
  simp only [Run.begun, hflights, List.length_append, List.length_singleton]
  omega

/-- It stays so while an operation goes on. -/
theorem Pursues.keeps (oracle : Oracle) (operation : Nat) (others : List Flight) :
    Keeps oracle operation others (Pursues number purpose) where
  take := by
    intro run stage waiting id call hflights _ _ h
    have hbegun := h.begun
    rw [begun_of_last hflights] at hbegun
    rw [taken_eq]
    refine .hold (Nat.le_of_lt_succ hbegun)
      (fun flight hflight => h.waits flight (mem_flights_of_others hflights hflight)) h.ends ?_
    intro hnumber
    exact ⟨_, run.live.resume_turn _ _ (h.waits _ (last_mem_flights hflights) hnumber)⟩
  double := by
    intro run request id hflights h
    have hbegun : (run.doubled others operation id request).begun = run.begun :=
      (begun_park _ _).trans (begun_of_last hflights).symm
    refine ⟨by rw [hbegun]; exact h.begun, fun flight hflight hnumber => ?_, h.ends⟩
    rcases mem_flights_doubled.1 hflight with hother | rfl
    · exact h.waits flight (mem_flights_of_others hflights hother) hnumber
    · have hmeasured := h.waits _ (last_mem_flights hflights) hnumber
      exact hmeasured

/-- Every move keeps it. -/
theorem Pursues.step (h : Pursues number purpose run) (hrun : run.Numbered) (oracle : Oracle)
    (move : Move) : Pursues number purpose (run.step oracle move) := by
  cases move with
  | begin operation prompt =>
    refine (Pursues.keeps oracle run.begun run.flights).begin prompt ?_
    exact .hold (Nat.le_of_lt h.begun) h.waits h.ends fun hnumber =>
      absurd h.begun (by rw [hnumber]; exact Nat.lt_irrefl number)
  | settle id prompt =>
    refine hrun.settle_induct prompt h fun {before flight after} hflights _ =>
      ⟨Pursues.keeps oracle _ _, ?_⟩
    refine ⟨?_, fun other hother => h.waits other ((mem_rotate hflights other).1 hother), h.ends⟩
    rw [begun_rotate hflights]
    exact h.begun
  | setClock now => exact ⟨h.begun, h.waits, h.ends⟩
  | drain => exact ⟨h.begun, h.waits, h.ends⟩
  | look => exact ⟨h.begun, h.waits, h.ends⟩

/-- So does every list of moves. -/
theorem Pursues.after (h : Pursues number purpose run) (hrun : run.AtRest) (oracle : Oracle)
    (moves : List Move) : Pursues number purpose (run.after oracle moves) := by
  induction moves generalizing run with
  | nil => exact h
  | cons move rest ih => exact ih (h.step hrun.numbered oracle move) (hrun.step oracle move)

/-- A load that is begun because something changed, neither suppressed nor dropped, pursues
loading. -/
theorem pursues_triggered (hrun : run.Numbered) (herrored : run.live.session.errored = false)
    (hbusy : run.busy = false) (oracle : Oracle) (prompt : Nat → Call → Bool) :
    Pursues run.begun .load (run.step oracle (.begin .triggerFetch prompt)) := by
  have hturn : run.live.Turn .load (run.live.begin run.busy .triggerFetch) := by
    simp only [LiveView.begin, LiveView.beginTriggered, LiveView.beginLoad, herrored, hbusy,
      Bool.false_eq_true, if_false]
    exact run.live.beginPass_turn false
  refine (Pursues.keeps oracle run.begun run.flights).begin prompt ?_
  refine .hold (Nat.le_refl _) (fun flight hflight hnumber => ?_) (fun result hresult => ?_)
    fun _ => ⟨run.live, hturn⟩
  · exact absurd hnumber (Nat.ne_of_lt (hrun.flight_lt_begun hflight))
  · exact absurd (hrun.result_lt_begun hresult) (Nat.lt_irrefl _)

/-- The actions that come to nothing: those that the view refuses, and a load because something
changed that turns out to be suppressed or dropped, whenever it does. -/
inductive ComesToNothing (oracle : Oracle) (run : Run) (prompt : Nat → Call → Bool) :
    Operation → Result → Prop
  /-- The view refuses the action. -/
  | refused {operation : Operation} {result : Result} (h : run.live.Refuses operation result) :
    ComesToNothing oracle run prompt operation result
  /-- The load is suppressed or dropped. -/
  | triggered {outcome : LoadOutcome} {later : List Move}
    (houtcome : outcome = .suppressed ∨ outcome = .dropped)
    (hresult : (run.begun, .loaded outcome) ∈
      ((run.step oracle (.begin .triggerFetch prompt)).after oracle later).results) :
    ComesToNothing oracle run prompt .triggerFetch (.loaded outcome)

/-- An action that came to nothing ended at once and left the view as it was. -/
theorem ComesToNothing.begin {oracle : Oracle} {prompt : Nat → Call → Bool}
    {operation : Operation} {result : Result} (hrun : run.AtRest)
    (h : ComesToNothing oracle run prompt operation result) :
    run.live.begin run.busy operation = (run.live, .finish result) := by
  cases h with
  | refused h => exact h.begin run.busy
  | @triggered outcome later houtcome hresult =>
    have hafter : ((run.step oracle (.begin .triggerFetch prompt)).after oracle later).AtRest :=
      (hrun.step oracle _).after oracle later
    -- an operation that ended at once came out in one way only
    have hended (actual : LoadOutcome)
        (hbegin : run.live.begin run.busy .triggerFetch = (run.live, .finish (.loaded actual))) :
        run.live.begin run.busy .triggerFetch = (run.live, .finish (.loaded outcome)) := by
      have hstep := step_of_finished hbegin oracle prompt
      have hwith : WithEnded run.begun (.loaded actual) (run.after oracle later)
          ((run.step oracle (.begin .triggerFetch prompt)).after oracle later) := by
        refine WithEnded.after ?_ (hrun.step oracle _) oracle later
        rw [hstep]
        exact hrun.numbered.withEnded _
      rw [hbegin, hafter.numbered.result_unique hwith.ended hresult]
    cases herrored : run.live.session.errored with
    | true =>
      refine hended .suppressed ?_
      simp only [LiveView.begin, LiveView.beginTriggered, herrored, if_true]
    | false =>
      cases hbusy : run.busy with
      | true =>
        rw [← hbusy]
        refine hended .dropped ?_
        simp only [LiveView.begin, LiveView.beginTriggered, LiveView.beginLoad, herrored, hbusy,
          Bool.false_eq_true, if_false, if_true]
      | false =>
        have hpursues := (pursues_triggered hrun.numbered herrored hbusy oracle prompt).after
          (hrun.step oracle _) oracle later
        rcases hpursues.ends _ hresult with hcompleted | ⟨cause, hfailed⟩
        · rcases houtcome with rfl | rfl <;> cases hcompleted
        · rcases houtcome with rfl | rfl <;> cases hfailed

/-- Take any run, with whatever is in flight, and an action that comes to nothing: a slice is
selected by a text that is neither the label nor the filters of one, a range that does not start
before it ends, a preset with bounds of its own or without a range, the baseline that is selected
already, or a load because something changed comes out suppressed or dropped. The view stays exactly
as it is, with the number of the latest request for series and the notices, and no call is made. So
whatever happens afterwards leads to the same view, by the same calls and with the same outcomes, as
if the action had not been tried. -/
theorem refused_without_trace (oracle : Oracle) (live : LiveView) (earlier : List Move)
    (operation : Operation) (prompt : Nat → Call → Bool) (result : Result) :
    let run := after oracle { live := live } earlier
    let refused := run.step oracle (.begin operation prompt)
    ComesToNothing oracle run prompt operation result →
      refused.results = run.results ++ [(run.begun, result)] ∧ refused.live = run.live ∧
        refused.calls = run.calls ∧ refused.flights = run.flights ∧
        ∀ later, WithEnded run.begun result (run.after oracle later)
          (refused.after oracle later) := by
  intro run refused hnothing
  have hrest : run.AtRest := (atRest_new live).after oracle earlier
  have hrefused : refused = _ := step_of_finished (hnothing.begin hrest) oracle prompt
  have hwith : WithEnded run.begun result run refused := by
    rw [hrefused]
    exact hrest.numbered.withEnded result
  exact ⟨by rw [hrefused], by rw [hrefused], by rw [hrefused], by rw [hrefused], fun later =>
    hwith.after (hrest.step oracle _) oracle later⟩

/-- While the series of a baseline are under way and a load waits for anomalies, a load because
something changed turns out to be dropped, even though this is only seen once everything has
arrived: the number of the latest request and the calls are the same, and so is the view in the
end. -/
theorem refused_without_trace_between_answers :
    let live : LiveView := {
      zone := default, now := 500, session := {
        alertId := 7, preview := false, edit := false, granularity := none
        dimensionExploration := false, alertYaml := none, savedYaml := none
        range := ⟨0, 1000⟩, duration := .custom, baselineOffset := .wo1w
        metricUrn := some "thirdeye:metric:1" } }
    let oracle : Oracle := fun id call => match call with
      | .anomalies .. => .ok (.anomalies
          [{ metricUrn := "thirdeye:metric:1", startTime := 0, endTime := 5 }])
      | _ => .ok (.series { timestamp := [id] })
    let never : Nat → Call → Bool := fun _ _ => false
    let run := after oracle { live := live }
      [.begin (.selectBaseline .wo2w) never, .begin .triggerFetch never]
    let later : List Move := [.settle 3 never, .settle 5 never, .settle 4 never, .settle 1 never,
      .settle 2 never]
    let refused := run.step oracle (.begin .triggerFetch never)
    run.flights.map (·.waiting) = [[1, 2], [3]] ∧ refused.live.ticket = run.live.ticket ∧
      refused.calls = run.calls ∧
      (refused.after oracle later).results =
        [(2, .loaded .dropped), (1, .loaded .completed), (0, .changed true)] ∧
      (refused.after oracle later).live = (run.after oracle later).live := by
  intro live oracle never run later refused
  have hresults : (refused.after oracle later).results =
      [(2, .loaded .dropped), (1, .loaded .completed), (0, .changed true)] := by
    dsimp only [refused, later, run, live, oracle, never]
    decide +kernel
  have hnumber : run.begun = 2 := by
    dsimp only [run, live, oracle, never]
    decide +kernel
  have hdropped : (run.begun, .loaded .dropped) ∈ (refused.after oracle later).results := by
    rw [hresults, hnumber]
    exact List.mem_cons_self
  obtain ⟨-, hlive, hcalls, -, hafter⟩ := refused_without_trace oracle live
    [.begin (.selectBaseline .wo2w) never, .begin .triggerFetch never] .triggerFetch never
    (.loaded .dropped) (.triggered (.inr rfl) hdropped)
  refine ⟨?_, congrArg LiveView.ticket hlive, hcalls, hresults, (hafter later).live⟩
  dsimp only [run, live, oracle, never]
  decide +kernel

end Run

end AlertDetail
