import AlertDetail.Proofs.Run.Order

/-!
# The newest request for series

What the newest request leaves to be seen. It is made from what is selected when it is issued, and
its answers are kept until its last one is there; then they are the series shown. Requests that are
older install nothing. What is selected changes afterwards only by another request, or by a load
that has its own request still to come or fails.
-/

namespace AlertDetail

/-- Whether an operation that requested series came out with them. -/
def Result.isSuccess : Result → Bool
  | loaded .completed | done | changed true => true
  | _ => false

theorem Purpose.isSuccess_failure (purpose : Purpose) (cause : ChartError) :
    (purpose.failure cause).isSuccess = false := by
  cases purpose <;> rfl

/-- What an operation does next is no call, nor does it wait with a call still to make. -/
def Next.Called : Next → Prop
  | ask _ _ => False
  | wait stage => stage.isMeasured = false
  | finish _ => True

/-- Then it is no call. -/
theorem Next.Called.ne_ask {next : Next} (h : next.Called) (call : Call) (stage : Stage) :
    next ≠ .ask call stage := by
  rintro rfl
  exact h

/-- And it waits with no call still to make. -/
theorem Next.Called.isMeasured {next : Next} {stage : Stage} (h : next.Called)
    (hstage : next.stage? = some stage) : stage.isMeasured = false := by
  cases next with
  | ask => exact h.elim
  | wait =>
    cases hstage
    exact h
  | finish => cases hstage

/-- The series that inputs prescribe, measured and to compare with, where `calls` are the calls for
series that were made for them: none if rules are visible and no prediction matches rule and slice;
the series of the first match twice if it is the baseline as well; otherwise this series and the
answer for the baseline; and two answers if rules are hidden. -/
inductive Prescribes (oracle : Oracle) (timezone : String) (inputs : Session.SeriesInputs) :
    List (Nat × Call) → Option TimeSeries → Option TimeSeries → Prop
  | unpredicted {urn : String} (hslice : inputs.metricUrn = some urn)
    (hvisible : inputs.rulesVisible = true)
    (hprediction : ∀ prediction ∈ inputs.predictions, ¬ prediction.Matches inputs.rule urn) :
    Prescribes oracle timezone inputs [] none none
  | predicted {urn : String} {prediction : Prediction} (hslice : inputs.metricUrn = some urn)
    (hvisible : inputs.rulesVisible = true)
    (hprediction : Prediction.FirstMatch inputs.predictions inputs.rule urn prediction)
    (hoffset : inputs.offset = .predicted) :
    Prescribes oracle timezone inputs [] (some prediction.series) (some prediction.series)
  | compared {urn : String} {prediction : Prediction} {id : Nat} {baseline : TimeSeries}
    (hslice : inputs.metricUrn = some urn) (hvisible : inputs.rulesVisible = true)
    (hprediction : Prediction.FirstMatch inputs.predictions inputs.rule urn prediction)
    (hoffset : inputs.offset ≠ .predicted)
    (hanswer : (oracle id (.timeseries urn inputs.range inputs.offset timezone)).series =
      .ok baseline) :
    Prescribes oracle timezone inputs
      [(id, .timeseries urn inputs.range inputs.offset timezone)]
      (some prediction.series) (some baseline)
  | measured {urn : String} {first second : Nat} {measured baseline : TimeSeries}
    (hslice : inputs.metricUrn = some urn) (hvisible : inputs.rulesVisible = false)
    (hmeasured : (oracle first (.timeseries urn inputs.range .current timezone)).series =
      .ok measured)
    (hbaseline : (oracle second (.timeseries urn inputs.range inputs.offset timezone)).series =
      .ok baseline) :
    Prescribes oracle timezone inputs
      [(first, .timeseries urn inputs.range .current timezone),
        (second, .timeseries urn inputs.range inputs.offset timezone)]
      (some measured) (some baseline)

/-- A request for series that was issued. -/
structure SeriesIssue where
  /-- The operation that issued it. -/
  operation : Nat
  /-- How many calls were made before that operation took its turn. -/
  since : Nat
  /-- The number of the request. -/
  ticket : Nat
  /-- The name of the zone. -/
  timezone : String
  /-- What it was made from. -/
  inputs : Session.SeriesInputs

namespace SeriesIssue

/-- The request on a slice. -/
def request (issue : SeriesIssue) (urn : String) (purpose : Purpose) : SeriesRequest :=
  ⟨issue.ticket, urn, issue.inputs.range, issue.inputs.offset, issue.timezone, purpose⟩

/-- The call for the series of a slice under an offset. -/
def call (issue : SeriesIssue) (urn : String) (offset : Offset) : Call :=
  .timeseries urn issue.inputs.range offset issue.timezone

/-- The operation waits for answers to a request, at a stage and for calls by their numbers, where
`calls` are all that were made for the request. -/
inductive Waits (oracle : Oracle) (issue : SeriesIssue) :
    Stage → List Nat → List (Nat × Call) → Prop
  | compared {urn : String} {prediction : Prediction} {purpose : Purpose} {id : Nat}
    (hslice : issue.inputs.metricUrn = some urn) (hvisible : issue.inputs.rulesVisible = true)
    (hprediction : Prediction.FirstMatch issue.inputs.predictions issue.inputs.rule urn prediction)
    (hoffset : issue.inputs.offset ≠ .predicted) :
    Waits oracle issue (.baselineOnly (issue.request urn purpose) prediction.series) [id]
      [(id, issue.call urn issue.inputs.offset)]
  | measured {urn : String} {purpose : Purpose} {id : Nat}
    (hslice : issue.inputs.metricUrn = some urn) (hvisible : issue.inputs.rulesVisible = false) :
    Waits oracle issue (.measured (issue.request urn purpose)) [id] [(id, issue.call urn .current)]
  | both {urn : String} {purpose : Purpose} {first second : Nat}
    (hslice : issue.inputs.metricUrn = some urn) (hvisible : issue.inputs.rulesVisible = false)
    (horder : first < second) :
    Waits oracle issue (.both (issue.request urn purpose)) [first, second]
      [(first, issue.call urn .current), (second, issue.call urn issue.inputs.offset)]
  | measuredOnly {urn : String} {purpose : Purpose} {first second : Nat} {baseline : TimeSeries}
    (hslice : issue.inputs.metricUrn = some urn) (hvisible : issue.inputs.rulesVisible = false)
    (hbaseline : (oracle second (issue.call urn issue.inputs.offset)).series = .ok baseline) :
    Waits oracle issue (.measuredOnly (issue.request urn purpose) baseline) [first]
      [(first, issue.call urn .current), (second, issue.call urn issue.inputs.offset)]
  | baselineOnly {urn : String} {purpose : Purpose} {first second : Nat} {measured : TimeSeries}
    (hslice : issue.inputs.metricUrn = some urn) (hvisible : issue.inputs.rulesVisible = false)
    (hmeasured : (oracle first (issue.call urn .current)).series = .ok measured) :
    Waits oracle issue (.baselineOnly (issue.request urn purpose) measured) [second]
      [(first, issue.call urn .current), (second, issue.call urn issue.inputs.offset)]

variable {oracle : Oracle} {issue : SeriesIssue}

/-- An operation that waits for answers to a request waits with this request. -/
theorem Waits.request? {stage : Stage} {waiting : List Nat} {calls : List (Nat × Call)}
    (h : issue.Waits oracle stage waiting calls) :
    ∃ urn purpose, stage.request? = some (issue.request urn purpose) := by
  cases h with
  | compared => exact ⟨_, _, rfl⟩
  | measured => exact ⟨_, _, rfl⟩
  | both => exact ⟨_, _, rfl⟩
  | measuredOnly => exact ⟨_, _, rfl⟩
  | baselineOnly => exact ⟨_, _, rfl⟩

/-- What an answer leaves to an operation that waits for a request, where `waiting` are the calls
that it waits for besides and `calls` are all that were made: it fails, it ends with the series that
are prescribed, it makes another call, or it waits for the rest. -/
inductive Answered (oracle : Oracle) (issue : SeriesIssue) (live : LiveView) (waiting : List Nat)
    (calls : List (Nat × Call)) : LiveView × Next → Prop
  | failed {purpose : Purpose} {cause : ChartError} :
    Answered oracle issue live waiting calls (live.failSeries purpose cause)
  | ended {urn : String} {purpose : Purpose} {measured baseline : Option TimeSeries}
    (hprescribed : Prescribes oracle issue.timezone issue.inputs calls measured baseline) :
    Answered oracle issue live waiting calls
      (live.finishSeries (issue.request urn purpose) measured baseline)
  | asked {call : Call} {stage : Stage} (hcall : call.isSeries = true)
    (hwaits : ∀ id, issue.Waits oracle stage [id] (calls ++ [(id, call)])) :
    Answered oracle issue live waiting calls (live, .ask call stage)
  | waits {stage : Stage} (hwaits : issue.Waits oracle stage waiting calls) :
    Answered oracle issue live waiting calls (live, .wait stage)

/-- An answer to one of the calls that an operation waits for does one of these things. -/
theorem Waits.answer {live : LiveView} {stage : Stage} {waiting : List Nat}
    {calls : List (Nat × Call)} {id : Nat} {call : Call} {step : LiveView × Next}
    (h : issue.Waits oracle stage waiting calls) (hid : id ∈ waiting)
    (hcall : ∀ call', (id, call') ∈ calls → call' = call)
    (hanswer : LiveView.SeriesAnswer live (waiting.head? == some id) (oracle id call) stage step) :
    issue.Answered oracle live (waiting.erase id) calls step := by
  cases h with
  | compared hslice hvisible hprediction hoffset =>
    obtain rfl := List.mem_singleton.1 hid
    obtain rfl := hcall _ List.mem_cons_self
    cases hanswer with
    | failed => exact .failed
    | lastBaseline hseries => exact .ended (.compared hslice hvisible hprediction hoffset hseries)
  | measured hslice hvisible =>
    obtain rfl := List.mem_singleton.1 hid
    obtain rfl := hcall _ List.mem_cons_self
    cases hanswer with
    | failed => exact .failed
    | measured hseries => exact .asked rfl fun second => .baselineOnly hslice hvisible hseries
  | @both urn purpose first second hslice hvisible horder =>
    rcases List.mem_cons.1 hid with rfl | hsecond
    · obtain rfl := hcall _ List.mem_cons_self
      have hfirst : ([id, second].head? == some id) = true := beq_self_eq_true _
      rw [List.erase_cons_head]
      cases hanswer with
      | failed => exact .failed
      | bothMeasured _ hseries => exact .waits (.baselineOnly hslice hvisible hseries)
      | bothBaseline hnot =>
        rw [hfirst] at hnot
        cases hnot
    · obtain rfl := List.mem_singleton.1 hsecond
      obtain rfl := hcall _ (List.mem_cons_of_mem _ List.mem_cons_self)
      have hne : first ≠ id := Nat.ne_of_lt horder
      have hfirst : ([first, id].head? == some id) = false := by simpa using hne
      rw [List.erase_cons_tail (by simpa using hne), List.erase_cons_head]
      cases hanswer with
      | failed => exact .failed
      | bothMeasured hnot =>
        rw [hfirst] at hnot
        cases hnot
      | bothBaseline _ hseries => exact .waits (.measuredOnly hslice hvisible hseries)
  | measuredOnly hslice hvisible hbaseline =>
    obtain rfl := List.mem_singleton.1 hid
    obtain rfl := hcall _ List.mem_cons_self
    cases hanswer with
    | failed => exact .failed
    | lastMeasured hseries => exact .ended (.measured hslice hvisible hseries hbaseline)
  | baselineOnly hslice hvisible hmeasured =>
    obtain rfl := List.mem_singleton.1 hid
    obtain rfl := hcall _ (List.mem_cons_of_mem _ List.mem_cons_self)
    cases hanswer with
    | failed => exact .failed
    | lastBaseline hseries => exact .ended (.measured hslice hvisible hmeasured hseries)

/-- The operation of a request waits for its answers. -/
def Waiting (oracle : Oracle) (issue : SeriesIssue) (run : Run) : Prop :=
  ∃ flight ∈ run.flights, flight.operation = issue.operation ∧
    issue.Waits oracle flight.stage flight.waiting (run.callsOf Call.isSeries issue.since)

/-- The operation of a request ended, and the series shown are those that were prescribed. -/
structure Shown (oracle : Oracle) (issue : SeriesIssue) (run : Run) : Prop where
  /-- The operation ended. -/
  ended : ∃ result, (issue.operation, result) ∈ run.results
  /-- The series were prescribed. -/
  prescribed : Prescribes oracle issue.timezone issue.inputs
    (run.callsOf Call.isSeries issue.since) run.live.session.timeseries run.live.session.baseline

/-- The operation of a request ended without its series. -/
def Failed (issue : SeriesIssue) (run : Run) : Prop :=
  ∃ result, (issue.operation, result) ∈ run.results ∧ result.isSuccess = false

/-- What a request was made from is still what is selected, unless a load has its own request to
come, or a load failed. -/
def Fresh (issue : SeriesIssue) (run : Run) : Prop :=
  run.live.session.seriesInputs = issue.inputs ∨
    (∃ flight ∈ run.flights, flight.stage.isPass = true) ∨
    (run.live.session.errored = true ∧ ∀ flight ∈ run.flights, flight.stage.isLoad = false)

/-- A request is the latest, and no other operation touches its series: whatever else waits for
series has another request, and all its calls were made. -/
structure Held (oracle : Oracle) (issue : SeriesIssue) (run : Run) : Prop where
  /-- No later request was issued. -/
  ticket : run.live.ticket = issue.ticket
  /-- It was issued after these calls. -/
  since : issue.since ≤ run.calls.length
  /-- Other operations have other requests. -/
  others : ∀ flight ∈ run.flights, flight.operation ≠ issue.operation →
    flight.stage.isMeasured = false ∧
      ∀ request, flight.stage.request? = some request → request.ticket ≠ issue.ticket
  /-- Its operation waits for it, or its series are shown. -/
  status : issue.Waiting oracle run ∨ issue.Shown oracle run

/-- A request is the latest, and made from what is selected. -/
structure Newest (oracle : Oracle) (issue : SeriesIssue) (run : Run) : Prop
    extends issue.Held oracle run where
  /-- It was made from what is selected. -/
  fresh : issue.Fresh run

/-- What becomes of a request: a later one is issued, it fails, or it is the newest. -/
def Tracked (oracle : Oracle) (issue : SeriesIssue) (run : Run) : Prop :=
  issue.ticket < run.live.ticket ∨ issue.Failed run ∨ issue.Newest oracle run

section

open Run

variable {run : Run} {others : List Flight} {live : LiveView} {operation : Nat}
  {waiting : List Nat} {next : Next}

/-- A failed request stays failed while an operation goes on. -/
theorem Failed.hold (h : issue.Failed run) (live : LiveView) (others : List Flight)
    (operation : Nat) (waiting : List Nat) (next : Next) :
    issue.Failed ({ run with live := live, flights := others }.hold operation waiting next) := by
  obtain ⟨result, hresult, hfailure⟩ := h
  exact ⟨result, mem_results_hold operation waiting next hresult, hfailure⟩

/-- Beside the newest request another operation goes on, which touches no series, calls for none
and waits for none of this request. -/
theorem Held.hold (h : issue.Held oracle { run with flights := others })
    (hstate : live.seriesState = run.live.seriesState)
    (hcall : ∀ call stage, next = .ask call stage → call.isSeries = false)
    (hstage : ∀ stage, next.stage? = some stage → stage.isMeasured = false ∧
      ∀ request, stage.request? = some request → request.ticket ≠ issue.ticket) :
    issue.Held oracle
      ({ run with live := live, flights := others }.hold operation waiting next) := by
  have hcalls : ({ run with live := live, flights := others }.hold operation waiting
      next).callsOf Call.isSeries issue.since = run.callsOf Call.isSeries issue.since :=
    callsOf_hold { run with live := live, flights := others } Call.isSeries h.since operation
      waiting hcall
  have hlive := live_hold { run with live := live, flights := others } operation waiting next
  refine ⟨?_, ?_, ?_, ?_⟩
  · rw [hlive]
    exact (congrArg SeriesState.ticket hstate).trans h.ticket
  · exact Nat.le_trans h.since (calls_length_hold { run with live := live, flights := others }
      operation waiting next)
  · intro flight hflight hother
    rcases mem_flights_hold hflight with hflight | ⟨-, hnext⟩
    · exact h.others flight hflight hother
    · exact hstage _ hnext
  · rcases h.status with ⟨flight, hflight, hissue, hwaits⟩ | ⟨⟨result, hresult⟩, hprescribed⟩
    · refine .inl ⟨flight, mem_hold_of_mem operation waiting next hflight, hissue, ?_⟩
      rw [hcalls]
      exact hwaits
    · refine .inr ⟨⟨result, mem_results_hold operation waiting next hresult⟩, ?_⟩
      have htimeseries : live.session.timeseries = run.live.session.timeseries :=
        congrArg SeriesState.timeseries hstate
      have hbaseline : live.session.baseline = run.live.session.baseline :=
        congrArg SeriesState.baseline hstate
      rw [hcalls, hlive]
      dsimp only
      rw [htimeseries, hbaseline]
      exact hprescribed

/-- Beside the newest request another operation comes to its end and touches no series. -/
theorem Held.finish (h : issue.Held oracle { run with flights := others })
    (hstate : live.seriesState = run.live.seriesState) (result : Result) :
    issue.Held oracle
      ({ run with live := live, flights := others }.hold operation waiting (.finish result)) := by
  refine h.hold hstate ?_ ?_
  · intro call stage hnext
    cases hnext
  · intro stage hnext
    cases hnext

/-- A load goes on beside the newest request: it has its own request to come, it fails, or it issues
a later one. -/
theorem Held.load {step : LiveView × Next} (h : issue.Held oracle { run with flights := others })
    (hstep : LiveView.LoadStep run.live step)
    (hloads : ∀ flight ∈ others, flight.stage.isLoad = false) :
    issue.Tracked oracle
      ({ run with live := step.1, flights := others }.hold operation waiting step.2) := by
  cases hstep with
  | @pass after call stage hstate hzone hcall hpass =>
    have hstage : stage.isMeasured = false ∧
        ∀ request, stage.request? = some request → request.ticket ≠ issue.ticket := by
      cases stage with
      | evaluation pass => exact ⟨rfl, fun request hrequest => by cases hrequest⟩
      | detected pass evaluation => exact ⟨rfl, fun request hrequest => by cases hrequest⟩
      | _ => cases hpass
    have hheld : issue.Held oracle ({ run with live := after, flights := others }.hold operation
        waiting (.ask call stage)) := by
      refine h.hold hstate ?_ ?_
      · intro call' stage' hnext
        cases hnext
        exact hcall
      · intro stage' hnext
        cases hnext
        exact hstage
    exact .inr (.inr ⟨hheld, .inr (.inl ⟨_, List.mem_append_right _ (List.mem_singleton_self _),
      hpass⟩)⟩)
  | @failed after hstate hzone herrored =>
    exact .inr (.inr ⟨h.finish hstate _, .inr (.inr ⟨herrored, hloads⟩)⟩)
  | @series after hstate hzone =>
    have hticket : after.ticket = issue.ticket :=
      (congrArg SeriesState.ticket hstate).trans h.ticket
    left
    rw [live_hold]
    dsimp only
    rw [(after.requestSeries_start .load).next.1, hticket]
    exact Nat.lt_succ_self _

/-- An operation goes on that waits for no anomalies and changes nothing that series are made
from. -/
theorem Fresh.hold {stage : Stage} {waiting' : List Nat} (h : issue.Fresh run)
    (hflights : run.flights = others ++ [⟨operation, stage, waiting'⟩])
    (hpass : stage.isPass = false)
    (hinputs : live.session.seriesInputs = run.live.session.seriesInputs)
    (herrored : run.live.session.errored = true → live.session.errored = true)
    (hload : ∀ stage', next.stage? = some stage' → stage'.isLoad = true → stage.isLoad = true) :
    issue.Fresh ({ run with live := live, flights := others }.hold operation waiting next) := by
  unfold Fresh
  rw [live_hold]
  rcases h with hsame | ⟨flight, hflight, hflightPass⟩ | ⟨hfailed, hloads⟩
  · exact .inl (hinputs.trans hsame)
  -- the load that has its request to come is another operation, and stays in flight
  · right; left
    rcases (mem_flights_concat hflights).1 hflight with hother | rfl
    · exact ⟨flight, mem_hold_of_mem operation waiting next hother, hflightPass⟩
    · rw [hpass] at hflightPass
      cases hflightPass
  · right; right
    refine ⟨herrored hfailed, fun flight hflight => ?_⟩
    rcases mem_flights_hold hflight with hother | ⟨-, hnext⟩
    · exact hloads flight (mem_flights_of_others hflights hother)
    · have hlast := hloads _ (last_mem_flights hflights)
      cases hstage : flight.stage.isLoad with
      | false => rfl
      | true =>
        rw [hload _ hnext hstage] at hlast
        cases hlast

/-- Beside an operation in flight the newest request is held by the others. -/
theorem Newest.beside {stage : Stage} {waiting' : List Nat} (h : issue.Newest oracle run)
    (hflights : run.flights = others ++ [⟨operation, stage, waiting'⟩])
    (hoperation : operation ≠ issue.operation) :
    issue.Held oracle { run with flights := others } := by
  refine ⟨h.ticket, h.since, ?_, ?_⟩
  · intro flight hflight
    exact h.others flight (mem_flights_of_others hflights hflight)
  · rcases h.status with ⟨flight, hflight, hissue, hwaits⟩ | hshown
    · rcases (mem_flights_concat hflights).1 hflight with hother | rfl
      · exact .inl ⟨flight, hother, hissue, hwaits⟩
      · exact absurd hissue hoperation
    · exact .inr ⟨hshown.ended, hshown.prescribed⟩

/-- An answer to another request than the latest changes no series. If all its calls were made, none
is made again. -/
theorem older_answer {first : Bool} {answer : Answer} {stage : Stage} {request : SeriesRequest}
    {step : LiveView × Next} (h : LiveView.SeriesAnswer live first answer stage step)
    (hrequest : stage.request? = some request) (hticket : request.ticket ≠ live.ticket) :
    step.1.seriesState = live.seriesState ∧
      step.1.session.seriesInputs = live.session.seriesInputs ∧
      (live.session.errored = true → step.1.session.errored = true) ∧
      (stage.isMeasured = false → step.2.Called) := by
  have hfinish (measured baseline : Option TimeSeries) :
      live.finishSeries request measured baseline = (live, .finish request.purpose.success) := by
    unfold LiveView.finishSeries LiveView.install
    rw [if_neg (Ne.symm hticket)]
  cases h with
  | failed => exact ⟨rfl, rfl, fun _ => rfl, fun _ => trivial⟩
  | measured => exact ⟨rfl, rfl, id, fun hmeasured => Bool.noConfusion hmeasured⟩
  | bothMeasured => exact ⟨rfl, rfl, id, fun _ => rfl⟩
  | bothBaseline => exact ⟨rfl, rfl, id, fun _ => rfl⟩
  | lastMeasured =>
    cases hrequest
    rw [hfinish]
    exact ⟨rfl, rfl, id, fun _ => trivial⟩
  | lastBaseline =>
    cases hrequest
    rw [hfinish]
    exact ⟨rfl, rfl, id, fun _ => trivial⟩

/-- Another operation than that of the newest request takes an answer. -/
theorem Newest.take_other {stage : Stage} {waiting : List Nat} (h : issue.Newest oracle run)
    (hrun : run.Orderly) (hflights : run.flights = others ++ [⟨operation, stage, waiting⟩])
    (hoperation : operation ≠ issue.operation) (id : Nat) (answer : Answer) :
    issue.Tracked oracle (run.taken others ⟨operation, stage, waiting⟩ id answer) := by
  have hmem := last_mem_flights hflights
  have hbeside := h.beside hflights hoperation
  rw [taken_eq]
  rcases stage.pass_or_series_or_report with hpass | ⟨request, hrequest⟩ | ⟨report, rfl⟩
  · refine hbeside.load (run.live.resume_pass _ answer hpass) fun flight hflight => ?_
    have hload : stage.isLoad = true := by
      cases stage <;> first | rfl | cases hpass
    cases hflightLoad : flight.stage.isLoad with
    | false => rfl
    | true =>
      have hflight' : flight ∈ run.flights := by
        rw [hflights]
        exact List.mem_append_left _ hflight
      exact absurd (hrun.loads flight hflight' _ hmem hflightLoad hload)
        (hrun.others_ne hflights hflight)
  · obtain ⟨hmeasured, hother⟩ := h.others _ hmem hoperation
    have hticket : request.ticket ≠ run.live.ticket := by
      rw [h.ticket]
      exact hother request hrequest
    have hanswer := run.live.resume_series (waiting.head? == some id) answer hrequest
    obtain ⟨hstate, hinputs, herrored, hnext⟩ := older_answer hanswer hrequest hticket
    have hcalled := hnext hmeasured
    have hsame := hanswer.next.2.2
    obtain ⟨-, -, hloads⟩ := run.live.resume_next (waiting.head? == some id) answer stage
      (hrun.tickets _ hmem)
    have hpass : stage.isPass = false := by
      cases stage <;> first | rfl | cases hrequest
    refine .inr (.inr ⟨hbeside.hold hstate ?_ ?_, h.fresh.hold hflights hpass hinputs herrored ?_⟩)
    · intro call stage' hask
      exact absurd hask (hcalled.ne_ask call stage')
    · intro stage' hstage'
      refine ⟨hcalled.isMeasured hstage', fun request' hrequest' => ?_⟩
      exact hother request' ((hsame stage' hstage').symm.trans hrequest')
    · intro stage' hstage'
      exact (hloads stage' hstage').1
  · obtain ⟨after, result, hreport, hstate, -, hinputs, herrored⟩ :=
      run.live.resume_report (waiting.head? == some id) answer report
    rw [hreport]
    refine .inr (.inr ⟨hbeside.finish hstate _, h.fresh.hold hflights rfl hinputs ?_ ?_⟩)
    · intro hfailed
      exact herrored.trans hfailed
    · intro stage' hstage'
      cases hstage'

/-- The operation of the newest request comes to its end without the series. -/
theorem Tracked.fail (live : LiveView) (hoperation : operation = issue.operation)
    (purpose : Purpose) (cause : ChartError) :
    issue.Tracked oracle
      ({ run with live := (live.failSeries purpose cause).1, flights := others }.hold operation
        waiting (live.failSeries purpose cause).2) := by
  refine .inr (.inl ⟨purpose.failure cause, ?_, purpose.isSuccess_failure cause⟩)
  rw [← hoperation]
  exact List.mem_append_right _ (List.mem_singleton_self _)

/-- The operation of the newest request comes to its end with the series that were prescribed. -/
theorem Newest.finish {stage : Stage} {waiting' : List Nat} (h : issue.Newest oracle run)
    (hflights : run.flights = others ++ [⟨operation, stage, waiting'⟩])
    (hoperation : operation = issue.operation) (hpass : stage.isPass = false) (urn : String)
    (purpose : Purpose) {measured baseline : Option TimeSeries}
    (hprescribed : Prescribes oracle issue.timezone issue.inputs
      (run.callsOf Call.isSeries issue.since) measured baseline) :
    let step := run.live.finishSeries (issue.request urn purpose) measured baseline
    issue.Tracked oracle
      ({ run with live := step.1, flights := others }.hold operation waiting step.2) := by
  intro step
  have hinstall : step = (run.live.update fun session =>
      { session.setSeries measured baseline with isLoadingSeries := false },
        .finish purpose.success) := by
    have hticket : run.live.ticket = (issue.request urn purpose).ticket := h.ticket
    simp only [step, LiveView.finishSeries, LiveView.install, if_pos hticket]
    rfl
  rw [hinstall]
  refine .inr (.inr ⟨⟨h.ticket, h.since, ?_, .inr ⟨⟨purpose.success, ?_⟩, hprescribed⟩⟩,
    h.fresh.hold hflights hpass
      (run.live.session.seriesInputs_setSeries measured baseline false) id ?_⟩)
  · intro flight hflight
    exact h.others flight (mem_flights_of_others hflights hflight)
  · rw [← hoperation]
    exact List.mem_append_right _ (List.mem_singleton_self _)
  · intro stage' hstage'
    cases hstage'

/-- The operation of the newest request goes on waiting for its answers. -/
theorem Newest.wait {stage : Stage} {waiting' : List Nat} (h : issue.Newest oracle run)
    (hflights : run.flights = others ++ [⟨operation, stage, waiting'⟩])
    (hoperation : operation = issue.operation) (hpass : stage.isPass = false)
    (hload : ∀ stage', next.stage? = some stage' → stage'.isLoad = true → stage.isLoad = true)
    (hwaiting : issue.Waiting oracle ({ run with flights := others }.hold operation waiting next)) :
    issue.Tracked oracle ({ run with flights := others }.hold operation waiting next) := by
  have hlive := live_hold { run with flights := others } operation waiting next
  have hlength := calls_length_hold { run with flights := others } operation waiting next
  refine .inr (.inr ⟨⟨?_, Nat.le_trans h.since hlength, ?_, .inl hwaiting⟩,
    h.fresh.hold hflights hpass rfl id hload⟩)
  · rw [hlive]
    exact h.ticket
  · intro flight hflight hother
    rcases mem_flights_hold hflight with hflight | ⟨hsame, -⟩
    · exact h.others flight (mem_flights_of_others hflights hflight) hother
    · exact absurd (hsame.trans hoperation) hother

/-- While the operation of the newest request is in flight it waits for its answers. -/
theorem Newest.waits {flight : Flight} (h : issue.Newest oracle run) (hrun : run.Orderly)
    (hflight : flight ∈ run.flights) (hoperation : flight.operation = issue.operation) :
    issue.Waits oracle flight.stage flight.waiting (run.callsOf Call.isSeries issue.since) := by
  rcases h.status with ⟨flight', hflight', hissue, hwaits⟩ | hshown
  · obtain rfl := hrun.flight_unique hflight' hflight (hissue.trans hoperation.symm)
    exact hwaits
  · obtain ⟨result, hresult⟩ := hshown.ended
    rw [← hoperation] at hresult
    exact absurd hresult (hrun.no_result hflight)

/-- The operation of the newest request takes an answer. -/
theorem Newest.take_own {stage : Stage} {waiting : List Nat} {id : Nat} {call : Call}
    (h : issue.Newest oracle run) (hrun : run.Orderly)
    (hflights : run.flights = others ++ [⟨operation, stage, waiting⟩])
    (hoperation : operation = issue.operation) (hid : id ∈ waiting)
    (hcall : run.call? id = some call) :
    issue.Tracked oracle (run.taken others ⟨operation, stage, waiting⟩ id (oracle id call)) := by
  have hmem := last_mem_flights hflights
  have hwaits := h.waits hrun hmem hoperation
  obtain ⟨urn, purpose, hrequest⟩ := hwaits.request?
  have hpass : stage.isPass = false := by
    cases stage <;> first | rfl | cases hrequest
  have hasked : ∀ call', (id, call') ∈ run.callsOf Call.isSeries issue.since → call' = call := by
    intro call' hmade
    rw [call?_of_mem_callsOf hmade] at hcall
    exact Option.some.inj hcall
  have hload : ∀ stage', (run.live.resume (waiting.head? == some id) (oracle id call)
      stage).2.stage? = some stage' → stage'.isLoad = true → stage.isLoad = true := by
    intro stage' hstage'
    exact ((run.live.resume_next _ _ stage (hrun.tickets _ hmem)).2.2 stage' hstage').1
  have hanswered := hwaits.answer hid hasked
    (run.live.resume_series (waiting.head? == some id) (oracle id call) hrequest)
  rw [taken_eq]
  generalize run.live.resume (waiting.head? == some id) (oracle id call) stage = step
    at hanswered hload ⊢
  cases hanswered with
  | failed => exact .fail run.live hoperation _ _
  | ended hprescribed => exact h.finish hflights hoperation hpass _ _ hprescribed
  | asked hseries hwaits =>
    have hrecord := run.callsOf_record_of_kind h.since hseries
    refine h.wait hflights hoperation hpass hload ⟨_, mem_flights_park.2 (.inr rfl), hoperation, ?_⟩
    exact hrecord ▸ hwaits _
  | waits hwaits =>
    exact h.wait hflights hoperation hpass hload
      ⟨_, mem_flights_park.2 (.inr rfl), hoperation, hwaits⟩

/-- The operation of the newest request calls for the baseline as well. No other operation has a
call still to make. -/
theorem Newest.double {request : SeriesRequest} {id : Nat} (h : issue.Newest oracle run)
    (hrun : run.Orderly)
    (hflights : run.flights = others ++ [⟨operation, .measured request, [id]⟩]) :
    issue.Newest oracle (run.doubled others operation id request) := by
  have hmem := last_mem_flights hflights
  have hoperation : operation = issue.operation := by
    by_contra hother
    cases (h.others _ hmem hother).1
  have hwaits : issue.Waits oracle (.measured request) [id]
      (run.callsOf Call.isSeries issue.since) := h.waits hrun hmem hoperation
  have hid := (hrun.asked _ hmem id (List.mem_singleton_self _)).2
  have hlength : run.calls.length ≤ (run.calls ++ [request.baselineCall]).length := by
    rw [List.length_append]
    omega
  refine ⟨⟨h.ticket, Nat.le_trans h.since hlength, ?_,
    .inl ⟨_, mem_flights_doubled.2 (.inr rfl), hoperation, ?_⟩⟩, ?_⟩
  · intro flight hflight hother
    rcases mem_flights_doubled.1 hflight with hflight | rfl
    · exact h.others flight (mem_flights_of_others hflights hflight) hother
    · exact absurd hoperation hother
  · generalize hcalls : run.callsOf Call.isSeries issue.since = calls at hwaits
    cases hwaits with
    | @measured urn purpose _ hslice hvisible =>
      have hbaseline : (issue.call urn issue.inputs.offset).isSeries = true := rfl
      have hrecord := run.callsOf_record_of_kind h.since hbaseline
      rw [hcalls] at hrecord
      exact hrecord ▸ .both hslice hvisible (Nat.lt_succ_of_le hid)
  · rcases h.fresh with hsame | ⟨flight, hflight, hpass⟩ | ⟨hfailed, hloads⟩
    · exact .inl hsame
    · rcases (mem_flights_concat hflights).1 hflight with hother | rfl
      · exact .inr (.inl ⟨flight, List.mem_append_left _ hother, hpass⟩)
      · cases hpass
    · refine .inr (.inr ⟨hfailed, fun flight hflight => ?_⟩)
      rcases mem_flights_doubled.1 hflight with hother | rfl
      · exact hloads flight (mem_flights_of_others hflights hother)
      · have hload : (Stage.measured request).isLoad = false := hloads _ hmem
        exact hload

/-- What becomes of a request is kept track of while any operation goes on. -/
theorem Tracked.keeps (oracle : Oracle) (issue : SeriesIssue) (operation : Nat)
    (others : List Flight) :
    Keeps oracle operation others fun run => run.Orderly ∧ issue.Tracked oracle run where
  take := by
    intro run stage waiting id call hflights hid hcall h
    obtain ⟨hrun, htracked⟩ := h
    have hmem := last_mem_flights hflights
    refine ⟨(Orderly.keeps oracle operation others).take hflights hid hcall hrun, ?_⟩
    rcases htracked with hlater | hfailed | hnewest
    · left
      have hticket := (run.live.resume_next (waiting.head? == some id) (oracle id call) stage
        (hrun.tickets _ hmem)).1
      rw [taken_eq, live_hold]
      exact Nat.lt_of_lt_of_le hlater hticket
    · exact .inr (.inl (hfailed.hold _ _ _ _ _))
    · by_cases hoperation : operation = issue.operation
      · exact hnewest.take_own hrun hflights hoperation hid hcall
      · exact hnewest.take_other hrun hflights hoperation id _
  double := by
    intro run request id hflights h
    obtain ⟨hrun, htracked⟩ := h
    refine ⟨(Orderly.keeps oracle operation others).double hflights hrun, ?_⟩
    rcases htracked with hlater | hfailed | hnewest
    · exact .inl hlater
    · exact .inr (.inl hfailed)
    · exact .inr (.inr (hnewest.double hrun hflights))

/-- What becomes of a request does not depend on where operations stand among those in flight. -/
theorem Tracked.rotate (h : issue.Tracked oracle run) {before after : List Flight}
    {flight : Flight} (hflights : run.flights = before ++ flight :: after) :
    issue.Tracked oracle { run with flights := before ++ after ++ [flight] } := by
  have hmem := mem_rotate hflights
  rcases h with hlater | hfailed | hnewest
  · exact .inl hlater
  · exact .inr (.inl hfailed)
  · refine .inr (.inr ⟨⟨hnewest.ticket, hnewest.since, ?_, ?_⟩, ?_⟩)
    · intro other hother
      exact hnewest.others other ((hmem other).1 hother)
    · rcases hnewest.status with ⟨other, hother, hissue, hwaits⟩ | hshown
      · exact .inl ⟨other, (hmem other).2 hother, hissue, hwaits⟩
      · exact .inr ⟨hshown.ended, hshown.prescribed⟩
    · rcases hnewest.fresh with hsame | ⟨other, hother, hpass⟩ | ⟨hfailed, hloads⟩
      · exact .inl hsame
      · exact .inr (.inl ⟨other, (hmem other).2 hother, hpass⟩)
      · exact .inr (.inr ⟨hfailed, fun other hother => hloads other ((hmem other).1 hother)⟩)

/-- What becomes of a request does not depend on the clock, the notices and the remembered views. -/
theorem Tracked.aside (h : issue.Tracked oracle run) (hsession : live.session = run.live.session)
    (hticket : live.ticket = run.live.ticket) :
    issue.Tracked oracle { run with live := live } := by
  rcases h with hlater | hfailed | hnewest
  · exact .inl (hticket ▸ hlater)
  · exact .inr (.inl hfailed)
  · refine .inr (.inr ⟨⟨hticket.trans hnewest.ticket, hnewest.since, hnewest.others, ?_⟩, ?_⟩)
    · rcases hnewest.status with hwaiting | ⟨hended, hprescribed⟩
      · exact .inl hwaiting
      · rw [← hsession] at hprescribed
        exact .inr ⟨hended, hprescribed⟩
    · have hfresh := hnewest.fresh
      unfold Fresh at hfresh ⊢
      rw [← hsession] at hfresh
      exact hfresh

/-- An operation begins that changes nothing that series are made from and loads nothing. -/
theorem Fresh.begin (h : issue.Fresh run)
    (hinputs : live.session.seriesInputs = run.live.session.seriesInputs)
    (herrored : run.busy = true ∨ live.session.errored = run.live.session.errored)
    (hload : ∀ stage, next.stage? = some stage → stage.isLoad = false) :
    issue.Fresh ({ run with live := live }.hold operation waiting next) := by
  unfold Fresh
  rw [live_hold]
  rcases h with hsame | ⟨flight, hflight, hpass⟩ | ⟨hfailed, hloads⟩
  · exact .inl (hinputs.trans hsame)
  · exact .inr (.inl ⟨flight, mem_hold_of_mem operation waiting next hflight, hpass⟩)
  · right; right
    constructor
    · rcases herrored with hbusy | hsame
      · obtain ⟨flight, hflight, hbusy⟩ := List.any_eq_true.1 hbusy
        rw [hloads flight hflight] at hbusy
        cases hbusy
      · exact hsame.trans hfailed
    · intro flight hflight
      rcases mem_flights_hold hflight with hother | ⟨-, hnext⟩
      · exact hloads flight hother
      · exact hload _ hnext

/-- An operation that leaves the range as it is begins beside the newest request. -/
theorem Newest.started (h : issue.Newest oracle run) {operation : Operation}
    (hrange : operation.keepsRange = true) :
    issue.Tracked oracle (run.started operation) := by
  have hheld : issue.Held oracle { run with flights := run.flights } := h.toHeld
  have hopening := run.live.begin_opening run.busy operation
  unfold Run.started
  generalize run.live.begin run.busy operation = step at hopening ⊢
  -- a load or a selection that begins has a later request; everything else leaves this one alone
  cases hopening with
  | finished hstate hzone hinputs herrored =>
    refine .inr (.inr ⟨hheld.finish hstate _, h.fresh.begin (hinputs hrange) herrored ?_⟩)
    intro stage hnext
    cases hnext
  | reported hstate hzone hinputs herrored hcall =>
    refine .inr (.inr ⟨hheld.hold hstate ?_ ?_, h.fresh.begin hinputs (.inr herrored) ?_⟩)
    · intro call stage hnext
      cases hnext
      exact hcall
    · intro stage hnext
      cases hnext
      exact ⟨rfl, fun request hrequest => by cases hrequest⟩
    · intro stage hnext
      cases hnext
      rfl
  | load hbusy hstep =>
    refine hheld.load hstep fun flight hflight => ?_
    rw [busy, List.any_eq_false] at hbusy
    exact Bool.eq_false_iff.2 (hbusy flight hflight)
  | @series after purpose hstate hzone =>
    have hticket : after.ticket = issue.ticket :=
      (congrArg SeriesState.ticket hstate).trans h.ticket
    left
    dsimp only
    rw [live_hold]
    dsimp only
    rw [(after.requestSeries_start purpose).next.1, hticket]
    exact Nat.lt_succ_self _

/-- What becomes of a request is kept track of where an operation begins. -/
theorem Tracked.started (h : issue.Tracked oracle run) {operation : Operation}
    (hrange : operation.keepsRange = true) :
    issue.Tracked oracle (run.started operation) := by
  rcases h with hlater | hfailed | hnewest
  · left
    have hticket := (run.live.begin_next run.busy operation).1
    unfold Run.started
    dsimp only
    rw [live_hold]
    exact Nat.lt_of_lt_of_le hlater hticket
  · exact .inr (.inl (hfailed.hold _ _ _ _ _))
  · exact hnewest.started hrange

end

end SeriesIssue

/-- Whether a move leaves the range as it is. -/
def Move.keepsRange : Move → Bool
  | begin operation _ => operation.keepsRange
  | _ => true

namespace SeriesIssue

variable {oracle : Oracle} {issue : SeriesIssue} {run : Run}

/-- What becomes of a request is kept track of in every move that leaves the range as it is. -/
theorem Tracked.step (h : issue.Tracked oracle run) (hrun : run.Orderly) {move : Move}
    (hmove : move.keepsRange = true) : issue.Tracked oracle (run.step oracle move) := by
  cases move with
  | begin operation prompt =>
    exact ((Tracked.keeps oracle issue run.begun run.flights).begin prompt
      ⟨hrun.started operation, h.started hmove⟩).2
  | settle id prompt =>
    exact (hrun.toNumbered.settle_induct prompt ⟨hrun, h⟩ fun hflights _ =>
      ⟨Tracked.keeps oracle issue _ _, hrun.rotate hflights, h.rotate hflights⟩).2
  | setClock now => exact h.aside rfl rfl
  | drain => exact h.aside rfl rfl
  | look => exact h.aside rfl rfl

/-- What becomes of a request is kept track of through every run that leaves the range as it is. -/
theorem Tracked.after (h : issue.Tracked oracle run) (hrun : run.Orderly) {moves : List Move}
    (hmoves : ∀ move ∈ moves, move.keepsRange = true) :
    issue.Tracked oracle (run.after oracle moves) := by
  induction moves generalizing run with
  | nil => exact h
  | cons move rest ih =>
    have hmove := hmoves move List.mem_cons_self
    exact ih (h.step hrun hmove) (hrun.step oracle move) fun other hother =>
      hmoves other (List.mem_cons_of_mem _ hother)

/-- Once nothing is in flight and nothing failed last, the series of the latest request, if its
operation came out with them, are those that what is selected prescribes. -/
theorem Tracked.prescribes (h : issue.Tracked oracle run) (hrun : run.Orderly)
    (hlatest : run.live.ticket = issue.ticket) (hflights : run.flights = [])
    (herrored : run.live.session.errored = false) {result : Result}
    (hresult : (issue.operation, result) ∈ run.results) (hsuccess : result.isSuccess = true) :
    Prescribes oracle issue.timezone run.live.session.seriesInputs
      (run.callsOf Call.isSeries issue.since) run.live.session.timeseries
      run.live.session.baseline := by
  have hnone (flight : Flight) : flight ∉ run.flights := by
    rw [hflights]
    exact List.not_mem_nil
  rcases h with hlater | ⟨result', hresult', hfailure⟩ | hnewest
  · exact absurd hlatest.symm (Nat.ne_of_lt hlater)
  · obtain rfl := hrun.result_unique hresult hresult'
    rw [hsuccess] at hfailure
    cases hfailure
  · have hinputs : run.live.session.seriesInputs = issue.inputs := by
      rcases hnewest.fresh with hsame | ⟨flight, hflight, -⟩ | ⟨hfailed, -⟩
      · exact hsame
      · exact absurd hflight (hnone flight)
      · exact absurd (herrored.symm.trans hfailed) Bool.noConfusion
    rcases hnewest.status with ⟨flight, hflight, -⟩ | hshown
    · exact absurd hflight (hnone flight)
    · rw [hinputs]
      exact hshown.prescribed

end SeriesIssue

end AlertDetail
