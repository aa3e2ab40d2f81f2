import AlertDetail.Proofs.Series.Newest

/-!
# Series of the selection

Series are requested under the number of the latest request, and only the answers to that one are
installed. So in every interleaving of operations the answers to an older request change nothing,
and once nothing is in flight the series shown are those that the selection prescribes.
-/

namespace AlertDetail

/-- The operation that goes on in a move. -/
def Run.actor (run : Run) : Move → Option Nat
  | .begin .. => some run.begun
  | .settle id _ => (run.flights.find? (·.awaits id)).map (·.operation)
  | _ => none

/-- The operation that takes an answer is the one that waits for it. -/
theorem Run.Numbered.actor_settle {run : Run} (h : run.Numbered) {before after : List Flight}
    {flight : Flight} (hflights : run.flights = before ++ flight :: after) {id : Nat}
    (hid : id ∈ flight.waiting) {prompt : Nat → Call → Bool} {operation : Nat}
    (hactor : run.actor (.settle id prompt) = some operation) : flight.operation = operation := by
  have hflight : flight ∈ run.flights := by
    rw [hflights]
    exact List.mem_append_right _ List.mem_cons_self
  unfold actor at hactor
  dsimp only at hactor
  rw [h.find_awaits hflight hid] at hactor
  exact Option.some.inj hactor

namespace SeriesIssue

open Run

/-- An operation in flight that issued a request waits for its series. -/
structure Kept (issue : SeriesIssue) (run : Run) : Prop where
  /-- Its number is given and not given again. -/
  begun : issue.operation < run.begun
  /-- It waits for its series. -/
  own : ∀ flight ∈ run.flights, flight.operation = issue.operation →
    ∃ request, flight.stage.request? = some request ∧ request.ticket = issue.ticket

variable {oracle : Oracle} {run : Run} {others : List Flight} {live : LiveView}
  {operation since ticket : Nat} {waiting : List Nat}

/-- It keeps waiting for them, and other operations do not touch it. -/
theorem Kept.keeps (oracle : Oracle) (issue : SeriesIssue) (operation : Nat)
    (others : List Flight) : Keeps oracle operation others issue.Kept where
  take := by
    intro run stage waiting id call hflights hid hcall h
    rw [taken_eq]
    constructor
    · have hbegun := h.begun
      unfold Run.begun at hbegun
      rw [hflights, List.length_append, List.length_singleton] at hbegun
      rw [begun_hold]
      show issue.operation < others.length + run.results.length + 1
      omega
    · intro flight hflight hsame
      rcases mem_flights_hold hflight with hflight | ⟨hoperation, hnext⟩
      · exact h.own flight (mem_flights_of_others hflights hflight) hsame
      · have hmem := last_mem_flights hflights
        obtain ⟨request, hrequest, hticket⟩ := h.own _ hmem (hoperation.symm.trans hsame)
        have hanswer := run.live.resume_series (waiting.head? == some id) (oracle id call) hrequest
        exact ⟨request, (hanswer.next.2.2 _ hnext).trans hrequest, hticket⟩
  double := by
    intro run request id hflights h
    constructor
    · have hbegun := h.begun
      unfold Run.begun at hbegun ⊢
      rw [hflights] at hbegun
      show issue.operation < (others ++ [_]).length + run.results.length
      rwa [List.length_append, List.length_singleton] at hbegun ⊢
    · intro flight hflight hsame
      rcases mem_flights_doubled.1 hflight with hflight | rfl
      · exact h.own flight (mem_flights_of_others hflights hflight) hsame
      · have hmem := last_mem_flights hflights
        obtain ⟨request', hrequest, hticket⟩ := h.own _ hmem hsame
        exact ⟨request', hrequest, hticket⟩

/-- It does not depend on where operations stand among those in flight. -/
theorem Kept.rotate {issue : SeriesIssue} (h : issue.Kept run) {before after : List Flight}
    {flight : Flight} (hflights : run.flights = before ++ flight :: after) :
    issue.Kept { run with flights := before ++ after ++ [flight] } where
  begun := by
    rw [begun_rotate hflights]
    exact h.begun
  own other hother := h.own other ((mem_rotate hflights other).1 hother)

/-- Every move leaves it so. -/
theorem Kept.step {issue : SeriesIssue} (h : issue.Kept run) (hrun : run.Numbered) (move : Move) :
    issue.Kept (run.step oracle move) := by
  cases move with
  | begin operation prompt =>
    refine (Kept.keeps oracle issue run.begun run.flights).begin prompt ⟨?_, ?_⟩
    · unfold started
      dsimp only
      rw [begun_hold]
      exact Nat.lt_succ_of_lt h.begun
    · intro flight hflight hsame
      rcases mem_flights_hold hflight with hflight | ⟨hnew, -⟩
      · exact h.own flight hflight hsame
      · exact absurd (hsame.symm.trans hnew) (Nat.ne_of_lt h.begun)
  | settle id prompt =>
    exact hrun.settle_induct prompt h fun hflights _ =>
      ⟨Kept.keeps oracle issue _ _, h.rotate hflights⟩
  | setClock now => exact ⟨h.begun, h.own⟩
  | drain => exact ⟨h.begun, h.own⟩
  | look => exact ⟨h.begun, h.own⟩

/-- Every run leaves it so. -/
theorem Kept.after {issue : SeriesIssue} (h : issue.Kept run) (hrest : run.AtRest)
    (moves : List Move) : issue.Kept (run.after oracle moves) :=
  hrest.keeps (fun hrest _ h => h.step hrest.numbered _) (fun _ _ => trivial) h

/-- Answers to an older request than the latest change no series. -/
theorem Kept.superseded {issue : SeriesIssue} (h : issue.Kept run) (hrun : run.Orderly)
    (hlater : run.live.ticket ≠ issue.ticket) {id : Nat} (prompt : Nat → Call → Bool)
    (hactor : run.actor (.settle id prompt) = some issue.operation) :
    (run.step oracle (.settle id prompt)).live.seriesState = run.live.seriesState := by
  let invariant (run' : Run) : Prop :=
    issue.Kept run' ∧ run'.live.seriesState = run.live.seriesState
  have hstay : invariant run := ⟨h, rfl⟩
  refine (hrun.toNumbered.settle_induct prompt hstay
    fun {before flight after} hflights hid => ⟨⟨?_, ?_⟩, h.rotate hflights, rfl⟩).2
  · intro run' stage waiting id' call hflights' hid' hcall hinvariant
    obtain ⟨hkept, hstate⟩ := hinvariant
    refine ⟨(Kept.keeps oracle issue _ _).take hflights' hid' hcall hkept, ?_⟩
    have hmem := last_mem_flights hflights'
    obtain ⟨request, hrequest, hticket⟩ := hkept.own _ hmem
      (hrun.actor_settle hflights hid hactor)
    have hlatest : run'.live.ticket = run.live.ticket := congrArg SeriesState.ticket hstate
    have hother : request.ticket ≠ run'.live.ticket := by
      rw [hticket, hlatest]
      exact hlater.symm
    have hanswer := run'.live.resume_series (waiting.head? == some id') (oracle id' call) hrequest
    rw [taken_eq, live_hold]
    exact (older_answer hanswer hrequest hother).1.trans hstate
  · intro run' request id' hflights' hinvariant
    obtain ⟨hkept, hstate⟩ := hinvariant
    exact ⟨(Kept.keeps oracle issue _ _).double hflights' hkept, hstate⟩

/-- The operations beside one that takes its turn are others, have made their calls, and have no
request that is later than the latest. -/
structure Beside (operation latest : Nat) (others : List Flight) : Prop where
  /-- They are others. -/
  other : ∀ flight ∈ others, flight.operation ≠ operation
  /-- They have made their calls. -/
  called : ∀ flight ∈ others, flight.stage.isMeasured = false
  /-- Their requests are not later. -/
  tickets : ∀ flight ∈ others, ∀ request, flight.stage.request? = some request →
    request.ticket ≤ latest

/-- An operation has not issued its request yet: while it waits for anomalies no series was called
for since it took its turn. -/
structure Unissued (operation since ticket : Nat) (run : Run) : Prop where
  /-- No request was issued. -/
  latest : run.live.ticket = ticket
  /-- It took its turn after these calls. -/
  made : since ≤ run.calls.length
  /-- Other operations have made their calls. -/
  others : ∀ flight ∈ run.flights, flight.operation ≠ operation → flight.stage.isMeasured = false
  /-- No series was called for. -/
  calls : ∀ flight ∈ run.flights, flight.operation = operation → flight.stage.isPass = true →
    run.callsOf Call.isSeries since = []

/-- An operation that takes its turn after `since` calls and the request `ticket` issues the next
one, or none. -/
def Issuing (oracle : Oracle) (operation since ticket : Nat) (run : Run) : Prop :=
  Unissued operation since ticket run ∨
    ∃ issue : SeriesIssue, issue.operation = operation ∧ issue.since = since ∧
      issue.ticket = run.live.ticket ∧ issue.timezone = run.live.zone.name ∧
      issue.Tracked oracle run ∧ issue.Kept run

/-- The request that an operation issues in a view, where it took its turn after `since` calls. -/
def ofView (operation since : Nat) (live : LiveView) : SeriesIssue where
  operation := operation
  since := since
  ticket := live.ticket + 1
  timezone := live.zone.name
  inputs := live.session.seriesInputs

/-- Operations beside the one that issues a request do not wait for it. -/
theorem Beside.not_waiting (h : Beside operation live.ticket others) (since : Nat) :
    ∀ flight ∈ others, flight.operation ≠ (ofView operation since live).operation →
      flight.stage.isMeasured = false ∧ ∀ request, flight.stage.request? = some request →
        request.ticket ≠ (ofView operation since live).ticket := by
  intro flight hflight _
  refine ⟨h.called flight hflight, fun request hrequest hsame => ?_⟩
  have hticket := h.tickets flight hflight request hrequest
  rw [hsame] at hticket
  exact absurd hticket (Nat.not_succ_le_self live.ticket)

/-- The request is complete at once: its series are shown. -/
theorem tracked_shown (hsince : since ≤ run.calls.length)
    (hcalls : run.callsOf Call.isSeries since = [])
    (hbeside : Beside operation live.ticket others) (purpose : Purpose) (urn : String)
    {measured baseline : Option TimeSeries}
    (hprescribed : Prescribes oracle live.zone.name live.session.seriesInputs [] measured
      baseline) :
    let step := live.issued.finishSeries (live.nextRequest purpose urn) measured baseline
    (ofView operation since live).Tracked oracle
      ({ run with live := step.1, flights := others }.hold operation waiting step.2) := by
  intro step
  have hinstall : step = (live.issued.update fun session =>
      { session.setSeries measured baseline with isLoadingSeries := false },
        .finish purpose.success) := by
    have hticket : live.issued.ticket = (live.nextRequest purpose urn).ticket := rfl
    simp only [step, LiveView.finishSeries, LiveView.install, if_pos hticket]
    rfl
  rw [hinstall]
  refine .inr (.inr ⟨⟨rfl, hsince, hbeside.not_waiting since,
    .inr ⟨⟨purpose.success, ?_⟩, ?_⟩⟩, ?_⟩)
  · exact List.mem_append_right _ (List.mem_singleton_self _)
  · exact hcalls.symm ▸ hprescribed
  · left
    rw [live_hold]
    exact live.issued.session.seriesInputs_setSeries measured baseline false

/-- The request makes its first call: the operation waits for the answer. -/
theorem tracked_waiting (hsince : since ≤ run.calls.length)
    (hcalls : run.callsOf Call.isSeries since = [])
    (hbeside : Beside operation live.ticket others) {call : Call} {stage : Stage}
    (hcall : call.isSeries = true)
    (hwaits : (ofView operation since live).Waits oracle stage [run.calls.length + 1]
      [(run.calls.length + 1, call)]) :
    (ofView operation since live).Tracked oracle
      ({ run with live := live.issued, flights := others }.hold operation waiting
        (.ask call stage)) := by
  have hrecord := run.callsOf_record_of_kind hsince hcall
  rw [hcalls, List.nil_append] at hrecord
  have hlength := calls_length_hold { run with live := live.issued, flights := others } operation
    waiting (.ask call stage)
  refine .inr (.inr ⟨⟨rfl, Nat.le_trans hsince hlength, ?_,
    .inl ⟨_, mem_flights_park.2 (.inr rfl), rfl, ?_⟩⟩, .inl rfl⟩)
  · intro flight hflight hother
    rcases mem_flights_hold hflight with hflight | ⟨hsame, -⟩
    · exact hbeside.not_waiting since flight hflight hother
    · exact absurd hsame hother
  · exact hrecord.symm ▸ hwaits

/-- A request that is issued is the newest, unless it fails for want of a slice. -/
theorem tracked_issued (live : LiveView) (purpose : Purpose) (hsince : since ≤ run.calls.length)
    (hcalls : run.callsOf Call.isSeries since = [])
    (hbeside : Beside operation live.ticket others) :
    (ofView operation since live).Tracked oracle
      ({ run with live := (live.requestSeries purpose).1, flights := others }.hold operation waiting
        (live.requestSeries purpose).2) := by
  have hstart := live.requestSeries_start purpose
  generalize live.requestSeries purpose = step at hstart ⊢
  cases hstart with
  | missing => exact .fail _ rfl _ _
  | unpredicted hslice hvisible hprediction =>
    exact tracked_shown hsince hcalls hbeside _ _
      (.unpredicted hslice hvisible (Prediction.find?_eq_none_iff.1 hprediction))
  | predicted hslice hvisible hprediction hoffset =>
    exact tracked_shown hsince hcalls hbeside _ _
      (.predicted hslice hvisible (Prediction.find?_eq_some_iff.1 hprediction) hoffset)
  | compared hslice hvisible hprediction hoffset =>
    exact tracked_waiting hsince hcalls hbeside rfl
      (.compared hslice hvisible (Prediction.find?_eq_some_iff.1 hprediction) hoffset)
  | measured hslice hvisible =>
    exact tracked_waiting hsince hcalls hbeside rfl (.measured hslice hvisible)

/-- An operation takes its turn and issues nothing. -/
theorem Unissued.hold {next : Next} (hlatest : live.ticket = ticket)
    (hsince : since ≤ run.calls.length) {latest : Nat} (hbeside : Beside operation latest others)
    (hcalls : ∀ stage, next.stage? = some stage → stage.isPass = true →
      ({ run with live := live, flights := others }.hold operation waiting next).callsOf
        Call.isSeries since = []) :
    Unissued operation since ticket
      ({ run with live := live, flights := others }.hold operation waiting next) where
  latest := by
    rw [live_hold]
    exact hlatest
  made := Nat.le_trans hsince
    (calls_length_hold { run with live := live, flights := others } operation waiting next)
  others flight hflight hother := by
    rcases mem_flights_hold hflight with hflight | ⟨hsame, -⟩
    · exact hbeside.called flight hflight
    · exact absurd hsame hother
  calls flight hflight hsame hpass := by
    rcases mem_flights_hold hflight with hflight | ⟨-, hnext⟩
    · exact absurd hsame (hbeside.other flight hflight)
    · exact hcalls _ hnext hpass

/-- An operation takes its turn and issues a request. -/
theorem Issuing.issued (live : LiveView) (purpose : Purpose) (hsince : since ≤ run.calls.length)
    (hcalls : run.callsOf Call.isSeries since = [])
    (hbegun : operation ≤ others.length + run.results.length)
    (hbeside : Beside operation live.ticket others) :
    Issuing oracle operation since live.ticket
      ({ run with live := (live.requestSeries purpose).1, flights := others }.hold operation waiting
        (live.requestSeries purpose).2) := by
  obtain ⟨hticket, hzone, hstages⟩ := (live.requestSeries_start purpose).next
  refine .inr ⟨ofView operation since live, rfl, rfl, ?_, ?_,
    tracked_issued live purpose hsince hcalls hbeside, ?_, ?_⟩
  · rw [live_hold]
    exact hticket.symm
  · rw [live_hold]
    exact congrArg Zone.name hzone.symm
  · rw [begun_hold]
    exact Nat.lt_succ_of_le hbegun
  · intro flight hflight hsame
    rcases mem_flights_hold hflight with hflight | ⟨-, hnext⟩
    · exact absurd hsame (hbeside.other flight hflight)
    · obtain ⟨urn, hrequest⟩ := hstages _ hnext
      exact ⟨_, hrequest, rfl⟩

/-- A load takes its turn beside operations that have made their calls. -/
theorem Issuing.load {step : LiveView × Next} (hstep : LiveView.LoadStep live step)
    (hsince : since ≤ run.calls.length) (hcalls : run.callsOf Call.isSeries since = [])
    (hbegun : operation ≤ others.length + run.results.length)
    (hbeside : Beside operation live.ticket others) :
    Issuing oracle operation since live.ticket
      ({ run with live := step.1, flights := others }.hold operation waiting step.2) := by
  cases hstep with
  | @pass after call stage hstate hzone hcall hpass =>
    have hkind : ∀ call' stage', Next.ask call stage = .ask call' stage' →
        call'.isSeries = false := by
      intro call' stage' hnext
      cases hnext
      exact hcall
    have hkept := callsOf_hold { run with live := after, flights := others } Call.isSeries hsince
      operation waiting hkind
    exact .inl (.hold (congrArg SeriesState.ticket hstate) hsince hbeside fun _ _ _ =>
      hkept.trans hcalls)
  | @failed after hstate hzone herrored =>
    refine .inl (.hold (congrArg SeriesState.ticket hstate) hsince hbeside fun stage hstage => ?_)
    cases hstage
  | @series after hstate hzone =>
    have hticket : after.ticket = live.ticket := congrArg SeriesState.ticket hstate
    rw [← hticket] at hbeside ⊢
    exact .issued after .load hsince hcalls hbegun hbeside

/-- An operation that issued no request yet takes an answer. -/
theorem Unissued.take {stage : Stage} (h : Unissued operation since ticket run)
    (hrun : run.Orderly) (hflights : run.flights = others ++ [⟨operation, stage, waiting⟩])
    (id : Nat) (answer : Answer) :
    Issuing oracle operation since ticket
      (run.taken others ⟨operation, stage, waiting⟩ id answer) := by
  have hmem := last_mem_flights hflights
  have hflight {flight : Flight} : flight ∈ others → flight ∈ run.flights :=
    mem_flights_of_others hflights
  have hbeside : Beside operation run.live.ticket others := {
    other := fun flight hother => hrun.others_ne hflights hother
    called := fun flight hother => h.others flight (hflight hother) (hrun.others_ne hflights hother)
    tickets := fun flight hother => hrun.tickets flight (hflight hother) }
  have hbegun : operation ≤ others.length + run.results.length := by
    have hbegun : operation < run.begun :=
      hrun.lt_begun (List.mem_append_left _ (List.mem_map.2 ⟨_, hmem, rfl⟩))
    unfold begun at hbegun
    rw [hflights, List.length_append, List.length_singleton] at hbegun
    omega
  rw [taken_eq, ← h.latest]
  rcases stage.pass_or_series_or_report with hpass | ⟨request, hrequest⟩ | ⟨report, rfl⟩
  · exact .load (run.live.resume_pass _ _ hpass) h.made (h.calls _ hmem rfl hpass) hbegun hbeside
  · obtain ⟨hlatest, -, hnext⟩ :=
      (run.live.resume_series (waiting.head? == some id) answer hrequest).next
    refine .inl (.hold hlatest h.made hbeside fun stage' hstage' hpass' => ?_)
    have hsame := (hnext stage' hstage').trans hrequest
    cases stage' <;> cases hsame <;> cases hpass'
  · obtain ⟨after, result, hreport, hstate, -⟩ :=
      run.live.resume_report (waiting.head? == some id) answer report
    rw [hreport]
    refine .inl (.hold (congrArg SeriesState.ticket hstate) h.made hbeside
      fun stage' hstage' => ?_)
    cases hstage'

/-- An operation that issued no request yet calls for the baseline of an earlier one. -/
theorem Unissued.double {request : SeriesRequest} {id : Nat}
    (h : Unissued operation since ticket run) (hrun : run.Orderly)
    (hflights : run.flights = others ++ [⟨operation, .measured request, [id]⟩]) :
    Unissued operation since ticket (run.doubled others operation id request) where
  latest := h.latest
  made := by
    have hlength : run.calls.length ≤ (run.calls ++ [request.baselineCall]).length := by
      rw [List.length_append]
      omega
    exact Nat.le_trans h.made hlength
  others flight hflight hother := by
    rcases mem_flights_doubled.1 hflight with hflight | rfl
    · exact h.others flight (mem_flights_of_others hflights hflight) hother
    · exact absurd rfl hother
  calls flight hflight hsame hpass := by
    rcases mem_flights_doubled.1 hflight with hflight | rfl
    · exact absurd hsame (hrun.others_ne hflights hflight)
    · cases hpass

/-- An operation goes on to issue its request, or issues none. -/
theorem Issuing.keeps (oracle : Oracle) (operation since ticket : Nat) (others : List Flight) :
    Keeps oracle operation others fun run =>
      run.Orderly ∧ Issuing oracle operation since ticket run where
  take := by
    intro run stage waiting id call hflights hid hcall h
    obtain ⟨hrun, hissuing⟩ := h
    have hmem := last_mem_flights hflights
    refine ⟨(Orderly.keeps oracle operation others).take hflights hid hcall hrun, ?_⟩
    rcases hissuing with hunissued | ⟨issue, hoperation, hsince, hticket, hzone, htracked, hkept⟩
    · exact hunissued.take hrun hflights id _
    · obtain ⟨request, hrequest, -⟩ := hkept.own _ hmem hoperation.symm
      obtain ⟨hticket', hzone', -⟩ := (run.live.resume_series (waiting.head? == some id)
        (oracle id call) hrequest).next
      refine .inr ⟨issue, hoperation, hsince, ?_, ?_,
        ((Tracked.keeps oracle issue operation others).take hflights hid hcall
          ⟨hrun, htracked⟩).2,
        (Kept.keeps oracle issue operation others).take hflights hid hcall hkept⟩
      · rw [taken_eq, live_hold]
        exact hticket.trans hticket'.symm
      · rw [taken_eq, live_hold]
        exact hzone.trans (congrArg Zone.name hzone'.symm)
  double := by
    intro run request id hflights h
    obtain ⟨hrun, hissuing⟩ := h
    refine ⟨(Orderly.keeps oracle operation others).double hflights hrun, ?_⟩
    rcases hissuing with hunissued | ⟨issue, hoperation, hsince, hticket, hzone, htracked, hkept⟩
    · exact .inl (hunissued.double hrun hflights)
    · exact .inr ⟨issue, hoperation, hsince, hticket, hzone,
        ((Tracked.keeps oracle issue operation others).double hflights ⟨hrun, htracked⟩).2,
        (Kept.keeps oracle issue operation others).double hflights hkept⟩

/-- An operation that begins takes its turn. -/
theorem Issuing.started (hrun : run.Orderly) (hrest : run.AtRest) (operation : Operation) :
    Issuing oracle run.begun run.calls.length run.live.ticket (run.started operation) := by
  have hbeside : Beside run.begun run.live.ticket run.flights := {
    other := fun flight hflight => Nat.ne_of_lt
      (hrun.lt_begun (List.mem_append_left _ (List.mem_map.2 ⟨flight, hflight, rfl⟩)))
    called := hrest.called
    tickets := hrun.tickets }
  have hcalls := run.callsOf_length Call.isSeries
  have hopening := run.live.begin_opening run.busy operation
  unfold Run.started
  generalize run.live.begin run.busy operation = step at hopening ⊢
  cases hopening with
  | finished hstate =>
    refine .inl (.hold (congrArg SeriesState.ticket hstate) (Nat.le_refl _) hbeside
      fun stage hstage => ?_)
    cases hstage
  | reported hstate =>
    refine .inl (.hold (congrArg SeriesState.ticket hstate) (Nat.le_refl _) hbeside
      fun stage hstage hpass => ?_)
    cases hstage
    cases hpass
  | load hbusy hstep => exact .load hstep (Nat.le_refl _) hcalls (Nat.le_refl _) hbeside
  | @series after purpose hstate =>
    have hticket : after.ticket = run.live.ticket := congrArg SeriesState.ticket hstate
    rw [← hticket] at hbeside ⊢
    exact .issued after purpose (Nat.le_refl _) hcalls (Nat.le_refl _) hbeside

/-- In every move the operation that goes on issues a request, or none is issued. -/
theorem Issuing.step (hrun : run.Orderly) (hrest : run.AtRest) {move : Move}
    (hactor : run.actor move = some operation) :
    Issuing oracle operation run.calls.length run.live.ticket (run.step oracle move) := by
  cases move with
  | begin started prompt =>
    obtain rfl : run.begun = operation := Option.some.inj hactor
    exact ((Issuing.keeps oracle _ _ _ _).begin prompt
      ⟨hrun.started started, Issuing.started hrun hrest started⟩).2
  | settle id prompt =>
    have hunissued : Unissued operation run.calls.length run.live.ticket run := {
      latest := rfl
      made := Nat.le_refl _
      others := fun flight hflight _ => hrest.called flight hflight
      calls := fun _ _ _ _ => run.callsOf_length Call.isSeries }
    let invariant (run' : Run) : Prop :=
      run'.Orderly ∧ Issuing oracle operation run.calls.length run.live.ticket run'
    have hstay : invariant run := ⟨hrun, .inl hunissued⟩
    refine (hrun.toNumbered.settle_induct prompt hstay
      fun {before flight after} hflights hid => ?_).2
    obtain rfl := hrun.actor_settle hflights hid hactor
    refine ⟨Issuing.keeps oracle _ _ _ _, hrun.rotate hflights, .inl ⟨rfl, Nat.le_refl _, ?_, ?_⟩⟩
    · intro other hother _
      exact hrest.called other ((mem_rotate hflights other).1 hother)
    · intro _ _ _ _
      exact run.callsOf_length Call.isSeries
  | setClock now => cases hactor
  | drain => cases hactor
  | look => cases hactor

/-- A move in which no operation goes on issues no request. -/
theorem ticket_of_no_actor {move : Move} (hactor : run.actor move = none) :
    (run.step oracle move).live.ticket = run.live.ticket := by
  cases move with
  | begin started prompt => cases hactor
  | settle id prompt =>
    have hfind : run.flights.find? (·.awaits id) = none := Option.map_eq_none_iff.1 hactor
    unfold Run.step
    dsimp only
    split
    · unfold Run.settle
      rw [hfind]
    · rfl
  | setClock now => rfl
  | drain => rfl
  | look => rfl

end SeriesIssue

namespace Run

/-- Series always belong to the selection. Take any run in which a move issues a request for series,
by an operation that goes on in that move. After a later request was issued no answer that this
operation takes changes the series. If instead none was issued, and only operations that leave the
range as it is were begun, then once nothing is in flight, nothing failed last, and the operation
came out with its series, the series shown are exactly those that the selection prescribes, from the
answers to the calls that were made for this request. -/
theorem series_follow_selection (oracle : Oracle) (live : LiveView) (earlier : List Move)
    (move : Move) (later : List Move)
    (hissued : ((after oracle { live := live } earlier).step oracle move).live.ticket ≠
      (after oracle { live := live } earlier).live.ticket) :
    let run := after oracle { live := live } earlier
    let issued := run.step oracle move
    let final := issued.after oracle later
    let shown := final.live.session
    ∃ operation, run.actor move = some operation ∧
      (final.live.ticket ≠ issued.live.ticket → ∀ id prompt,
        final.actor (.settle id prompt) = some operation →
          let session := (final.step oracle (.settle id prompt)).live.session
          session.timeseries = shown.timeseries ∧ session.baseline = shown.baseline ∧
            session.seriesRevision = shown.seriesRevision) ∧
      (final.live.ticket = issued.live.ticket → (∀ move ∈ later, move.keepsRange = true) →
        final.flights = [] → shown.errored = false →
        (∃ result, (operation, result) ∈ final.results ∧ result.isSuccess = true) →
          Prescribes oracle live.zone.name shown.seriesInputs
            (final.callsOf Call.isSeries run.calls.length) shown.timeseries shown.baseline) := by
  intro run issued final shown
  have hrest : run.AtRest := (atRest_new live).after oracle earlier
  have hrun : run.Orderly := (orderly_new live).after oracle earlier
  have hrest' : issued.AtRest := hrest.step oracle move
  have hrun' : issued.Orderly := hrun.step oracle move
  have hfinal : final.Orderly := hrun'.after oracle later
  cases hactor : run.actor move with
  | none => exact absurd (SeriesIssue.ticket_of_no_actor hactor) hissued
  | some operation =>
    rcases SeriesIssue.Issuing.step hrun hrest hactor with
      hunissued | ⟨issue, rfl, hsince, hticket, hzone, htracked, hkept⟩
    · exact absurd hunissued.latest hissued
    · refine ⟨_, rfl, fun hlater id prompt hsettle => ?_, ?_⟩
      -- a later request was issued, and the operation still waits for its own
      · have hstate : (final.step oracle (.settle id prompt)).live.seriesState =
            final.live.seriesState :=
          (hkept.after hrest' later).superseded hfinal (hticket ▸ hlater) prompt hsettle
        exact ⟨congrArg SeriesState.timeseries hstate, congrArg SeriesState.baseline hstate,
          congrArg SeriesState.revision hstate⟩
      -- no later request was issued, so this one is still tracked as the latest
      · intro hlatest hrange hflights herrored hsuccess
        obtain ⟨result, hresult, hsuccess⟩ := hsuccess
        have hzone' : issue.timezone = live.zone.name := by
          have hrun' := after_zone oracle { live := live } earlier
          have hissued' : issued.live.zone = run.live.zone := after_zone oracle run [move]
          rw [hzone]
          exact congrArg Zone.name (hissued'.trans hrun')
        have htracked' : issue.Tracked oracle final := htracked.after hrun' hrange
        rw [← hzone', ← hsince]
        exact htracked'.prescribes hfinal (hlatest.trans hticket.symm) hflights herrored hresult
          hsuccess

/-- The answers to an older request may come last: once both operations are through, the series are
still those of the baseline selected last. With rules hidden both are answers. With rules visible
the measured one is that of the first prediction for the rule and the slice, and so is the other one
if the predicted baseline is selected. -/
theorem series_follow_selection_late_answers :
    let hidden : LiveView := {
      zone := default, now := 500, session := {
        alertId := 7, preview := false, edit := false, granularity := none
        dimensionExploration := false, alertYaml := none, savedYaml := none
        range := ⟨0, 1000⟩, duration := .custom, baselineOffset := .wo1w
        metricUrn := some "thirdeye:metric:1" } }
    let visible : LiveView := hidden.update fun session => { session with
      granularity := some "1_DAYS", rule := some (.ofDetector "change:detector")
      predictions := [
        ⟨"other:detector", "thirdeye:metric:1", { timestamp := [10] }⟩,
        ⟨"change:detector", "thirdeye:metric:2", { timestamp := [20] }⟩,
        ⟨"change:detector", "thirdeye:metric:1", { timestamp := [30] }⟩,
        ⟨"change:detector", "thirdeye:metric:1", { timestamp := [40] }⟩] }
    let oracle : Oracle := fun id _ => .ok (.series { timestamp := [id] })
    let never : Nat → Call → Bool := fun _ _ => false
    let select (offset : Offset) : Move := .begin (.selectBaseline offset) never
    let shows (live : LiveView) (first second : Offset) (answers : List Nat)
        (measured baseline : TimeSeries) : Prop :=
      let run := after oracle { live := live } [select first]
      let final := (run.step oracle (select second)).after oracle (answers.map (.settle · never))
      let session := final.live.session
      final.results.map (·.2) = [.changed true, .changed true] ∧
        session.timeseries = some measured ∧ session.baseline = some baseline ∧
        Prescribes oracle live.zone.name session.seriesInputs
          (final.callsOf Call.isSeries run.calls.length) session.timeseries session.baseline
    shows hidden .wo2w .wo3w [4, 3, 1, 2] { timestamp := [3] } { timestamp := [4] } ∧
      shows visible .wo2w .wo3w [2, 1] { timestamp := [30] } { timestamp := [2] } ∧
      shows visible .wo2w .predicted [1] { timestamp := [30] } { timestamp := [30] } := by
  intro hidden visible oracle never select shows
  have hshows (live : LiveView) (first second : Offset) (answers : List Nat)
      (measured baseline : TimeSeries) :
      let run := after oracle { live := live } [select first]
      let issued := run.step oracle (select second)
      let final := issued.after oracle (answers.map (.settle · never))
      let session := final.live.session
      run.actor (select second) = some 1 ∧ issued.live.ticket ≠ run.live.ticket ∧
        final.live.ticket = issued.live.ticket ∧ final.flights.isEmpty = true ∧
        session.errored = false ∧ (1, .changed true) ∈ final.results ∧
        final.results.map (·.2) = [.changed true, .changed true] ∧
        session.timeseries = some measured ∧ session.baseline = some baseline →
      shows live first second answers measured baseline := by
    rintro run issued final session
      ⟨hoperation, hissued, hlatest, hidle, herrored, hresult, hresults, hmeasured, hbaseline⟩
    obtain ⟨operation, hactor, -, hseries⟩ :=
      series_follow_selection oracle live [select first] (select second)
        (answers.map (.settle · never)) hissued
    obtain rfl : operation = 1 := Option.some.inj (hactor.symm.trans hoperation)
    refine ⟨hresults, hmeasured, hbaseline,
      hseries hlatest ?_ (List.isEmpty_iff.1 hidle) herrored ⟨_, hresult, rfl⟩⟩
    intro move hmove
    obtain ⟨id, -, rfl⟩ := List.mem_map.1 hmove
    rfl
  refine ⟨hshows _ _ _ _ _ _ ?_, hshows _ _ _ _ _ _ ?_, hshows _ _ _ _ _ _ ?_⟩
  · dsimp only [hidden, oracle, never, select]
    decide +kernel
  · dsimp only [hidden, visible, oracle, never, select]
    decide +kernel
  · dsimp only [hidden, visible, oracle, never, select]
    decide +kernel

end Run

end AlertDetail
