import AlertDetail.ChartView
import AlertDetail.Proofs.Run.Continuation
import AlertDetail.Run.Basic

/-!
# Schedules

A run goes on by moves: an operation begins, an answer to a call is handed in, the clock is set,
notices are collected, the view is looked at. What the backend answers to a call is fixed by the
number of the call; when it answers, and in which order, is up to the moves. So a statement on all
answers and all lists of moves is one on every backend and every interleaving in which the code
between two calls is one step. Operations are numbered in the order in which they begin.
-/

namespace AlertDetail

/-- What a backend answers to every call, by the number of the call. -/
abbrev Oracle := Nat → Call → Answer

/-- The backend that gives the prompt ones of its answers at once and the others later. -/
def Oracle.backend (oracle : Oracle) (prompt : Nat → Call → Bool) : Backend :=
  fun id call => if prompt id call then some (oracle id call) else none

/-- Whatever a backend gives at once is the answer of its oracle. -/
theorem Oracle.eq_of_backend (oracle : Oracle) {prompt : Nat → Call → Bool} {id : Nat} {call : Call}
    {answer : Answer} (h : oracle.backend prompt id call = some answer) :
    oracle id call = answer := by
  unfold backend at h
  split at h
  · exact Option.some.inj h
  · contradiction

/-- A move of a run. -/
inductive Move where
  /-- Begin an operation. -/
  | begin (operation : Operation) (prompt : Nat → Call → Bool)
  /-- Hand in the answer to a call. -/
  | settle (id : Nat) (prompt : Nat → Call → Bool)
  /-- Set the clock. -/
  | setClock (now : Int)
  /-- Collect the notices. -/
  | drain
  /-- Look at the view. -/
  | look

/-- Whether a move begins an operation. -/
def Move.begins : Move → Bool
  | begin .. => true
  | _ => false

namespace Run

/-- How many operations were begun. -/
def begun (run : Run) : Nat := run.flights.length + run.results.length

/-- The run after a move. -/
def step (oracle : Oracle) (run : Run) : Move → Run
  | .begin operation prompt => run.begin (oracle.backend prompt) run.begun operation
  | .settle id prompt =>
    match run.call? id with
    | some call => run.settle (oracle.backend prompt) id (oracle id call)
    | none => run
  | .setClock now => run.setClock now
  | .drain => run.drain.2
  | .look => { run with live := run.live.chartView.2 }

/-- The run after a list of moves. -/
def after (oracle : Oracle) (run : Run) (moves : List Move) : Run := moves.foldl (step oracle) run

/-- All moves of a list are allowed where they are made. -/
def Along (oracle : Oracle) (allowed : Run → Move → Prop) : Run → List Move → Prop
  | _, [] => True
  | run, move :: rest => allowed run move ∧ Along oracle allowed (run.step oracle move) rest

instance Along.decidable {oracle : Oracle} {allowed : Run → Move → Prop}
    [∀ run move, Decidable (allowed run move)] :
    ∀ run moves, Decidable (Along oracle allowed run moves)
  | _, [] => inferInstanceAs (Decidable True)
  | run, move :: rest =>
    have : Decidable (Along oracle allowed (run.step oracle move) rest) :=
      Along.decidable (run.step oracle move) rest
    inferInstanceAs
      (Decidable (allowed run move ∧ Along oracle allowed (run.step oracle move) rest))

/-- The run in which an operation waits with what it does next, before any answer is there. -/
def hold (run : Run) (operation : Nat) (waiting : List Nat) : Next → Run
  | .ask call stage => (run.record call).2.park ⟨operation, stage, [(run.record call).1]⟩
  | .wait stage => run.park ⟨operation, stage, waiting⟩
  | .finish result => run.finish operation result

/-- The run in which an operation in flight, beside others, has taken the answer to a call and
waits with what it does next. -/
def taken (run : Run) (others : List Flight) (flight : Flight) (id : Nat) (answer : Answer) : Run :=
  let (live, next) := run.live.resume (flight.waiting.head? == some id) answer flight.stage
  { run with live := live, flights := others }.hold flight.operation (flight.waiting.erase id) next

/-- The run in which an operation has taken an answer, with what it does next. -/
theorem taken_eq (run : Run) (others : List Flight) (flight : Flight) (id : Nat) (answer : Answer) :
    run.taken others flight id answer =
      { run with
        live := (run.live.resume (flight.waiting.head? == some id) answer flight.stage).1
        flights := others }.hold flight.operation (flight.waiting.erase id)
          (run.live.resume (flight.waiting.head? == some id) answer flight.stage).2 := rfl

/-- The run in which an operation in flight, beside others, has called for the baseline as well. -/
def doubled (run : Run) (others : List Flight) (operation id : Nat) (request : SeriesRequest) :
    Run :=
  let (second, run) := { run with flights := others }.record request.baselineCall
  run.park ⟨operation, .both request, [id, second]⟩

/-- The run in which an operation has begun and waits with what it does first. -/
def started (run : Run) (operation : Operation) : Run :=
  let (live, next) := run.live.begin run.busy operation
  { run with live := live }.hold run.begun [] next

/-- An operation that begins while nothing is in flight is the only one. -/
theorem started_alone (run : Run) (hflights : run.flights = []) (operation : Operation) :
    run.started operation =
      { run with live := (run.live.begin false operation).1, flights := [] }.hold run.begun []
        (run.live.begin false operation).2 := by
  have hbusy : run.busy = false := by
    unfold busy
    rw [hflights]
    rfl
  unfold started
  rw [hbusy, ← hflights]

theorem call?_record (run : Run) (call : Call) :
    (run.record call).2.call? (run.record call).1 = some call := by
  simp [record, call?]

/-- The calls of a kind that were made after the first `since` ones, with their numbers. -/
def callsOf (run : Run) (kind : Call → Bool) (since : Nat) : List (Nat × Call) :=
  (((run.calls.zipIdx 1).drop since).filter fun numbered => kind numbered.1).map Prod.swap

/-- After all calls there is none. -/
theorem callsOf_length (run : Run) (kind : Call → Bool) :
    run.callsOf kind run.calls.length = [] := by
  have hlength : (run.calls.zipIdx 1).length = run.calls.length := List.length_zipIdx
  rw [callsOf, ← hlength, List.drop_length]
  rfl

/-- A call that was made keeps its number when another one is made. -/
theorem call?_record_of_some {run : Run} {id : Nat} {made : Call} (h : run.call? id = some made)
    (call : Call) : (run.record call).2.call? id = some made := by
  unfold call? at h ⊢
  split at h
  · contradiction
  · next hid =>
    obtain ⟨hlt, -⟩ := List.getElem?_eq_some_iff.1 h
    rw [if_neg hid]
    exact (List.getElem?_append_left hlt).trans h

/-- A new call is the last one of its kind, and of no other. -/
theorem callsOf_record (run : Run) (kind : Call → Bool) {since : Nat}
    (hsince : since ≤ run.calls.length) (call : Call) :
    (run.record call).2.callsOf kind since =
      run.callsOf kind since ++ if kind call then [(run.calls.length + 1, call)] else [] := by
  have hlength : since ≤ (run.calls.zipIdx 1).length := by rwa [List.length_zipIdx]
  unfold callsOf record
  dsimp only
  rw [List.zipIdx_append, List.drop_append_of_le_length hlength, List.filter_append,
    List.map_append, Nat.add_comm 1 run.calls.length]
  cases hkind : kind call <;> simp [hkind]

/-- A new call of a kind is the last one of it. -/
theorem callsOf_record_of_kind (run : Run) {kind : Call → Bool} {since : Nat}
    (hsince : since ≤ run.calls.length) {call : Call} (hcall : kind call = true) :
    (run.record call).2.callsOf kind since =
      run.callsOf kind since ++ [(run.calls.length + 1, call)] := by
  have hrecord := run.callsOf_record kind hsince call
  rwa [if_pos hcall] at hrecord

/-- The calls of a kind after another call is made are those before and this one, if it is of the
kind. -/
theorem mem_callsOf_record {run : Run} {kind : Call → Bool} {since : Nat}
    (hsince : since ≤ run.calls.length) {call : Call} {numbered : Nat × Call} :
    numbered ∈ (run.record call).2.callsOf kind since ↔ numbered ∈ run.callsOf kind since ∨
      kind call = true ∧ numbered = (run.calls.length + 1, call) := by
  rw [run.callsOf_record kind hsince call, List.mem_append]
  cases kind call <;> simp

/-- An operation that waits has made no call of a kind, unless its next call is one. -/
theorem callsOf_hold (run : Run) (kind : Call → Bool) {since : Nat}
    (hsince : since ≤ run.calls.length) (operation : Nat) (waiting : List Nat) {next : Next}
    (hnext : ∀ call stage, next = .ask call stage → kind call = false) :
    (run.hold operation waiting next).callsOf kind since = run.callsOf kind since := by
  cases next with
  | ask call stage =>
    have hrecord := run.callsOf_record kind hsince call
    rw [hnext call stage rfl] at hrecord
    exact hrecord.trans (List.append_nil _)
  | wait stage => rfl
  | finish result => rfl

/-- The operations in flight when one of them stands behind the others. -/
theorem mem_flights_concat {run : Run} {others : List Flight} {last : Flight}
    (hflights : run.flights = others ++ [last]) {flight : Flight} :
    flight ∈ run.flights ↔ flight ∈ others ∨ flight = last := by
  rw [hflights, List.mem_append, List.mem_singleton]

/-- The one behind the others is in flight. -/
theorem last_mem_flights {run : Run} {others : List Flight} {last : Flight}
    (hflights : run.flights = others ++ [last]) : last ∈ run.flights :=
  (mem_flights_concat hflights).2 (.inr rfl)

/-- So are the others. -/
theorem mem_flights_of_others {run : Run} {others : List Flight} {last : Flight}
    (hflights : run.flights = others ++ [last]) {flight : Flight} (h : flight ∈ others) :
    flight ∈ run.flights :=
  (mem_flights_concat hflights).2 (.inl h)

/-- An operation that waits stands behind the others. -/
theorem mem_flights_park {run : Run} {last flight : Flight} :
    flight ∈ (run.park last).flights ↔ flight ∈ run.flights ∨ flight = last :=
  mem_flights_concat rfl

/-- An operation that called for the baseline as well stands behind the others. -/
theorem mem_flights_doubled {run : Run} {others : List Flight} {operation id : Nat}
    {request : SeriesRequest} {flight : Flight} :
    flight ∈ (run.doubled others operation id request).flights ↔
      flight ∈ others ∨ flight = ⟨operation, .both request, [id, run.calls.length + 1]⟩ :=
  mem_flights_park

/-- An operation that waits does so beside the others, at the stage that comes next. -/
theorem mem_flights_hold {run : Run} {operation : Nat} {waiting : List Nat} {next : Next}
    {flight : Flight} (h : flight ∈ (run.hold operation waiting next).flights) :
    flight ∈ run.flights ∨
      flight.operation = operation ∧ next.stage? = some flight.stage := by
  cases next with
  | ask call stage =>
    rcases mem_flights_park.1 h with hother | rfl
    · exact .inl hother
    · exact .inr ⟨rfl, rfl⟩
  | wait stage =>
    rcases mem_flights_park.1 h with hother | rfl
    · exact .inl hother
    · exact .inr ⟨rfl, rfl⟩
  | finish result => exact .inl h

/-- The others stay in flight. -/
theorem mem_hold_of_mem {run : Run} (operation : Nat) (waiting : List Nat) (next : Next)
    {flight : Flight} (h : flight ∈ run.flights) :
    flight ∈ (run.hold operation waiting next).flights := by
  cases next with
  | ask call stage => exact List.mem_append_left _ h
  | wait stage => exact List.mem_append_left _ h
  | finish result => exact h

/-- What came out stays so. -/
theorem mem_results_hold {run : Run} (operation : Nat) (waiting : List Nat) (next : Next)
    {result : Nat × Result} (h : result ∈ run.results) :
    result ∈ (run.hold operation waiting next).results := by
  cases next with
  | ask call stage => exact h
  | wait stage => exact h
  | finish result => exact List.mem_append_left _ h

/-- An operation that waits has done to the view what it did. -/
theorem live_hold (run : Run) (operation : Nat) (waiting : List Nat) (next : Next) :
    (run.hold operation waiting next).live = run.live := by
  cases next <;> rfl

/-- An operation that waits is one more that was begun. -/
theorem begun_park (run : Run) (flight : Flight) : (run.park flight).begun = run.begun + 1 := by
  simp only [begun, park, List.length_append, List.length_singleton]
  omega

/-- So is one that ended. -/
theorem begun_finish (run : Run) (operation : Nat) (result : Result) :
    (run.finish operation result).begun = run.begun + 1 := by
  simp only [begun, finish, List.length_append, List.length_singleton]
  omega

/-- An operation that does what comes next is one more that was begun. -/
theorem begun_hold (run : Run) (operation : Nat) (waiting : List Nat) (next : Next) :
    (run.hold operation waiting next).begun = run.begun + 1 := by
  cases next with
  | ask call stage => exact (run.record call).2.begun_park _
  | wait stage => exact run.begun_park _
  | finish result => exact run.begun_finish operation result

/-- A call that was made keeps its number while an operation waits. -/
theorem call?_hold {run : Run} {id : Nat} {made : Call} (h : run.call? id = some made)
    (operation : Nat) (waiting : List Nat) (next : Next) :
    (run.hold operation waiting next).call? id = some made := by
  cases next with
  | ask call stage => exact call?_record_of_some h call
  | wait stage => exact h
  | finish result => exact h

/-- Calls that were made stay made while an operation waits. -/
theorem calls_length_hold (run : Run) (operation : Nat) (waiting : List Nat) (next : Next) :
    run.calls.length ≤ (run.hold operation waiting next).calls.length := by
  cases next with
  | ask call stage =>
    show run.calls.length ≤ (run.calls ++ [call]).length
    rw [List.length_append]
    omega
  | wait stage => exact Nat.le_refl _
  | finish result => exact Nat.le_refl _

/-- A call of a kind has its number. -/
theorem call?_of_mem_callsOf {run : Run} {kind : Call → Bool} {since id : Nat} {call : Call}
    (h : (id, call) ∈ run.callsOf kind since) : run.call? id = some call := by
  obtain ⟨⟨call', id'⟩, hmem, hswap⟩ := List.mem_map.1 h
  obtain ⟨rfl, rfl⟩ := Prod.mk.inj hswap
  have hzip := List.mem_of_mem_drop (List.mem_filter.1 hmem).1
  rw [List.mem_zipIdx_iff_le_and_getElem?_sub] at hzip
  obtain ⟨hpositive, hget⟩ := hzip
  have hne : id' ≠ 0 := by omega
  simp only [call?, hne, if_false]
  exact hget

/-- A call of a kind is of this kind. -/
theorem kind_of_mem_callsOf {run : Run} {kind : Call → Bool} {since : Nat}
    {numbered : Nat × Call} (h : numbered ∈ run.callsOf kind since) : kind numbered.2 = true := by
  obtain ⟨swapped, hmem, rfl⟩ := List.mem_map.1 h
  exact (List.mem_filter.1 hmem).2

/-- Moves that come after others are made in the run after these. -/
theorem after_append (oracle : Oracle) (run : Run) (moves later : List Move) :
    run.after oracle (moves ++ later) = (run.after oracle moves).after oracle later :=
  List.foldl_append

/-- A list of moves and one more are allowed if the others are and the last one is allowed after
them. -/
theorem along_concat {oracle : Oracle} {allowed : Run → Move → Prop} {run : Run}
    {moves : List Move} {last : Move} :
    Along oracle allowed run (moves ++ [last]) ↔
      Along oracle allowed run moves ∧ allowed (run.after oracle moves) last := by
  induction moves generalizing run with
  | nil => exact and_comm
  | cons move rest ih => exact (and_congr_right fun _ => ih).trans and_assoc.symm

/-- What every allowed move keeps holds after all of them. -/
theorem Along.keeps {oracle : Oracle} {allowed : Run → Move → Prop} {invariant : Run → Prop}
    (kept : ∀ {run move}, allowed run move → invariant run → invariant (run.step oracle move))
    {run : Run} {moves : List Move} (h : Along oracle allowed run moves) (start : invariant run) :
    invariant (run.after oracle moves) := by
  induction moves generalizing run with
  | nil => exact start
  | cons move rest ih => exact ih h.2 (kept h.1 start)

end Run

namespace Run

/-- A second call whose answer is there at once: the operation waits for both answers and then takes
this one. -/
theorem alongside_of_some {run : Run} {backend : Backend} {operation id : Nat}
    {request : SeriesRequest} {answer : Answer} (hid : id ≤ run.calls.length)
    (h : backend (run.calls.length + 1) request.baselineCall = some answer) :
    run.alongside backend operation id request =
      (run.doubled run.flights operation id request).taken run.flights
        ⟨operation, .both request, [id, run.calls.length + 1]⟩ (run.calls.length + 1) answer := by
  have hsecond : ([id, run.calls.length + 1].head? == some (run.calls.length + 1)) = false := by
    simp only [List.head?_cons, beq_eq_false_iff_ne, ne_eq, Option.some.injEq]
    omega
  have herase : [id, run.calls.length + 1].erase (run.calls.length + 1) = [id] := by
    rw [List.erase_cons_tail (by simp; omega), List.erase_cons_head]
  simp only [alongside, record, h, taken, doubled, park, hsecond, herase, LiveView.resume]
  -- an answer for the baseline never makes an operation call again
  cases hanswer : answer.series <;>
    simp only [LiveView.takeBaseline, LiveView.failSeries, hanswer, hold, finish, park] <;> rfl

/-- A second call whose answer is not there: the operation waits for both answers. -/
theorem alongside_of_none {run : Run} {backend : Backend} {operation id : Nat}
    {request : SeriesRequest} (h : backend (run.calls.length + 1) request.baselineCall = none) :
    run.alongside backend operation id request =
      run.doubled run.flights operation id request := by
  simp only [alongside, record, h, doubled]

/-- An operation that makes no call waits or ends at once. -/
theorem drive_eq_hold (run : Run) (backend : Backend) (operation : Nat) (waiting : List Nat)
    {next : Next} (hnext : ∀ call stage, next ≠ .ask call stage) :
    run.drive backend operation waiting next = run.hold operation waiting next := by
  rw [Run.drive.eq_def]
  cases next with
  | ask call stage => exact absurd rfl (hnext call stage)
  | wait stage => rfl
  | finish result => rfl

/-- What is kept while one operation goes on and the others in flight stay as they are: it is kept
by taking the answer to a call, and by calling for the baseline as well. -/
structure Keeps (oracle : Oracle) (operation : Nat) (others : List Flight)
    (invariant : Run → Prop) : Prop where
  /-- Taking an answer keeps it. -/
  take : ∀ {run : Run} {stage : Stage} {waiting : List Nat} {id : Nat} {call : Call},
    run.flights = others ++ [⟨operation, stage, waiting⟩] → id ∈ waiting →
      run.call? id = some call → invariant run →
        invariant (run.taken others ⟨operation, stage, waiting⟩ id (oracle id call))
  /-- A second call keeps it. -/
  double : ∀ {run : Run} {request : SeriesRequest} {id : Nat},
    run.flights = others ++ [⟨operation, .measured request, [id]⟩] → invariant run →
      invariant (run.doubled others operation id request)

/-- What is kept while an operation goes on is kept until it waits or ends. -/
theorem Keeps.drive {oracle : Oracle} {operation : Nat} {others : List Flight}
    {invariant : Run → Prop} (keeps : Keeps oracle operation others invariant)
    (prompt : Nat → Call → Bool) {run : Run} {waiting : List Nat} {next : Next}
    (hothers : run.flights = others) (h : invariant (run.hold operation waiting next)) :
    invariant (run.drive (oracle.backend prompt) operation waiting next) := by
  -- on the calls of the operation: where an answer is there at once, the operation waits for it and
  -- takes it, just as if it were handed in by a move of its own
  fun_induction Run.drive run (oracle.backend prompt) operation waiting next with
  | case1 => exact h
  | case2 => exact h
  | case3 run waiting call stage id recorded hrecord answer hanswer ih =>
    obtain ⟨rfl, rfl⟩ := Prod.mk.inj hrecord
    obtain rfl := oracle.eq_of_backend hanswer
    have hflights : (run.hold operation waiting (.ask call stage)).flights =
        others ++ [⟨operation, stage, [run.calls.length + 1]⟩] := by rw [← hothers]; rfl
    have hcall : (run.hold operation waiting (.ask call stage)).call? (run.calls.length + 1) =
        some call := run.call?_record call
    have htaken := keeps.take hflights (List.mem_singleton_self _) hcall h
    refine ih hothers ?_
    simp only [taken, List.head?_cons, beq_self_eq_true, List.erase_cons_head, ← hothers] at htaken
    exact htaken
  | case4 run waiting call id recorded hrecord hanswer request =>
    have hflights : (run.hold operation waiting (.ask call (.measured request))).flights =
        others ++ [⟨operation, .measured request, [run.calls.length + 1]⟩] := by rw [← hothers]; rfl
    have hdoubled := keeps.double hflights h
    have hrecorded : recorded.flights = others := by rw [← (Prod.mk.inj hrecord).2]; exact hothers
    have hsame : (run.hold operation waiting (.ask call (.measured request))).doubled others
        operation (run.calls.length + 1) request =
          recorded.doubled others operation id request := by
      obtain ⟨rfl, rfl⟩ := Prod.mk.inj hrecord
      rfl
    have hid : id ≤ recorded.calls.length := by
      obtain ⟨rfl, rfl⟩ := Prod.mk.inj hrecord
      simp
    rw [hsame] at hdoubled
    cases hsecond : oracle.backend prompt (recorded.calls.length + 1) request.baselineCall with
    | none => rwa [alongside_of_none hsecond, hrecorded]
    | some answer =>
      obtain rfl := oracle.eq_of_backend hsecond
      have hcall : (recorded.doubled others operation id request).call?
          (recorded.calls.length + 1) = some request.baselineCall := by
        rw [← hrecorded]
        exact recorded.call?_record request.baselineCall
      rw [alongside_of_some hid hsecond, hrecorded]
      exact keeps.take rfl (List.mem_cons_of_mem _ List.mem_cons_self) hcall hdoubled
  | case5 run waiting call id recorded hrecord hanswer stage hstage =>
    obtain ⟨rfl, rfl⟩ := Prod.mk.inj hrecord
    exact h

/-- What is kept while an operation goes on holds after it began, if it holds where the operation
waits with what it does first. -/
theorem Keeps.begin {oracle : Oracle} {run : Run} {operation : Operation}
    {invariant : Run → Prop} (keeps : Keeps oracle run.begun run.flights invariant)
    (prompt : Nat → Call → Bool) (h : invariant (run.started operation)) :
    invariant (run.step oracle (.begin operation prompt)) :=
  keeps.drive prompt rfl h

/-- A move that is neither the beginning of an operation nor an answer to a call leaves everything
but the clock, the notices and the remembered views. -/
theorem step_aside (oracle : Oracle) (run : Run) {move : Move} (hbegins : move.begins = false)
    (hsettles : ∀ id prompt, move ≠ .settle id prompt) :
    ∃ live, run.step oracle move = { run with live := live } ∧ live.session = run.live.session ∧
      live.ticket = run.live.ticket ∧ live.zone = run.live.zone := by
  cases move with
  | begin operation prompt => contradiction
  | settle id prompt => exact absurd rfl (hsettles id prompt)
  | setClock now => exact ⟨_, rfl, rfl, rfl, rfl⟩
  | drain => exact ⟨_, rfl, rfl, rfl, rfl⟩
  | look => exact ⟨_, rfl, rfl, rfl, rfl⟩

end Run

end AlertDetail
