import AlertDetail.Run.Begin

/-!
# Runs

A live view with the operations that are in flight on it. An operation runs until the backend lets
it wait; it goes on when an answer to one of its calls is handed in. What happens between two calls
is never interrupted, so a run is a sequence of such steps in any order. Where two calls are made
together, the second is made only if the first is not answered at once, and an operation that comes
to its end no longer waits for either.
-/

namespace AlertDetail

/-- An operation in flight. -/
structure Flight where
  /-- The number of the operation. -/
  operation : Nat
  /-- What it waits for. -/
  stage : Stage
  /-- The numbers of the calls that it waits for, in the order in which they were made. -/
  waiting : List Nat
  deriving Inhabited

/-- Whether an operation waits for a call. -/
def Flight.awaits (flight : Flight) (id : Nat) : Bool := flight.waiting.contains id

/-- A live view with operations in flight. -/
structure Run where
  /-- The view. -/
  live : LiveView
  /-- The operations in flight. -/
  flights : List Flight := []
  /-- Every call made so far, the oldest first; calls are numbered from one. -/
  calls : List Call := []
  /-- How operations came out, by their numbers, the earliest first. -/
  results : List (Nat × Result) := []
  deriving Inhabited

/-- A bound on the calls that an operation still makes. -/
def Next.rank : Next → Nat
  | .ask _ stage => stage.rank
  | .wait _ => 0
  | .finish _ => 0

theorem Stage.rank_pos (stage : Stage) : 0 < stage.rank := by
  cases stage <;> simp only [Stage.rank] <;> first | omega | (split <;> omega)

namespace LiveView

theorem requestSeries_rank (live : LiveView) (purpose : Purpose) :
    (live.requestSeries purpose).2.rank ≤ 2 := by
  simp only [requestSeries, issue, finishSeries, failSeries]
  repeat' split
  all_goals simp [Next.rank, Stage.rank]

theorem beginPass_rank (live : LiveView) : (live.beginPass true).2.rank ≤ 4 := by
  simp only [beginPass, failLoad]
  repeat' split
  all_goals simp [Next.rank, Stage.rank, Pass.plan]

theorem finishPass_rank (live : LiveView) (pass : Pass) (choice : SliceChoice)
    (result : FetchResult) :
    (live.finishPass pass choice result).2.rank ≤ if pass.reentered then 2 else 4 := by
  simp only [finishPass]
  cases hre : pass.reentered
  · split
    · exact beginPass_rank _
    · split
      · simp [failLoad, Next.rank]
      · exact Nat.le_trans (requestSeries_rank _ _) (by decide)
  · split
    · simp_all
    · split
      · simp [failLoad, Next.rank]
      · exact requestSeries_rank _ _

/-- An answer leaves fewer calls to come. -/
theorem resume_rank (live : LiveView) (first : Bool) (answer : Answer) (stage : Stage) :
    (live.resume first answer stage).2.rank < stage.rank := by
  cases stage with
  | evaluation pass =>
    simp only [resume, takeEvaluation]
    split
    · simpa [failLoad, Next.rank] using Stage.rank_pos (.evaluation pass)
    · split
      · simp only [Next.rank, Stage.rank]
        split <;> omega
      · refine Nat.lt_of_le_of_lt (finishPass_rank ..) ?_
        simp only [Stage.rank]
        split <;> omega
  | detected pass evaluation =>
    have bound (choice : SliceChoice) (result : FetchResult) :
        (live.finishPass pass choice result).2.rank < (Stage.detected pass evaluation).rank := by
      refine Nat.lt_of_le_of_lt (finishPass_rank ..) ?_
      simp only [Stage.rank]
      split <;> omega
    simp only [resume, takeDetected]
    split
    · simpa [failLoad, Next.rank] using Stage.rank_pos (.detected pass evaluation)
    · split <;> exact bound _ _
  | measured request =>
    simp only [resume, takeMeasured]
    split <;> simp [failSeries, Next.rank, Stage.rank]
  | both request =>
    simp only [resume, takeMeasured, takeBaseline]
    repeat' split
    all_goals simp_all [failSeries, Next.rank, Stage.rank]
  | measuredOnly request baseline =>
    simp only [resume, takeLast]
    split <;> simp [failSeries, finishSeries, Next.rank, Stage.rank]
  | baselineOnly request measured =>
    simp only [resume, takeLast]
    split <;> simp [failSeries, finishSeries, Next.rank, Stage.rank]
  | report report =>
    simp only [resume, takeReport]
    split <;> simp [acceptReport, refuseReport, Next.rank, Stage.rank]

end LiveView

namespace Run

/-- Whether a load is in flight. -/
def busy (run : Run) : Bool := run.flights.any (·.stage.isLoad)

/-- The calls that operations wait for, in the order in which they were made. -/
def waiting (run : Run) : List Nat := (run.flights.flatMap (·.waiting)).mergeSort (· ≤ ·)

/-- The call with a number. -/
def call? (run : Run) (id : Nat) : Option Call :=
  if id = 0 then none else run.calls[id - 1]?

/-- Make a call: its number, and the run after it. -/
def record (run : Run) (call : Call) : Nat × Run :=
  (run.calls.length + 1, { run with calls := run.calls ++ [call] })

/-- An operation came to its end. -/
def finish (run : Run) (operation : Nat) (result : Result) : Run :=
  { run with results := run.results ++ [(operation, result)] }

/-- An operation waits. -/
def park (run : Run) (flight : Flight) : Run :=
  { run with flights := run.flights ++ [flight] }

/-- The call for the measured series, with number `id`, is not answered at once: call for the
baseline as well and wait for both. -/
def alongside (run : Run) (backend : Backend) (operation id : Nat) (request : SeriesRequest) :
    Run :=
  let (second, run) := run.record request.baselineCall
  match backend second request.baselineCall with
  | none => run.park ⟨operation, .both request, [id, second]⟩
  | some answer =>
    let (live, next) := run.live.takeBaseline request answer
    let run := { run with live := live }
    match next with
    | .finish result => run.finish operation result
    | .ask _ stage | .wait stage => run.park ⟨operation, stage, [id]⟩

/-- Let an operation run until it waits or ends. `waiting` are the calls that it made before and
still waits for. -/
def drive (run : Run) (backend : Backend) (operation : Nat) (waiting : List Nat) (next : Next) :
    Run :=
  match next with
  | .finish result => run.finish operation result
  | .wait stage => run.park ⟨operation, stage, waiting⟩
  | .ask call stage =>
    let (id, run) := run.record call
    match backend id call with
    | some answer =>
      drive { run with live := (run.live.resume true answer stage).1 } backend operation []
        (run.live.resume true answer stage).2
    | none =>
      match stage with
      | .measured request => run.alongside backend operation id request
      | stage => run.park ⟨operation, stage, [id]⟩
termination_by next.rank
decreasing_by exact LiveView.resume_rank _ _ _ _

/-- Begin an operation under a number. -/
def begin (run : Run) (backend : Backend) (number : Nat) (operation : Operation) : Run :=
  let (live, next) := run.live.begin run.busy operation
  { run with live := live }.drive backend number [] next

/-- Hand in the answer to a call. Nobody takes an answer that no operation waits for. -/
def settle (run : Run) (backend : Backend) (id : Nat) (answer : Answer) : Run :=
  match run.flights.find? (·.awaits id) with
  | none => run
  | some flight =>
    let (live, next) := run.live.resume (flight.waiting.head? == some id) answer flight.stage
    { run with
      live := live, flights := run.flights.filter (!·.awaits id) }.drive backend flight.operation
        (flight.waiting.erase id) next

/-- Set the clock. -/
def setClock (run : Run) (now : Int) : Run := { run with live := { run.live with now := now } }

/-- Collect the notices. -/
def drain (run : Run) : List Notice × Run :=
  let (notices, board) := run.live.notices.drain
  (notices, { run with live := { run.live with notices := board } })

end Run

end AlertDetail
