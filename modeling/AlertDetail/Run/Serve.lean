import AlertDetail.Run.Basic

/-!
# Serving a run

A run whose calls are answered one round after the other: everything that operations wait for is
asked together, and the answers are handed in in the order of the calls. Where answers come from is
left open. Every answer that is taken leaves fewer calls to come, so the rounds end.
-/

namespace AlertDetail.Run

/-- A bound on the calls that operations in flight still make or wait for. -/
def rank (run : Run) : Nat := run.flights.foldr (fun flight total => flight.stage.rank + total) 0

/-- The calls that operations wait for, with their numbers. -/
def asked (run : Run) : List (Nat × Call) :=
  run.waiting.filterMap fun id => (id, ·) <$> run.call? id

/-- Hand in answers to calls. -/
def settleAll (run : Run) (answers : List (Nat × Answer)) : Run :=
  answers.foldl (fun run (id, answer) => run.settle .later id answer) run

section

variable {m : Type → Type} [Monad m]

/-- Serve a run for at most a number of rounds. -/
def serveRounds (answer : Nat → Call → m Answer) : Nat → Run → m Run
  | 0, run => pure run
  | rounds + 1, run =>
    match run.asked with
    | [] => pure run
    | calls => do
      let answers ← calls.mapM fun (id, call) => (id, ·) <$> answer id call
      serveRounds answer rounds (run.settleAll answers)

/-- Serve a run until no operation waits. -/
def serve (answer : Nat → Call → m Answer) (run : Run) : m Run :=
  run.serveRounds answer run.rank

/-- Begin an operation under a number and serve it. -/
def carryOut (answer : Nat → Call → m Answer) (run : Run) (number : Nat) (operation : Operation) :
    m Run :=
  (run.begin .later number operation).serve answer

end

end AlertDetail.Run
