import AlertDetail.Command.Usage
import AlertDetail.Config.Basic
import AlertDetail.Environment.Load
import AlertDetail.Files
import AlertDetail.Http.Exchange
import AlertDetail.Json.Printer
import AlertDetail.Payload.View
import AlertDetail.Run.Serve

/-!
# The command

The command loads the details of an alert, shows a preset range and a baseline if they are asked
for, and prints the view. It fails without a view where it cannot begin or where a choice is
unusable; a load that fails shows in the view and is told after it. What the command reads, whom it
asks, what time it is and which time zones there are is left open.
-/

namespace AlertDetail

/-- Why the command fails. -/
inductive CommandFailure where
  /-- There is no configuration. -/
  | config (cause : ConfigError)
  /-- Something given is unusable. -/
  | chart (cause : ChartError)
  /-- A file cannot be read. -/
  | unreadable (name : String) (fault : FileFault)
  /-- The last load failed. -/
  | notLoaded (alertId : Int)
  deriving DecidableEq, Repr, Inhabited

namespace CommandFailure

/-- What went wrong. -/
def message : CommandFailure → String
  | config cause => cause.message
  | chart cause => cause.message
  | unreadable name _ => "failed to read detection config " ++ name
  | notLoaded alertId => "alert " ++ toString alertId ++ " failed to load"

/-- Why it went wrong, if that is told apart. -/
def cause? : CommandFailure → Option String
  | config cause => some cause.cause
  | unreadable _ fault => some fault.message
  | chart _ | notLoaded _ => none

/-- The text shown for a failure. -/
def text (failure : CommandFailure) : String :=
  "Error: " ++ failure.message ++
    failure.cause?.elim "" fun cause => "\n\nCaused by:\n    " ++ cause

end CommandFailure

/-- What the command works with. -/
structure Surroundings (m : Type → Type) where
  /-- The environment that it is started in. -/
  environment : Environment
  /-- The file that supplies the environment, if there is one. -/
  supply : m (Option String)
  /-- The text of a file. -/
  read : String → m (Except FileFault String)
  /-- The time zones by name. -/
  zones : String → Option Zone
  /-- The reply to a request, if anybody replies. -/
  send : Http.Request → m (Option Http.Reply)
  /-- The present in epoch milliseconds. -/
  now : m Int

/-- How the command ends. -/
inductive CommandResult where
  /-- It did not begin. -/
  | stopped (why : ArgumentStop)
  /-- It printed a view or nothing, and failed or not. -/
  | ended (printed : Option String) (failure : Option CommandFailure)
  deriving DecidableEq, Repr, Inhabited

/-- The status that the command hands back: two for arguments that cannot be read, one for a
failure, otherwise zero. -/
def CommandResult.code : CommandResult → Nat
  | stopped .help => 0
  | stopped .version => 0
  | stopped _ => 2
  | ended _ failure => if failure.isSome then 1 else 0

/-- What the command writes to its output. -/
def CommandResult.printed : CommandResult → String
  | stopped .help => Usage.help
  | stopped .version => Usage.version
  | stopped _ => ""
  | ended view _ => view.getD ""

/-- What the command complains about. -/
def CommandResult.complaint : CommandResult → String
  | stopped why => Usage.complaint why
  | ended _ failure => failure.elim "" fun failure => failure.text ++ "\n"

namespace Arguments

/-- The range that is asked for, if start and end are given. -/
def range? (arguments : Arguments) : Except ChartError (Option AnalysisRange) :=
  match arguments.start, arguments.stop with
  | some start, some stop => some <$> AnalysisRange.new start stop
  | _, _ => .ok none

/-- The options of the view, given the texts of the files. -/
def options (arguments : Arguments) (window : Int) (range : Option AnalysisRange)
    (yaml savedYaml : Option String) : ViewOptions := {
  alertId := arguments.alertId
  preview := arguments.preview
  edit := arguments.edit
  granularity := arguments.granularity
  dimensionExploration := arguments.dimensionExploration
  alertYaml := yaml
  savedYaml := savedYaml
  window := some window
  range := range }

/-- The load that the command begins with. -/
def firstLoad (arguments : Arguments) : Operation :=
  if arguments.preview then .requestPreview else .start

end Arguments

/-- How the last load of the command came out. The first load has the number 0, the one that shows a
preset the number 1. -/
def Run.lastLoad? (run : Run) : Option LoadOutcome :=
  match run.results.lookup 1 with
  | some (.loaded outcome) => some outcome
  | _ =>
    match run.results.lookup 0 with
    | some (.loaded outcome) => some outcome
    | _ => none

namespace Command

section

variable {m : Type → Type} [Monad m]

/-- A failure of what is given. -/
def check {α : Type} (result : Except ChartError α) : ExceptT CommandFailure m α :=
  match result with
  | .ok value => pure value
  | .error cause => throw (.chart cause)

/-- The text of a file that may be given. -/
def file? (around : Surroundings m) : Option String → ExceptT CommandFailure m (Option String)
  | none => pure none
  | some name => do
    match ← around.read name with
    | .ok text => return some text
    | .error fault => throw (.unreadable name fault)

/-- The environment of the surroundings, supplied by the file. -/
def environment (around : Surroundings m) : m Environment := do
  match ← around.supply with
  | some file => return around.environment.load file
  | none => return around.environment

/-- The environment of the surroundings with the text of the set-up file that it names, if that can
be read. -/
def settings (around : Surroundings m) : m (Environment × Option String) := do
  let environment ← environment around
  match Config.fileName? environment with
  | some name => return (environment, (← around.read name).toOption)
  | none => return (environment, none)

/-- The configuration of the surroundings. -/
def configure (around : Surroundings m) : ExceptT CommandFailure m Config := do
  let (environment, file) ← (settings around : m (Environment × Option String))
  match Config.ofEnvironment around.zones environment file with
  | .ok config => return config
  | .error cause => throw (.config cause)

/-- The view before anything is loaded. -/
def openView (around : Surroundings m) (config : Config) (arguments : Arguments) :
    ExceptT CommandFailure m LiveView := do
  let range ← check arguments.range?
  let yaml ← file? around arguments.yaml
  let savedYaml ← file? around arguments.savedYaml
  let options := arguments.options config.window range yaml savedYaml
  check (LiveView.open? options config.window (← around.now) config.zone .discarded)

/-- Carry an operation out at the present. -/
def carryOut (answer : Nat → Call → m Answer) (now : m Int) (run : Run) (number : Nat)
    (operation : Operation) : m Run := do
  (run.setClock (← now)).carryOut answer number operation

/-- Show a preset that is asked for. -/
def showPreset (answer : Nat → Call → m Answer) (now : m Int) (run : Run) :
    Option String → ExceptT CommandFailure m Run
  | none => pure run
  | some typed => do
    let preset ← check (RangePreset.parse typed)
    let run ← (carryOut answer now run 1 (.selectPreset preset) : m Run)
    match run.results.lookup 1 with
    | some (.refused cause) => throw (.chart cause)
    | _ => return run

/-- Show a baseline that is asked for. That its series cannot be had is no failure. -/
def showBaseline (answer : Nat → Call → m Answer) (now : m Int) (run : Run) :
    Option String → ExceptT CommandFailure m Run
  | none => pure run
  | some typed => do
    let offset ← check (Offset.parse typed)
    (carryOut answer now run 2 (.selectBaseline offset) : m Run)

/-- Everything that the arguments ask for, on a view. -/
def operate (answer : Nat → Call → m Answer) (now : m Int) (arguments : Arguments)
    (live : LiveView) : ExceptT CommandFailure m Run := do
  let run ← (carryOut answer now { live := live } 0 arguments.firstLoad : m Run)
  let run ← showPreset answer now run arguments.preset
  showBaseline answer now run arguments.baseline

/-- The printed view. -/
def printed (arguments : Arguments) (run : Run) : String :=
  let view := run.live.chartView.1.toJson
  (if arguments.pretty then view.renderIndented else view.render) ++ "\n"

/-- How the command ends after everything is done. -/
def conclude (arguments : Arguments) : Except CommandFailure Run → CommandResult
  | .error failure => .ended none (some failure)
  | .ok run =>
    .ended (some (printed arguments run)) <|
      if run.lastLoad? = some .failed then some (.notLoaded arguments.alertId) else none

/-- Run the command on the words after its name. -/
def run (around : Surroundings m) (words : List String) : m CommandResult := do
  match Arguments.parse words with
  | .error why => return .stopped why
  | .ok arguments =>
    let outcome ← ExceptT.run do
      let config ← configure around
      let live ← openView around config arguments
      let answer := fun (_ : Nat) call => Http.perform around.send config.baseUrl call
      operate answer around.now arguments live
    return conclude arguments outcome

end

end Command

end AlertDetail
