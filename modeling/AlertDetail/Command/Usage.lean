import AlertDetail.Command.Arguments

/-!
# How the command is used

The texts that the command shows about itself: its version, its help, and complaints about its
arguments.
-/

namespace AlertDetail

/-- What an argument is for; nothing is said of those that speak for themselves. -/
def ArgumentName.purpose : ArgumentName → String
  | alertId => ""
  | preview => "Evaluate a detection configuration instead of reading persisted results"
  | edit => "Preview changes to an existing alert"
  | yaml => "Detection configuration to preview"
  | savedYaml => "Saved configuration used as the edit-preview reference"
  | granularity => "Metric bucket granularity, e.g. `1_DAYS` or `5_MINUTES`"
  | dimensionExploration => ""
  | start => "Window start in epoch milliseconds"
  | stop => ""
  | preset => "Range preset applied after the initial load: 48h, 1w, 1m or 3m"
  | baseline => "Baseline offset, e.g. `wo2w` or `median4w`"
  | pretty => ""

/-- The place that an argument's text has in the help. -/
def ArgumentName.placeholder (name : ArgumentName) : String :=
  "<" ++ .ofList (name.text.toList.map fun c => if c = '-' then '_' else c.toUpper) ++ ">"

/-- An argument as it is given. -/
def ArgumentName.shown (name : ArgumentName) : String :=
  "--" ++ name.text ++ if name.isSwitch then "" else " " ++ name.placeholder

namespace Usage

/-- The name of the command. -/
def command : String := "anomaly-chart"

/-- The line that tells the version. -/
def version : String := command ++ " 0.1.0\n"

/-- The line that tells how the command is called. -/
def call : String := "Usage: " ++ command ++ " [OPTIONS] --alert-id <ALERT_ID>\n"

/-- The lines on one argument. -/
def entry (short shown purpose : String) : String :=
  "  " ++ short ++ shown ++ "\n" ++
    if purpose = "" then "" else "          " ++ purpose ++ "\n"

/-- The help. -/
def help : String :=
  "Load an alert's anomalies and print the chart view as JSON\n\n" ++ call ++ "\nOptions:\n" ++
    .join (ArgumentName.all.map fun name => entry "    " name.shown name.purpose) ++
    entry "-h, " "--help" "Print help" ++ entry "-V, " "--version" "Print version"

/-- What is wrong with the arguments. -/
def problem : ArgumentStop → String
  | .help | .version => ""
  | .unknown word => "unexpected argument '" ++ word ++ "' found"
  | .surplusText name => "a value was given to '--" ++ name ++ "', which takes none"
  | .missingText name => "a value is required for '" ++ name.shown ++ "' but none was supplied"
  | .badNumber name text => "invalid value '" ++ text ++ "' for '" ++ name.shown ++ "'"
  | .repeated name => "the argument '" ++ name.shown ++ "' cannot be used multiple times"
  | .conflict first second =>
    "the argument '" ++ first.shown ++ "' cannot be used with '" ++ second.shown ++ "'"
  | .required names =>
    "the following required arguments were not provided:" ++
      .join (names.map fun name => "\n  " ++ name.shown)

/-- The complaint about arguments. -/
def complaint (why : ArgumentStop) : String :=
  if problem why = "" then "" else "error: " ++ problem why ++ "\n\n" ++ call

end Usage

end AlertDetail
