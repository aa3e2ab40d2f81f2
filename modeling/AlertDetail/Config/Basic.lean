import AlertDetail.Calendar.Zone
import AlertDetail.Config.Overrides
import AlertDetail.Environment.Basic
import AlertDetail.Range
import AlertDetail.Text.Whole
import AlertDetail.Url.Parse

/-!
# Configuration

Where the backend is, which zone days begin in, how long to wait and how long a window is. Each
comes from the environment, otherwise from a set-up file, otherwise from a default. A number in the
environment that cannot be read counts as not given; an address or a zone that cannot be used is a
failure. Which zones there are, and what their clocks show, is left open.
-/

namespace AlertDetail

/-- A configuration. -/
structure Config where
  /-- Address of the backend. -/
  baseUrl : String
  /-- The zone that days begin in. -/
  zone : Zone
  /-- Seconds to wait for a reply. -/
  timeout : Nat
  /-- Length in milliseconds of the window that views open with. -/
  window : Int
  deriving Inhabited

/-- Why there is no configuration. -/
inductive ConfigError where
  /-- The address of the backend is none. -/
  | badBase (base : String) (cause : UrlError)
  /-- There is no zone of the name. -/
  | unknownZone (name : String)
  deriving DecidableEq, Repr, Inhabited

/-- What is wrong with a configuration. -/
def ConfigError.message : ConfigError → String
  | badBase base _ => "ANOMALY_CHART_BASE_URL is not a valid url: " ++ base
  | unknownZone name => "ANOMALY_CHART_TIMEZONE is not a known zone: " ++ name

/-- Why it is wrong. -/
def ConfigError.cause : ConfigError → String
  | badBase _ cause => cause.message
  | unknownZone _ => "failed to parse timezone"

namespace Config

/-- The address that is used where none is given. -/
def defaultBase : String := "http://127.0.0.1:1426"

/-- The zone that is used where none is given. -/
def defaultZone : String := "America/Los_Angeles"

/-- The seconds that are waited where none are given. -/
def defaultTimeout : Nat := 30

/-- The address that settings and a set-up file give. -/
def base (setting : String → Option String) (file : ConfigOverrides) : String :=
  let stated := (file.baseUrl.map Text.trim).filter (· ≠ "")
  ((setting "ANOMALY_CHART_BASE_URL").or stated).getD defaultBase

/-- The name of the zone that settings and a set-up file give. -/
def zoneName (setting : String → Option String) (file : ConfigOverrides) : String :=
  ((setting "ANOMALY_CHART_TIMEZONE").or file.timezone).getD defaultZone

/-- The seconds that settings and a set-up file give; zero counts as none. -/
def timeoutOf (setting : String → Option String) (file : ConfigOverrides) : Nat :=
  let given := (setting "ANOMALY_CHART_REQUEST_TIMEOUT_SECS").bind Text.word?
  ((given.or file.timeout).filter (· ≠ 0)).getD defaultTimeout

/-- The window that settings and a set-up file give; only a positive one counts. -/
def windowOf (setting : String → Option String) (file : ConfigOverrides) : Int :=
  let given := (setting "ANOMALY_CHART_WINDOW_MS").bind Text.integer?
  ((given.or file.window).filter (0 < ·)).getD AnalysisRange.defaultWindow

/-- The configuration that settings and a set-up file give, where `zones` are the zones by name. -/
def resolve (zones : String → Option Zone) (setting : String → Option String)
    (file : ConfigOverrides) : Except ConfigError Config :=
  let base := base setting file
  match Url.parse base with
  | .error cause => .error (.badBase base cause)
  | .ok _ =>
    let name := zoneName setting file
    match zones (Text.trim name) with
    | none => .error (.unknownZone name)
    | some zone => .ok ⟨base, zone, timeoutOf setting file, windowOf setting file⟩

/-- The name of the set-up file, if the environment gives one. -/
def fileName? (environment : Environment) : Option String :=
  environment.setting? "ANOMALY_CHART_SETUP_CONFIG_PATH"

/-- The configuration of an environment; `file` is the text of the set-up file, if it can
be read. -/
def ofEnvironment (zones : String → Option Zone) (environment : Environment)
    (file : Option String) : Except ConfigError Config :=
  resolve zones environment.setting? (file.elim {} ConfigOverrides.ofText)

/-- Which events are to be logged. -/
def logFilter (environment : Environment) : String :=
  (environment.setting? "ANOMALY_CHART_LOG_FILTER").getD "info"

end Config

end AlertDetail
