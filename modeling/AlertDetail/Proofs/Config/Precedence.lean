import AlertDetail.Calendar.ZoneTable
import AlertDetail.Config.Basic

/-!
# Precedence of the environment

A set-up file fills what the environment leaves open: where a setting counts, the file says nothing.
Every setting counts but a number that cannot be read, which is taken for none, so there the file is
consulted although the variable is set. A number that can be read but is none that may be used, like
zero seconds, still keeps the file out and gives way to the default. All of it holds whatever zones
there are.
-/

namespace AlertDetail.Config

/-- Two set-up files state the same for every field whose setting is missing. -/
structure AgreeWhereOpen (setting : String → Option String) (file file' : ConfigOverrides) :
    Prop where
  /-- The address of the backend. -/
  baseUrl : setting "ANOMALY_CHART_BASE_URL" = none → file.baseUrl = file'.baseUrl
  /-- The zone. -/
  timezone : setting "ANOMALY_CHART_TIMEZONE" = none → file.timezone = file'.timezone
  /-- The seconds to wait. -/
  timeout : setting "ANOMALY_CHART_REQUEST_TIMEOUT_SECS" = none → file.timeout = file'.timeout
  /-- The window. -/
  window : setting "ANOMALY_CHART_WINDOW_MS" = none → file.window = file'.window

/-- The settings that count: all but the numbers that cannot be read. -/
def readable (setting : String → Option String) (name : String) : Option String :=
  if name = "ANOMALY_CHART_REQUEST_TIMEOUT_SECS" then
    (setting name).filter fun text => (Text.word? text).isSome
  else if name = "ANOMALY_CHART_WINDOW_MS" then
    (setting name).filter fun text => (Text.integer? text).isSome
  else setting name

/-- What stands behind another source counts only where that is missing. -/
theorem or_congr_of_none {α : Type} {first second second' : Option α}
    (h : first = none → second = second') : first.or second = first.or second' := by
  cases first with
  | none => exact h rfl
  | some value => rfl

/-- What cannot be read may as well be missing. -/
theorem bind_filter_isSome {α β : Type} (read : α → Option β) (text : Option α) :
    (text.filter fun text => (read text).isSome).bind read = text.bind read := by
  cases text with
  | none => rfl
  | some text =>
    cases hread : read text with
    | none => simp [Option.filter, hread]
    | some value => simp [Option.filter, hread]

/-- What can be read is missing only where the text is. -/
theorem eq_none_of_bind_eq_none {α β : Type} {read : α → Option β} {text : Option α}
    (h : (text.filter fun text => (read text).isSome).bind read = none) :
    (text.filter fun text => (read text).isSome) = none := by
  cases hkept : text.filter fun text => (read text).isSome with
  | none => rfl
  | some kept =>
    have hread : (read kept).isSome = true := (Option.filter_eq_some_iff.1 hkept).2
    rw [hkept, Option.bind_some] at h
    rw [h] at hread
    cases hread

variable (setting : String → Option String)

/-- The setting of the seconds counts if it can be read. -/
theorem readable_timeout : readable setting "ANOMALY_CHART_REQUEST_TIMEOUT_SECS" =
    (setting "ANOMALY_CHART_REQUEST_TIMEOUT_SECS").filter fun text =>
      (Text.word? text).isSome := by
  simp [readable]

/-- So does that of the window. -/
theorem readable_window : readable setting "ANOMALY_CHART_WINDOW_MS" =
    (setting "ANOMALY_CHART_WINDOW_MS").filter fun text => (Text.integer? text).isSome := by
  simp [readable]

/-- The other settings count as they are. -/
theorem readable_of_text {name : String} (htimeout : name ≠ "ANOMALY_CHART_REQUEST_TIMEOUT_SECS")
    (hwindow : name ≠ "ANOMALY_CHART_WINDOW_MS") : readable setting name = setting name := by
  simp [readable, htimeout, hwindow]

/-- The configuration is the one of the settings that count. -/
theorem resolve_readable (zones : String → Option Zone) (file : ConfigOverrides) :
    resolve zones (readable setting) file = resolve zones setting file := by
  have hbase : base (readable setting) file = base setting file := by
    unfold base
    rw [readable_of_text setting (by decide) (by decide)]
  have hzone : zoneName (readable setting) file = zoneName setting file := by
    unfold zoneName
    rw [readable_of_text setting (by decide) (by decide)]
  have htimeout : timeoutOf (readable setting) file = timeoutOf setting file := by
    unfold timeoutOf
    rw [readable_timeout, bind_filter_isSome]
  have hwindow : windowOf (readable setting) file = windowOf setting file := by
    unfold windowOf
    rw [readable_window, bind_filter_isSome]
  unfold resolve
  rw [hbase, hzone, htimeout, hwindow]

variable {setting} {file file' : ConfigOverrides}

/-- The address of the backend comes from the file only where the setting is missing. -/
theorem base_congr (h : AgreeWhereOpen (readable setting) file file') :
    base setting file = base setting file' := by
  have hopen := h.baseUrl
  rw [readable_of_text setting (by decide) (by decide)] at hopen
  unfold base
  dsimp only
  rw [or_congr_of_none fun hnone => congrArg
    (fun stated : Option String => (stated.map Text.trim).filter (· ≠ "")) (hopen hnone)]

/-- So does the zone. -/
theorem zoneName_congr (h : AgreeWhereOpen (readable setting) file file') :
    zoneName setting file = zoneName setting file' := by
  have hopen := h.timezone
  rw [readable_of_text setting (by decide) (by decide)] at hopen
  unfold zoneName
  rw [or_congr_of_none hopen]

/-- The seconds come from the file only where the setting is missing or cannot be read. -/
theorem timeoutOf_congr (h : AgreeWhereOpen (readable setting) file file') :
    timeoutOf setting file = timeoutOf setting file' := by
  have hopen := h.timeout
  rw [readable_timeout] at hopen
  unfold timeoutOf
  dsimp only
  rw [← bind_filter_isSome, or_congr_of_none fun hnone => hopen (eq_none_of_bind_eq_none hnone)]

/-- So does the window. -/
theorem windowOf_congr (h : AgreeWhereOpen (readable setting) file file') :
    windowOf setting file = windowOf setting file' := by
  have hopen := h.window
  rw [readable_window] at hopen
  unfold windowOf
  dsimp only
  rw [← bind_filter_isSome, or_congr_of_none fun hnone => hopen (eq_none_of_bind_eq_none hnone)]

/-- The environment precedes the set-up file. Whatever zones there are and whatever the settings
are, they give the configuration or the failure of those that count, and two files that state the
same for every field without such a setting give the same configuration or the same failure: what a
file states for any other field has no influence. A setting counts unless it is to be a number and
cannot be read as one. -/
theorem settings_precede_file (zones : String → Option Zone) (setting : String → Option String)
    {file file' : ConfigOverrides} (h : AgreeWhereOpen (readable setting) file file') :
    resolve zones setting file = resolve zones (readable setting) file ∧
      resolve zones setting file = resolve zones setting file' := by
  refine ⟨(resolve_readable setting zones file).symm, ?_⟩
  unfold resolve
  rw [base_congr h, zoneName_congr h, timeoutOf_congr h, windowOf_congr h]

/-- An address and zero seconds are set: the address and the seconds of the file have no influence,
although zero seconds are not used, while its window is. -/
theorem settings_precede_file_zero_seconds :
    let setting (name : String) : Option String :=
      if name = "ANOMALY_CHART_BASE_URL" then some "http://env:1426"
      else if name = "ANOMALY_CHART_REQUEST_TIMEOUT_SECS" then some "0"
      else none
    let file : ConfigOverrides :=
      ⟨some "http://file:1426", some "UTC", some 10, some 3600000⟩
    let file' : ConfigOverrides := ⟨none, some "UTC", none, some 3600000⟩
    AgreeWhereOpen (readable setting) file file' ∧ timeoutOf setting file = 30 ∧
      windowOf setting file = 3600000 ∧
      (resolve Zone.ofTable? setting file).toOption.map Config.zone = some Zone.utc ∧
      resolve Zone.ofTable? setting file = resolve Zone.ofTable? (readable setting) file ∧
      resolve Zone.ofTable? setting file = resolve Zone.ofTable? setting file' := by
  intro setting file file'
  have hagree : AgreeWhereOpen (readable setting) file file' := by
    refine ⟨fun hnone => ?_, fun _ => rfl, fun hnone => ?_, fun _ => rfl⟩
    · have hset : readable setting "ANOMALY_CHART_BASE_URL" = some "http://env:1426" := by decide
      rw [hset] at hnone
      cases hnone
    · have hset : readable setting "ANOMALY_CHART_REQUEST_TIMEOUT_SECS" = some "0" := by decide
      rw [hset] at hnone
      cases hnone
  exact ⟨hagree, by decide, by decide, by decide +kernel,
    settings_precede_file Zone.ofTable? setting hagree⟩

/-- Seconds that cannot be read do not keep the file out: two files that differ in their seconds
alone give different configurations although the variable of the seconds is set. -/
theorem unreadable_setting_yields_to_file :
    let setting (name : String) : Option String :=
      if name = "ANOMALY_CHART_REQUEST_TIMEOUT_SECS" then some "soon" else none
    let file : ConfigOverrides := { timeout := some 10 }
    let file' : ConfigOverrides := {}
    AgreeWhereOpen setting file file' ∧
      resolve Zone.ofTable? setting file ≠ resolve Zone.ofTable? setting file' := by
  intro setting file file'
  refine ⟨⟨fun _ => rfl, fun _ => rfl, fun hnone => ?_, fun _ => rfl⟩, fun hsame => ?_⟩
  · have hset : setting "ANOMALY_CHART_REQUEST_TIMEOUT_SECS" = some "soon" := by decide
    rw [hset] at hnone
    cases hnone
  · have hseconds := congrArg (fun result => result.toOption.map Config.timeout) hsame
    have hfirst : (resolve Zone.ofTable? setting file).toOption.map Config.timeout = some 10 := by
      decide +kernel
    have hsecond : (resolve Zone.ofTable? setting file').toOption.map Config.timeout = some 30 := by
      decide +kernel
    have hten : (some 10 : Option Nat) = some 30 := hfirst.symm.trans (hseconds.trans hsecond)
    cases hten

end AlertDetail.Config
