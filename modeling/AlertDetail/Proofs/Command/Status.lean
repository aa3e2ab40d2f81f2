import AlertDetail.Calendar.ZoneTable
import AlertDetail.Command.Basic
import AlertDetail.Proofs.Run.Endings
import AlertDetail.Proofs.Run.Serving
import AlertDetail.Proofs.Sets.Passes

/-!
# The status of the command

Once its view is open the command runs one load or two: the first one, and the one that shows a
preset range if it is asked for. It then prints the view, and fails if the last load failed. A load
that fails is told by this status unless a preset is shown after it: the load of the preset is then
suppressed, and the command ends as if nothing had failed.
-/

namespace AlertDetail

namespace LiveView

/-- A view of a zone that shows its details, which belong to the configuration as it is. -/
structure Shows (zone : Zone) (live : LiveView) : Prop where
  /-- Days begin in the zone. -/
  zone : live.zone = zone
  /-- The details are shown. -/
  details : live.session.showDetails = true
  /-- The sets belong to the configuration. -/
  current : live.session.isCurrent = true

variable {zone : Zone} {live : LiveView}

/-- A view with the same zone and the same sets shows them as well. -/
theorem Shows.of_sets (h : live.Shows zone) {live' : LiveView} (hzone : live'.zone = live.zone)
    (hsets : live'.session.setState = live.session.setState) : live'.Shows zone where
  zone := hzone.trans h.zone
  details := (congrArg SetState.showDetails hsets).trans h.details
  current := (congrArg SetState.isCurrent hsets).trans h.current

/-- A request for series leaves the details shown. -/
theorem requestSeries_shows (h : live.Shows zone) (purpose : Purpose) :
    (live.requestSeries purpose).1.Shows zone :=
  h.of_sets (live.requestSeries_start purpose).next.2.1 (live.requestSeries_aside purpose).sets

/-- So does a pass that begins. -/
theorem beginPass_shows (h : live.Shows zone) (reentered : Bool) :
    (live.beginPass reentered).1.Shows zone := by
  have hstart := live.beginPass_start reentered
  generalize live.beginPass reentered = step at hstart ⊢
  cases hstart with
  | failed => exact h.of_sets rfl rfl
  | evaluation => exact h.of_sets rfl rfl
  | detected => exact h.of_sets rfl rfl

/-- So does a pass that ends. -/
theorem finishPass_shows (h : live.Shows zone) (pass : Pass) (choice : SliceChoice)
    (result : FetchResult) : (live.finishPass pass choice result).1.Shows zone := by
  have hmerged : (live.merged pass choice result).Shows zone := by
    have hsets := live.merged_setState pass choice result
    rw [SetState.place_eq] at hsets
    exact ⟨h.zone, (congrArg SetState.showDetails hsets).trans h.details,
      (congrArg SetState.isCurrent hsets).trans h.current⟩
  have hend := live.finishPass_end pass choice result
  generalize live.finishPass pass choice result = step at hend ⊢
  cases hend with
  | again => exact beginPass_shows hmerged true
  | missing => exact hmerged.of_sets rfl rfl
  | series => exact requestSeries_shows hmerged .load

/-- So does an answer. -/
theorem resume_shows (h : live.Shows zone) (first : Bool) (answer : Answer) (stage : Stage) :
    (live.resume first answer stage).1.Shows zone := by
  cases hpass : stage.isPass with
  | true =>
    have hanswer := live.resume_passAnswer first answer hpass
    generalize live.resume first answer stage = step at hanswer ⊢
    cases hanswer with
    | failed => exact h.of_sets rfl rfl
    | reads => exact h
    | evaluated => exact finishPass_shows h _ _ _
    | detected => exact finishPass_shows h _ _ _
  | false =>
    have hzone : (live.resume first answer stage).1.zone = live.zone := by
      rcases stage.pass_or_series_or_report with hload | ⟨request, hrequest⟩ | ⟨report, rfl⟩
      · exact absurd (hpass.symm.trans hload) Bool.false_ne_true
      · exact (live.resume_series first answer hrequest).next.2.1
      · obtain ⟨after, result, hreport, -, hzone, -⟩ := live.resume_report first answer report
        rw [hreport]
        exact hzone
    exact h.of_sets hzone (live.resume_aside first answer hpass).sets

/-- How a preset whose range exists begins to be shown while nothing is in flight: the range is only
remembered, or its load is suppressed, or it is loaded. -/
inductive PresetStart (live : LiveView) : LiveView × Next → Prop
  | remembered {after : LiveView}
    (hhidden : (live.session.showDetails && live.session.isCurrent) = false) :
    PresetStart live (after, .finish (.loaded .completed))
  | suppressed {after : LiveView} (herrored : live.session.errored = true) :
    PresetStart live (after, .finish (.loaded .suppressed))
  | load {prepared : LiveView} (herrored : live.session.errored = false) :
    PresetStart live (prepared.beginPass false)

/-- A range that is shown is loaded unless the last load failed. -/
theorem beginTriggered_preset {prepared : LiveView}
    (hsame : prepared.session.errored = live.session.errored) :
    PresetStart live (prepared.beginTriggered false) := by
  unfold beginTriggered
  rw [hsame]
  cases herrored : live.session.errored with
  | true => exact .suppressed herrored
  | false => exact .load herrored

/-- It begins in one of these ways. -/
theorem begin_selectPreset {preset : RangePreset}
    (hrange : (preset.range? live.now live.zone).isSome = true) :
    PresetStart live (live.begin false (.selectPreset preset)) := by
  obtain ⟨range, hrange⟩ := Option.isSome_iff_exists.1 hrange
  unfold begin
  dsimp only
  rw [hrange]
  dsimp only
  unfold selectRange
  rw [RangePreset.new_of_range? hrange]
  unfold showRange
  dsimp only [update]
  cases hshown : live.session.showDetails && live.session.isCurrent with
  | false => exact .remembered hshown
  | true =>
    rw [if_pos rfl]
    split <;> exact beginTriggered_preset rfl

end LiveView

namespace Run

variable {number : Nat} {earlier : List (Nat × Result)} {board : NoticeBoard} {run : Run}

/-- A load that ended has an outcome; if it failed, the view is errored. -/
theorem Going.loaded (h : Going number .load earlier board run) (hnone : run.flights = []) :
    ∃ outcome, run.results = earlier ++ [(number, .loaded outcome)] ∧
      (outcome = .failed → run.live.session.errored = true) := by
  cases h with
  | waits hflights => cases hnone.symm.trans hflights
  | complete _ hresults => exact ⟨_, hresults, fun hfailed => by cases hfailed⟩
  | failed _ hresults _ herrored => exact ⟨_, hresults, fun _ => herrored⟩

/-- Where nothing is in flight everything is kept. -/
theorem Keeps.ended (oracle : Oracle) (number : Nat) (kept : Run → Prop) :
    Keeps oracle number [] fun run => run.flights = [] ∧ kept run where
  take hflights _ _ h := by cases hflights.symm.trans h.1
  double hflights h := by cases hflights.symm.trans h.1

/-- Details stay shown while an operation goes on. -/
theorem shows_keeps (zone : Zone) (oracle : Oracle) (number : Nat) :
    Keeps oracle number [] fun run => run.live.Shows zone where
  take _ _ _ h := by
    rw [taken_eq, live_hold]
    exact LiveView.resume_shows h _ _ _
  double _ h := h

end Run

namespace CommandResult

/-- Whether the command printed a view and did not fail. -/
def succeeded : CommandResult → Bool
  | ended (some _) none => true
  | _ => false

/-- If it did, there is the view. -/
theorem exists_of_succeeded {result : CommandResult} (h : result.succeeded = true) :
    ∃ view, result = .ended (some view) none := by
  unfold succeeded at h
  split at h
  · exact ⟨_, rfl⟩
  · cases h

end CommandResult

namespace Command

section

variable {σ : Type} (answer : Nat → Call → StateM σ Answer) (now : StateM σ Int)

variable {run : Run} {number : Nat} {operation : Operation}

/-- An operation that is carried out while nothing is in flight has ended, and what it keeps holds
then if it holds where the operation waits with what it does first. -/
theorem carryOut_ends {invariant : Run → Prop} (hnone : run.flights = [])
    (keeps : ∀ oracle, Run.Keeps oracle number [] invariant) (world : σ)
    (hkept : invariant ((run.setClock (now world).1).startedAlone number operation)) :
    (carryOut answer now run number operation world).1.flights = [] ∧
      invariant (carryOut answer now run number operation world).1 := by
  have hnone' : (run.setClock (now world).1).flights = [] := hnone
  exact Run.carryOut_alone answer hnone' keeps hkept (now world).2

/-- A load that begins its first pass comes out in some way. -/
theorem load_ends (hnone : run.flights = []) (world : σ) {prepared : LiveView}
    (hbegin : (run.setClock (now world).1).live.begin false operation = prepared.beginPass false) :
    let loaded := (carryOut answer now run number operation world).1
    loaded.flights = [] ∧ ∃ outcome, loaded.results = run.results ++ [(number, .loaded outcome)] ∧
      (outcome = .failed → loaded.live.session.errored = true) := by
  have hgoing : Run.Going number .load run.results prepared.notices
      ((run.setClock (now world).1).startedAlone number operation) := by
    unfold Run.startedAlone
    rw [hbegin]
    exact .hold (prepared.beginPass_turn false) rfl rfl []
  obtain ⟨hended, hgone⟩ :=
    carryOut_ends answer now hnone (fun oracle => Run.Going.keeps oracle) world hgoing
  exact ⟨hended, hgone.loaded hended⟩

/-- An operation that ends where it begins comes out so. -/
theorem ended_ends (hnone : run.flights = []) (world : σ) {after : LiveView} {result : Result}
    (hbegin : (run.setClock (now world).1).live.begin false operation = (after, .finish result)) :
    let final := (carryOut answer now run number operation world).1
    final.flights = [] ∧ final.results = run.results ++ [(number, result)] := by
  have hended : ((run.setClock (now world).1).startedAlone number operation).flights = [] ∧
      ((run.setClock (now world).1).startedAlone number operation).results =
        run.results ++ [(number, result)] := by
    unfold Run.startedAlone
    rw [hbegin]
    exact ⟨rfl, rfl⟩
  exact (carryOut_ends answer now hnone (fun oracle => Run.Keeps.ended oracle number
    fun final => final.results = run.results ++ [(number, result)]) world hended).2

variable {zone : Zone} {live : LiveView} {arguments : Arguments}

/-- The first load comes out in some way, and the details are shown then. -/
theorem firstLoad_ends (hzone : live.zone = zone)
    (hpreview : live.session.preview = arguments.preview)
    (hdetails : live.session.showDetails = !arguments.preview)
    (hcurrent : live.session.isCurrent = !arguments.preview) (world : σ) :
    let loaded := (carryOut answer now { live := live } 0 arguments.firstLoad world).1
    loaded.flights = [] ∧ loaded.live.Shows zone ∧
      ∃ outcome, loaded.results = [(0, .loaded outcome)] ∧
        (outcome = .failed → loaded.live.session.errored = true) := by
  intro loaded
  let start : Run := { live := live }
  obtain ⟨prepared, hprepared, hbegin⟩ : ∃ prepared : LiveView, prepared.Shows zone ∧
      (start.setClock (now world).1).live.begin false arguments.firstLoad =
        prepared.beginPass false := by
    cases hdraft : arguments.preview with
    | true =>
      refine ⟨(start.setClock (now world).1).live.update fun session =>
        { session with showDetails := true, isCurrent := true, errored := false },
        ⟨hzone, rfl, rfl⟩, ?_⟩
      simp only [Arguments.firstLoad, hdraft, if_true]
      rfl
    | false =>
      rw [hdraft] at hpreview hdetails hcurrent
      refine ⟨(start.setClock (now world).1).live, ⟨hzone, hdetails, hcurrent⟩, ?_⟩
      have hoverview : (start.setClock (now world).1).live.session.preview = false := hpreview
      simp only [Arguments.firstLoad, hdraft, Bool.false_eq_true, if_false, LiveView.begin,
        hoverview]
      rfl
  have hshows : ((start.setClock (now world).1).startedAlone 0
      arguments.firstLoad).live.Shows zone := by
    unfold Run.startedAlone
    rw [hbegin, Run.live_hold]
    exact LiveView.beginPass_shows hprepared false
  obtain ⟨-, hshown⟩ := carryOut_ends answer now (rfl : start.flights = [])
    (fun oracle => Run.shows_keeps zone oracle 0) world hshows
  obtain ⟨hended, hloaded⟩ := load_ends answer now (rfl : start.flights = []) world hbegin
  exact ⟨hended, hshown, hloaded⟩

/-- A preset whose range exists is shown with a load that comes out in some way, suppressed if the
last load failed. -/
theorem preset_ends (hnone : run.flights = []) (hshows : run.live.Shows zone) {preset : RangePreset}
    (world : σ) (hrange : (preset.range? (now world).1 zone).isSome = true) :
    let loaded := (carryOut answer now run 1 (.selectPreset preset) world).1
    loaded.flights = [] ∧ ∃ outcome, loaded.results = run.results ++ [(1, .loaded outcome)] ∧
      (run.live.session.errored = true → outcome = .suppressed) := by
  intro loaded
  let start := run.setClock (now world).1
  have hexists : (preset.range? start.live.now start.live.zone).isSome = true := by
    rwa [show start.live.zone = zone from hshows.zone]
  have hstart := LiveView.begin_selectPreset hexists
  generalize hbegin : start.live.begin false (.selectPreset preset) = step at hstart
  cases hstart with
  | remembered hhidden =>
    have hshown : (start.live.session.showDetails && start.live.session.isCurrent) = true := by
      rw [show start.live.session.showDetails = true from hshows.details,
        show start.live.session.isCurrent = true from hshows.current, Bool.and_self]
    exact absurd (hhidden.symm.trans hshown) Bool.false_ne_true
  | suppressed =>
    obtain ⟨hended, hresults⟩ := ended_ends answer now hnone world hbegin
    exact ⟨hended, _, hresults, fun _ => rfl⟩
  | load hfine =>
    obtain ⟨hended, outcome, hresults, -⟩ := load_ends answer now hnone world hbegin
    exact ⟨hended, outcome, hresults, fun herrored => absurd (hfine.symm.trans herrored)
      Bool.false_ne_true⟩

/-- A baseline is shown in some way. -/
theorem baseline_ends (hnone : run.flights = []) (offset : Offset) (world : σ) :
    ∃ result, (carryOut answer now run 2 (.selectBaseline offset) world).1.results =
      run.results ++ [(2, result)] := by
  let start := run.setClock (now world).1
  by_cases hsame : start.live.session.baselineOffset = offset
  · have hbegin : start.live.begin false (.selectBaseline offset) =
        (start.live, .finish (.changed false)) := by simp only [LiveView.begin, hsame, if_true]
    exact ⟨_, (ended_ends answer now hnone world hbegin).2⟩
  · let prepared := start.live.update fun session => { session with baselineOffset := offset }
    have hgoing : Run.Going 2 .baseline run.results prepared.notices
        (start.startedAlone 2 (.selectBaseline offset)) := by
      unfold Run.startedAlone
      have hbegin : start.live.begin false (.selectBaseline offset) =
          prepared.requestSeries .baseline := by
        simp only [LiveView.begin, hsame, if_false]
        rfl
      rw [hbegin]
      exact .hold (prepared.requestSeries_turn .baseline) rfl rfl []
    obtain ⟨hended, hgone⟩ :=
      carryOut_ends answer now hnone (fun oracle => Run.Going.keeps oracle) world hgoing
    cases hgone with
    | waits hflights => cases hended.symm.trans hflights
    | complete _ hresults => exact ⟨_, hresults⟩
    | failed _ hresults => exact ⟨_, hresults⟩

end

section

variable {σ : Type} {around : Surroundings (StateM σ)} {words : List String}
  {arguments : Arguments} {config : Config} {live : LiveView} {begun opened : σ}

/-- How the command asks its backend. -/
def asks (around : Surroundings (StateM σ)) (config : Config) : Nat → Call → StateM σ Answer :=
  fun _ call => Http.perform around.send config.baseUrl call

/-- The command gets as far as a view: its words are accepted, there is a configuration, and the
view opens with what the words, the files and the clock give. -/
structure Opens (around : Surroundings (StateM σ)) (words : List String) (begun : σ)
    (arguments : Arguments) (config : Config) (live : LiveView) (opened : σ) : Prop where
  /-- The words are accepted. -/
  words : Arguments.parse words = .ok arguments
  /-- Configuration and view are there. -/
  view : (do
    let config ← configure around
    let live ← openView around config arguments
    return (config, live) : ExceptT CommandFailure (StateM σ) (Config × LiveView)).run begun =
      (.ok (config, live), opened)

/-- The run after the first load, with the world then. -/
def firstLoaded (around : Surroundings (StateM σ)) (config : Config) (arguments : Arguments)
    (live : LiveView) (opened : σ) : Run × σ :=
  carryOut (asks around config) around.now { live := live } 0 arguments.firstLoad opened

/-- What follows a step that succeeds. -/
theorem run_bind_ok {α β : Type} {step : ExceptT CommandFailure (StateM σ) α}
    {rest : α → ExceptT CommandFailure (StateM σ) β} {value : α} {before after : σ}
    (h : step.run before = (.ok value, after)) :
    (step >>= rest).run before = (rest value).run after := by
  show ExceptT.bindCont rest (step.run before).1 (step.run before).2 = _
  rw [h]
  rfl

/-- A step before one that succeeds succeeds. -/
theorem run_bind_eq_ok {α β : Type} {step : ExceptT CommandFailure (StateM σ) α}
    {rest : α → ExceptT CommandFailure (StateM σ) β} {result : β} {before after : σ}
    (h : (step >>= rest).run before = (.ok result, after)) :
    ∃ value between, step.run before = (.ok value, between) ∧
      (rest value).run between = (.ok result, after) := by
  change ExceptT.bindCont rest (step.run before).1 (step.run before).2 = _ at h
  rcases hstep : step.run before with ⟨outcome, between⟩
  rw [hstep] at h
  cases outcome with
  | error failure => cases h
  | ok value => exact ⟨value, between, rfl, h⟩

/-- A choice that is usable is no failure. -/
theorem check_eq_ok {α : Type} {result : Except ChartError α} {value : α} {before after : σ}
    (h : (check result : ExceptT CommandFailure (StateM σ) α).run before = (.ok value, after)) :
    result = .ok value := by
  cases result with
  | error cause => cases h
  | ok given =>
    cases h
    rfl

/-- A view opens in the zone that is given. -/
theorem open?_zone {options : ViewOptions} {window present : Int} {zone : Zone}
    {notices : NoticeBoard} {live : LiveView}
    (h : LiveView.open? options window present zone notices = .ok live) : live.zone = zone := by
  obtain ⟨session, -, rfl⟩ := LiveView.open?_eq_ok h
  rfl

/-- The view opens in the zone of the configuration, for a draft if the words say so. -/
theorem Opens.shows (h : Opens around words begun arguments config live opened) :
    live.zone = config.zone ∧ live.session.preview = arguments.preview ∧
      live.session.showDetails = (!arguments.preview) ∧
      live.session.isCurrent = (!arguments.preview) := by
  obtain ⟨config', _, -, hview⟩ := run_bind_eq_ok h.view
  obtain ⟨live', _, hopen, hreturn⟩ := run_bind_eq_ok hview
  cases hreturn
  obtain ⟨range, _, -, hopen⟩ := run_bind_eq_ok hopen
  obtain ⟨yaml, _, -, hopen⟩ := run_bind_eq_ok hopen
  obtain ⟨savedYaml, _, -, hopen⟩ := run_bind_eq_ok hopen
  obtain ⟨present, _, -, hopen⟩ := run_bind_eq_ok hopen
  have hlive := check_eq_ok hopen
  have hsets := LiveView.open?_setState hlive
  exact ⟨open?_zone hlive, congrArg SetState.preview hsets,
    congrArg SetState.showDetails hsets, congrArg SetState.isCurrent hsets⟩

/-- The command ends as its operations on the view end. -/
theorem Opens.run_eq (h : Opens around words begun arguments config live opened) {final : Run}
    {ended : σ}
    (hfinal : (operate (asks around config) around.now arguments live).run opened =
      (.ok final, ended)) :
    Command.run around words begun =
      (.ended (some (printed arguments final))
        (if final.lastLoad? = some .failed then some (.notLoaded arguments.alertId) else none),
        ended) := by
  obtain ⟨config', configured, hconfig, hview⟩ := run_bind_eq_ok h.view
  obtain ⟨live', opened', hopen, hreturn⟩ := run_bind_eq_ok hview
  cases hreturn
  let carried : ExceptT CommandFailure (StateM σ) Run := do
    let config ← configure around
    let live ← openView around config arguments
    operate (asks around config) around.now arguments live
  have hcarried : carried.run begun = (.ok final, ended) := by
    rw [run_bind_ok hconfig, run_bind_ok hopen]
    exact hfinal
  unfold Command.run
  rw [h.words]
  show (conclude arguments (carried.run begun).1, (carried.run begun).2) = _
  rw [hcarried]
  rfl

/-- A preset that is asked for is shown after the first load, none is shown otherwise. -/
theorem showPreset_ends {run : Run} (hnone : run.flights = []) (hshows : run.live.Shows config.zone)
    {first : LoadOutcome} (hfirst : run.results = [(0, .loaded first)]) (world : σ)
    (hpreset : ∀ typed, arguments.preset = some typed → ∃ preset,
      RangePreset.parse typed = .ok preset ∧
        (preset.range? (around.now world).1 config.zone).isSome = true) :
    ∃ second shown after,
      (showPreset (asks around config) around.now run arguments.preset).run world =
        (.ok shown, after) ∧
      shown.flights = [] ∧
      shown.results = (0, .loaded first) ::
        (second.map fun outcome => (1, Result.loaded outcome)).toList ∧
      second.isSome = arguments.preset.isSome ∧
      (run.live.session.errored = true → second = none ∨ second = some .suppressed) := by
  cases hgiven : arguments.preset with
  | none => exact ⟨none, run, world, rfl, hnone, hfirst, rfl, fun _ => .inl rfl⟩
  | some typed =>
    obtain ⟨preset, hparse, hrange⟩ := hpreset typed hgiven
    obtain ⟨hended, second, hresults, hsuppressed⟩ :=
      preset_ends (asks around config) around.now hnone hshows world hrange
    let carried := carryOut (asks around config) around.now run 1 (.selectPreset preset)
    rw [hfirst] at hresults
    refine ⟨some second, (carried world).1, (carried world).2, ?_, hended, hresults, rfl,
      fun herrored => .inr (congrArg some (hsuppressed herrored))⟩
    have hcheck : (check (RangePreset.parse typed) :
        ExceptT CommandFailure (StateM σ) RangePreset).run world = (.ok preset, world) := by
      rw [hparse]
      rfl
    have hcarried : (carried : ExceptT CommandFailure (StateM σ) Run).run world =
        (.ok (carried world).1, (carried world).2) := rfl
    have hlookup : (carried world).1.results.lookup 1 = some (.loaded second) := by
      rw [hresults]
      rfl
    unfold showPreset
    rw [run_bind_ok hcheck, run_bind_ok hcarried, hlookup]
    rfl

/-- A baseline that is asked for is shown after that, which leaves the outcomes of loads as they
are. -/
theorem showBaseline_ends (around : Surroundings (StateM σ)) (config : Config) {run : Run}
    (hnone : run.flights = []) (world : σ)
    (hbaseline : ∀ typed, arguments.baseline = some typed →
      ∃ offset, Offset.parse typed = .ok offset) :
    ∃ final after, (showBaseline (asks around config) around.now run arguments.baseline).run world =
        (.ok final, after) ∧
      ∀ number < 2, final.results.lookup number = run.results.lookup number := by
  cases hgiven : arguments.baseline with
  | none => exact ⟨run, world, rfl, fun _ _ => rfl⟩
  | some typed =>
    obtain ⟨offset, hparse⟩ := hbaseline typed hgiven
    let carried := carryOut (asks around config) around.now run 2 (.selectBaseline offset)
    obtain ⟨result, hresults⟩ := baseline_ends (asks around config) around.now hnone offset world
    refine ⟨(carried world).1, (carried world).2, ?_, fun number hnumber => ?_⟩
    · have hcheck : (check (Offset.parse typed) :
          ExceptT CommandFailure (StateM σ) Offset).run world = (.ok offset, world) := by
        rw [hparse]
        rfl
      unfold showBaseline
      rw [run_bind_ok hcheck]
      rfl
    · have hother : (number == 2) = false := beq_false_of_ne (Nat.ne_of_lt hnumber)
      rw [hresults, List.lookup_append]
      simp [List.lookup_cons, hother]

/-- The command tells of its last load. Take any surroundings, however they reply and whatever time
it is, and any words with which the command gets as far as a view; let a preset that is asked for be
one whose range exists when it is shown, and a baseline be a known one. Then the first load comes
out in some way, and so does the load of the preset if one is asked for; the view is printed; and
the command ends with a failure exactly if the last of these loads failed. Where the first load
failed, the load of a preset is suppressed, so its failure is told only if no preset is asked
for. -/
theorem fails_with_last_load (hopens : Opens around words begun arguments config live opened)
    (hpreset : ∀ typed, arguments.preset = some typed → ∃ preset,
      RangePreset.parse typed = .ok preset ∧
        (preset.range? (around.now (firstLoaded around config arguments live opened).2).1
          config.zone).isSome = true)
    (hbaseline : ∀ typed, arguments.baseline = some typed →
      ∃ offset, Offset.parse typed = .ok offset) :
    ∃ first second final ended,
      Command.run around words begun =
        (.ended (some (printed arguments final))
          (if second.getD first = .failed then some (.notLoaded arguments.alertId) else none),
          ended) ∧
      (firstLoaded around config arguments live opened).1.results = [(0, .loaded first)] ∧
      final.results.lookup 0 = some (.loaded first) ∧
      final.results.lookup 1 = second.map .loaded ∧
      second.isSome = arguments.preset.isSome ∧
      (first = .failed → second = none ∨ second = some .suppressed) := by
  obtain ⟨hzone, hdraft, hdetails, hcurrent⟩ := hopens.shows
  obtain ⟨hnone, hshows, first, hfirst, herrored⟩ :=
    firstLoad_ends (asks around config) around.now hzone hdraft hdetails hcurrent opened
  obtain ⟨second, shown, world, hshown, hnone', hsecond, hgiven, hsuppressed⟩ :=
    showPreset_ends hnone hshows hfirst _ hpreset
  obtain ⟨final, ended, hfinal, hsame⟩ :=
    showBaseline_ends around config hnone' world hbaseline
  have hoperate : (operate (asks around config) around.now arguments live).run opened =
      (.ok final, ended) := by
    let carried := carryOut (asks around config) around.now { live := live } 0 arguments.firstLoad
    have hcarried : (carried : ExceptT CommandFailure (StateM σ) Run).run opened =
        (.ok (carried opened).1, (carried opened).2) := rfl
    unfold operate
    rw [run_bind_ok hcarried]
    exact (run_bind_ok hshown).trans hfinal
  have hlookup : final.results.lookup 0 = some (.loaded first) ∧
      final.results.lookup 1 = second.map .loaded := by
    rw [hsame 0 (by decide), hsame 1 (by decide), hsecond]
    cases second <;> exact ⟨rfl, rfl⟩
  have hlast : final.lastLoad? = some (second.getD first) := by
    unfold Run.lastLoad?
    rw [hlookup.1, hlookup.2]
    cases second <;> rfl
  refine ⟨first, second, final, ended, ?_, hfirst, hlookup.1, hlookup.2, hgiven,
    fun hfailed => hsuppressed (herrored hfailed)⟩
  rw [hopens.run_eq hoperate, hlast]
  simp only [Option.some.injEq]

/-- Surroundings in which nobody replies. -/
def unreachable : Surroundings (StateM Unit) where
  environment := [("ANOMALY_CHART_TIMEZONE", "UTC")]
  supply := pure none
  read := fun _ => pure (.error .missing)
  zones := Zone.ofTable?
  send := fun _ => pure none
  now := pure 1700000000000

/-- The command gets as far as a view there, and its first load fails. -/
theorem unreachable_opens :
    let arguments : Arguments := { alertId := 7, preset := some "1w" }
    ∃ config live,
      Opens unreachable ["--alert-id", "7", "--preset", "1w"] () arguments config live () ∧
      (RangePreset.week1.range? 1700000000000 config.zone).isSome = true ∧
      (firstLoaded unreachable config arguments live ()).1.results = [(0, .loaded .failed)] := by
  intro arguments
  let opening : Except CommandFailure (Config × LiveView) × Unit :=
    (do
      let config ← configure unreachable
      let live ← openView unreachable config arguments
      return (config, live) : ExceptT CommandFailure (StateM Unit) (Config × LiveView)).run ()
  have hopening : opening.1.toOption.map (fun (config, live) =>
      ((RangePreset.week1.range? 1700000000000 config.zone).isSome,
        (firstLoaded unreachable config arguments live ()).1.results)) =
      some (true, [(0, .loaded .failed)]) := by
    dsimp only [opening, arguments]
    decide +kernel
  rcases hview : opening with ⟨_ | ⟨config, live⟩, world⟩
  · rw [hview] at hopening
    cases hopening
  · rw [hview] at hopening
    obtain ⟨hrange, hfirst⟩ := Prod.mk.inj (Option.some.inj hopening)
    exact ⟨config, live, ⟨by decide +kernel, hview⟩, hrange, hfirst⟩

/-- Where nobody replies and a preset is asked for, the view is printed and no failure told. -/
theorem fails_with_last_load_unreachable :
    let arguments : Arguments := { alertId := 7, preset := some "1w" }
    ∃ config live,
      Opens unreachable ["--alert-id", "7", "--preset", "1w"] () arguments config live () ∧
      ∃ first second final ended,
        Command.run unreachable ["--alert-id", "7", "--preset", "1w"] () =
          (.ended (some (printed arguments final))
            (if second.getD first = .failed then some (.notLoaded arguments.alertId) else none),
            ended) ∧
        (firstLoaded unreachable config arguments live ()).1.results = [(0, .loaded first)] ∧
        final.results.lookup 0 = some (.loaded first) ∧
        final.results.lookup 1 = second.map .loaded ∧
        second.isSome = arguments.preset.isSome ∧
        (first = .failed → second = none ∨ second = some .suppressed) := by
  intro arguments
  obtain ⟨config, live, hopens, hrange, -⟩ := unreachable_opens
  refine ⟨config, live, hopens, fails_with_last_load hopens (fun typed hgiven => ?_)
    fun typed hgiven => nomatch hgiven⟩
  obtain rfl := Option.some.inj hgiven
  exact ⟨.week1, by decide +kernel, hrange⟩

/-- Its only load that is not suppressed fails there, and the command ends without a failure. -/
theorem failure_hidden_by_preset :
    let arguments : Arguments := { alertId := 7, preset := some "1w" }
    (∃ config live,
      Opens unreachable ["--alert-id", "7", "--preset", "1w"] () arguments config live () ∧
      (RangePreset.week1.range? 1700000000000 config.zone).isSome = true ∧
      (firstLoaded unreachable config arguments live ()).1.results = [(0, .loaded .failed)]) ∧
    ∃ view, (Command.run unreachable ["--alert-id", "7", "--preset", "1w"] ()).1 =
      .ended (some view) none := by
  have hended : (Command.run unreachable ["--alert-id", "7", "--preset", "1w"] ()).1.succeeded =
      true := by
    decide +kernel
  exact ⟨unreachable_opens, CommandResult.exists_of_succeeded hended⟩

end

end Command

end AlertDetail
