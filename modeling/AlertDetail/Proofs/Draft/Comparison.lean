import AlertDetail.Proofs.Run.Numbering
import AlertDetail.Proofs.Run.Options

/-!
# Comparing a changed alert

The preview of a changed alert compares its saved configuration with the one to evaluate. While the
old set is empty a load first evaluates the saved configuration and reads the detected anomalies as
reference, then evaluates the other one; a reference that is there is kept. Which configuration is
evaluated, where its anomalies are read from and where they go are decided in different places, and
agree in every run, also when the reference turns out empty.
-/

namespace AlertDetail

/-- Whether anomalies are called for: those of an alert, or those that an evaluation finds. -/
def Call.isAnomaly : Call → Bool
  | anomalies .. | preview .. | bounds .. => true
  | _ => false

/-- A series is no anomaly. -/
theorem Call.isAnomaly_of_isSeries {call : Call} (h : call.isSeries = true) :
    call.isAnomaly = false := by
  cases call <;> first | rfl | cases h

/-- A request to preview a changed alert whose buckets are not whole days. -/
structure Comparison where
  /-- The number of the operation. -/
  operation : Nat
  /-- How many calls were made before it. -/
  since : Nat
  /-- The options of the view. -/
  options : ViewOptions
  /-- The range shown. -/
  range : AnalysisRange
  /-- The present when it was made. -/
  begun : Int
  /-- The old set when it was made. -/
  old : List Anomaly
  /-- The saved configuration. -/
  saved : String
  /-- The configuration to evaluate. -/
  yaml : String
  /-- A draft is evaluated. -/
  preview : options.preview = true
  /-- The alert exists. -/
  edit : options.edit = true
  /-- Buckets are not whole days. -/
  granularity : isDailyGranularity options.granularity = false
  /-- There is a saved configuration. -/
  savedYaml : options.savedYaml = some saved
  /-- There is a configuration to evaluate. -/
  alertYaml : options.alertYaml = some yaml

namespace LiveView

variable {live : LiveView} {pass : Pass}

/-- Taking over a choice leaves the old set as it is. -/
theorem apply_old (choice : SliceChoice) (session : Session) :
    (choice.apply session).old = session.old := by
  unfold SliceChoice.apply SliceChoice.selectSlice
  cases choice.metricUrns <;> rfl

/-- A first pass that fetches a reference begins the second one. -/
theorem finishPass_bootstrap (hstate : pass.viewState = .bootstrap)
    (hfirst : pass.reentered = false) (choice : SliceChoice) (result : FetchResult) :
    live.finishPass pass choice result =
      (live.update fun _ =>
        ((choice.apply live.session).merge .bootstrap result).1).beginPass true := by
  unfold finishPass
  rw [hstate, hfirst]
  exact if_pos ⟨rfl, rfl⟩

/-- A pass that fills the new set requests the series of the slice, if there is one. -/
theorem finishPass_replace (hstate : pass.viewState = .replace) (choice : SliceChoice)
    (result : FetchResult) :
    let after := live.update fun _ => ((choice.apply live.session).merge .replace result).1
    (∃ cause, live.finishPass pass choice result = after.failLoad cause) ∨
      live.finishPass pass choice result = after.requestSeries .load := by
  intro after
  unfold finishPass
  rw [hstate]
  dsimp only
  rw [if_neg fun h => MergeOutcome.noConfusion h.1]
  split
  · exact .inl ⟨_, rfl⟩
  · exact .inr rfl

end LiveView

namespace Comparison

open Run

variable (comparison : Comparison)

/-- The evaluation of the saved configuration. -/
def savedCall : Call :=
  .preview comparison.saved comparison.options.alertId (comparison.range.upTo comparison.begun)

/-- The detected anomalies. -/
def detectedCall : Call := .anomalies comparison.options.alertId comparison.range

/-- The evaluation of the other configuration, at a later present. -/
def draftCall (now : Int) : Call :=
  .preview comparison.yaml comparison.options.alertId (comparison.range.upTo now)

/-- Every call for anomalies that the request makes, with its number. -/
def calls (now : Int) : List (Nat × Call) :=
  if comparison.old = [] then
    [(comparison.since + 1, comparison.savedCall), (comparison.since + 2, comparison.detectedCall),
      (comparison.since + 3, comparison.draftCall now)]
  else [(comparison.since + 1, comparison.draftCall now)]

/-- What the draft is compared with, and the calls that were made for it: the old set if it was not
empty, otherwise the detected anomalies. -/
inductive Reference (oracle : Oracle) (comparison : Comparison) :
    List (Nat × Call) → List Anomaly → Prop
  | held (hold : comparison.old ≠ []) : Reference oracle comparison [] comparison.old
  | fetched {anomalies : List Anomaly} (hold : comparison.old = [])
    (hanswer : (oracle (comparison.since + 2) comparison.detectedCall).anomalies =
      .ok anomalies) :
    Reference oracle comparison [(comparison.since + 1, comparison.savedCall),
      (comparison.since + 2, comparison.detectedCall)] anomalies

/-- The calls of a request that finds the old set empty. -/
theorem calls_of_empty (hold : comparison.old = []) (now : Int) :
    comparison.calls now =
      [(comparison.since + 1, comparison.savedCall),
        (comparison.since + 2, comparison.detectedCall),
        (comparison.since + 3, comparison.draftCall now)] :=
  if_pos hold

variable {comparison} {oracle : Oracle}

/-- With the reference there, only the evaluation of the draft is still called for. -/
theorem Reference.calls {reference : List (Nat × Call)} {old : List Anomaly}
    (h : Reference oracle comparison reference old) (now : Int) :
    reference ++ [(comparison.since + reference.length + 1, comparison.draftCall now)] =
      comparison.calls now := by
  unfold Comparison.calls
  cases h with
  | held hold =>
    rw [if_neg hold]
    rfl
  | fetched hold =>
    rw [if_pos hold]
    rfl

/-- A session belongs to a request while its options and its range are those of the request. -/
structure Holds (comparison : Comparison) (session : Session) : Prop where
  /-- The options are the same. -/
  options : session.options = comparison.options
  /-- The range is the same. -/
  range : session.range = comparison.range

namespace Holds

variable {session : Session}

theorem preview (h : comparison.Holds session) : session.preview = true :=
  (congrArg ViewOptions.preview h.options).trans comparison.preview

theorem edit (h : comparison.Holds session) : session.edit = true :=
  (congrArg ViewOptions.edit h.options).trans comparison.edit

/-- Rules are visible while a draft is previewed. -/
theorem rulesVisible (h : comparison.Holds session) : session.rulesVisible = true := by
  unfold Session.rulesVisible
  rw [h.preview, Bool.true_or]

theorem isDaily (h : comparison.Holds session) : session.isDaily = false := by
  have hgranularity : session.granularity = comparison.options.granularity :=
    congrArg ViewOptions.granularity h.options
  unfold Session.isDaily
  rw [hgranularity, comparison.granularity]

/-- While the reference is missing the saved configuration is evaluated. -/
theorem nextConfig_saved (h : comparison.Holds session) (hold : session.old = []) :
    session.nextConfig false = some comparison.saved := by
  have hsaved : session.savedYaml = comparison.options.savedYaml :=
    congrArg ViewOptions.savedYaml h.options
  simp [Session.nextConfig, h.edit, hold, hsaved, comparison.savedYaml]

/-- With the reference there, or in the second pass, the other configuration is evaluated. -/
theorem nextConfig_yaml (h : comparison.Holds session) {reentered : Bool}
    (hdraft : session.old ≠ [] ∨ reentered = true) :
    session.nextConfig reentered = some comparison.yaml := by
  have hyaml : session.alertYaml = comparison.options.alertYaml :=
    congrArg ViewOptions.alertYaml h.options
  rcases hdraft with hold | rfl
  · simp [Session.nextConfig, hold, hyaml, comparison.alertYaml]
  · simp [Session.nextConfig, hyaml, comparison.alertYaml]

/-- While the reference is missing a pass fetches it. -/
theorem target_bootstrap (h : comparison.Holds session) (hold : session.old = []) :
    Pass.target (LiveView.loading session) false = .bootstrap := by
  simp [Pass.target, LiveView.loading, Session.viewState, ViewState.resolve, h.preview, h.edit,
    hold]

/-- With the reference there, or in the second pass, the anomalies become the new set. -/
theorem target_replace (h : comparison.Holds session) {reentered : Bool}
    (hdraft : session.old ≠ [] ∨ reentered = true) :
    Pass.target (LiveView.loading session) reentered = .replace := by
  by_cases hold : session.old = []
  · obtain rfl : reentered = true := hdraft.resolve_left fun hne => hne hold
    simp [Pass.target, LiveView.loading, Session.viewState, ViewState.resolve, h.preview, h.edit,
      hold]
  · simp [Pass.target, LiveView.loading, Session.viewState, ViewState.resolve, h.preview, h.edit,
      hold]

end Holds

/-- A pass of a request evaluates the configuration that is next. -/
theorem Holds.beginPass {live : LiveView} (h : comparison.Holds live.session) (reentered : Bool)
    {yaml : String} (hconfig : live.session.nextConfig reentered = some yaml) :
    live.beginPass reentered =
      (live.update LiveView.loading,
        .ask (.preview yaml comparison.options.alertId (comparison.range.upTo live.now))
          (.evaluation (Pass.plan (LiveView.loading live.session) reentered live.now))) := by
  have hvisible : (LiveView.loading live.session).rulesVisible = true := h.rulesVisible
  have hdaily : (LiveView.loading live.session).isDaily = false := h.isDaily
  have hloading : (LiveView.loading live.session).nextConfig reentered = some yaml := hconfig
  have halert : (LiveView.loading live.session).alertId = comparison.options.alertId :=
    congrArg ViewOptions.alertId h.options
  have hrange : (LiveView.loading live.session).range = comparison.range := h.range
  simp [LiveView.beginPass, LiveView.update, Pass.plan, Pass.evaluationCall, hvisible, hdaily,
    hloading, halert, hrange]

/-- How far a request has come that goes on alone: it waits for the evaluation of the saved
configuration, for the detected anomalies, or for the evaluation of the draft; it has the two sets
and waits for their series, or is complete; or it failed. -/
inductive Progress (oracle : Oracle) (comparison : Comparison) (run : Run) : Prop
  | saved {pass : Pass}
    (hflights : run.flights =
      [⟨comparison.operation, .evaluation pass, [comparison.since + 1]⟩])
    (hcalls : run.callsOf Call.isAnomaly comparison.since =
      [(comparison.since + 1, comparison.savedCall)])
    (hlength : run.calls.length = comparison.since + 1) (hold : comparison.old = [])
    (hstate : pass.viewState = .bootstrap) (hfirst : pass.reentered = false)
    (hdetected : pass.detectedCall = comparison.detectedCall)
    (hholds : comparison.Holds run.live.session)
  | detected {pass : Pass} {evaluation : Evaluation}
    (hflights : run.flights =
      [⟨comparison.operation, .detected pass (some evaluation), [comparison.since + 2]⟩])
    (hcalls : run.callsOf Call.isAnomaly comparison.since =
      [(comparison.since + 1, comparison.savedCall),
        (comparison.since + 2, comparison.detectedCall)])
    (hlength : run.calls.length = comparison.since + 2) (hold : comparison.old = [])
    (hstate : pass.viewState = .bootstrap) (hfirst : pass.reentered = false)
    (hholds : comparison.Holds run.live.session)
  | draft {pass : Pass} {reference : List (Nat × Call)} {old : List Anomaly} {now : Int}
    (hflights : run.flights = [⟨comparison.operation, .evaluation pass,
      [comparison.since + reference.length + 1]⟩])
    (hcalls : run.callsOf Call.isAnomaly comparison.since = comparison.calls now)
    (hlength : comparison.since ≤ run.calls.length)
    (hreference : Reference oracle comparison reference old)
    (hstate : pass.viewState = .replace) (hold : run.live.session.old = old)
  | shown {reference : List (Nat × Call)} {old : List Anomaly} {now : Int}
    {evaluation : Evaluation}
    (hflights : run.flights = [] ∨ ∃ stage request waiting, stage.request? = some request ∧
      run.flights = [⟨comparison.operation, stage, waiting⟩])
    (hcalls : run.callsOf Call.isAnomaly comparison.since = comparison.calls now)
    (hlength : comparison.since ≤ run.calls.length)
    (hreference : Reference oracle comparison reference old)
    (hanswer : (oracle (comparison.since + reference.length + 1)
      (comparison.draftCall now)).evaluation = .ok evaluation)
    (hold : run.live.session.old = old) (hnew : run.live.session.new = evaluation.anomalies)
    (hpredictions : run.live.session.predictions = evaluation.predictions)
  | failed {now : Int} (hflights : run.flights = [])
    (hcalls : run.callsOf Call.isAnomaly comparison.since <+: comparison.calls now)
    (hresult : (comparison.operation, .loaded .failed) ∈ run.results)

/-- A request that goes on alone has no other operation beside it. -/
theorem Progress.alone {run : Run} (h : Progress oracle comparison run) :
    run.flights = [] ∨ ∃ stage waiting, run.flights = [⟨comparison.operation, stage, waiting⟩] := by
  cases h with
  | saved hflights => exact .inr ⟨_, _, hflights⟩
  | detected hflights => exact .inr ⟨_, _, hflights⟩
  | draft hflights => exact .inr ⟨_, _, hflights⟩
  | shown hflights =>
    rcases hflights with hflights | ⟨stage, request, waiting, -, hflights⟩
    · exact .inl hflights
    · exact .inr ⟨stage, waiting, hflights⟩
  | failed hflights => exact .inl hflights

variable {run : Run}

/-- An operation alone that calls for anomalies waits for the answer to this call. -/
theorem hold_alone (live : LiveView) (waiting : List Nat) {call : Call} (stage : Stage)
    (hcall : call.isAnomaly = true) (hsince : comparison.since ≤ run.calls.length) :
    let after := { run with live := live, flights := [] }.hold comparison.operation waiting
      (.ask call stage)
    after.flights = [⟨comparison.operation, stage, [run.calls.length + 1]⟩] ∧
      after.callsOf Call.isAnomaly comparison.since =
        run.callsOf Call.isAnomaly comparison.since ++ [(run.calls.length + 1, call)] ∧
      after.calls.length = run.calls.length + 1 := by
  exact ⟨rfl, run.callsOf_record_of_kind hsince hcall, List.length_append⟩

/-- A load that fails while the calls made so far are among those of the request. -/
theorem Progress.fail (now : Int) (live : LiveView) (cause : ChartError) (waiting : List Nat)
    (hcalls : run.callsOf Call.isAnomaly comparison.since <+: comparison.calls now) :
    Progress oracle comparison
      ({ run with live := (live.failLoad cause).1, flights := [] }.hold comparison.operation
        waiting (live.failLoad cause).2) :=
  .failed rfl hcalls (List.mem_append_right _ (List.mem_singleton_self _))

/-- A load has both sets and has nothing left to do but to wait for their series. -/
theorem Progress.onlySeries (live : LiveView) (waiting : List Nat) {next : Next}
    (hnext : next.OnlySeries) {reference : List (Nat × Call)} {old : List Anomaly} {now : Int}
    {evaluation : Evaluation}
    (hcalls : run.callsOf Call.isAnomaly comparison.since = comparison.calls now)
    (hlength : comparison.since ≤ run.calls.length)
    (hreference : Reference oracle comparison reference old)
    (hanswer : (oracle (comparison.since + reference.length + 1)
      (comparison.draftCall now)).evaluation = .ok evaluation)
    (hold : live.session.old = old) (hnew : live.session.new = evaluation.anomalies)
    (hpredictions : live.session.predictions = evaluation.predictions) :
    Progress oracle comparison
      ({ run with live := live, flights := [] }.hold comparison.operation waiting next) := by
  have hkind : ∀ call stage, next = .ask call stage → call.isAnomaly = false := by
    rintro call stage rfl
    exact Call.isAnomaly_of_isSeries hnext.1
  have hcalls' := callsOf_hold { run with live := live, flights := [] } Call.isAnomaly hlength
    comparison.operation waiting hkind
  have hlength' := Nat.le_trans hlength
    (calls_length_hold { run with live := live, flights := [] } comparison.operation waiting next)
  have hsession := live_hold { run with live := live, flights := [] } comparison.operation waiting
    next
  dsimp only at hsession
  rw [← hsession] at hold hnew hpredictions
  refine .shown ?_ (hcalls'.trans hcalls) hlength' hreference hanswer hold hnew hpredictions
  cases next with
  | ask call stage =>
    obtain ⟨request, hrequest⟩ := Option.isSome_iff_exists.1 hnext.2
    exact .inr ⟨stage, request, _, hrequest, rfl⟩
  | wait stage =>
    obtain ⟨request, hrequest⟩ := Option.isSome_iff_exists.1 hnext
    exact .inr ⟨stage, request, _, hrequest, rfl⟩
  | finish result => exact .inl rfl

/-- With the reference there, a pass calls for the evaluation of the draft. -/
theorem Progress.beginPass_draft {live : LiveView} {reentered : Bool}
    (hholds : comparison.Holds live.session) (hdraft : live.session.old ≠ [] ∨ reentered = true)
    {reference : List (Nat × Call)} {old : List Anomaly}
    (hreference : Reference oracle comparison reference old) (hold : live.session.old = old)
    (hcalls : run.callsOf Call.isAnomaly comparison.since = reference)
    (hlength : run.calls.length = comparison.since + reference.length) (waiting : List Nat) :
    Progress oracle comparison
      ({ run with live := (live.beginPass reentered).1, flights := [] }.hold comparison.operation
        waiting (live.beginPass reentered).2) := by
  have hsince : comparison.since ≤ run.calls.length := by omega
  obtain ⟨hflights', hcalls', hlength'⟩ := hold_alone (live.update LiveView.loading) waiting
    (.evaluation (Pass.plan (LiveView.loading live.session) reentered live.now))
    (rfl : (comparison.draftCall live.now).isAnomaly = true) hsince
  rw [hcalls, hlength, hreference.calls] at hcalls'
  rw [hlength] at hflights'
  have hsince' : comparison.since ≤ run.calls.length + 1 := by omega
  rw [← hlength'] at hsince'
  rw [hholds.beginPass reentered (hholds.nextConfig_yaml hdraft)]
  exact .draft hflights' hcalls' hsince' hreference (hholds.target_replace hdraft) hold

/-- The evaluation of the saved configuration is there: the detected anomalies are read. -/
theorem Progress.take_saved {pass : Pass}
    (hcalls : run.callsOf Call.isAnomaly comparison.since =
      [(comparison.since + 1, comparison.savedCall)])
    (hlength : run.calls.length = comparison.since + 1) (hold : comparison.old = [])
    (hstate : pass.viewState = .bootstrap) (hfirst : pass.reentered = false)
    (hdetected : pass.detectedCall = comparison.detectedCall)
    (hholds : comparison.Holds run.live.session) (id : Nat) (waiting : List Nat)
    (answer : Answer) :
    Progress oracle comparison
      (run.taken [] ⟨comparison.operation, .evaluation pass, waiting⟩ id answer) := by
  rw [taken_eq]
  dsimp only [LiveView.resume, LiveView.takeEvaluation]
  cases answer.evaluation with
  | error cause =>
    refine .fail 0 run.live cause _ ?_
    rw [hcalls, comparison.calls_of_empty hold]
    exact List.prefix_append [_] _
  | ok evaluation =>
    have hreads : pass.readsDetected = true := by
      unfold Pass.readsDetected
      rw [hstate]
      exact Bool.or_true _
    have hsince : comparison.since ≤ run.calls.length := by omega
    obtain ⟨hflights', hcalls', hlength'⟩ := hold_alone run.live (waiting.erase id)
      (.detected pass (some evaluation)) (rfl : comparison.detectedCall.isAnomaly = true) hsince
    rw [hlength] at hflights' hcalls' hlength'
    rw [hcalls] at hcalls'
    dsimp only
    rw [if_pos hreads, hdetected]
    exact .detected hflights' hcalls' hlength' hold hstate hfirst hholds

/-- The detected anomalies are there: they become the reference, and the draft is evaluated. -/
theorem Progress.take_detected {pass : Pass} {evaluation : Evaluation}
    (hcalls : run.callsOf Call.isAnomaly comparison.since =
      [(comparison.since + 1, comparison.savedCall),
        (comparison.since + 2, comparison.detectedCall)])
    (hlength : run.calls.length = comparison.since + 2) (hold : comparison.old = [])
    (hstate : pass.viewState = .bootstrap) (hfirst : pass.reentered = false)
    (hholds : comparison.Holds run.live.session) (id : Nat) (waiting : List Nat) :
    Progress oracle comparison
      (run.taken [] ⟨comparison.operation, .detected pass (some evaluation), waiting⟩ id
        (oracle (comparison.since + 2) comparison.detectedCall)) := by
  rw [taken_eq]
  dsimp only [LiveView.resume, LiveView.takeDetected]
  cases hanswer : (oracle (comparison.since + 2) comparison.detectedCall).anomalies with
  | error cause =>
    refine .fail 0 run.live cause _ ?_
    rw [hcalls, comparison.calls_of_empty hold]
    exact List.prefix_append [_, _] _
  | ok anomalies =>
    have hreference := Reference.fetched hold hanswer
    obtain ⟨hoptions, hrange⟩ := LiveView.merge_apply_options run.live.session
      (.ofEvaluation evaluation) .bootstrap ⟨anomalies, evaluation.predictions⟩
    dsimp only
    rw [LiveView.finishPass_bootstrap hstate hfirst]
    exact .beginPass_draft ⟨hoptions.trans hholds.options, hrange.trans hholds.range⟩ (.inr rfl)
      hreference rfl hcalls hlength _

/-- The evaluation of the draft is there: both sets are, and their series are requested. -/
theorem Progress.take_draft {pass : Pass} {reference : List (Nat × Call)} {old : List Anomaly}
    {now : Int} (hcalls : run.callsOf Call.isAnomaly comparison.since = comparison.calls now)
    (hlength : comparison.since ≤ run.calls.length)
    (hreference : Reference oracle comparison reference old) (hstate : pass.viewState = .replace)
    (hold : run.live.session.old = old) (id : Nat) (waiting : List Nat) :
    Progress oracle comparison
      (run.taken [] ⟨comparison.operation, .evaluation pass, waiting⟩ id
        (oracle (comparison.since + reference.length + 1) (comparison.draftCall now))) := by
  rw [taken_eq]
  dsimp only [LiveView.resume, LiveView.takeEvaluation]
  cases hanswer : (oracle (comparison.since + reference.length + 1)
      (comparison.draftCall now)).evaluation with
  | error cause =>
    refine .fail now run.live cause _ ?_
    exact hcalls ▸ List.prefix_rfl
  | ok evaluation =>
    have hreads : ¬pass.readsDetected = true := by
      unfold Pass.readsDetected
      rw [hstate]
      exact Bool.noConfusion
    dsimp only
    rw [if_neg hreads]
    rcases LiveView.finishPass_replace hstate (.ofEvaluation evaluation)
      ⟨evaluation.anomalies, evaluation.predictions⟩ with ⟨cause, hfail⟩ | hseries
    · rw [hfail]
      refine .fail now _ cause _ ?_
      exact hcalls ▸ List.prefix_rfl
    · rw [hseries]
      obtain ⟨hold', hnew', hpredictions'⟩ := Session.sets_of_core (LiveView.requestSeries_core
        (run.live.update fun _ => (((SliceChoice.ofEvaluation evaluation).apply
          run.live.session).merge .replace ⟨evaluation.anomalies, evaluation.predictions⟩).1) .load)
      have hkept : ((SliceChoice.ofEvaluation evaluation).apply run.live.session).old = old :=
        (LiveView.apply_old _ _).trans hold
      exact .onlySeries _ _ (LiveView.requestSeries_onlySeries _ _) hcalls hlength hreference
        hanswer (hold'.trans hkept) hnew' hpredictions'

/-- An answer for the series leaves both sets as they are. -/
theorem Progress.take_series {stage : Stage} {request : SeriesRequest}
    (hstage : stage.request? = some request) {reference : List (Nat × Call)} {old : List Anomaly}
    {now : Int} {evaluation : Evaluation}
    (hcalls : run.callsOf Call.isAnomaly comparison.since = comparison.calls now)
    (hlength : comparison.since ≤ run.calls.length)
    (hreference : Reference oracle comparison reference old)
    (hanswer : (oracle (comparison.since + reference.length + 1)
      (comparison.draftCall now)).evaluation = .ok evaluation)
    (hold : run.live.session.old = old) (hnew : run.live.session.new = evaluation.anomalies)
    (hpredictions : run.live.session.predictions = evaluation.predictions) (id : Nat)
    (waiting : List Nat) (answer : Answer) :
    Progress oracle comparison
      (run.taken [] ⟨comparison.operation, stage, waiting⟩ id answer) := by
  obtain ⟨hold', hnew', hpredictions'⟩ := Session.sets_of_core
    (run.live.resume_core (waiting.head? == some id) answer hstage)
  rw [taken_eq]
  exact .onlySeries _ _ (run.live.resume_onlySeries _ answer hstage) hcalls hlength hreference
    hanswer (hold'.trans hold) (hnew'.trans hnew) (hpredictions'.trans hpredictions)

/-- Whatever answer a request takes, it makes progress. -/
theorem Progress.take {stage : Stage} {waiting : List Nat} {id : Nat} {call : Call}
    (h : Progress oracle comparison run)
    (hflights : run.flights = [⟨comparison.operation, stage, waiting⟩]) (hid : id ∈ waiting)
    (hcall : run.call? id = some call) :
    Progress oracle comparison
      (run.taken [] ⟨comparison.operation, stage, waiting⟩ id (oracle id call)) := by
  have hanswered {id' : Nat} {call' : Call} {calls : List (Nat × Call)}
      (hcalls : run.callsOf Call.isAnomaly comparison.since = calls) (hmem : (id', call') ∈ calls)
      (hwaiting : waiting = [id']) : oracle id call = oracle id' call' := by
    rw [hwaiting, List.mem_singleton] at hid
    rw [← hcalls, ← hid] at hmem
    rw [hid] at hmem hcall ⊢
    rw [call?_of_mem_callsOf hmem] at hcall
    rw [Option.some.inj hcall]
  cases h with
  | saved hflights' hcalls hlength hold hstate hfirst hdetected hholds =>
    rw [hflights] at hflights'
    cases hflights'
    exact take_saved hcalls hlength hold hstate hfirst hdetected hholds _ _ _
  | detected hflights' hcalls hlength hold hstate hfirst hholds =>
    rw [hflights] at hflights'
    cases hflights'
    rw [hanswered hcalls (List.mem_cons_of_mem _ List.mem_cons_self) rfl]
    exact take_detected hcalls hlength hold hstate hfirst hholds _ _
  | draft hflights' hcalls hlength hreference hstate hold =>
    rw [hflights] at hflights'
    cases hflights'
    rw [← hreference.calls] at hcalls
    rw [hanswered hcalls (List.mem_append_right _ (List.mem_singleton_self _)) rfl]
    rw [hreference.calls] at hcalls
    exact take_draft hcalls hlength hreference hstate hold _ _
  | shown hflights' hcalls hlength hreference hanswer hold hnew hpredictions =>
    rw [hflights] at hflights'
    rcases hflights' with hnone | ⟨stage', request, waiting', hrequest, hflights'⟩
    · cases hnone
    · cases hflights'
      exact take_series hrequest hcalls hlength hreference hanswer hold hnew hpredictions _ _ _
  | failed hflights' =>
    rw [hflights] at hflights'
    cases hflights'

/-- A request that calls for the baseline as well has both sets already. -/
theorem Progress.double {request : SeriesRequest} {id : Nat} (h : Progress oracle comparison run)
    (hflights : run.flights = [⟨comparison.operation, .measured request, [id]⟩]) :
    Progress oracle comparison (run.doubled [] comparison.operation id request) := by
  cases h with
  | saved hflights' =>
    rw [hflights] at hflights'
    cases hflights'
  | detected hflights' =>
    rw [hflights] at hflights'
    cases hflights'
  | draft hflights' =>
    rw [hflights] at hflights'
    cases hflights'
  | shown hflights' hcalls hlength hreference hanswer hold hnew hpredictions =>
    have hrecord := { run with flights := [] }.callsOf_record Call.isAnomaly hlength
      request.baselineCall
    have hlength' : comparison.since ≤ (run.calls ++ [request.baselineCall]).length := by
      rw [List.length_append]
      omega
    exact .shown (.inr ⟨.both request, request, _, rfl, rfl⟩)
      (hrecord.trans ((List.append_nil _).trans hcalls)) hlength' hreference hanswer hold hnew
      hpredictions
  | failed hflights' =>
    rw [hflights] at hflights'
    cases hflights'

/-- Whatever answer a request takes, and whatever it calls for, it makes progress. -/
theorem Progress.keeps : Keeps oracle comparison.operation [] (Progress oracle comparison) where
  take hflights hid hcall h := h.take hflights hid hcall
  double hflights h := h.double hflights

/-- The progress of a request does not depend on the clock, the notices and the remembered views. -/
theorem Progress.aside (h : Progress oracle comparison run) {live : LiveView}
    (hsession : live.session = run.live.session) :
    Progress oracle comparison { run with live := live } := by
  cases h with
  | saved hflights hcalls hlength hold hstate hfirst hdetected hholds =>
    rw [← hsession] at hholds
    exact .saved hflights hcalls hlength hold hstate hfirst hdetected hholds
  | detected hflights hcalls hlength hold hstate hfirst hholds =>
    rw [← hsession] at hholds
    exact .detected hflights hcalls hlength hold hstate hfirst hholds
  | draft hflights hcalls hlength hreference hstate hold =>
    rw [← hsession] at hold
    exact .draft hflights hcalls hlength hreference hstate hold
  | shown hflights hcalls hlength hreference hanswer hold hnew hpredictions =>
    rw [← hsession] at hold hnew hpredictions
    exact .shown hflights hcalls hlength hreference hanswer hold hnew hpredictions
  | failed hflights hcalls hresult => exact .failed hflights hcalls hresult

/-- A request makes progress in every move that begins no other operation. -/
theorem Progress.step (hrest : run.AtRest) (h : Progress oracle comparison run) {move : Move}
    (hmove : move.begins = false) : Progress oracle comparison (run.step oracle move) := by
  by_cases hsettles : ∃ id prompt, move = .settle id prompt
  · obtain ⟨id, prompt, rfl⟩ := hsettles
    exact Progress.keeps.settle_alone hrest.numbered h.alone h id prompt
  · obtain ⟨live, hstep, hsession, -⟩ := step_aside oracle run hmove fun id prompt hsettle =>
      hsettles ⟨id, prompt, hsettle⟩
    rw [hstep]
    exact h.aside hsession

/-- A request makes progress in every run that begins no other operation. -/
theorem Progress.after (hrest : run.AtRest) (h : Progress oracle comparison run)
    {moves : List Move} (hmoves : ∀ move ∈ moves, move.begins = false) :
    Progress oracle comparison (run.after oracle moves) :=
  hrest.keeps (fun hrest hmove h => h.step hrest hmove) hmoves h

/-- A request that begins while nothing else is in flight makes progress. -/
theorem Progress.begin (hoperation : comparison.operation = run.begun)
    (hsince : comparison.since = run.calls.length) (hbegun : comparison.begun = run.live.now)
    (hold : comparison.old = run.live.session.old) (hholds : comparison.Holds run.live.session)
    (hflights : run.flights = []) (prompt : Nat → Call → Bool) :
    Progress oracle comparison (run.step oracle (.begin .requestPreview prompt)) := by
  have hkeeps : Keeps oracle run.begun run.flights (Progress oracle comparison) := by
    rw [hflights, ← hoperation]
    exact Progress.keeps
  refine hkeeps.begin prompt ?_
  let live := run.live.update fun session =>
    { session with showDetails := true, isCurrent := true, errored := false }
  have hholds' : comparison.Holds live.session := ⟨hholds.options, hholds.range⟩
  have hcalls : run.callsOf Call.isAnomaly comparison.since = [] := by
    rw [hsince]
    exact run.callsOf_length Call.isAnomaly
  have hfirst : run.live.begin false .requestPreview = live.beginPass false := rfl
  rw [run.started_alone hflights, hfirst, ← hoperation]
  by_cases hempty : comparison.old = []
  · have hold' : live.session.old = [] := hold.symm.trans hempty
    obtain ⟨hflights', hcalls', hlength'⟩ := hold_alone (live.update LiveView.loading) []
      (.evaluation (Pass.plan (LiveView.loading live.session) false live.now))
      (rfl : comparison.savedCall.isAnomaly = true) (Nat.le_of_eq hsince)
    rw [← hsince] at hflights' hcalls' hlength'
    rw [hcalls] at hcalls'
    have hdetected : (Pass.plan (LiveView.loading live.session) false live.now).detectedCall =
        comparison.detectedCall := by
      have halert : live.session.alertId = comparison.options.alertId :=
        congrArg ViewOptions.alertId hholds'.options
      unfold Pass.detectedCall detectedCall
      rw [← halert, ← hholds'.range]
      rfl
    have hcall : comparison.savedCall = .preview comparison.saved comparison.options.alertId
        (comparison.range.upTo live.now) := by
      unfold savedCall
      rw [hbegun]
      rfl
    rw [hholds'.beginPass false (hholds'.nextConfig_saved hold'), ← hcall]
    exact .saved hflights' hcalls' hlength' hempty (hholds'.target_bootstrap hold') rfl hdetected
      ⟨hholds'.options, hholds'.range⟩
  · have hlength : run.calls.length = comparison.since + ([] : List (Nat × Call)).length :=
      hsince.symm
    have hkept : live.session.old ≠ [] := fun hnone => hempty (hold.trans hnone)
    exact .beginPass_draft hholds' (.inl hkept) (.held hempty) hold.symm hcalls hlength []

/-- What the sets hold when a request is complete, and which calls it made. -/
theorem Progress.completed (hrest : run.AtRest) (h : Progress oracle comparison run)
    (hresult : (comparison.operation, .loaded .completed) ∈ run.results) :
    ∃ reference old now evaluation, Reference oracle comparison reference old ∧
      run.callsOf Call.isAnomaly comparison.since = comparison.calls now ∧
      (oracle (comparison.since + reference.length + 1) (comparison.draftCall now)).evaluation =
        .ok evaluation ∧
      run.live.session.old = old ∧ run.live.session.new = evaluation.anomalies ∧
      run.live.session.predictions = evaluation.predictions := by
  have hflight {stage : Stage} {waiting : List Nat}
      (hflights : run.flights = [⟨comparison.operation, stage, waiting⟩]) : False := by
    have hmem : ⟨comparison.operation, stage, waiting⟩ ∈ run.flights := by
      rw [hflights]
      exact List.mem_singleton_self _
    exact hrest.numbered.no_result hmem hresult
  cases h with
  | saved hflights => exact (hflight hflights).elim
  | detected hflights => exact (hflight hflights).elim
  | draft hflights => exact (hflight hflights).elim
  | shown hflights hcalls hlength hreference hanswer hold hnew hpredictions =>
    exact ⟨_, _, _, _, hreference, hcalls, hanswer, hold, hnew, hpredictions⟩
  | failed hflights hcalls hfailed =>
    cases hrest.numbered.result_unique hfailed hresult

/-- The calls that a request made are among those it makes in all. -/
theorem Progress.prefix (h : Progress oracle comparison run) :
    ∃ now, run.callsOf Call.isAnomaly comparison.since <+: comparison.calls now := by
  cases h with
  | saved hflights hcalls hlength hold =>
    refine ⟨0, ?_⟩
    rw [hcalls, comparison.calls_of_empty hold]
    exact List.prefix_append [_] _
  | detected hflights hcalls hlength hold =>
    refine ⟨0, ?_⟩
    rw [hcalls, comparison.calls_of_empty hold]
    exact List.prefix_append [_, _] _
  | @draft pass reference old now hflights hcalls => exact ⟨now, hcalls ▸ List.prefix_rfl⟩
  | @shown reference old now evaluation hflights hcalls => exact ⟨now, hcalls ▸ List.prefix_rfl⟩
  | @failed now hflights hcalls => exact ⟨now, hcalls⟩

end Comparison

namespace Run

/-- The preview of a changed alert compares the saved configuration with the one to evaluate. In
every run of a view with both configurations, the latter from the start or set since, a request made
while nothing is in flight and followed by the beginning of no other operation calls for anomalies
in this order and for no others: if the old set was empty, the evaluation of the saved
configuration, the detected anomalies and the evaluation of the other configuration; if it was not,
only the last of these. When the request is complete it has made all of them. The old set is then
the detected anomalies, empty or not, or as it was, and the new set and the predictions are those of
the last evaluation. -/
theorem requestPreview_compares {options : ViewOptions} {window now : Int} {zone : Zone}
    {notices : NoticeBoard} {live : LiveView}
    (hopen : LiveView.open? options window now zone notices = .ok live)
    (hpreview : options.preview = true) (hedit : options.edit = true)
    (hgranularity : isDailyGranularity options.granularity = false)
    {saved : String} (hsaved : options.savedYaml = some saved)
    (oracle : Oracle) (earlier : List Move)
    (hyaml : options.alertYaml.isSome = true ∨
      (after oracle { live := live } earlier).live.session.alertYaml.isSome = true)
    (halone : (after oracle { live := live } earlier).flights = [])
    (prompt : Nat → Call → Bool) {later : List Move}
    (hlater : ∀ move ∈ later, move.begins = false) :
    let run := after oracle { live := live } earlier
    let before := run.live.session
    let first := run.calls.length + 1
    let final := (run.step oracle (.begin .requestPreview prompt)).after oracle later
    let session := final.live.session
    let made := final.callsOf Call.isAnomaly run.calls.length
    let completed := (run.begun, .loaded .completed) ∈ final.results
    let reference := Call.preview saved options.alertId (before.range.upTo run.live.now)
    let detected := Call.anomalies options.alertId before.range
    ∃ yaml present, before.alertYaml = some yaml ∧
      let draft := Call.preview yaml options.alertId (before.range.upTo present)
      (before.old = [] →
        made <+: [(first, reference), (first + 1, detected), (first + 2, draft)] ∧
        (completed → made = [(first, reference), (first + 1, detected), (first + 2, draft)] ∧
          (oracle (first + 1) detected).anomalies = .ok session.old ∧
          ∃ evaluation, (oracle (first + 2) draft).evaluation = .ok evaluation ∧
            session.new = evaluation.anomalies ∧ session.predictions = evaluation.predictions)) ∧
      (before.old ≠ [] →
        made <+: [(first, draft)] ∧
        (completed → made = [(first, draft)] ∧ session.old = before.old ∧
          ∃ evaluation, (oracle first draft).evaluation = .ok evaluation ∧
            session.new = evaluation.anomalies ∧
            session.predictions = evaluation.predictions)) := by
  intro run before first final session made completed reference detected
  have hopened := LiveView.open?_options hopen
  have hsame : live.session.SameAlert before := after_sameAlert oracle { live := live } earlier
  have hopening : live.session.alertYaml = options.alertYaml :=
    congrArg ViewOptions.alertYaml hopened
  have hyaml' : before.alertYaml.isSome = true := by
    rcases hyaml with hopened | hset
    · exact hsame.yaml (hopening ▸ hopened)
    · exact hset
  obtain ⟨yaml, hbefore⟩ := Option.isSome_iff_exists.1 hyaml'
  have hoptions : before.options =
      { options with window := none, range := none, alertYaml := some yaml } := by
    rw [hsame.options, hopened, hbefore]
  let comparison : Comparison := {
    operation := run.begun, since := run.calls.length
    options := { options with window := none, range := none, alertYaml := some yaml }
    range := before.range, begun := run.live.now, old := before.old, saved := saved, yaml := yaml
    preview := hpreview, edit := hedit, granularity := hgranularity, savedYaml := hsaved
    alertYaml := rfl }
  have hrest : run.AtRest := (atRest_new live).after oracle earlier
  have hbegin : Comparison.Progress oracle comparison
      (run.step oracle (.begin .requestPreview prompt)) :=
    .begin rfl rfl rfl rfl ⟨hoptions, rfl⟩ halone prompt
  have hrest' := hrest.step oracle (.begin .requestPreview prompt)
  have hprogress := hbegin.after hrest' hlater
  have hfinal : final.AtRest := hrest'.after oracle later
  by_cases hcompleted : completed
  · obtain ⟨calls, old, present, evaluation, hreference, hmade, hanswer, hold, hnew,
      hpredictions⟩ := hprogress.completed hfinal hcompleted
    refine ⟨yaml, present, hbefore, fun hempty => ?_, fun hkept => ?_⟩
    · have hcalls : made = _ := hmade.trans (comparison.calls_of_empty hempty present)
      cases hreference with
      | held hne => exact absurd hempty hne
      | fetched _ hdetected =>
        exact ⟨hcalls ▸ List.prefix_rfl, fun _ =>
          ⟨hcalls, hdetected.trans (congrArg _ hold.symm), evaluation, hanswer, hnew,
            hpredictions⟩⟩
    · have hcalls : made = _ := hmade.trans (if_neg hkept)
      cases hreference with
      | held _ =>
        exact ⟨hcalls ▸ List.prefix_rfl, fun _ =>
          ⟨hcalls, hold, evaluation, hanswer, hnew, hpredictions⟩⟩
      | fetched hempty => exact absurd hempty hkept
  · obtain ⟨present, hmade⟩ := hprogress.prefix
    refine ⟨yaml, present, hbefore, fun hempty => ⟨?_, fun h => absurd h hcompleted⟩,
      fun hkept => ⟨?_, fun h => absurd h hcompleted⟩⟩
    · rw [comparison.calls_of_empty hempty] at hmade
      exact hmade
    · have hcalls : comparison.calls present = _ := if_neg hkept
      rw [hcalls] at hmade
      exact hmade

/-- The detected anomalies may be none: the draft is then compared with an empty reference, and the
second pass still fills the new set. -/
theorem requestPreview_compares_empty_reference :
    let options : ViewOptions := {
      alertId := 7, preview := true, edit := true, alertYaml := some "draft"
      savedYaml := some "saved", range := some ⟨0, 1000⟩ }
    let live : LiveView := {
      zone := default, now := 500, session := {
        alertId := 7, preview := true, edit := true, granularity := none
        dimensionExploration := false, alertYaml := some "draft", savedYaml := some "saved"
        range := ⟨0, 1000⟩, duration := .custom, baselineOffset := .predicted } }
    let evaluation : Evaluation := {
      anomalies := [{ metricUrn := "thirdeye:metric:1", startTime := 1, endTime := 2 }]
      predictions := [{ detectorName := "mean:rule", metricUrn := "thirdeye:metric:1" }]
      diagnostics := [("0", .obj [("thirdeye:metric:1", .null)])] }
    let oracle : Oracle := fun id _ =>
      if id = 2 then .ok (.anomalies []) else .ok (.evaluation evaluation)
    let later : List Move :=
      [.settle 1 fun _ _ => false, .setClock 700, .settle 2 fun _ _ => false,
        .settle 3 fun _ _ => true]
    let run := after oracle { live := live } []
    let final := (run.step oracle (.begin .requestPreview fun _ _ => false)).after oracle later
    LiveView.open? options 0 500 default .empty = .ok live ∧
      (0, .loaded .completed) ∈ final.results ∧ final.live.session.old = [] ∧
      final.live.session.new = evaluation.anomalies := by
  intro options live evaluation oracle later
  have hopen : LiveView.open? options 0 500 default .empty = .ok live := rfl
  have hlater : ∀ move ∈ later, move.begins = false := by simp [later, Move.begins]
  have hcompleted : (0, .loaded .completed) ∈
      (((after oracle { live := live } []).step oracle
        (.begin .requestPreview fun _ _ => false)).after oracle later).results := by
    dsimp only [later, oracle, evaluation, live]
    decide +kernel
  obtain ⟨yaml, present, hyaml, hempty, -⟩ := requestPreview_compares hopen rfl rfl rfl rfl
    oracle [] (.inl rfl) rfl (fun _ _ => false) hlater
  obtain ⟨hmade, hold, last, hlast, hnew, hpredictions⟩ := (hempty rfl).2 hcompleted
  have hanomalies := Except.ok.inj (hold : Except.ok [] = _)
  have hevaluation : evaluation = last := Except.ok.inj hlast
  exact ⟨hopen, hcompleted, hanomalies.symm, hevaluation ▸ hnew⟩

end Run

end AlertDetail
