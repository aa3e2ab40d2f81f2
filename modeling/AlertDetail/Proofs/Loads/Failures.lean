import AlertDetail.Proofs.Sets.Passes

/-!
# Failed loads

A load goes through stages: one pass or two, each of which fetches anomalies and merges them, and
then the series. Where it fails, it leaves the session of the last stage that it finished, with
nothing said to be loading and with the failure remembered, and tells the user once. What a pass
fetches is fixed by the answers to its calls, which get the next numbers; so it is written here as
one expression, and the stages of a load that goes on alone are compared with it.
-/

namespace AlertDetail

namespace Pass

/-- What is merged once the detected anomalies are there, after an evaluation or without one. -/
def combined (anomalies : List Anomaly) : Option Evaluation → SliceChoice × FetchResult
  | some evaluation => (.ofEvaluation evaluation, ⟨anomalies, evaluation.predictions⟩)
  | none => (.ofAnomalies anomalies, ⟨anomalies, []⟩)

/-- What a pass fetches that begins after a number of calls. -/
def fetched (oracle : Oracle) (made : Nat) (pass : Pass) :
    Except ChartError (SliceChoice × FetchResult) :=
  if pass.rulesVisible then do
    let call ← pass.evaluationCall
    let evaluation ← (oracle (made + 1) call).evaluation
    if pass.readsDetected then
      let anomalies ← (oracle (made + 2) pass.detectedCall).anomalies
      return combined anomalies (some evaluation)
    else return (.ofEvaluation evaluation, ⟨evaluation.anomalies, evaluation.predictions⟩)
  else do
    let anomalies ← (oracle (made + 1) pass.detectedCall).anomalies
    return combined anomalies none

/-- How many calls a pass has made when its anomalies are there. -/
def callCount (pass : Pass) : Nat := if pass.rulesVisible && pass.readsDetected then 2 else 1

/-- A session into which a pass merged what it fetched. -/
def mergedInto (pass : Pass) (fetched : SliceChoice × FetchResult) (session : Session) : Session :=
  ((fetched.1.apply session).merge pass.viewState fetched.2).1

variable {oracle : Oracle} {made : Nat} {pass : Pass} {call : Call} {cause : ChartError}
  {evaluation : Evaluation}

/-- A pass without a configuration fetches nothing. -/
theorem fetched_refused (hvisible : pass.rulesVisible = true)
    (hcall : pass.evaluationCall = .error cause) : pass.fetched oracle made = .error cause := by
  simp [fetched, hvisible, hcall, bind, Except.bind]

/-- A pass whose evaluation fails fetches nothing. -/
theorem fetched_unevaluated (hvisible : pass.rulesVisible = true)
    (hcall : pass.evaluationCall = .ok call)
    (hanswer : (oracle (made + 1) call).evaluation = .error cause) :
    pass.fetched oracle made = .error cause := by
  simp [fetched, hvisible, hcall, hanswer, bind, Except.bind]

/-- A pass may fetch its evaluation and nothing else. -/
theorem fetched_evaluated (hvisible : pass.rulesVisible = true)
    (hcall : pass.evaluationCall = .ok call)
    (hanswer : (oracle (made + 1) call).evaluation = .ok evaluation)
    (hreads : pass.readsDetected = false) :
    pass.fetched oracle made =
      .ok (.ofEvaluation evaluation, ⟨evaluation.anomalies, evaluation.predictions⟩) := by
  simp [fetched, hvisible, hcall, hanswer, hreads, bind, Except.bind, pure, Except.pure]

/-- Or it fetches the detected anomalies after its evaluation. -/
theorem fetched_both (hvisible : pass.rulesVisible = true)
    (hcall : pass.evaluationCall = .ok call)
    (hanswer : (oracle (made + 1) call).evaluation = .ok evaluation)
    (hreads : pass.readsDetected = true) :
    pass.fetched oracle made =
      (oracle (made + 2) pass.detectedCall).anomalies.map (combined · (some evaluation)) := by
  simp only [fetched, hvisible, hcall, hanswer, hreads, bind, Except.bind, pure, Except.pure,
    if_true]
  cases (oracle (made + 2) pass.detectedCall).anomalies <;> rfl

/-- Where rules are hidden it fetches the detected anomalies only. -/
theorem fetched_detected (hhidden : pass.rulesVisible = false) :
    pass.fetched oracle made =
      (oracle (made + 1) pass.detectedCall).anomalies.map (combined · none) := by
  simp only [fetched, hhidden, bind, Except.bind, pure, Except.pure, Bool.false_eq_true, if_false]
  cases (oracle (made + 1) pass.detectedCall).anomalies <;> rfl

/-- Merging leaves the series as they are. -/
theorem mergedInto_series (pass : Pass) (fetched : SliceChoice × FetchResult) (session : Session) :
    (pass.mergedInto fetched session).timeseries = session.timeseries ∧
      (pass.mergedInto fetched session).baseline = session.baseline ∧
      (pass.mergedInto fetched session).seriesRevision = session.seriesRevision := by
  unfold mergedInto
  rw [LiveView.merge_apply_eq]
  exact ⟨rfl, rfl, rfl⟩

end Pass

/-- A load, as it begins. -/
structure Load where
  /-- The number of the operation. -/
  operation : Nat
  /-- How many calls were made before it. -/
  made : Nat
  /-- The present. -/
  now : Int
  /-- The session. -/
  origin : Session
  /-- The notices. -/
  notices : NoticeBoard

namespace Load

/-- The first pass of a load. -/
def first (load : Load) : Pass := .plan (LiveView.loading load.origin) false load.now

/-- The session after the first pass, if it fetched this. -/
def afterFirst (load : Load) (fetched : SliceChoice × FetchResult) : Session :=
  load.first.mergedInto fetched (LiveView.loading load.origin)

/-- The passes of a load, with the session on which each begins and the number of calls made before
it. The second one follows the reference of a draft, at a time of its own. -/
inductive Reaches (oracle : Oracle) (load : Load) : Session → Pass → Nat → Prop
  | first : Reaches oracle load load.origin load.first load.made
  | second {fetched : SliceChoice × FetchResult} (present : Int)
    (hfetched : load.first.fetched oracle load.made = .ok fetched)
    (hstate : load.first.viewState = .bootstrap) :
    Reaches oracle load (load.afterFirst fetched)
      (.plan (LiveView.loading (load.afterFirst fetched)) true present)
      (load.made + load.first.callCount)

/-- How a load fails, with the cause and the session of the last stage that it finished: in its
first pass nothing was finished, in the second one the first was, which left the new set empty;
without a slice, or in the request for its series, the last pass was finished. `call?` are the calls
by their numbers. -/
inductive Fails (oracle : Oracle) (load : Load) (call? : Nat → Option Call) :
    ChartError → Session → Prop
  | first {cause : ChartError} (hfirst : load.first.fetched oracle load.made = .error cause) :
    Fails oracle load call? cause load.origin
  | second {fetched : SliceChoice × FetchResult} {present : Int} {cause : ChartError}
    (hfirst : load.first.fetched oracle load.made = .ok fetched)
    (hstate : load.first.viewState = .bootstrap) (hempty : (load.afterFirst fetched).new = [])
    (hsecond : (Pass.plan (LiveView.loading (load.afterFirst fetched)) true present).fetched oracle
      (load.made + load.first.callCount) = .error cause) :
    Fails oracle load call? cause (load.afterFirst fetched)
  | slice {session : Session} {pass : Pass} {made : Nat} {fetched : SliceChoice × FetchResult}
    (hpass : load.Reaches oracle session pass made)
    (hfetched : pass.fetched oracle made = .ok fetched)
    (hlast : pass.viewState = .bootstrap → pass.reentered = true)
    (hslice : (pass.mergedInto fetched (LiveView.loading session)).metricUrn = none) :
    Fails oracle load call? .missingSlice (pass.mergedInto fetched (LiveView.loading session))
  | series {session : Session} {pass : Pass} {made : Nat} {fetched : SliceChoice × FetchResult}
    {id : Nat} {call : Call} {cause : ChartError} (hpass : load.Reaches oracle session pass made)
    (hfetched : pass.fetched oracle made = .ok fetched)
    (hlast : pass.viewState = .bootstrap → pass.reentered = true)
    (hslice : (pass.mergedInto fetched (LiveView.loading session)).metricUrn ≠ none)
    (hid : load.made < id) (hcall : call? id = some call) (hseries : call.isSeries = true)
    (hanswer : (oracle id call).series = .error cause) :
    Fails oracle load call? cause (pass.mergedInto fetched (LiveView.loading session))

variable {oracle : Oracle} {load : Load} {session : Session} {pass : Pass} {made : Nat}
  {fetched : SliceChoice × FetchResult} {call? : Nat → Option Call} {cause : ChartError}

/-- The series are the same in every stage of a load. -/
theorem Reaches.series (h : load.Reaches oracle session pass made) :
    session.timeseries = load.origin.timeseries ∧ session.baseline = load.origin.baseline ∧
      session.seriesRevision = load.origin.seriesRevision := by
  cases h with
  | first => exact ⟨rfl, rfl, rfl⟩
  | second => exact Pass.mergedInto_series _ _ _

/-- Its passes begin after the calls made before it. -/
theorem Reaches.made_le (h : load.Reaches oracle session pass made) : load.made ≤ made := by
  cases h with
  | first => exact Nat.le_refl _
  | second => exact Nat.le_add_right _ _

/-- So are they where it fails. -/
theorem Fails.series_origin {last : Session} (h : load.Fails oracle call? cause last) :
    last.timeseries = load.origin.timeseries ∧ last.baseline = load.origin.baseline ∧
      last.seriesRevision = load.origin.seriesRevision := by
  have hmerged {session : Session} {pass : Pass} {made : Nat} {fetched : SliceChoice × FetchResult}
      (hpass : load.Reaches oracle session pass made) :
      let merged := pass.mergedInto fetched (LiveView.loading session)
      merged.timeseries = load.origin.timeseries ∧ merged.baseline = load.origin.baseline ∧
        merged.seriesRevision = load.origin.seriesRevision := by
    obtain ⟨htimeseries, hbaseline, hrevision⟩ := hpass.series
    obtain ⟨htimeseries', hbaseline', hrevision'⟩ :=
      pass.mergedInto_series fetched (LiveView.loading session)
    exact ⟨htimeseries'.trans htimeseries, hbaseline'.trans hbaseline, hrevision'.trans hrevision⟩
  cases h with
  | first => exact ⟨rfl, rfl, rfl⟩
  | second => exact hmerged .first
  | slice hpass => exact hmerged hpass
  | series hpass => exact hmerged hpass

/-- A load fails in a pass that fetches nothing. -/
theorem Reaches.fails (h : load.Reaches oracle session pass made)
    (hfetched : pass.fetched oracle made = .error cause) :
    load.Fails oracle call? cause session := by
  cases h with
  | first => exact .first hfetched
  | @second fetched present hfirst hstate =>
    refine .second hfirst hstate ?_ hfetched
    unfold afterFirst Pass.mergedInto
    rw [hstate]
    rfl

/-- How far a load has come that goes on alone: it waits for an evaluation, for detected anomalies,
or for series; it ended otherwise than by a failure; or it failed. -/
inductive Progress (oracle : Oracle) (load : Load) (run : Run) : Prop
  | evaluation {session : Session} {pass : Pass} {made : Nat} {call : Call}
    (hpass : load.Reaches oracle session pass made) (hvisible : pass.rulesVisible = true)
    (hcall : pass.evaluationCall = .ok call)
    (hflights : run.flights = [⟨load.operation, .evaluation pass, [made + 1]⟩])
    (hlength : run.calls.length = made + 1) (hmade : run.call? (made + 1) = some call)
    (hsession : run.live.session = LiveView.loading session)
    (hnotices : run.live.notices = load.notices)
  | detected {session : Session} {pass : Pass} {made id : Nat} {evaluation : Option Evaluation}
    (hpass : load.Reaches oracle session pass made)
    (hremains : pass.fetched oracle made =
      (oracle id pass.detectedCall).anomalies.map (Pass.combined · evaluation))
    (hid : id = made + pass.callCount)
    (hflights : run.flights = [⟨load.operation, .detected pass evaluation, [id]⟩])
    (hlength : run.calls.length = id) (hmade : run.call? id = some pass.detectedCall)
    (hsession : run.live.session = LiveView.loading session)
    (hnotices : run.live.notices = load.notices)
  | series {session : Session} {pass : Pass} {made : Nat} {fetched : SliceChoice × FetchResult}
    {stage : Stage} {request : SeriesRequest} {waiting : List Nat}
    (hpass : load.Reaches oracle session pass made)
    (hfetched : pass.fetched oracle made = .ok fetched)
    (hlast : pass.viewState = .bootstrap → pass.reentered = true)
    (hslice : (pass.mergedInto fetched (LiveView.loading session)).metricUrn ≠ none)
    (hrequest : stage.request? = some request) (hpurpose : request.purpose = .load)
    (hflights : run.flights = [⟨load.operation, stage, waiting⟩])
    (hlength : load.made ≤ run.calls.length)
    (hmade : ∀ id ∈ waiting, load.made < id ∧
      ∃ call, run.call? id = some call ∧ call.isSeries = true)
    (hsession : run.live.session.failed =
      (pass.mergedInto fetched (LiveView.loading session)).failed)
    (hnotices : run.live.notices = load.notices)
  | ended {outcome : LoadOutcome} (houtcome : outcome ≠ .failed) (hflights : run.flights = [])
    (hresult : (load.operation, .loaded outcome) ∈ run.results)
  | failed {cause : ChartError} {last : Session}
    (hfails : load.Fails oracle run.call? cause last) (hflights : run.flights = [])
    (hsession : run.live.session = last.failed)
    (hnotices : run.live.notices = load.notices.post ⟨true, "Error", cause.message⟩)

variable {run : Run} {live : LiveView}

/-- A load that goes on alone has no other operation beside it. -/
theorem Progress.alone (h : Progress oracle load run) :
    run.flights = [] ∨ ∃ stage waiting, run.flights = [⟨load.operation, stage, waiting⟩] := by
  cases h with
  | evaluation _ _ _ hflights => exact .inr ⟨_, _, hflights⟩
  | detected _ _ _ hflights => exact .inr ⟨_, _, hflights⟩
  | series _ _ _ _ _ _ hflights => exact .inr ⟨_, _, hflights⟩
  | ended _ hflights => exact .inl hflights
  | failed _ hflights => exact .inl hflights

/-- A load that fails leaves the session of its last stage, and a notice. -/
theorem Progress.fail {last : Session} (hfails : load.Fails oracle run.call? cause last)
    (hsession : live.session.failed = last.failed) (hnotices : live.notices = load.notices)
    (waiting : List Nat) (result : Result) :
    Progress oracle load
      ({ run with live := live.fail cause, flights := [] }.hold load.operation waiting
        (.finish result)) :=
  .failed hfails rfl hsession
    (congrArg (NoticeBoard.post ⟨true, "Error", cause.message⟩) hnotices)

/-- Where it fails in a pass, this is the session on which the pass began. -/
theorem Progress.fail_pass (hpass : load.Reaches oracle session pass made)
    (hfetched : pass.fetched oracle made = .error cause)
    (hsession : live.session = LiveView.loading session) (hnotices : live.notices = load.notices)
    (waiting : List Nat) (result : Result) :
    Progress oracle load
      ({ run with live := live.fail cause, flights := [] }.hold load.operation waiting
        (.finish result)) := by
  refine .fail (hpass.fails hfetched) ?_ hnotices waiting result
  rw [hsession]
  rfl

/-- A pass begins by calling for its evaluation or for detected anomalies, or it fails. -/
theorem Progress.beginPass {reentered : Bool}
    (hpass : load.Reaches oracle session
      (.plan (LiveView.loading session) reentered live.now) run.calls.length)
    (hsession : LiveView.loading live.session = LiveView.loading session)
    (hnotices : live.notices = load.notices) (waiting : List Nat) :
    Progress oracle load
      ({ run with live := (live.beginPass reentered).1, flights := [] }.hold load.operation waiting
        (live.beginPass reentered).2) := by
  have hloading : (live.update LiveView.loading).session = LiveView.loading session := hsession
  have hplan : Pass.plan (live.update LiveView.loading).session reentered
      (live.update LiveView.loading).now = .plan (LiveView.loading session) reentered live.now := by
    rw [hloading]
    rfl
  unfold LiveView.beginPass
  dsimp only
  rw [hplan]
  generalize Pass.plan (LiveView.loading session) reentered live.now = pass at hpass ⊢
  cases hvisible : pass.rulesVisible with
  | false =>
    have hcount : run.calls.length + 1 = run.calls.length + pass.callCount := by
      simp [Pass.callCount, hvisible]
    exact .detected hpass (Pass.fetched_detected hvisible) hcount rfl List.length_append
      (Run.call?_record _ _) hsession hnotices
  | true =>
    rw [if_pos rfl]
    cases hcall : pass.evaluationCall with
    | error cause =>
      exact .fail_pass hpass (Pass.fetched_refused hvisible hcall) hloading hnotices _ _
    | ok call =>
      exact .evaluation hpass hvisible hcall rfl List.length_append (Run.call?_record _ _) hsession
        hnotices

/-- With its anomalies merged a load requests series. -/
theorem Progress.requestSeries (hpass : load.Reaches oracle session pass made)
    (hfetched : pass.fetched oracle made = .ok fetched)
    (hlast : pass.viewState = .bootstrap → pass.reentered = true)
    (hsession : live.session = pass.mergedInto fetched (LiveView.loading session))
    (hslice : live.session.metricUrn ≠ none) (hnotices : live.notices = load.notices)
    (hlength : load.made ≤ run.calls.length) (waiting : List Nat) :
    Progress oracle load
      ({ run with live := (live.requestSeries .load).1, flights := [] }.hold load.operation waiting
        (live.requestSeries .load).2) := by
  have hcompleted (live : LiveView) : Progress oracle load
      ({ run with live := live, flights := [] }.hold load.operation waiting
        (.finish (.loaded .completed))) :=
    .ended LoadOutcome.noConfusion rfl (List.mem_append_right _ (List.mem_singleton_self _))
  have hasked {call : Call} {stage : Stage} {request : SeriesRequest}
      (hseries : call.isSeries = true) (hrequest : stage.request? = some request)
      (hpurpose : request.purpose = .load) :
      Progress oracle load ({ run with live := live.issued, flights := [] }.hold load.operation
        waiting (.ask call stage)) := by
    have hlength' : load.made ≤ (run.calls ++ [call]).length := by
      rw [List.length_append]
      omega
    have hissued : live.session.failed =
        (pass.mergedInto fetched (LiveView.loading session)).failed :=
      congrArg Session.failed hsession
    refine .series hpass hfetched hlast (hsession ▸ hslice) hrequest hpurpose rfl hlength'
      (fun id hid => ?_) hissued hnotices
    obtain rfl := List.mem_singleton.1 hid
    exact ⟨Nat.lt_succ_of_le hlength, call, Run.call?_record _ _, hseries⟩
  have hstart := live.requestSeries_start .load
  generalize live.requestSeries .load = step at hstart ⊢
  cases hstart with
  | missing hnone => exact absurd hnone hslice
  | unpredicted => exact hcompleted _
  | predicted => exact hcompleted _
  | compared => exact hasked rfl rfl rfl
  | measured => exact hasked rfl rfl rfl

/-- With the anomalies of a pass there a load begins its second pass, fails without a slice, or
requests series. -/
theorem Progress.finishPass (hpass : load.Reaches oracle session pass made)
    (hfetched : pass.fetched oracle made = .ok fetched)
    (hlength : run.calls.length = made + pass.callCount)
    (hsession : live.session = LiveView.loading session) (hnotices : live.notices = load.notices)
    (waiting : List Nat) :
    Progress oracle load
      ({ run with live := (live.finishPass pass fetched.1 fetched.2).1, flights := [] }.hold
        load.operation waiting (live.finishPass pass fetched.1 fetched.2).2) := by
  have hmerged : ((fetched.1.apply live.session).merge pass.viewState fetched.2).1 =
      pass.mergedInto fetched (LiveView.loading session) := by
    rw [hsession]
    rfl
  let merged := live.update fun _ => pass.mergedInto fetched (LiveView.loading session)
  have hnotices' : merged.notices = load.notices := hnotices
  have hlength' : load.made ≤ run.calls.length := by
    have hmade := hpass.made_le
    omega
  unfold LiveView.finishPass
  dsimp only
  simp only [LiveView.merge_rerun_iff, hmerged]
  split
  · next hagain =>
    obtain ⟨hstate, hfirst⟩ := hagain
    cases hpass with
    | first =>
      have hsecond : load.Reaches oracle (load.afterFirst fetched)
          (.plan (LiveView.loading (load.afterFirst fetched)) true merged.now)
          run.calls.length := by
        rw [hlength]
        exact .second merged.now hfetched hstate
      exact .beginPass hsecond rfl hnotices' waiting
    | second => cases hfirst
  · next hdone =>
    have hlast : pass.viewState = .bootstrap → pass.reentered = true := by
      intro hstate
      simpa [hstate] using hdone
    split
    · next hslice =>
      have hfails : load.Fails oracle run.call? .missingSlice
          (pass.mergedInto fetched (LiveView.loading session)) :=
        .slice hpass hfetched hlast hslice
      exact Progress.fail hfails (rfl : merged.session.failed = _) hnotices' waiting _
    · next urn hslice =>
      have hsome : (pass.mergedInto fetched (LiveView.loading session)).metricUrn ≠ none := by
        rw [hslice]
        exact Option.some_ne_none urn
      exact Progress.requestSeries hpass hfetched hlast (rfl : merged.session = _) hsome hnotices'
        hlength' waiting

/-- The evaluation of a pass is there or failed. -/
theorem Progress.take_evaluation {call : Call} (hpass : load.Reaches oracle session pass made)
    (hvisible : pass.rulesVisible = true) (hcall : pass.evaluationCall = .ok call)
    (hlength : run.calls.length = made + 1) (hsession : run.live.session = LiveView.loading session)
    (hnotices : run.live.notices = load.notices) (id : Nat) (waiting : List Nat) :
    Progress oracle load (run.taken [] ⟨load.operation, .evaluation pass, waiting⟩ id
      (oracle (made + 1) call)) := by
  rw [Run.taken_eq]
  dsimp only [LiveView.resume, LiveView.takeEvaluation]
  cases hanswer : (oracle (made + 1) call).evaluation with
  | error cause =>
    exact .fail_pass hpass (Pass.fetched_unevaluated hvisible hcall hanswer) hsession hnotices _ _
  | ok evaluation =>
    dsimp only
    cases hreads : pass.readsDetected with
    | true =>
      have hcount : made + 2 = made + pass.callCount := by
        simp [Pass.callCount, hvisible, hreads]
      have hnext : run.calls.length + 1 = made + 2 := by omega
      rw [if_pos rfl]
      refine .detected hpass (Pass.fetched_both hvisible hcall hanswer hreads) hcount ?_ ?_ ?_
        hsession hnotices
      · rw [← hnext]
        rfl
      · rw [← hnext]
        exact List.length_append
      · rw [← hnext]
        exact { run with flights := [] }.call?_record pass.detectedCall
    | false =>
      have hcount : run.calls.length = made + pass.callCount := by
        simp [Pass.callCount, hvisible, hreads, hlength]
      rw [if_neg Bool.false_ne_true]
      exact .finishPass hpass (Pass.fetched_evaluated hvisible hcall hanswer hreads) hcount hsession
        hnotices _

/-- The detected anomalies of a pass are there or failed. -/
theorem Progress.take_detected {evaluation : Option Evaluation} {id : Nat}
    (hpass : load.Reaches oracle session pass made)
    (hremains : pass.fetched oracle made =
      (oracle id pass.detectedCall).anomalies.map (Pass.combined · evaluation))
    (hlength : run.calls.length = made + pass.callCount)
    (hsession : run.live.session = LiveView.loading session)
    (hnotices : run.live.notices = load.notices) (id' : Nat) (waiting : List Nat) :
    Progress oracle load (run.taken [] ⟨load.operation, .detected pass evaluation, waiting⟩ id'
      (oracle id pass.detectedCall)) := by
  rw [Run.taken_eq]
  dsimp only [LiveView.resume, LiveView.takeDetected]
  cases hanswer : (oracle id pass.detectedCall).anomalies with
  | error cause =>
    have hfetched : pass.fetched oracle made = .error cause := by
      rw [hremains, hanswer]
      rfl
    exact .fail_pass hpass hfetched hsession hnotices _ _
  | ok anomalies =>
    have hfetched : pass.fetched oracle made = .ok (Pass.combined anomalies evaluation) := by
      rw [hremains, hanswer]
      rfl
    cases evaluation with
    | none => exact .finishPass hpass hfetched hlength hsession hnotices _
    | some evaluation => exact .finishPass hpass hfetched hlength hsession hnotices _

/-- A series of a load is there or failed. -/
theorem Progress.take_series {stage : Stage} {request : SeriesRequest} {waiting : List Nat}
    {id : Nat} {call : Call} (hpass : load.Reaches oracle session pass made)
    (hfetched : pass.fetched oracle made = .ok fetched)
    (hlast : pass.viewState = .bootstrap → pass.reentered = true)
    (hslice : (pass.mergedInto fetched (LiveView.loading session)).metricUrn ≠ none)
    (hrequest : stage.request? = some request) (hpurpose : request.purpose = .load)
    (hlength : load.made ≤ run.calls.length)
    (hmade : ∀ id ∈ waiting, load.made < id ∧
      ∃ call, run.call? id = some call ∧ call.isSeries = true)
    (hsession : run.live.session.failed =
      (pass.mergedInto fetched (LiveView.loading session)).failed)
    (hnotices : run.live.notices = load.notices) (hid : id ∈ waiting)
    (hcall : run.call? id = some call) :
    Progress oracle load (run.taken [] ⟨load.operation, stage, waiting⟩ id (oracle id call)) := by
  have hcompleted (live : LiveView) (waiting : List Nat) {request : SeriesRequest}
      (hpurpose : request.purpose = .load) : Progress oracle load
      ({ run with live := live, flights := [] }.hold load.operation waiting
        (.finish request.purpose.success)) := by
    rw [hpurpose]
    exact .ended LoadOutcome.noConfusion rfl (List.mem_append_right _ (List.mem_singleton_self _))
  have hwaits {stage' : Stage} (hrequest' : stage'.request? = some request) :
      Progress oracle load
        ({ run with live := run.live, flights := [] }.hold load.operation (waiting.erase id)
          (.wait stage')) :=
    .series hpass hfetched hlast hslice hrequest' hpurpose rfl hlength
      (fun id' hid' => hmade id' (List.mem_of_mem_erase hid')) hsession hnotices
  have hanswer := run.live.resume_series (waiting.head? == some id) (oracle id call) hrequest
  rw [Run.taken_eq]
  dsimp only
  generalize run.live.resume (waiting.head? == some id) (oracle id call) stage = step at hanswer ⊢
  cases hanswer with
  | failed _ hfailed =>
    obtain ⟨hafter, call', hcall', hseries⟩ := hmade id hid
    obtain rfl := Option.some.inj (hcall.symm.trans hcall')
    exact .fail (.series hpass hfetched hlast hslice hafter hcall hseries hfailed) hsession hnotices
      _ _
  | @measured request series =>
    obtain rfl := Option.some.inj hrequest
    have hlength' : load.made ≤ (run.calls ++ [request.baselineCall]).length := by
      rw [List.length_append]
      omega
    refine .series hpass hfetched hlast hslice rfl hpurpose rfl hlength' (fun id' hid' => ?_)
      hsession hnotices
    obtain rfl := List.mem_singleton.1 hid'
    exact ⟨Nat.lt_succ_of_le hlength, _, Run.call?_record _ _, rfl⟩
  | bothMeasured => exact hwaits hrequest
  | bothBaseline => exact hwaits hrequest
  | lastMeasured =>
    obtain rfl := Option.some.inj hrequest
    exact hcompleted _ _ hpurpose
  | lastBaseline =>
    obtain rfl := Option.some.inj hrequest
    exact hcompleted _ _ hpurpose

/-- Whatever answer a load takes, it makes progress. -/
theorem Progress.take {stage : Stage} {waiting : List Nat} {id : Nat} {call : Call}
    (h : Progress oracle load run)
    (hflights : run.flights = [⟨load.operation, stage, waiting⟩]) (hid : id ∈ waiting)
    (hcall : run.call? id = some call) :
    Progress oracle load (run.taken [] ⟨load.operation, stage, waiting⟩ id (oracle id call)) := by
  cases h with
  | evaluation hpass hvisible hasked hflights' hlength hmade hsession hnotices =>
    rw [hflights] at hflights'
    cases hflights'
    obtain rfl := List.mem_singleton.1 hid
    obtain rfl := Option.some.inj (hcall.symm.trans hmade)
    exact take_evaluation hpass hvisible hasked hlength hsession hnotices _ _
  | detected hpass hremains hcount hflights' hlength hmade hsession hnotices =>
    rw [hflights] at hflights'
    cases hflights'
    obtain rfl := List.mem_singleton.1 hid
    obtain rfl := Option.some.inj (hcall.symm.trans hmade)
    exact take_detected hpass hremains (hlength.trans hcount) hsession hnotices _ _
  | series hpass hfetched hlast hslice hrequest hpurpose hflights' hlength hmade hsession
      hnotices =>
    rw [hflights] at hflights'
    cases hflights'
    exact take_series hpass hfetched hlast hslice hrequest hpurpose hlength hmade hsession hnotices
      hid hcall
  | ended _ hflights' =>
    rw [hflights] at hflights'
    cases hflights'
  | failed _ hflights' =>
    rw [hflights] at hflights'
    cases hflights'

/-- A load that calls for the baseline as well waits for series already. -/
theorem Progress.double {request : SeriesRequest} {id : Nat} (h : Progress oracle load run)
    (hflights : run.flights = [⟨load.operation, .measured request, [id]⟩]) :
    Progress oracle load (run.doubled [] load.operation id request) := by
  cases h with
  | evaluation _ _ _ hflights' =>
    rw [hflights] at hflights'
    cases hflights'
  | detected _ _ _ hflights' =>
    rw [hflights] at hflights'
    cases hflights'
  | series hpass hfetched hlast hslice hrequest hpurpose hflights' hlength hmade hsession
      hnotices =>
    rw [hflights] at hflights'
    cases hflights'
    obtain rfl := Option.some.inj hrequest
    have hlength' : load.made ≤ (run.calls ++ [request.baselineCall]).length := by
      rw [List.length_append]
      omega
    refine .series hpass hfetched hlast hslice rfl hpurpose rfl hlength' (fun id' hid' => ?_)
      hsession hnotices
    rcases List.mem_cons.1 hid' with rfl | hsecond
    · obtain ⟨hafter, call, hcall, hseries⟩ := hmade id' (List.mem_singleton_self _)
      exact ⟨hafter, call, Run.call?_record_of_some hcall _, hseries⟩
    · obtain rfl := List.mem_singleton.1 hsecond
      exact ⟨Nat.lt_succ_of_le hlength, _, Run.call?_record _ _, rfl⟩
  | ended _ hflights' =>
    rw [hflights] at hflights'
    cases hflights'
  | failed _ hflights' =>
    rw [hflights] at hflights'
    cases hflights'

/-- Whatever answer a load takes, and whatever it calls for, it makes progress. -/
theorem Progress.keeps : Run.Keeps oracle load.operation [] (Progress oracle load) where
  take hflights hid hcall h := h.take hflights hid hcall
  double hflights h := h.double hflights

/-- The progress of a load does not depend on the clock and the remembered views. -/
theorem Progress.aside (h : Progress oracle load run) (hlive : live.session = run.live.session)
    (hboard : live.notices = run.live.notices) :
    Progress oracle load { run with live := live } := by
  cases h with
  | evaluation hpass hvisible hcall hflights hlength hmade hsession hnotices =>
    exact .evaluation hpass hvisible hcall hflights hlength hmade (hlive.trans hsession)
      (hboard.trans hnotices)
  | detected hpass hremains hcount hflights hlength hmade hsession hnotices =>
    exact .detected hpass hremains hcount hflights hlength hmade (hlive.trans hsession)
      (hboard.trans hnotices)
  | series hpass hfetched hlast hslice hrequest hpurpose hflights hlength hmade hsession
      hnotices =>
    exact .series hpass hfetched hlast hslice hrequest hpurpose hflights hlength hmade
      ((congrArg Session.failed hlive).trans hsession) (hboard.trans hnotices)
  | ended houtcome hflights hresult => exact .ended houtcome hflights hresult
  | failed hfails hflights hsession hnotices =>
    exact .failed hfails hflights (hlive.trans hsession) (hboard.trans hnotices)

end Load

/-- Whether an operation asks for a load and does nothing else. -/
def Operation.isLoad : Operation → Bool
  | start | requestPreview | triggerFetch => true
  | _ => false

/-- The session on which a load begins that an operation asks for: a requested preview shows the
details and declares the sets current. -/
def Operation.opened (session : Session) : Operation → Session
  | requestPreview => { session with showDetails := true, isCurrent := true }
  | _ => session

/-- Whether a move begins no operation and collects no notices. -/
def Move.isQuiet : Move → Bool
  | begin .. | drain => false
  | _ => true

/-- An operation that asks for a load while none is in flight begins its first pass, or there is
nothing to load and it does not fail. -/
theorem LiveView.begin_of_isLoad (live : LiveView) {operation : Operation}
    (hoperation : operation.isLoad = true) :
    (∃ outcome, outcome ≠ .failed ∧
        live.begin false operation = (live, .finish (.loaded outcome))) ∨
      ∃ opened : LiveView, loading opened.session = loading (operation.opened live.session) ∧
        opened.now = live.now ∧ opened.notices = live.notices ∧
        live.begin false operation = opened.beginPass false := by
  cases operation with
  | start =>
    unfold begin
    dsimp only
    split
    · exact .inl ⟨_, LoadOutcome.noConfusion, rfl⟩
    · exact .inr ⟨live, rfl, rfl, rfl, rfl⟩
  | requestPreview =>
    exact .inr ⟨live.update fun session =>
      { session with showDetails := true, isCurrent := true, errored := false }, rfl, rfl, rfl, rfl⟩
  | triggerFetch =>
    unfold begin beginTriggered
    dsimp only
    split
    · exact .inl ⟨_, LoadOutcome.noConfusion, rfl⟩
    · exact .inr ⟨live, rfl, rfl, rfl, rfl⟩
  | _ => cases hoperation

namespace Run

open Load

variable {oracle : Oracle} {load : Load} {run : Run}

/-- A load makes progress in every quiet move. -/
theorem step_progress (hrest : run.AtRest) (h : Progress oracle load run) {move : Move}
    (hmove : move.isQuiet = true) : Progress oracle load (run.step oracle move) := by
  cases move with
  | begin operation prompt => cases hmove
  | settle id prompt => exact Progress.keeps.settle_alone hrest.numbered h.alone h id prompt
  | setClock now => exact h.aside rfl rfl
  | drain => cases hmove
  | look => exact h.aside rfl rfl

/-- So it does in every list of such moves. -/
theorem after_progress (hrest : run.AtRest) (h : Progress oracle load run) {moves : List Move}
    (hmoves : ∀ move ∈ moves, move.isQuiet = true) :
    Progress oracle load (run.after oracle moves) :=
  hrest.keeps (fun hrest hmove h => step_progress hrest h hmove) hmoves h

/-- A load makes progress where it begins. -/
theorem begin_progress (oracle : Oracle) {run : Run} (halone : run.flights = [])
    {operation : Operation} (hoperation : operation.isLoad = true) (prompt : Nat → Call → Bool) :
    Progress oracle ⟨run.begun, run.calls.length, run.live.now,
      operation.opened run.live.session, run.live.notices⟩
      (run.step oracle (.begin operation prompt)) := by
  let load : Load := ⟨run.begun, run.calls.length, run.live.now,
    operation.opened run.live.session, run.live.notices⟩
  have hkeeps : Keeps oracle run.begun run.flights (Progress oracle load) := by
    rw [halone]
    exact (Progress.keeps : Keeps oracle load.operation [] (Progress oracle load))
  refine hkeeps.begin prompt ?_
  rw [run.started_alone halone]
  rcases run.live.begin_of_isLoad hoperation with
    ⟨outcome, houtcome, hbegin⟩ | ⟨opened, hsession, hnow, hnotices, hbegin⟩
  · rw [hbegin]
    exact .ended houtcome rfl (List.mem_append_right _ (List.mem_singleton_self _))
  · have hfirst : load.Reaches oracle load.origin
        (.plan (LiveView.loading load.origin) false opened.now) run.calls.length := by
      rw [hnow]
      exact .first
    rw [hbegin]
    exact Progress.beginPass hfirst hsession hnotices []

/-- A load that fails leaves exactly the session of the last stage that it finished. Take any run
after which no operation is in flight, and a load that is asked for then, goes on alone and fails.
The series shown are the same as before, nothing is said to be loading, the failure is remembered,
and one notice was put up, with the text of the cause. Everything else is as the last stage left it:
as before the load but for what a requested preview declares, if the first pass failed; as the
merging of the reference left it, with an empty new set, if the second pass failed; and as the
merging of the last pass left it, if no slice was there or a series failed. -/
theorem failed_load_leaves_last_stage (oracle : Oracle) (live : LiveView) (earlier : List Move)
    (halone : (after oracle { live := live } earlier).flights = [])
    {operation : Operation} (hoperation : operation.isLoad = true) (prompt : Nat → Call → Bool)
    {later : List Move} (hlater : ∀ move ∈ later, move.isQuiet = true)
    (hfailed : ((after oracle { live := live } earlier).begun, .loaded .failed) ∈
      (((after oracle { live := live } earlier).step oracle (.begin operation prompt)).after oracle
        later).results) :
    let run := after oracle { live := live } earlier
    let before := run.live.session
    let final := (run.step oracle (.begin operation prompt)).after oracle later
    let session := final.live.session
    let load : Load := ⟨run.begun, run.calls.length, run.live.now, operation.opened before,
      run.live.notices⟩
    session.timeseries = before.timeseries ∧ session.baseline = before.baseline ∧
      session.seriesRevision = before.seriesRevision ∧ session.isLoading = false ∧
      session.isLoadingSeries = false ∧ session.errored = true ∧
      ∃ cause last, load.Fails oracle final.call? cause last ∧ session = last.failed ∧
        final.live.notices = run.live.notices.post ⟨true, "Error", cause.message⟩ := by
  intro run before final session load
  have hrest : run.AtRest := (atRest_new live).after oracle earlier
  have hrest' := hrest.step oracle (.begin operation prompt)
  have hfinal : final.AtRest := hrest'.after oracle later
  have hprogress : Progress oracle load final :=
    after_progress hrest' (begin_progress oracle halone hoperation prompt) hlater
  have hflight {stage : Stage} {waiting : List Nat}
      (hflights : final.flights = [⟨load.operation, stage, waiting⟩]) : False := by
    have hmem : ⟨load.operation, stage, waiting⟩ ∈ final.flights := by
      rw [hflights]
      exact List.mem_singleton_self _
    exact hfinal.numbered.no_result hmem hfailed
  have horigin : load.origin.timeseries = before.timeseries ∧
      load.origin.baseline = before.baseline ∧
      load.origin.seriesRevision = before.seriesRevision := by
    cases operation <;> exact ⟨rfl, rfl, rfl⟩
  cases hprogress with
  | evaluation _ _ _ hflights => exact (hflight hflights).elim
  | detected _ _ _ hflights => exact (hflight hflights).elim
  | series _ _ _ _ _ _ hflights => exact (hflight hflights).elim
  | ended houtcome _ hresult =>
    have hsame := hfinal.numbered.result_unique hresult hfailed
    exact absurd (Result.loaded.inj hsame) houtcome
  | @failed cause last hfails _ hsession hnotices =>
    obtain ⟨htimeseries, hbaseline, hrevision⟩ := hfails.series_origin
    obtain ⟨htimeseries', hbaseline', hrevision'⟩ := horigin
    have hsession' : session = last.failed := hsession
    rw [hsession']
    exact ⟨htimeseries.trans htimeseries', hbaseline.trans hbaseline', hrevision.trans hrevision',
      rfl, rfl, rfl, cause, last, hfails, rfl, hnotices⟩

/-- The reference of a changed alert is there when the evaluation of the draft fails. The old set
then holds the reference and its slice is selected, as the first pass left them. -/
theorem failed_load_leaves_reference :
    let live : LiveView := {
      zone := default, now := 500, session := {
        alertId := 7, preview := true, edit := true, granularity := none
        dimensionExploration := false, alertYaml := some "draft", savedYaml := some "saved"
        range := ⟨0, 1000⟩, duration := .custom, baselineOffset := .predicted } }
    let reference : List Anomaly :=
      [{ metricUrn := "thirdeye:metric:7", startTime := 1, endTime := 2 }]
    let evaluation : Evaluation := {
      predictions := [{ detectorName := "mean:rule", metricUrn := "thirdeye:metric:7" }]
      diagnostics := [("0", .obj [("thirdeye:metric:7", .null)])] }
    let oracle : Oracle := fun id _ =>
      if id = 1 then .ok (.evaluation evaluation)
      else if id = 2 then .ok (.anomalies reference)
      else .error (.fetch "unavailable")
    let never : Nat → Call → Bool := fun _ _ => false
    let later : List Move := [.settle 1 never, .setClock 700, .settle 2 never, .settle 3 never]
    let load : Load := ⟨0, 0, 500, Operation.requestPreview.opened live.session, .empty⟩
    let final := ((after oracle { live := live } []).step oracle
      (.begin .requestPreview never)).after oracle later
    (0, .loaded .failed) ∈ final.results ∧ final.live.session.old = reference ∧
      final.live.session.new = [] ∧ final.live.session.metricUrn = some "thirdeye:metric:7" ∧
      final.live.notices = .kept [⟨true, "Error", "fetch failed: unavailable"⟩] ∧
      final.live.session.timeseries = none ∧ final.live.session.errored = true ∧
      ∃ cause last, load.Fails oracle final.call? cause last ∧
        final.live.session = last.failed := by
  intro live reference evaluation oracle never later load final
  have hlater : ∀ move ∈ later, move.isQuiet = true := by
    simp [later, Move.isQuiet]
  have hload : Operation.requestPreview.isLoad = true := rfl
  have hfinal : (0, .loaded .failed) ∈ final.results ∧ final.live.session.old = reference ∧
      final.live.session.new = [] ∧ final.live.session.metricUrn = some "thirdeye:metric:7" ∧
      final.live.notices = .kept [⟨true, "Error", "fetch failed: unavailable"⟩] := by
    dsimp only [final, later, live, oracle, evaluation, reference, never]
    decide +kernel
  obtain ⟨hfailed, hold, hnew, hslice, hnotices⟩ := hfinal
  obtain ⟨htimeseries, -, -, -, -, herrored, cause, last, hfails, hsession, -⟩ :=
    failed_load_leaves_last_stage oracle live [] rfl hload never hlater hfailed
  exact ⟨hfailed, hold, hnew, hslice, hnotices, htimeseries, herrored, cause, last, hfails,
    hsession⟩

end Run

end AlertDetail
