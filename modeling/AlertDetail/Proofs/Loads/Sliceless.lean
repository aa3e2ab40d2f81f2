import AlertDetail.Proofs.Notices.Accounts
import AlertDetail.Proofs.Slices.Consistency

/-!
# Loads without a slice

A load may get all its answers without learning of a slice: there are no anomalies to read one from,
or the diagnostics name none. The slices to choose from and the selected one then stay as they are.
So the load fails for want of a slice if none was selected before it; otherwise it goes on with the
slice that an earlier load had found, and shows the series of that one.
-/

namespace AlertDetail

/-- The slice whose series are called for. -/
def Call.seriesUrn? : Call → Option String
  | timeseries urn .. => some urn
  | _ => none

/-- A call for series is one for those of a slice. -/
theorem Call.seriesUrn?_ne_none {call : Call} (h : call.isSeries = true) :
    call.seriesUrn? ≠ none := by
  cases call with
  | timeseries urn => exact Option.some_ne_none urn
  | _ => cases h

/-- The diagnostics name no slice: they have no object under key `0`, or an empty one. -/
def Evaluation.NamesNoSlice (evaluation : Evaluation) : Prop :=
  ∀ slices, evaluation.diagnostics.lookup "0" = some (.obj slices) → slices = []

/-- The choice that comes with such an evaluation has no slices. -/
theorem Evaluation.NamesNoSlice.metricUrns {evaluation : Evaluation} (h : evaluation.NamesNoSlice) :
    (SliceChoice.ofEvaluation evaluation).metricUrns = [] := by
  unfold SliceChoice.ofEvaluation
  cases hurns : evaluation.metricUrns? with
  | none => rfl
  | some urns =>
    unfold Evaluation.metricUrns? at hurns
    split at hurns
    · next slices hlookup =>
      have hempty := h slices hlookup
      rw [hempty] at hurns
      exact (Option.some.inj hurns).symm
    · cases hurns

namespace Pass

/-- The first call of a pass, refused if there is nothing to evaluate. -/
def opening (pass : Pass) : Except ChartError Call :=
  if pass.rulesVisible then pass.evaluationCall else .ok pass.detectedCall

/-- The first call of a pass was made, if there is one, next after so many others. `call?` are the
calls by their numbers. -/
def Opened (call? : Nat → Option Call) (made : Nat) (pass : Pass) : Prop :=
  ∀ call, pass.opening = .ok call → call? (made + 1) = some call

/-- A pass gets its answers and learns of no slice: where rules are hidden it reads no anomalies,
and where they are visible its diagnostics name none, whatever anomalies it reads after them. -/
inductive Sliceless (oracle : Oracle) (made : Nat) (pass : Pass) : Prop
  | hidden (hhidden : pass.rulesVisible = false)
    (hanswer : (oracle (made + 1) pass.detectedCall).anomalies = .ok [])
  | visible {call : Call} {evaluation : Evaluation} (hvisible : pass.rulesVisible = true)
    (hcall : pass.evaluationCall = .ok call)
    (hanswer : (oracle (made + 1) call).evaluation = .ok evaluation)
    (hslices : evaluation.NamesNoSlice)
    (hdetected : pass.readsDetected = true →
      ∃ anomalies, (oracle (made + 2) pass.detectedCall).anomalies = .ok anomalies)

/-- What an operation waits for in a pass, and the call for it with its number: the evaluation, or
the detected anomalies, which are all that is missing then. -/
inductive Awaits (oracle : Oracle) (made : Nat) (pass : Pass) : Stage → Nat → Call → Prop
  | evaluation {call : Call} (hvisible : pass.rulesVisible = true)
    (hcall : pass.evaluationCall = .ok call) :
    Awaits oracle made pass (.evaluation pass) (made + 1) call
  | detected {evaluation : Option Evaluation}
    (hremains : pass.fetched oracle made =
      (oracle (made + pass.callCount) pass.detectedCall).anomalies.map (combined · evaluation)) :
    Awaits oracle made pass (.detected pass evaluation) (made + pass.callCount) pass.detectedCall

variable {oracle : Oracle} {made : Nat} {pass : Pass}

/-- Such a pass has a first call. -/
theorem Sliceless.opening (h : pass.Sliceless oracle made) :
    ∃ call, pass.opening = .ok call := by
  cases h with
  | hidden hhidden => exact ⟨_, by rw [Pass.opening, hhidden]; rfl⟩
  | visible hvisible hcall => exact ⟨_, by rw [Pass.opening, hvisible, if_pos rfl, hcall]⟩

/-- It fetches something, and no slices with it. -/
theorem Sliceless.fetched (h : pass.Sliceless oracle made) :
    ∃ fetched, pass.fetched oracle made = .ok fetched ∧ fetched.1.metricUrns = [] := by
  cases h with
  | hidden hhidden hanswer =>
    exact ⟨_, by rw [fetched_detected hhidden, hanswer]; rfl, rfl⟩
  | @visible call evaluation hvisible hcall hanswer hslices hdetected =>
    cases hreads : pass.readsDetected with
    | false => exact ⟨_, fetched_evaluated hvisible hcall hanswer hreads, hslices.metricUrns⟩
    | true =>
      obtain ⟨anomalies, hanomalies⟩ := hdetected hreads
      have hboth : pass.fetched oracle made = .ok (combined anomalies (some evaluation)) := by
        rw [fetched_both hvisible hcall hanswer hreads, hanomalies]
        rfl
      exact ⟨_, hboth, hslices.metricUrns⟩

variable {fetched : SliceChoice × FetchResult}

/-- What is merged without slices leaves those to choose from and the selected one. -/
theorem mergedInto_sliceState (pass : Pass) (session : Session)
    (hurns : fetched.1.metricUrns = []) :
    (pass.mergedInto fetched session).sliceState = session.sliceState := by
  have hmerged (live : LiveView) : (pass.mergedInto fetched live.session).sliceState =
      fetched.1.offer live.session.sliceState :=
    live.merged_sliceState pass fetched.1 fetched.2
  have hoffer (slices : SliceState) : fetched.1.offer slices = slices := by
    simp only [SliceChoice.offer, hurns]
  exact (hmerged { (default : LiveView) with session := session }).trans (hoffer _)

/-- An operation that waits in a pass that fetches something gets it with the next answer, or goes
on to wait for the detected anomalies. -/
theorem Awaits.resume {stage : Stage} {id : Nat} {call : Call}
    (h : pass.Awaits oracle made stage id call) (hfetched : pass.fetched oracle made = .ok fetched)
    (live : LiveView) (first : Bool) :
    (id = made + pass.callCount ∧ live.resume first (oracle id call) stage =
        live.finishPass pass fetched.1 fetched.2) ∨
      ∃ stage', live.resume first (oracle id call) stage = (live, .ask pass.detectedCall stage') ∧
        pass.Awaits oracle made stage' (id + 1) pass.detectedCall := by
  cases h with
  | evaluation hvisible hcall =>
    dsimp only [LiveView.resume, LiveView.takeEvaluation]
    cases hanswer : (oracle (made + 1) call).evaluation with
    | error cause =>
      rw [fetched_unevaluated hvisible hcall hanswer] at hfetched
      cases hfetched
    | ok evaluation =>
      dsimp only
      cases hreads : pass.readsDetected with
      | true =>
        have hcount : made + 1 + 1 = made + pass.callCount := by
          simp [callCount, hvisible, hreads]
        have hremains := fetched_both hvisible hcall hanswer hreads
        refine .inr ⟨_, if_pos rfl, ?_⟩
        rw [hcount] at hremains ⊢
        exact .detected hremains
      | false =>
        have hcount : made + 1 = made + pass.callCount := by simp [callCount, hvisible, hreads]
        rw [fetched_evaluated hvisible hcall hanswer hreads] at hfetched
        obtain rfl := Except.ok.inj hfetched
        exact .inl ⟨hcount, if_neg Bool.false_ne_true⟩
  | @detected evaluation hremains =>
    dsimp only [LiveView.resume, LiveView.takeDetected]
    cases hanswer : (oracle (made + pass.callCount) pass.detectedCall).anomalies with
    | error cause =>
      rw [hremains, hanswer] at hfetched
      cases hfetched
    | ok anomalies =>
      rw [hremains, hanswer] at hfetched
      obtain rfl := Except.ok.inj hfetched
      cases evaluation with
      | none => exact .inl ⟨rfl, rfl⟩
      | some evaluation => exact .inl ⟨rfl, rfl⟩

end Pass

namespace Load

/-- Every pass of a load that was begun gets its answers and learns of no slice. -/
def Sliceless (oracle : Oracle) (load : Load) (call? : Nat → Option Call) : Prop :=
  ∀ session pass made, load.Reaches oracle session pass made → pass.Opened call? made →
    pass.Sliceless oracle made

/-- How far such a load has come that goes on alone: it waits in a pass; it waits for series of the
slice that was selected; it has completed with these; it failed as no slice was selected; or it
failed as one of its series did. -/
inductive Standing (oracle : Oracle) (load : Load) (run : Run) : Prop
  | pass {session : Session} {pass : Pass} {made id : Nat} {stage : Stage} {call : Call}
    (hpass : load.Reaches oracle session pass made) (hopened : pass.Opened run.call? made)
    (hawaits : pass.Awaits oracle made stage id call)
    (hflights : run.flights = [⟨load.operation, stage, [id]⟩]) (hlength : run.calls.length = id)
    (hmade : run.call? id = some call) (hsession : run.live.session = LiveView.loading session)
    (hnotices : run.live.notices = load.notices)
  | series {stage : Stage} {request : SeriesRequest} {waiting : List Nat}
    (hurn : load.origin.metricUrn = some request.urn) (hrequest : stage.request? = some request)
    (hpurpose : request.purpose = .load)
    (hflights : run.flights = [⟨load.operation, stage, waiting⟩])
    (hcalls : ∀ id ∈ waiting, ∃ call, (id, call) ∈ run.callsOf Call.isSeries load.made)
    (hnotices : run.live.notices = load.notices)
  | completed (hurn : load.origin.metricUrn ≠ none) (hflights : run.flights = [])
    (hresult : (load.operation, .loaded .completed) ∈ run.results)
    (hnotices : run.live.notices = load.notices)
  | missing (hurn : load.origin.metricUrn = none) (hflights : run.flights = [])
    (hresult : (load.operation, .loaded .failed) ∈ run.results)
    (herrored : run.live.session.errored = true)
    (hnotices : run.live.notices = load.notices.post ChartError.missingSlice.notice)
  | failed {id : Nat} {call : Call} {cause : ChartError} (hurn : load.origin.metricUrn ≠ none)
    (hcall : (id, call) ∈ run.callsOf Call.isSeries load.made)
    (hanswer : (oracle id call).series = .error cause) (hflights : run.flights = [])
    (hresult : (load.operation, .loaded .failed) ∈ run.results)
    (herrored : run.live.session.errored = true)
    (hnotices : run.live.notices = load.notices.post cause.notice)

/-- Every series that a load calls for is one of the slice that was selected before it. -/
structure OnlySelected (load : Load) (run : Run) : Prop where
  /-- The load begins after the calls made before it. -/
  made : load.made ≤ run.calls.length
  /-- Series are those of the selected slice. -/
  calls : ∀ numbered ∈ run.callsOf Call.isSeries load.made,
    numbered.2.seriesUrn? = load.origin.metricUrn

/-- A load has come so far without a slice: the slices stay as they were before it, and it shows
nothing but series of the selected one. -/
structure Unsliced (oracle : Oracle) (load : Load) (run : Run) : Prop
    extends load.OnlySelected run where
  /-- The slices stay. -/
  slices : run.live.session.sliceState = load.origin.sliceState
  /-- The load has come so far. -/
  standing : load.Standing oracle run

variable {oracle : Oracle} {load : Load} {session : Session} {pass : Pass} {made : Nat}
  {fetched : SliceChoice × FetchResult} {run : Run} {live : LiveView}

/-- Fewer passes were begun before. -/
theorem Sliceless.of_later {call? later? : Nat → Option Call} (h : load.Sliceless oracle later?)
    (hlater : ∀ id call, call? id = some call → later? id = some call) :
    load.Sliceless oracle call? :=
  fun session pass made hpass hopened =>
    h session pass made hpass fun call hcall => hlater _ _ (hopened call hcall)

/-- A load that goes on calls for a series of the selected slice, or for none. -/
theorem OnlySelected.hold (h : load.OnlySelected run) (live : LiveView) (waiting : List Nat)
    {next : Next} (hnext : ∀ call stage, next = .ask call stage → call.isSeries = true →
      call.seriesUrn? = load.origin.metricUrn) :
    load.OnlySelected
      ({ run with live := live, flights := [] }.hold load.operation waiting next) where
  made := Nat.le_trans h.made
    (Run.calls_length_hold { run with live := live, flights := [] } load.operation waiting next)
  calls numbered hnumbered := by
    cases next with
    | ask call stage =>
      rcases (Run.mem_callsOf_record h.made).1 hnumbered with hearlier | ⟨hseries, hlast⟩
      · exact h.calls numbered hearlier
      · rw [hlast]
        exact hnext call stage rfl hseries
    | wait stage => exact h.calls numbered hnumbered
    | finish result => exact h.calls numbered hnumbered

/-- A load without a slice comes further by a step that leaves the slices and calls for no series
but one of the selected slice. -/
theorem Unsliced.hold {waiting : List Nat} {next : Next} (h : load.OnlySelected run)
    (hslices : live.session.sliceState = load.origin.sliceState)
    (hnext : ∀ call stage, next = .ask call stage → call.isSeries = true →
      call.seriesUrn? = load.origin.metricUrn)
    (hstanding : load.Standing oracle
      ({ run with live := live, flights := [] }.hold load.operation waiting next)) :
    load.Unsliced oracle
      ({ run with live := live, flights := [] }.hold load.operation waiting next) where
  toOnlySelected := h.hold live waiting hnext
  slices := by
    rw [Run.live_hold]
    exact hslices
  standing := hstanding

/-- It comes to its end so. -/
theorem Unsliced.finish {waiting : List Nat} {result : Result} (h : load.OnlySelected run)
    (hslices : live.session.sliceState = load.origin.sliceState)
    (hstanding : load.Standing oracle
      ({ run with live := live, flights := [] }.hold load.operation waiting (.finish result))) :
    load.Unsliced oracle
      ({ run with live := live, flights := [] }.hold load.operation waiting (.finish result)) :=
  .hold h hslices (fun _ _ hnext => nomatch hnext) hstanding

/-- It is complete if a slice was selected. -/
theorem Unsliced.complete (h : load.OnlySelected run) (hurn : load.origin.metricUrn ≠ none)
    (hslices : live.session.sliceState = load.origin.sliceState)
    (hnotices : live.notices = load.notices) (waiting : List Nat) :
    load.Unsliced oracle ({ run with live := live, flights := [] }.hold load.operation waiting
      (.finish (.loaded .completed))) :=
  .finish h hslices
    (.completed hurn rfl (List.mem_append_right _ (List.mem_singleton_self _)) hnotices)

/-- It fails for want of a slice if none was selected. -/
theorem Unsliced.miss (live : LiveView) (h : load.OnlySelected run)
    (hurn : live.session.metricUrn = none)
    (hslices : live.session.sliceState = load.origin.sliceState)
    (hnotices : live.notices = load.notices) (waiting : List Nat) :
    load.Unsliced oracle ({ run with live := live.fail .missingSlice, flights := [] }.hold
      load.operation waiting (.finish (.loaded .failed))) :=
  .finish h hslices (.missing ((congrArg SliceState.selected hslices).symm.trans hurn) rfl
    (List.mem_append_right _ (List.mem_singleton_self _)) rfl
    (congrArg (NoticeBoard.post ChartError.missingSlice.notice) hnotices))

/-- It calls for a series of the selected slice. -/
theorem Unsliced.ask {call : Call} {stage : Stage} {request : SeriesRequest}
    (h : load.OnlySelected run) (hseries : call.isSeries = true)
    (hcall : call.seriesUrn? = some request.urn)
    (hurn : load.origin.metricUrn = some request.urn) (hrequest : stage.request? = some request)
    (hpurpose : request.purpose = .load)
    (hslices : live.session.sliceState = load.origin.sliceState)
    (hnotices : live.notices = load.notices) (waiting : List Nat) :
    load.Unsliced oracle ({ run with live := live, flights := [] }.hold load.operation waiting
      (.ask call stage)) := by
  refine .hold h hslices (fun call' stage' hnext _ => ?_) ?_
  · cases hnext
    exact hcall.trans hurn.symm
  · refine .series hurn hrequest hpurpose rfl (fun id hid => ?_) hnotices
    obtain rfl := List.mem_singleton.1 hid
    exact ⟨call, (Run.mem_callsOf_record h.made).2 (.inr ⟨hseries, rfl⟩)⟩

/-- With its passes done the load requests the series of the selected slice. -/
theorem Unsliced.requestSeries (h : load.OnlySelected run)
    (hslices : live.session.sliceState = load.origin.sliceState)
    (hnotices : live.notices = load.notices) (waiting : List Nat) :
    load.Unsliced oracle
      ({ run with live := (live.requestSeries .load).1, flights := [] }.hold load.operation waiting
        (live.requestSeries .load).2) := by
  have hurn : load.origin.metricUrn = live.session.metricUrn :=
    (congrArg SliceState.selected hslices).symm
  have hkept := (live.requestSeries_slicesKept .load).slices.trans hslices
  have hsilent (request : SeriesRequest) (measured baseline : Option TimeSeries) :=
    (live.issued.finishSeries_notices request measured baseline).trans hnotices
  have hstart := live.requestSeries_start .load
  generalize live.requestSeries .load = step at hkept hstart ⊢
  cases hstart with
  | missing hslice =>
    exact .miss { live with ticket := live.ticket + 1 } h hslice hslices hnotices waiting
  | unpredicted hslice => exact .complete h (by simp [hurn, hslice]) hkept (hsilent _ _ _) waiting
  | predicted hslice => exact .complete h (by simp [hurn, hslice]) hkept (hsilent _ _ _) waiting
  | compared hslice => exact .ask h rfl rfl (hurn.trans hslice) rfl rfl hkept hnotices waiting
  | measured hslice => exact .ask h rfl rfl (hurn.trans hslice) rfl rfl hkept hnotices waiting

/-- It makes the first call of a pass. -/
theorem Unsliced.openPass {call : Call} {stage : Stage}
    (hpass : load.Reaches oracle session pass run.calls.length) (h : load.OnlySelected run)
    (hopening : pass.opening = .ok call) (hkind : call.isSeries = false)
    (hawaits : pass.Awaits oracle run.calls.length stage (run.calls.length + 1) call)
    (hsession : live.session = LiveView.loading session)
    (hslices : live.session.sliceState = load.origin.sliceState)
    (hnotices : live.notices = load.notices) (waiting : List Nat) :
    load.Unsliced oracle ({ run with live := live, flights := [] }.hold load.operation waiting
      (.ask call stage)) := by
  have hcall := { run with live := live, flights := [] }.call?_record call
  refine .hold h hslices (fun call' stage' hnext hseries => ?_) ?_
  · cases hnext
    exact absurd (hkind.symm.trans hseries) Bool.false_ne_true
  · refine .pass hpass (fun call' hcall' => ?_) hawaits rfl List.length_append hcall hsession
      hnotices
    obtain rfl := Except.ok.inj (hopening.symm.trans hcall')
    exact hcall

/-- A pass of the load begins with its first call. -/
theorem Unsliced.beginPass {reentered : Bool}
    (hpass : load.Reaches oracle session
      (.plan (LiveView.loading session) reentered live.now) run.calls.length)
    (hsession : LiveView.loading live.session = LiveView.loading session)
    (h : load.OnlySelected run) (hslices : live.session.sliceState = load.origin.sliceState)
    (hnotices : live.notices = load.notices) (waiting : List Nat)
    (hnone : load.Sliceless oracle ({ run with
      live := (live.beginPass reentered).1, flights := [] }.hold load.operation waiting
        (live.beginPass reentered).2).call?) :
    load.Unsliced oracle
      ({ run with live := (live.beginPass reentered).1, flights := [] }.hold load.operation waiting
        (live.beginPass reentered).2) := by
  have hloading : (live.update LiveView.loading).session = LiveView.loading session := hsession
  have hplan : Pass.plan (live.update LiveView.loading).session reentered
      (live.update LiveView.loading).now = .plan (LiveView.loading session) reentered live.now := by
    rw [hloading]
    rfl
  unfold LiveView.beginPass at hnone ⊢
  dsimp only at hnone ⊢
  rw [hplan] at hnone ⊢
  generalize Pass.plan (LiveView.loading session) reentered live.now = pass at hpass hnone ⊢
  cases hvisible : pass.rulesVisible with
  | false =>
    have hcount : pass.callCount = 1 := by simp [Pass.callCount, hvisible]
    have hawaits : pass.Awaits oracle run.calls.length (.detected pass none)
        (run.calls.length + pass.callCount) pass.detectedCall := by
      refine .detected ?_
      rw [hcount]
      exact Pass.fetched_detected hvisible
    rw [hcount] at hawaits
    have hopening : pass.opening = .ok pass.detectedCall := by
      rw [Pass.opening, hvisible]
      rfl
    exact .openPass hpass h hopening rfl hawaits hloading hslices hnotices waiting
  | true =>
    rw [hvisible, if_pos rfl] at hnone
    rw [if_pos rfl]
    have hopening : pass.opening = pass.evaluationCall := if_pos hvisible
    cases hcall : pass.evaluationCall with
    | error cause =>
      -- a pass without a configuration gets no answers
      have hrefused : ∀ call, pass.opening ≠ .ok call := by simp [hopening, hcall]
      obtain ⟨call, hok⟩ := (hnone session pass run.calls.length hpass
        fun call hok => absurd hok (hrefused call)).opening
      exact absurd hok (hrefused call)
    | ok call =>
      exact .openPass hpass h (hopening.trans hcall) (Pass.isSeries_of_evaluationCall hcall)
        (.evaluation hvisible hcall) hloading hslices hnotices waiting

/-- With what a pass fetched, and no slices with it, the load begins its second pass, fails for want
of a slice, or requests series. -/
theorem Unsliced.finishPass (hpass : load.Reaches oracle session pass made)
    (hfetched : pass.fetched oracle made = .ok fetched) (hurns : fetched.1.metricUrns = [])
    (hlength : run.calls.length = made + pass.callCount)
    (hsession : live.session = LiveView.loading session) (h : load.OnlySelected run)
    (hslices : live.session.sliceState = load.origin.sliceState)
    (hnotices : live.notices = load.notices) (waiting : List Nat)
    (hnone : load.Sliceless oracle ({ run with
      live := (live.finishPass pass fetched.1 fetched.2).1, flights := [] }.hold load.operation
        waiting (live.finishPass pass fetched.1 fetched.2).2).call?) :
    load.Unsliced oracle ({ run with
      live := (live.finishPass pass fetched.1 fetched.2).1, flights := [] }.hold load.operation
        waiting (live.finishPass pass fetched.1 fetched.2).2) := by
  have hmerged : ((fetched.1.apply live.session).merge pass.viewState fetched.2).1 =
      pass.mergedInto fetched (LiveView.loading session) := by
    rw [hsession]
    rfl
  let merged := live.update fun _ => pass.mergedInto fetched (LiveView.loading session)
  have hslices' : merged.session.sliceState = load.origin.sliceState := by
    rw [← hslices, hsession]
    exact pass.mergedInto_sliceState _ hurns
  unfold LiveView.finishPass at hnone ⊢
  dsimp only at hnone ⊢
  simp only [LiveView.merge_rerun_iff, hmerged] at hnone ⊢
  split
  · next hagain =>
    rw [if_pos hagain] at hnone
    obtain ⟨hstate, hfirst⟩ := hagain
    cases hpass with
    | first =>
      have hsecond : load.Reaches oracle (load.afterFirst fetched)
          (.plan (LiveView.loading (load.afterFirst fetched)) true merged.now)
          run.calls.length := by
        rw [hlength]
        exact .second merged.now hfetched hstate
      exact .beginPass hsecond rfl h hslices' hnotices waiting hnone
    | second => cases hfirst
  · split
    · next hslice => exact .miss merged h hslice hslices' hnotices waiting
    · exact .requestSeries h hslices' hnotices waiting

/-- An answer that the load waits for in a pass is there. -/
theorem Unsliced.take_pass {stage : Stage} {id : Nat} {call : Call} (h : load.Unsliced oracle run)
    (hpass : load.Reaches oracle session pass made) (hopened : pass.Opened run.call? made)
    (hawaits : pass.Awaits oracle made stage id call) (hlength : run.calls.length = id)
    (hsession : run.live.session = LiveView.loading session)
    (hnotices : run.live.notices = load.notices)
    (hnone : load.Sliceless oracle
      (run.taken [] ⟨load.operation, stage, [id]⟩ id (oracle id call)).call?) :
    load.Unsliced oracle (run.taken [] ⟨load.operation, stage, [id]⟩ id (oracle id call)) := by
  have hlater (id' : Nat) (call' : Call) (hcall : run.call? id' = some call') :
      (run.taken [] ⟨load.operation, stage, [id]⟩ id (oracle id call)).call? id' = some call' :=
    Run.call?_hold (by exact hcall) _ _ _
  obtain ⟨fetched, hfetched, hurns⟩ :=
    (hnone.of_later hlater session pass made hpass hopened).fetched
  rw [Run.taken_eq] at hnone hlater ⊢
  dsimp only at hnone hlater ⊢
  subst hlength
  rcases hawaits.resume hfetched run.live ([run.calls.length].head? == some run.calls.length) with
    ⟨hcount, hresume⟩ | ⟨stage', hresume, hawaits'⟩
  · rw [hresume] at hnone ⊢
    exact .finishPass hpass hfetched hurns hcount hsession h.toOnlySelected h.slices hnotices _
      hnone
  · rw [hresume] at hlater ⊢
    refine .hold h.toOnlySelected h.slices (fun call' stage'' hnext hkind => ?_) ?_
    · cases hnext
      cases hkind
    · exact .pass hpass (fun call' hcall => hlater _ _ (hopened call' hcall)) hawaits' rfl
        List.length_append ({ run with flights := [] }.call?_record pass.detectedCall) hsession
        hnotices

/-- A series of the load is there or failed. -/
theorem Unsliced.take_series {stage : Stage} {request : SeriesRequest} {waiting : List Nat}
    {id : Nat} {call : Call} (h : load.Unsliced oracle run)
    (hurn : load.origin.metricUrn = some request.urn) (hrequest : stage.request? = some request)
    (hpurpose : request.purpose = .load)
    (hwaiting : ∀ id ∈ waiting, ∃ call, (id, call) ∈ run.callsOf Call.isSeries load.made)
    (hnotices : run.live.notices = load.notices) (hid : id ∈ waiting)
    (hcall : run.call? id = some call) :
    load.Unsliced oracle
      (run.taken [] ⟨load.operation, stage, waiting⟩ id (oracle id call)) := by
  have hselected : load.origin.metricUrn ≠ none := by simp [hurn]
  have hslices := (Session.sliceState_of_core (run.live.resume_core (waiting.head? == some id)
    (oracle id call) hrequest)).trans h.slices
  have hsilent (request : SeriesRequest) (measured baseline : Option TimeSeries) :=
    (run.live.finishSeries_notices request measured baseline).trans hnotices
  have hanswer := run.live.resume_series (waiting.head? == some id) (oracle id call) hrequest
  rw [Run.taken_eq]
  dsimp only
  generalize run.live.resume (waiting.head? == some id) (oracle id call) stage = step
    at hslices hanswer ⊢
  have hwaits {stage' : Stage} (hrequest' : stage'.request? = some request) :
      load.Unsliced oracle ({ run with live := run.live, flights := [] }.hold load.operation
        (waiting.erase id) (.wait stage')) := by
    refine .hold h.toOnlySelected h.slices (fun _ _ hnext => nomatch hnext) ?_
    exact .series hurn hrequest' hpurpose rfl
      (fun id' hid' => hwaiting id' (List.mem_of_mem_erase hid')) hnotices
  cases hanswer with
  | failed hsame hfailed =>
    obtain rfl := Option.some.inj (hrequest.symm.trans hsame)
    obtain ⟨call', hmem⟩ := hwaiting id hid
    obtain rfl := Option.some.inj (hcall.symm.trans (Run.call?_of_mem_callsOf hmem))
    refine .finish h.toOnlySelected hslices (.failed hselected hmem hfailed rfl ?_ rfl
      (congrArg (NoticeBoard.post _) hnotices))
    rw [hpurpose]
    exact List.mem_append_right _ (List.mem_singleton_self _)
  | measured =>
    obtain rfl := Option.some.inj hrequest
    exact .ask h.toOnlySelected rfl rfl hurn rfl hpurpose hslices hnotices _
  | bothMeasured => exact hwaits hrequest
  | bothBaseline => exact hwaits hrequest
  | lastMeasured =>
    obtain rfl := Option.some.inj hrequest
    rw [LiveView.finishSeries, hpurpose]
    exact .complete h.toOnlySelected hselected hslices (hsilent _ _ _) _
  | lastBaseline =>
    obtain rfl := Option.some.inj hrequest
    rw [LiveView.finishSeries, hpurpose]
    exact .complete h.toOnlySelected hselected hslices (hsilent _ _ _) _

/-- Whatever answer the load takes, it comes further. -/
theorem Unsliced.take {stage : Stage} {waiting : List Nat} {id : Nat} {call : Call}
    (h : load.Unsliced oracle run)
    (hflights : run.flights = [⟨load.operation, stage, waiting⟩]) (hid : id ∈ waiting)
    (hcall : run.call? id = some call)
    (hnone : load.Sliceless oracle
      (run.taken [] ⟨load.operation, stage, waiting⟩ id (oracle id call)).call?) :
    load.Unsliced oracle
      (run.taken [] ⟨load.operation, stage, waiting⟩ id (oracle id call)) := by
  cases h.standing with
  | pass hpass hopened hawaits hflights' hlength hmade hsession hnotices =>
    cases hflights.symm.trans hflights'
    obtain rfl := List.mem_singleton.1 hid
    obtain rfl := Option.some.inj (hcall.symm.trans hmade)
    exact h.take_pass hpass hopened hawaits hlength hsession hnotices hnone
  | series hurn hrequest hpurpose hflights' hwaiting hnotices =>
    cases hflights.symm.trans hflights'
    exact h.take_series hurn hrequest hpurpose hwaiting hnotices hid hcall
  | completed _ hflights' => cases hflights.symm.trans hflights'
  | missing _ hflights' => cases hflights.symm.trans hflights'
  | failed _ _ _ hflights' => cases hflights.symm.trans hflights'

/-- A load that calls for the baseline as well waits for series already. -/
theorem Unsliced.double {request : SeriesRequest} {id : Nat} (h : load.Unsliced oracle run)
    (hflights : run.flights = [⟨load.operation, .measured request, [id]⟩]) :
    load.Unsliced oracle (run.doubled [] load.operation id request) := by
  cases h.standing with
  | pass _ _ hawaits hflights' =>
    cases hflights.symm.trans hflights'
    cases hawaits
  | series hurn hrequest hpurpose hflights' hwaiting hnotices =>
    cases hflights.symm.trans hflights'
    obtain rfl := Option.some.inj hrequest
    have hmem {numbered : Nat × Call} :
        numbered ∈ (run.doubled [] load.operation id request).callsOf Call.isSeries load.made ↔
          numbered ∈ run.callsOf Call.isSeries load.made ∨
            request.baselineCall.isSeries = true ∧
              numbered = (run.calls.length + 1, request.baselineCall) :=
      Run.mem_callsOf_record h.made
    have hmade : load.made ≤ (run.doubled [] load.operation id request).calls.length :=
      Nat.le_trans h.made (run.calls_length_hold 0 [] (.ask request.baselineCall default))
    refine ⟨⟨hmade, fun numbered hnumbered => ?_⟩, h.slices, ?_⟩
    · rcases hmem.1 hnumbered with hearlier | ⟨-, rfl⟩
      · exact h.calls numbered hearlier
      · exact hurn.symm
    · refine .series hurn rfl hpurpose rfl (fun id' hid' => ?_) hnotices
      rcases List.mem_cons.1 hid' with rfl | hsecond
      · obtain ⟨call, hcall⟩ := hwaiting id' (List.mem_singleton_self _)
        exact ⟨call, hmem.2 (.inl hcall)⟩
      · obtain rfl := List.mem_singleton.1 hsecond
        exact ⟨_, hmem.2 (.inr ⟨rfl, rfl⟩)⟩
  | completed _ hflights' => cases hflights.symm.trans hflights'
  | missing _ hflights' => cases hflights.symm.trans hflights'
  | failed _ _ _ hflights' => cases hflights.symm.trans hflights'

/-- Whatever the load does while it goes on, it comes further as long as no pass learns of a
slice. -/
theorem Unsliced.keeps : Run.Keeps oracle load.operation []
    fun run => load.Sliceless oracle run.call? → load.Unsliced oracle run where
  take := by
    intro run stage waiting id call hflights hid hcall h hnone
    have hbefore : load.Sliceless oracle run.call? :=
      hnone.of_later fun _ _ hmade => Run.call?_hold (by exact hmade) _ _ _
    exact (h hbefore).take hflights hid hcall hnone
  double := by
    intro run request id hflights h hnone
    have hbefore : load.Sliceless oracle run.call? :=
      hnone.of_later fun _ _ hmade => Run.call?_record_of_some hmade _
    exact (h hbefore).double hflights

/-- How far it has come does not depend on the clock and the remembered views. -/
theorem Unsliced.aside (h : load.Unsliced oracle run) (hsession : live.session = run.live.session)
    (hboard : live.notices = run.live.notices) :
    load.Unsliced oracle { run with live := live } where
  toOnlySelected := ⟨h.made, h.calls⟩
  slices := (congrArg Session.sliceState hsession).trans h.slices
  standing := by
    cases h.standing with
    | pass hpass hopened hawaits hflights hlength hmade hsession' hnotices =>
      exact .pass hpass hopened hawaits hflights hlength hmade (hsession.trans hsession')
        (hboard.trans hnotices)
    | series hurn hrequest hpurpose hflights hcalls hnotices =>
      exact .series hurn hrequest hpurpose hflights hcalls (hboard.trans hnotices)
    | completed hurn hflights hresult hnotices =>
      exact .completed hurn hflights hresult (hboard.trans hnotices)
    | missing hurn hflights hresult herrored hnotices =>
      exact .missing hurn hflights hresult
        ((congrArg Session.errored hsession).trans herrored) (hboard.trans hnotices)
    | failed hurn hcall hanswer hflights hresult herrored hnotices =>
      exact .failed hurn hcall hanswer hflights hresult
        ((congrArg Session.errored hsession).trans herrored) (hboard.trans hnotices)

/-- How far a load has come that goes on alone, all the more if no pass of it learnt of a slice. -/
structure Followed (oracle : Oracle) (load : Load) (run : Run) : Prop where
  /-- It makes progress. -/
  progress : Progress oracle load run
  /-- It comes further without a slice. -/
  unsliced : load.Sliceless oracle run.call? → load.Unsliced oracle run

end Load

/-- Where a load begins the slices are those from before. -/
theorem Operation.origin_sliceState (live : LiveView) (operation : Operation) :
    (operation.origin live).sliceState = live.session.sliceState := by
  have hshowing (range : AnalysisRange) (duration : RangePreset) :
      (live.session.showing range duration).sliceState = live.session.sliceState := by
    unfold Session.showing
    dsimp only
    split <;> rfl
  cases operation with
  | selectRange first last duration => exact hshowing _ _
  | selectPreset preset =>
    unfold origin
    dsimp only
    cases preset.range? live.now live.zone with
    | none => rfl
    | some range => exact hshowing _ _
  | _ => rfl

/-- An operation that begins a load begins its first pass. -/
theorem LiveView.begin_of_loads (live : LiveView) {operation : Operation}
    (hloads : operation.loads live = true) :
    ∃ prepared : LiveView,
      loading prepared.session = loading (operation.origin live) ∧
        prepared.session.sliceState = live.session.sliceState ∧ prepared.now = live.now ∧
        prepared.notices = live.notices ∧
        live.begin false operation = prepared.beginPass false := by
  have hopening := live.begin_setOpening false operation
  have hbeginning := live.begin_beginning operation
  generalize live.begin false operation = step at hopening hbeginning ⊢
  cases hbeginning with
  | @load _ prepared _ hsession hnow hnotices =>
    have hslices : (loading prepared.session).sliceState =
        (loading (operation.origin live)).sliceState := congrArg Session.sliceState hsession
    exact ⟨prepared, hsession, hslices.trans (operation.origin_sliceState live), hnow, hnotices,
      rfl⟩
  | series hrequests =>
    have hnot : operation.requests live = false := by
      cases operation <;> first | rfl | cases hloads
    exact absurd (hnot.symm.trans hrequests) Bool.false_ne_true
  | report => cases hloads
  | @ended _ ended result htells =>
    -- a load that ends at once failed, which would have been told
    generalize hstep : (ended, Next.finish result) = step at hopening
    cases hopening with
    | @load prepared _ _ _ =>
      have hstart := prepared.beginPass_start false
      generalize prepared.beginPass false = step at hstep hstart
      cases hstart with
      | failed =>
        cases hstep
        cases htells
      | evaluation => cases hstep
      | detected => cases hstep
    | aside hquiet =>
      rcases hquiet with hbusy | ⟨hnot, -⟩
      · cases hbusy
      · exact absurd (hnot.symm.trans hloads) Bool.false_ne_true

namespace Run

open Load

variable {oracle : Oracle} {load : Load} {run : Run}

/-- A load is followed in every quiet move. -/
theorem step_followed (hrest : run.AtRest) (h : load.Followed oracle run) {move : Move}
    (hmove : move.isQuiet = true) : load.Followed oracle (run.step oracle move) where
  progress := step_progress hrest h.progress hmove
  unsliced := by
    cases move with
    | begin operation prompt => cases hmove
    | settle id prompt =>
      exact Unsliced.keeps.settle_alone hrest.numbered h.progress.alone h.unsliced id prompt
    | setClock now => exact fun hnone => (h.unsliced hnone).aside rfl rfl
    | drain => cases hmove
    | look => exact fun hnone => (h.unsliced hnone).aside rfl rfl

/-- So it is in every list of such moves. -/
theorem after_followed (hrest : run.AtRest) (h : load.Followed oracle run) {moves : List Move}
    (hmoves : ∀ move ∈ moves, move.isQuiet = true) :
    load.Followed oracle (run.after oracle moves) :=
  hrest.keeps (fun hrest hmove h => step_followed hrest h hmove) hmoves h

/-- It is followed from where it begins. -/
theorem begin_followed (oracle : Oracle) {run : Run} (halone : run.flights = [])
    {operation : Operation} (hloads : operation.loads run.live = true)
    (prompt : Nat → Call → Bool) :
    (operation.load run).Followed oracle (run.step oracle (.begin operation prompt)) := by
  let load := operation.load run
  obtain ⟨prepared, hsession, hslices, hnow, hnotices, hbegin⟩ := run.live.begin_of_loads hloads
  have hfirst : load.Reaches oracle load.origin
      (.plan (LiveView.loading load.origin) false prepared.now) run.calls.length := by
    rw [hnow]
    exact .first
  have hprogress : Keeps oracle run.begun run.flights (Progress oracle load) := by
    rw [halone]
    exact (Progress.keeps : Keeps oracle load.operation [] _)
  have hunsliced : Keeps oracle run.begun run.flights fun next =>
      load.Sliceless oracle next.call? → load.Unsliced oracle next := by
    rw [halone]
    exact (Unsliced.keeps : Keeps oracle load.operation [] _)
  have hstarted := run.started_alone halone operation
  rw [hbegin] at hstarted
  refine ⟨hprogress.begin prompt ?_, hunsliced.begin prompt ?_⟩
  · rw [hstarted]
    exact Progress.beginPass hfirst hsession hnotices []
  · rw [hstarted]
    have hslices' : prepared.session.sliceState = load.origin.sliceState :=
      hslices.trans (operation.origin_sliceState run.live).symm
    have honly : load.OnlySelected run := by
      refine ⟨Nat.le_refl _, fun numbered hnumbered => ?_⟩
      have hnone : run.callsOf Call.isSeries load.made = [] := run.callsOf_length Call.isSeries
      rw [hnone] at hnumbered
      cases hnumbered
    exact Unsliced.beginPass hfirst hsession honly hslices' hnotices []

/-- What becomes of a load that gets all answers of its passes and learns of no slice. Take any run
after which no operation is in flight, and an operation that begins a load then, goes on alone and
ends, where every pass that was begun reads no anomalies if rules are hidden, and has diagnostics
that name no slice if they are visible. The slices to choose from and the selected one are the same
as before. If none was selected, the load fails, the user is told that the slice is missing, and no
series was called for. If one was selected, every series that was called for is one of this slice,
and the load completes without a word unless one of these calls failed. -/
theorem load_without_slice (oracle : Oracle) (live : LiveView) (earlier : List Move)
    (halone : (after oracle { live := live } earlier).flights = []) {operation : Operation}
    (hloads : operation.loads (after oracle { live := live } earlier).live = true)
    (prompt : Nat → Call → Bool) {later : List Move}
    (hlater : ∀ move ∈ later, move.isQuiet = true)
    (hended : (((after oracle { live := live } earlier).step oracle
      (.begin operation prompt)).after oracle later).flights = [])
    (hnone : (operation.load (after oracle { live := live } earlier)).Sliceless oracle
      (((after oracle { live := live } earlier).step oracle
        (.begin operation prompt)).after oracle later).call?) :
    let run := after oracle { live := live } earlier
    let final := (run.step oracle (.begin operation prompt)).after oracle later
    let series := final.callsOf Call.isSeries run.calls.length
    final.live.session.sliceState = run.live.session.sliceState ∧
      (run.live.session.metricUrn = none →
        (run.begun, .loaded .failed) ∈ final.results ∧ final.live.session.errored = true ∧
          final.live.notices = run.live.notices.post ChartError.missingSlice.notice ∧
          series = []) ∧
      ∀ urn, run.live.session.metricUrn = some urn →
        (∀ numbered ∈ series, numbered.2.seriesUrn? = some urn) ∧
          ((run.begun, .loaded .completed) ∈ final.results ∧
              final.live.notices = run.live.notices ∨
            ∃ id call cause, (id, call) ∈ series ∧ (oracle id call).series = .error cause ∧
              (run.begun, .loaded .failed) ∈ final.results ∧
              final.live.session.errored = true ∧
              final.live.notices = run.live.notices.post cause.notice) := by
  intro run final series
  have hrest : run.AtRest := (atRest_new live).after oracle earlier
  have hfollowed : (operation.load run).Followed oracle final :=
    after_followed (hrest.step oracle (.begin operation prompt))
      (begin_followed oracle halone hloads prompt) hlater
  have h : (operation.load run).Unsliced oracle final := hfollowed.unsliced hnone
  have hslices := operation.origin_sliceState run.live
  have hurn : (operation.load run).origin.metricUrn = run.live.session.metricUrn :=
    congrArg SliceState.selected hslices
  have hcalls : ∀ numbered ∈ series, numbered.2.seriesUrn? = run.live.session.metricUrn :=
    fun numbered hnumbered => (h.calls numbered hnumbered).trans hurn
  have hflight {flight : Flight} (hflights : final.flights = [flight]) : False := by
    cases hended.symm.trans hflights
  refine ⟨h.slices.trans hslices, fun hmissing => ?_, fun urn hselected => ?_⟩
  · have hempty : series = [] := by
      refine List.eq_nil_iff_forall_not_mem.2 fun numbered hnumbered => ?_
      have hkind := kind_of_mem_callsOf hnumbered
      exact Call.seriesUrn?_ne_none hkind ((hcalls numbered hnumbered).trans hmissing)
    have hnot := hurn.trans hmissing
    cases h.standing with
    | pass _ _ _ hflights => exact (hflight hflights).elim
    | series _ _ _ hflights => exact (hflight hflights).elim
    | completed hsome => exact absurd hnot hsome
    | missing _ _ hresult herrored hnotices => exact ⟨hresult, herrored, hnotices, hempty⟩
    | failed hsome => exact absurd hnot hsome
  · refine ⟨fun numbered hnumbered => (hcalls numbered hnumbered).trans hselected, ?_⟩
    cases h.standing with
    | pass _ _ _ hflights => exact (hflight hflights).elim
    | series _ _ _ hflights => exact (hflight hflights).elim
    | completed _ _ hresult hnotices => exact .inl ⟨hresult, hnotices⟩
    | missing hnot => cases (hnot.symm.trans hurn).trans hselected
    | failed _ hcall hanswer _ hresult herrored hnotices =>
      exact .inr ⟨_, _, _, hcall, hanswer, hresult, herrored, hnotices⟩

/-- Diagnostics that are no object name no slice in either pass of a changed alert. Its preview
fails for want of one, although anomalies were detected for the reference. -/
theorem load_without_slice_two_passes :
    let live : LiveView := {
      zone := default, now := 500, session := {
        alertId := 7, preview := true, edit := true, granularity := none
        dimensionExploration := false, alertYaml := some "draft", savedYaml := some "saved"
        range := ⟨0, 1000⟩, duration := .custom, baselineOffset := .predicted } }
    let reference : List Anomaly :=
      [{ metricUrn := "thirdeye:metric:7", startTime := 1, endTime := 2 }]
    let oracle : Oracle := fun id _ =>
      if id = 2 then .ok (.anomalies reference)
      else .ok (.evaluation { diagnostics := [("0", .arr [])] })
    let never : Nat → Call → Bool := fun _ _ => false
    let later : List Move := [.settle 1 never, .setClock 700, .settle 2 never, .settle 3 never]
    let run := after oracle { live := live } []
    let final := (run.step oracle (.begin .requestPreview never)).after oracle later
    final.flights = [] ∧ (Operation.requestPreview.load run).Sliceless oracle final.call? ∧
      final.live.session.old = reference ∧ (0, .loaded .failed) ∈ final.results ∧
      final.live.notices = .kept [⟨true, "Error",
        "unable to resolve a metric urn slice from the response"⟩] ∧
      final.callsOf Call.isSeries 0 = [] := by
  intro live reference oracle never later run final
  have hlater : ∀ move ∈ later, move.isQuiet = true := by simp [later, Move.isQuiet]
  have hended : final.flights = [] ∧ final.live.session.old = reference := by
    dsimp only [final, run, later, live, oracle, reference, never]
    decide +kernel
  have hnames : ({ diagnostics := [("0", .arr [])] } : Evaluation).NamesNoSlice :=
    fun _ hlookup => by cases hlookup
  have hnone : (Operation.requestPreview.load run).Sliceless oracle final.call? := by
    intro session pass made hpass _
    cases hpass with
    | first => exact .visible rfl rfl rfl hnames fun _ => ⟨_, rfl⟩
    | second present hfetched hstate =>
      cases hfetched
      exact .visible rfl rfl rfl hnames fun hreads => by cases hreads
  obtain ⟨-, hfails, -⟩ := load_without_slice oracle live [] rfl rfl never hlater hended.1 hnone
  obtain ⟨hresult, -, hnotices, hseries⟩ := hfails rfl
  exact ⟨hended.1, hnone, hended.2, hresult, hnotices, hseries⟩

/-- An alert is loaded again after its anomalies are gone. No slice comes with the answer, but the
load completes, with the series of the slice that the first load found. -/
theorem reload_without_slice_completes :
    let live : LiveView := {
      zone := ⟨"UTC", 0, []⟩, now := 2000, session := {
        alertId := 7, preview := false, edit := false, granularity := none
        dimensionExploration := false, alertYaml := none, savedYaml := none
        range := ⟨0, 1000⟩, duration := .custom, baselineOffset := .wo1w } }
    let detected : List Anomaly :=
      [{ metricUrn := "thirdeye:metric:7", startTime := 0, endTime := 5 }]
    let oracle : Oracle := fun id _ =>
      if id = 1 then .ok (.anomalies detected)
      else if id = 4 then .ok (.anomalies [])
      else .ok (.series { timestamp := [0, 5] })
    let never : Nat → Call → Bool := fun _ _ => false
    let earlier : List Move :=
      [.begin .start never, .settle 1 never, .settle 2 never, .settle 3 never]
    let later : List Move := [.settle 4 never, .settle 5 never, .settle 6 never]
    let run := after oracle { live := live } earlier
    let final := (run.step oracle (.begin .triggerFetch never)).after oracle later
    run.flights = [] ∧ final.flights = [] ∧
      (Operation.triggerFetch.load run).Sliceless oracle final.call? ∧
      final.results = [(0, .loaded .completed), (1, .loaded .completed)] ∧
      final.callsOf Call.isSeries run.calls.length =
        [(5, .timeseries "thirdeye:metric:7" ⟨0, 1000⟩ .current "UTC"),
          (6, .timeseries "thirdeye:metric:7" ⟨0, 1000⟩ .wo1w "UTC")] := by
  intro live detected oracle never earlier later run final
  have hended : run.flights = [] ∧ final.flights = [] := by
    dsimp only [final, run, earlier, later, live, oracle, detected, never]
    decide +kernel
  obtain ⟨hmade, hhidden, hstate⟩ : (Operation.triggerFetch.load run).made = 3 ∧
      (Operation.triggerFetch.load run).first.rulesVisible = false ∧
      (Operation.triggerFetch.load run).first.viewState ≠ .bootstrap := by
    dsimp only [run, earlier, live, oracle, detected, never]
    decide +kernel
  have hresults : final.results = [(0, .loaded .completed), (1, .loaded .completed)] ∧
      final.callsOf Call.isSeries run.calls.length =
        [(5, .timeseries "thirdeye:metric:7" ⟨0, 1000⟩ .current "UTC"),
          (6, .timeseries "thirdeye:metric:7" ⟨0, 1000⟩ .wo1w "UTC")] := by
    dsimp only [final, run, earlier, later, live, oracle, detected, never]
    decide +kernel
  refine ⟨hended.1, hended.2, ?_, hresults⟩
  intro session pass made hpass _
  cases hpass with
  | first =>
    refine .hidden hhidden ?_
    rw [hmade]
    rfl
  | second _ _ hsecond => exact absurd hsecond hstate

end Run

end AlertDetail
