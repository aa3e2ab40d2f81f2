import AlertDetail.Proofs.Sets.Passes
import Mathlib.Data.List.Induction

/-!
# Sets and the range shown

Where operations are begun one after the other, and the backend finds anomalies only where it is
asked to look, the new set of a view that is current and not errored lies inside the range shown. So
does the old set, with one exception that is meant: while a draft is outdated a selected range is
only remembered, the sets stay, and the next preview compares what it finds with what was found in
the range before.
-/

namespace AlertDetail

/-- Whether an anomaly lies inside a range. -/
def Anomaly.Within (range : AnalysisRange) (anomaly : Anomaly) : Prop :=
  range.start ≤ anomaly.startTime ∧ anomaly.endTime ≤ range.stop

instance (range : AnalysisRange) (anomaly : Anomaly) : Decidable (anomaly.Within range) :=
  inferInstanceAs (Decidable (_ ∧ _))

/-- All anomalies of a set lie inside a range. -/
def AnalysisRange.Covers (range : AnalysisRange) (anomalies : List Anomaly) : Prop :=
  ∀ anomaly ∈ anomalies, anomaly.Within range

/-- Every range covers an empty set. -/
theorem AnalysisRange.covers_nil (range : AnalysisRange) : range.Covers [] :=
  fun _ hanomaly => absurd hanomaly List.not_mem_nil

/-- What lies in the part of a range up to the present lies in the range. -/
theorem AnalysisRange.covers_of_upTo {range : AnalysisRange} {now : Int}
    {anomalies : List Anomaly} (h : (range.upTo now).Covers anomalies) :
    range.Covers anomalies := by
  intro anomaly hanomaly
  obtain ⟨hstart, hstop⟩ := h anomaly hanomaly
  exact ⟨hstart, Int.le_trans hstop (Int.min_le_left _ _)⟩

/-- The window in which a call looks for anomalies. -/
def Call.window? : Call → Option AnalysisRange
  | anomalies _ window | preview _ _ window | bounds _ window => some window
  | _ => none

/-- The anomalies of a reply. -/
def Reply.found : Reply → List Anomaly
  | anomalies found => found
  | evaluation found => found.anomalies
  | _ => []

/-- A backend that finds anomalies only where it is asked to look. -/
def Oracle.Inside (oracle : Oracle) : Prop :=
  ∀ id call window reply, call.window? = some window → oracle id call = .ok reply →
    window.Covers reply.found

/-- An evaluation finds anomalies in the window of its call. -/
theorem Oracle.Inside.evaluation {oracle : Oracle} (h : oracle.Inside) {id : Nat} {call : Call}
    {window : AnalysisRange} (hcall : call.window? = some window) {evaluation : Evaluation}
    (hanswer : (oracle id call).evaluation = .ok evaluation) :
    window.Covers evaluation.anomalies := by
  cases hreply : oracle id call with
  | error cause =>
    rw [hreply] at hanswer
    cases hanswer
  | ok reply =>
    have hcovers := h id call window reply hcall hreply
    rw [hreply] at hanswer
    cases reply <;> cases hanswer
    exact hcovers

/-- Detected anomalies lie in the window of their call. -/
theorem Oracle.Inside.anomalies {oracle : Oracle} (h : oracle.Inside) {id : Nat} {call : Call}
    {window : AnalysisRange} (hcall : call.window? = some window) {anomalies : List Anomaly}
    (hanswer : (oracle id call).anomalies = .ok anomalies) : window.Covers anomalies := by
  cases hreply : oracle id call with
  | error cause =>
    rw [hreply] at hanswer
    cases hanswer
  | ok reply =>
    have hcovers := h id call window reply hcall hreply
    rw [hreply] at hanswer
    cases reply <;> cases hanswer
    exact hcovers

namespace SetState

/-- The view states of a view that did not fail, and where they occur. -/
inductive Resolves (sets : SetState) : ViewState → Prop
  | overview (hpreview : sets.preview = false) : Resolves sets .baseline
  | first (hpreview : sets.preview = true) (hedit : sets.edit = false) (hold : sets.old = []) :
    Resolves sets .baseline
  | second (hpreview : sets.preview = true) (hold : sets.old ≠ []) : Resolves sets .replace
  | later (hpreview : sets.preview = true) (hedit : sets.edit = false) (hnew : sets.new ≠ []) :
    Resolves sets .shuffle
  | reference (hpreview : sets.preview = true) (hedit : sets.edit = true) :
    Resolves sets .bootstrap

/-- The view state is one of these. -/
theorem resolves (sets : SetState) : sets.Resolves sets.viewState := by
  unfold viewState ViewState.resolve
  dsimp only
  rw [if_neg Bool.false_ne_true]
  cases hpreview : sets.preview with
  | false => exact .overview hpreview
  | true =>
    rw [if_neg (by simp)]
    by_cases hold : sets.old = []
    · rw [if_neg (by simp [hold])]
      cases hedit : sets.edit with
      | true => exact .reference hpreview hedit
      | false => exact .first hpreview hedit hold
    · rw [if_pos (by simpa using hold)]
      cases hedit : sets.edit with
      | true => exact .second hpreview hold
      | false =>
        cases hnew : sets.new with
        | nil => exact .second hpreview hold
        | cons => exact .later hpreview hedit (by simp [hnew])

variable {carried : List Anomaly → Prop} {sets : SetState}

/-- Sets that are accounted for: those of a draft lie inside the range shown or are carried over
from another one. -/
structure Sound (carried : List Anomaly → Prop) (sets : SetState) : Prop where
  /-- What is current is shown. -/
  shown : sets.isCurrent = true → sets.showDetails = true
  /-- Only a draft has a new set. -/
  overview : sets.preview = false → sets.new = []
  /-- The draft of a new alert fills its old set first. -/
  draft : sets.preview = true → sets.edit = false → sets.old = [] → sets.new = []
  /-- The old set of a draft is accounted for. -/
  old : sets.preview = true → sets.range.Covers sets.old ∨ carried sets.old
  /-- So is its new set. -/
  new : sets.preview = true → sets.range.Covers sets.new ∨ carried sets.new

/-- Sets that belong to the range shown, but for the old one of a draft. -/
structure Fresh (sets : SetState) : Prop where
  /-- The new set lies inside the range. -/
  new : sets.range.Covers sets.new
  /-- So does the only set of a view that previews no draft. -/
  old : sets.preview = false → sets.range.Covers sets.old

/-- Where a pass may put its anomalies: where the sets say, or into the new set of a changed alert
after its reference. -/
def Targets (sets : SetState) (pass : Pass) : Prop :=
  pass.viewState = sets.viewState ∨
    pass.viewState = .replace ∧ sets.preview = true ∧ sets.edit = true

/-- Anomalies inside the range shown that a pass puts into the sets. -/
theorem Sound.place (h : sets.Sound carried) {pass : Pass} (hpass : sets.Targets pass)
    {anomalies : List Anomaly} (hcovers : sets.range.Covers anomalies) :
    (sets.place pass.viewState anomalies).Sound carried ∧
      (sets.place pass.viewState anomalies).Fresh := by
  rcases hpass with hstate | ⟨hstate, hpreview, hedit⟩
  · have hresolves := sets.resolves
    rw [← hstate] at hresolves
    generalize pass.viewState = state at hresolves ⊢
    cases hresolves with
    | overview hpreview =>
      have hdraft : sets.preview ≠ true := by simp [hpreview]
      refine ⟨⟨h.shown, h.overview, fun h => absurd h hdraft, fun h => absurd h hdraft,
        fun h => absurd h hdraft⟩, ⟨?_, fun _ => hcovers⟩⟩
      show sets.range.Covers sets.new
      rw [h.overview hpreview]
      exact sets.range.covers_nil
    | first hpreview hedit hold =>
      have hoverview : sets.preview ≠ false := by simp [hpreview]
      have hnew := h.draft hpreview hedit hold
      refine ⟨⟨h.shown, h.overview, fun _ _ _ => hnew, fun _ => .inl hcovers, h.new⟩,
        ⟨?_, fun h => absurd h hoverview⟩⟩
      show sets.range.Covers sets.new
      rw [hnew]
      exact sets.range.covers_nil
    | second hpreview hold =>
      have hoverview : sets.preview ≠ false := by simp [hpreview]
      exact ⟨⟨h.shown, fun h => absurd h hoverview, fun _ _ h => absurd h hold, h.old,
        fun _ => .inl hcovers⟩, ⟨hcovers, fun h => absurd h hoverview⟩⟩
    | later hpreview hedit hnew =>
      have hoverview : sets.preview ≠ false := by simp [hpreview]
      exact ⟨⟨h.shown, fun h => absurd h hoverview, fun _ _ h => absurd h hnew, h.new,
        fun _ => .inl hcovers⟩, ⟨hcovers, fun h => absurd h hoverview⟩⟩
    | reference hpreview hedit =>
      have hoverview : sets.preview ≠ false := by simp [hpreview]
      have hdraft : sets.edit ≠ false := by simp [hedit]
      exact ⟨⟨h.shown, fun _ => rfl, fun _ h => absurd h hdraft, fun _ => .inl hcovers,
        fun _ => .inl sets.range.covers_nil⟩,
        ⟨sets.range.covers_nil, fun h => absurd h hoverview⟩⟩
  · have hoverview : sets.preview ≠ false := by simp [hpreview]
    have hdraft : sets.edit ≠ false := by simp [hedit]
    rw [hstate]
    exact ⟨⟨h.shown, fun h => absurd h hoverview, fun _ h => absurd h hdraft, h.old,
      fun _ => .inl hcovers⟩, ⟨hcovers, fun h => absurd h hoverview⟩⟩

/-- More may be carried over. -/
theorem Sound.mono (h : sets.Sound carried) {carried' : List Anomaly → Prop}
    (hmono : ∀ anomalies, carried anomalies → carried' anomalies) : sets.Sound carried' where
  shown := h.shown
  overview := h.overview
  draft := h.draft
  old hpreview := (h.old hpreview).imp_right (hmono _)
  new hpreview := (h.new hpreview).imp_right (hmono _)

/-- Showing a range empties the sets of a draft or carries them over. -/
theorem Sound.showRange (h : sets.Sound carried) {carried' : List Anomaly → Prop}
    (hcarried : sets.isCurrent = false → carried' sets.old ∧ carried' sets.new)
    (range : AnalysisRange) : (sets.showRange range).Sound carried' := by
  unfold SetState.showRange
  cases hfollows : sets.follows with
  | true =>
    rw [Bool.true_and]
    split
    · exact ⟨h.shown, fun _ => rfl, fun _ _ _ => rfl, fun _ => .inl range.covers_nil,
        fun _ => .inl range.covers_nil⟩
    · next hpreview =>
      exact ⟨h.shown, h.overview, h.draft, fun h => absurd h hpreview,
        fun h => absurd h hpreview⟩
  | false =>
    have houtdated : sets.isCurrent = false := by
      cases hcurrent : sets.isCurrent with
      | false => rfl
      | true =>
        rw [SetState.follows, hcurrent, h.shown hcurrent] at hfollows
        cases hfollows
    obtain ⟨hold, hnew⟩ := hcarried houtdated
    exact ⟨h.shown, h.overview, h.draft, fun _ => .inr hold, fun _ => .inr hnew⟩

end SetState

/-- What an operation prepares is accounted for: if it selects a range while the sets are outdated,
they are carried over. -/
theorem Operation.prepare_sound {live : LiveView} {carried carried' : List Anomaly → Prop}
    (h : live.session.setState.Sound carried) (operation : Operation)
    (hmono : operation.range? live = none → ∀ anomalies, carried anomalies → carried' anomalies)
    (hcarried : (operation.range? live).isSome = true → live.session.isCurrent = false →
      carried' live.session.old ∧ carried' live.session.new) :
    (operation.prepare live).Sound carried' := by
  have hprepares := operation.prepares live
  generalize operation.prepare live = sets at hprepares ⊢
  cases hprepares with
  | requested =>
    have hsame := h.mono (hmono rfl)
    exact ⟨fun _ => rfl, hsame.overview, hsame.draft, hsame.old, hsame.new⟩
  | edited =>
    have hsame := h.mono (hmono rfl)
    exact ⟨fun h => absurd h Bool.false_ne_true, hsame.overview, hsame.draft, hsame.old,
      hsame.new⟩
  | shown hrange => exact h.showRange (hcarried (by rw [hrange]; rfl)) _
  | same hrange => exact h.mono (hmono hrange)

/-- An operation that loads nothing leaves sets that belong to the range shown, unless it declares
them outdated or the last load failed. -/
theorem Operation.prepare_fresh {live : LiveView} {operation : Operation}
    (hloads : operation.loads live = false) (herrored : live.session.errored = false)
    (hshown : live.session.isCurrent = true → live.session.showDetails = true)
    (hfresh : live.session.isCurrent = true → live.session.setState.Fresh)
    (hcurrent : (operation.prepare live).isCurrent = true) : (operation.prepare live).Fresh := by
  have hprepares := operation.prepares live
  generalize operation.prepare live = sets at hprepares hcurrent ⊢
  cases hprepares with
  | requested => cases hloads
  | edited => cases hcurrent
  | same hrange => exact hfresh hcurrent
  | @shown _ range hrange =>
    have hcurrent' : live.session.isCurrent = true := by
      unfold SetState.showRange at hcurrent
      split at hcurrent <;> exact hcurrent
    have hfollows : live.session.setState.follows = true := by
      show (live.session.showDetails && live.session.isCurrent) = true
      rw [hcurrent', hshown hcurrent']
      rfl
    have hload : operation.loads live = true := by
      cases operation <;> first | cases hrange | simp [loads, hrange, hfollows, herrored]
    exact absurd (hloads.symm.trans hload) Bool.noConfusion

/-- An evaluation looks for anomalies in the window of its pass. -/
theorem Pass.window?_of_evaluationCall {pass : Pass} {call : Call}
    (h : pass.evaluationCall = .ok call) : call.window? = some pass.window := by
  rcases evaluationCall_cases h with rfl | ⟨yaml, rfl⟩ <;> rfl

namespace LiveView

/-- A pass that was planned from a view as it is. -/
structure Planned (live : LiveView) (pass : Pass) : Prop where
  /-- It may put its anomalies where it means to. -/
  targets : live.session.setState.Targets pass
  /-- It reads the anomalies of the range shown. -/
  range : pass.range = live.session.range
  /-- It evaluates the range up to some present. -/
  window : ∃ now, pass.window = live.session.range.upTo now

/-- The first pass is planned from the view in which it begins. -/
theorem planned_first (live : LiveView) (now : Int) :
    live.Planned (Pass.plan (loading live.session) false now) :=
  ⟨.inl (plan_viewState live.session now), rfl, now, rfl⟩

/-- So is the second pass of a changed alert. -/
theorem planned_second {live : LiveView} (hpreview : live.session.preview = true)
    (hedit : live.session.edit = true) (now : Int) :
    live.Planned (Pass.plan (loading live.session) true now) := by
  refine ⟨.inr ⟨?_, hpreview, hedit⟩, rfl, now, rfl⟩
  have hstate : (loading live.session).viewState = live.session.setState.viewState := rfl
  have hresolves := live.session.setState.resolves
  show Pass.target (loading live.session) true = .replace
  rw [Pass.target, hstate]
  generalize live.session.setState.viewState = state at hresolves ⊢
  cases hresolves with
  | overview h => exact absurd (hpreview.symm.trans h) Bool.noConfusion
  | first _ h => exact absurd (hedit.symm.trans h) Bool.noConfusion
  | second => rfl
  | later _ h => exact absurd (hedit.symm.trans h) Bool.noConfusion
  | reference => rfl

/-- What the call of a pass finds lies inside the range shown. -/
theorem Planned.covers {live : LiveView} {pass : Pass} (h : live.Planned pass) {call : Call}
    {window : AnalysisRange} (hcall : call.window? = some window)
    (hasks : pass.evaluationCall = .ok call ∨ call = pass.detectedCall) {anomalies : List Anomaly}
    (hcovers : window.Covers anomalies) : live.session.range.Covers anomalies := by
  obtain ⟨now, hwindow⟩ := h.window
  rcases hasks with hasks | rfl
  · rw [Pass.window?_of_evaluationCall hasks] at hcall
    rw [← Option.some.inj hcall, hwindow] at hcovers
    exact AnalysisRange.covers_of_upTo hcovers
  · rw [← Option.some.inj hcall] at hcovers
    rwa [← h.range]

end LiveView

namespace Run

/-- A run in which operations go on one after the other, with sets that are accounted for: unless a
load is under way or failed, those that are current belong to the range shown. -/
structure Windowed (carried : List Anomaly → Prop) (run : Run) : Prop where
  /-- Numbers are proper. -/
  numbered : run.Numbered
  /-- A pass waits for its own call. -/
  asked : run.Asked
  /-- At most one operation is in flight. -/
  alone : run.flights = [] ∨ ∃ flight, run.flights = [flight]
  /-- The sets are accounted for. -/
  sound : run.live.session.setState.Sound carried
  /-- A pass in flight was planned from the view. -/
  planned : ∀ flight ∈ run.flights, ∀ pass, flight.stage.pass? = some pass → run.live.Planned pass
  /-- Sets that are current belong to the range shown. -/
  settled : (∀ flight ∈ run.flights, flight.stage.isPass = false) →
    run.live.session.errored = false → run.live.session.isCurrent = true →
      run.live.session.setState.Fresh

variable {carried : List Anomaly → Prop} {oracle : Oracle} {run : Run}

/-- The sets stay accounted for by an operation that goes on alone, with a pass that is planned from
the view or with sets that belong to the range shown. -/
theorem Windowed.hold {live : LiveView} {operation : Nat} {waiting : List Nat} {next : Next}
    (hnumbered : ({ run with live := live, flights := [] }.hold operation waiting next).Numbered)
    (hasked : ({ run with live := live, flights := [] }.hold operation waiting next).Asked)
    (hsound : live.session.setState.Sound carried)
    (hplanned : ∀ stage, next.stage? = some stage → ∀ pass, stage.pass? = some pass →
      live.Planned pass)
    (hsettled : (∀ stage, next.stage? = some stage → stage.isPass = false) →
      live.session.errored = false → live.session.isCurrent = true →
        live.session.setState.Fresh) :
    ({ run with live := live, flights := [] }.hold operation waiting next).Windowed carried := by
  have hlive := live_hold { run with live := live, flights := [] } operation waiting next
  dsimp only at hlive
  refine ⟨hnumbered, hasked, ?_, ?_, ?_, ?_⟩
  · cases next with
    | ask call stage => exact .inr ⟨_, rfl⟩
    | wait stage => exact .inr ⟨_, rfl⟩
    | finish result => exact .inl rfl
  · rw [hlive]
    exact hsound
  · intro flight hflight pass hpass
    rw [hlive]
    rcases mem_flights_hold hflight with hother | ⟨-, hstage⟩
    · exact absurd hother List.not_mem_nil
    · exact hplanned _ hstage pass hpass
  · intro hnone
    rw [hlive]
    refine hsettled fun stage hstage => ?_
    cases next with
    | ask call stage' =>
      cases hstage
      exact hnone _ (List.mem_singleton_self _)
    | wait stage' =>
      cases hstage
      exact hnone _ (List.mem_singleton_self _)
    | finish result => cases hstage

/-- They do so by an operation that goes on beside the sets. -/
theorem Windowed.aside {live : LiveView} {step : LiveView × Next} (haside : live.Aside step)
    {operation : Nat} {waiting : List Nat}
    (hnumbered : ({ run with live := step.1, flights := [] }.hold operation waiting
      step.2).Numbered)
    (hasked : ({ run with live := step.1, flights := [] }.hold operation waiting step.2).Asked)
    (hsound : live.session.setState.Sound carried)
    (hfresh : live.session.errored = false → step.1.session.errored = false →
      live.session.isCurrent = true → live.session.setState.Fresh) :
    ({ run with live := step.1, flights := [] }.hold operation waiting
      step.2).Windowed carried := by
  refine .hold hnumbered hasked ?_ (fun stage hstage pass hpass => ?_) fun _ herrored hcurrent => ?_
  · rw [haside.sets]
    exact hsound
  · have hnone := haside.next stage hstage
    rw [stage.isPass_eq_isSome, hpass] at hnone
    cases hnone
  · have hbefore : live.session.errored = false := by
      cases hfailed : live.session.errored with
      | false => rfl
      | true => exact absurd (herrored.symm.trans (haside.errored hfailed)) Bool.noConfusion
    rw [haside.sets]
    exact hfresh hbefore herrored ((congrArg SetState.isCurrent haside.sets).symm.trans hcurrent)

/-- They do so by an operation that begins a pass. -/
theorem Windowed.pass {live : LiveView} {reentered : Bool} {step : LiveView × Next}
    (hstart : live.PassStart reentered step)
    (hplanned : ∀ now, live.Planned (Pass.plan (LiveView.loading live.session) reentered now))
    {operation : Nat} {waiting : List Nat}
    (hnumbered : ({ run with live := step.1, flights := [] }.hold operation waiting
      step.2).Numbered)
    (hasked : ({ run with live := step.1, flights := [] }.hold operation waiting step.2).Asked)
    (hsound : live.session.setState.Sound carried) :
    ({ run with live := step.1, flights := [] }.hold operation waiting
      step.2).Windowed carried := by
  have hsame {pass : Pass} (h : live.Planned pass) : (live.update LiveView.loading).Planned pass :=
    ⟨h.targets, h.range, h.window⟩
  cases hstart with
  | failed =>
    exact .aside (LiveView.failLoad_aside (live.update LiveView.loading) _) hnumbered hasked hsound
      fun _ herrored => absurd herrored Bool.noConfusion
  | evaluation =>
    refine .hold hnumbered hasked hsound (fun stage hstage pass hpass => ?_) fun hnone => ?_
    · cases hstage
      cases hpass
      exact hsame (hplanned _)
    · exact absurd (hnone _ rfl) Bool.noConfusion
  | detected =>
    refine .hold hnumbered hasked hsound (fun stage hstage pass hpass => ?_) fun hnone => ?_
    · cases hstage
      cases hpass
      exact hsame (hplanned _)
    · exact absurd (hnone _ rfl) Bool.noConfusion

/-- They do so when anomalies inside the range shown are put into them. -/
theorem Windowed.merge {pass : Pass} (hplanned : run.live.Planned pass)
    (hsound : run.live.session.setState.Sound carried) {choice : SliceChoice}
    {result : FetchResult} (hcovers : run.live.session.range.Covers result.anomalies)
    {step : LiveView × Next}
    (hend : LiveView.PassEnd pass (run.live.merged pass choice result) step)
    {operation : Nat} {waiting : List Nat}
    (hnumbered : ({ run with live := step.1, flights := [] }.hold operation waiting
      step.2).Numbered)
    (hasked : ({ run with live := step.1, flights := [] }.hold operation waiting step.2).Asked) :
    ({ run with live := step.1, flights := [] }.hold operation waiting
      step.2).Windowed carried := by
  have hsets := run.live.merged_setState pass choice result
  obtain ⟨hsound', hfresh⟩ := hsound.place hplanned.targets hcovers
  rw [← hsets] at hsound' hfresh
  cases hend with
  | missing =>
    exact .aside (LiveView.failLoad_aside _ _) hnumbered hasked hsound' fun _ herrored =>
      absurd herrored Bool.noConfusion
  | series =>
    exact .aside (LiveView.requestSeries_aside _ _) hnumbered hasked hsound' fun _ _ _ => hfresh
  | again hstate =>
    -- a reference is only fetched for a changed alert
    obtain ⟨hpreview, hedit⟩ : run.live.session.preview = true ∧ run.live.session.edit = true := by
      rcases hplanned.targets with hsame | ⟨hreplace, -⟩
      · have hresolves := run.live.session.setState.resolves
        rw [← hsame, hstate] at hresolves
        cases hresolves with
        | reference hpreview hedit => exact ⟨hpreview, hedit⟩
      · rw [hreplace] at hstate
        cases hstate
    rw [SetState.place_eq] at hsets
    have hpreview' := (congrArg SetState.preview hsets).trans hpreview
    have hedit' := (congrArg SetState.edit hsets).trans hedit
    exact .pass (LiveView.beginPass_start _ true) (LiveView.planned_second hpreview' hedit')
      hnumbered hasked hsound'

/-- They do so when a pass takes an answer. -/
theorem Windowed.take_pass (h : run.Windowed carried) (hinside : oracle.Inside) {operation : Nat}
    {stage : Stage} {waiting : List Nat} {id : Nat} {call : Call}
    (hflights : run.flights = [] ++ [⟨operation, stage, waiting⟩]) (hid : id ∈ waiting)
    (hcall : run.call? id = some call) (hstage : stage.isPass = true) :
    (run.taken [] ⟨operation, stage, waiting⟩ id (oracle id call)).Windowed carried := by
  have hmem := last_mem_flights hflights
  have hnumbered := (Numbered.keeps oracle operation []).take hflights hid hcall h.numbered
  have hasked := (Asked.keeps oracle operation []).take hflights hid hcall h.asked
  have hasks : stage.asks call := by
    obtain ⟨id', call', hwaiting, hcall', hasks⟩ := h.asked _ hmem hstage
    rw [show waiting = [id'] from hwaiting, List.mem_singleton] at hid
    rw [hid, hcall'] at hcall
    rwa [← Option.some.inj hcall]
  have hplanned := h.planned _ hmem
  have hanswer := run.live.resume_passAnswer (waiting.head? == some id) (oracle id call) hstage
  rw [taken_eq] at hnumbered hasked ⊢
  dsimp only at hnumbered hasked ⊢
  generalize run.live.resume (waiting.head? == some id) (oracle id call) stage = step
    at hanswer hnumbered hasked ⊢
  cases hanswer with
  | failed =>
    exact .aside (run.live.failLoad_aside _) hnumbered hasked h.sound fun _ herrored =>
      absurd herrored Bool.noConfusion
  | @reads pass =>
    refine .hold hnumbered hasked h.sound (fun stage hstage pass' hpass => ?_) fun hnone => ?_
    · cases hstage
      cases hpass
      exact hplanned pass rfl
    · exact absurd (hnone _ rfl) Bool.noConfusion
  | @evaluated pass evaluation choice hfound =>
    have hwindow : call.window? = some pass.window := Pass.window?_of_evaluationCall hasks
    have hcovers := (hplanned pass rfl).covers hwindow (.inl hasks)
      (hinside.evaluation hwindow hfound)
    exact .merge (hplanned pass rfl) h.sound hcovers (run.live.finishPass_end pass _ _) hnumbered
      hasked
  | @detected pass evaluation choice result hfound =>
    have hsame : call = pass.detectedCall := hasks
    have hwindow : call.window? = some pass.range := by
      rw [hsame]
      rfl
    have hcovers := (hplanned pass rfl).covers hwindow (.inr hsame)
      (hinside.anomalies hwindow hfound)
    exact .merge (hplanned pass rfl) h.sound hcovers (run.live.finishPass_end pass _ _) hnumbered
      hasked

/-- The sets stay accounted for while an operation goes on alone. -/
theorem Windowed.keeps (hinside : oracle.Inside) (operation : Nat) :
    Keeps oracle operation [] (Windowed carried) where
  take := by
    intro run stage waiting id call hflights hid hcall h
    cases hstage : stage.isPass with
    | true => exact h.take_pass hinside hflights hid hcall hstage
    | false =>
      have haside := run.live.resume_aside (waiting.head? == some id) (oracle id call) hstage
      refine .aside haside ((Numbered.keeps oracle operation []).take hflights hid hcall h.numbered)
        ((Asked.keeps oracle operation []).take hflights hid hcall h.asked) h.sound
        fun herrored _ hcurrent => h.settled (fun flight hflight => ?_) herrored hcurrent
      rw [hflights] at hflight
      rw [List.mem_singleton.1 hflight]
      exact hstage
  double := by
    intro run request id hflights h
    have hpasses : ∀ flight ∈ (run.doubled [] operation id request).flights,
        flight.stage.isPass = false := by
      intro flight hflight
      rcases mem_flights_doubled.1 hflight with hother | rfl
      · exact absurd hother List.not_mem_nil
      · rfl
    refine ⟨(Numbered.keeps oracle operation []).double hflights h.numbered,
      (Asked.keeps oracle operation []).double hflights h.asked, .inr ⟨_, rfl⟩, h.sound,
      fun flight hflight pass hpass => ?_, fun _ => h.settled fun flight hflight => ?_⟩
    · have hnone := hpasses flight hflight
      rw [flight.stage.isPass_eq_isSome, hpass] at hnone
      cases hnone
    · rw [hflights] at hflight
      rw [List.mem_singleton.1 hflight]
      rfl

/-- The range that a move selects. -/
def selected? (run : Run) : Move → Option AnalysisRange
  | .begin operation _ => operation.range? run.live
  | _ => none

/-- Whether a move begins no operation while another one is in flight. -/
def inTurn (run : Run) (move : Move) : Bool := !move.begins || run.flights.isEmpty

/-- The sets stay accounted for when an operation begins and no other is in flight. -/
theorem Windowed.started (h : run.Windowed carried) {operation : Operation}
    (hnone : run.flights = []) {carried' : List Anomaly → Prop}
    (hmono : operation.range? run.live = none → ∀ anomalies, carried anomalies → carried' anomalies)
    (hcarried : (operation.range? run.live).isSome = true → run.live.session.isCurrent = false →
      carried' run.live.session.old ∧ carried' run.live.session.new) :
    (run.started operation).Windowed carried' := by
  have hnumbered : (run.started operation).Numbered := (h.numbered.next _).hold _
  have hasked : (run.started operation).Asked := h.asked.started operation
  have hsound := operation.prepare_sound h.sound hmono hcarried
  have hidle : run.busy = false := by
    rw [busy, hnone]
    rfl
  have hopening := run.live.begin_setOpening run.busy operation
  unfold Run.started at hnumbered hasked ⊢
  rw [hidle] at hopening hnumbered hasked ⊢
  dsimp only at hnumbered hasked ⊢
  rw [hnone] at hnumbered hasked ⊢
  generalize run.live.begin false operation = step at hopening hnumbered hasked ⊢
  cases hopening with
  | load _ _ hsets =>
    rw [← hsets] at hsound
    exact .pass (LiveView.beginPass_start _ false) (LiveView.planned_first _) hnumbered hasked
      hsound
  | aside hquiet hsets haside =>
    rcases hquiet with hbusy | ⟨hloads, herrored⟩
    · exact absurd hbusy Bool.noConfusion
    · rw [← hsets] at hsound
      refine .aside haside hnumbered hasked hsound fun hbefore _ hcurrent => ?_
      have hcurrent' := (congrArg SetState.isCurrent hsets).symm.trans hcurrent
      rw [hsets]
      refine Operation.prepare_fresh hloads (herrored.symm.trans hbefore) h.sound.shown
        (h.settled (fun flight hflight => ?_) (herrored.symm.trans hbefore)) hcurrent'
      rw [hnone] at hflight
      exact absurd hflight List.not_mem_nil

/-- They do not depend on the clock, the notices and the remembered views. -/
theorem Windowed.beside (h : run.Windowed carried) (live : LiveView)
    (hsession : live.session = run.live.session) : { run with live := live }.Windowed carried where
  numbered := ⟨h.numbered.asked, h.numbered.once, h.numbered.operations⟩
  asked := h.asked
  alone := h.alone
  sound := by
    dsimp only
    rw [hsession]
    exact h.sound
  planned flight hflight pass hpass := by
    obtain ⟨htargets, hrange, hwindow⟩ := h.planned flight hflight pass hpass
    rw [← hsession] at htargets hrange hwindow
    exact ⟨htargets, hrange, hwindow⟩
  settled := by
    dsimp only
    rw [hsession]
    exact h.settled

/-- Every move of an operation in its turn leaves the sets accounted for: those of an outdated view
for which a range is selected are carried over. -/
theorem Windowed.step (h : run.Windowed carried) (hinside : oracle.Inside) {move : Move}
    (hturn : run.inTurn move = true) {carried' : List Anomaly → Prop}
    (hmono : run.selected? move = none → ∀ anomalies, carried anomalies → carried' anomalies)
    (hcarried : (run.selected? move).isSome = true → run.live.session.isCurrent = false →
      carried' run.live.session.old ∧ carried' run.live.session.new) :
    (run.step oracle move).Windowed carried' := by
  have hsame (hnone : run.selected? move = none) : run.Windowed carried' :=
    ⟨h.numbered, h.asked, h.alone, h.sound.mono (hmono hnone), h.planned, h.settled⟩
  cases move with
  | begin operation prompt =>
    have hnone : run.flights = [] := List.isEmpty_iff.1 (by simpa [inTurn, Move.begins] using hturn)
    have hkeeps : Keeps oracle run.begun run.flights (Windowed carried') := by
      rw [hnone]
      exact Windowed.keeps hinside run.begun
    exact hkeeps.begin prompt (h.started hnone hmono hcarried)
  | settle id prompt =>
    refine h.numbered.settle_induct prompt (hsame rfl) fun {before flight after} hflights _ => ?_
    obtain ⟨rfl, rfl⟩ : before = [] ∧ after = [] := by
      rcases h.alone with hnone | ⟨other, hother⟩
      · rw [hnone] at hflights
        simp at hflights
      · rw [hother] at hflights
        cases before <;> simp_all
    refine ⟨Windowed.keeps hinside _, ?_⟩
    have hrun : { run with flights := [] ++ [] ++ [flight] } = run := by
      rw [show [] ++ [] ++ [flight] = run.flights from hflights.symm]
    rw [hrun]
    exact hsame rfl
  | setClock now => exact (hsame rfl).beside _ rfl
  | drain => exact (hsame rfl).beside _ rfl
  | look => exact (hsame rfl).beside _ rfl

/-- A set that was carried over from another range: the view held it, as its old or as its new set,
when a range was selected while the sets were outdated, and no range was selected since. -/
def Carried (oracle : Oracle) (live : LiveView) (moves : List Move) (anomalies : List Anomaly) :
    Prop :=
  ∃ earlier select later, moves = earlier ++ select :: later ∧
    let before := after oracle { live := live } earlier
    (before.selected? select).isSome = true ∧ before.live.session.isCurrent = false ∧
      Along oracle (fun run move => run.selected? move = none) (before.step oracle select) later ∧
      (anomalies = before.live.session.old ∨ anomalies = before.live.session.new)

/-- What is carried over stays so until another range is selected. -/
theorem Carried.concat {live : LiveView} {moves : List Move} {last : Move}
    (hnone : (after oracle { live := live } moves).selected? last = none)
    (anomalies : List Anomaly) (h : Carried oracle live moves anomalies) :
    Carried oracle live (moves ++ [last]) anomalies := by
  obtain ⟨earlier, select, later, rfl, hselected, houtdated, hlater, hheld⟩ := h
  refine ⟨earlier, select, later ++ [last], by simp, hselected, houtdated, ?_, hheld⟩
  rw [after_append] at hnone
  exact along_concat.2 ⟨hlater, hnone⟩

/-- A range that is selected while the sets are outdated carries both over. -/
theorem Carried.select {live : LiveView} {moves : List Move} {last : Move}
    (hselected : ((after oracle { live := live } moves).selected? last).isSome = true)
    (houtdated : (after oracle { live := live } moves).live.session.isCurrent = false) :
    Carried oracle live (moves ++ [last]) (after oracle { live := live } moves).live.session.old ∧
      Carried oracle live (moves ++ [last])
        (after oracle { live := live } moves).live.session.new :=
  ⟨⟨moves, last, [], rfl, hselected, houtdated, trivial, .inl rfl⟩,
    ⟨moves, last, [], rfl, hselected, houtdated, trivial, .inr rfl⟩⟩

/-- Through every run in which operations take turns the sets are accounted for. -/
theorem windowed_after {options : ViewOptions} {window now : Int} {zone : Zone}
    {notices : NoticeBoard} {live : LiveView}
    (hopen : LiveView.open? options window now zone notices = .ok live)
    (hinside : oracle.Inside) {moves : List Move}
    (hturn : Along oracle (fun run move => run.inTurn move = true) { live := live } moves) :
    (after oracle { live := live } moves).Windowed (Carried oracle live moves) := by
  -- from the last move back, since what is carried over is known by the moves before
  induction moves using List.reverseRecOn with
  | nil =>
    have hopened := LiveView.open?_setState hopen
    have hnone : ∀ flight, flight ∉ (after oracle { live := live } []).flights :=
      fun _ => List.not_mem_nil
    refine ⟨(atRest_new live).numbered, fun flight hflight => absurd hflight (hnone flight),
      .inl rfl, ?_, fun flight hflight => absurd hflight (hnone flight), fun _ _ _ => ?_⟩
    · show live.session.setState.Sound _
      rw [hopened]
      exact ⟨id, fun _ => rfl, fun _ _ _ => rfl, fun _ => .inl (AnalysisRange.covers_nil _),
        fun _ => .inl (AnalysisRange.covers_nil _)⟩
    · show live.session.setState.Fresh
      rw [hopened]
      exact ⟨AnalysisRange.covers_nil _, fun _ => AnalysisRange.covers_nil _⟩
  | append_singleton moves last ih =>
    obtain ⟨hmoves, hlast⟩ := along_concat.1 hturn
    rw [after_append]
    exact (ih hmoves).step hinside hlast Carried.concat Carried.select

/-- The sets belong to the range shown. Take a backend that finds anomalies only inside the window
it is asked for, and any operations begun one after the other. Whenever no operation is in flight,
the view is not errored, and the sets are current, all anomalies of the new set lie inside the range
shown. So do all anomalies of the old set, unless the view previews a draft whose range was last
selected while it was outdated: then the old set may be one of those held at that time. -/
theorem sets_inWindow {options : ViewOptions} {window now : Int} {zone : Zone}
    {notices : NoticeBoard} {live : LiveView}
    (hopen : LiveView.open? options window now zone notices = .ok live)
    (hinside : oracle.Inside) {moves : List Move}
    (hturn : Along oracle (fun run move => run.inTurn move = true) { live := live } moves) :
    let run := after oracle { live := live } moves
    let session := run.live.session
    run.flights = [] → session.errored = false → session.isCurrent = true →
      (∀ anomaly ∈ session.new, anomaly.Within session.range) ∧
        ((∀ anomaly ∈ session.old, anomaly.Within session.range) ∨
          session.preview = true ∧ Carried oracle live moves session.old) := by
  intro run session hflights herrored hcurrent
  have hrun : run.Windowed (Carried oracle live moves) := windowed_after hopen hinside hturn
  have hnone : ∀ flight ∈ run.flights, flight.stage.isPass = false := by
    rw [hflights]
    exact fun flight hflight => absurd hflight List.not_mem_nil
  have hfresh := hrun.settled hnone herrored hcurrent
  refine ⟨hfresh.new, ?_⟩
  cases hpreview : session.preview with
  | false => exact .inl (hfresh.old hpreview)
  | true => exact (hrun.sound.old hpreview).imp_right fun hcarried => ⟨rfl, hcarried⟩

/-- A range is selected between two previews of a draft that is current: the sets are emptied, and
what is found afterwards lies inside the new range. -/
theorem sets_inWindow_new_range :
    let options : ViewOptions := {
      alertId := 7, preview := true, alertYaml := some "live", savedYaml := some "saved"
      range := some ⟨0, 1000⟩ }
    let live : LiveView := {
      zone := default, now := 2000, session := {
        alertId := 7, preview := true, edit := false, granularity := none
        dimensionExploration := false, alertYaml := some "live", savedYaml := some "saved"
        range := ⟨0, 1000⟩, duration := .custom, baselineOffset := .predicted } }
    let found (window : AnalysisRange) : List Anomaly :=
      [{ metricUrn := "thirdeye:metric:7", startTime := window.start, endTime := window.stop }]
    let oracle : Oracle := fun _ call => .ok (.evaluation {
      anomalies := (call.window?.map found).getD []
      predictions := [{ detectorName := "mean:rule", metricUrn := "thirdeye:metric:7" }]
      diagnostics := [("0", .obj [("thirdeye:metric:7", .null)])] })
    let always : Nat → Call → Bool := fun _ _ => true
    let moves : List Move :=
      [.begin .requestPreview always, .begin (.selectRange 0 500 .custom) always,
        .begin .requestPreview always]
    let run := after oracle { live := live } moves
    let session := run.live.session
    LiveView.open? options 172800000 2000 default .empty = .ok live ∧ oracle.Inside ∧
      Along oracle (fun run move => run.inTurn move = true) { live := live } moves ∧
      session.old = found ⟨0, 500⟩ ∧ session.new = found ⟨0, 500⟩ ∧
      (∀ anomaly ∈ session.new, anomaly.Within session.range) ∧
        ((∀ anomaly ∈ session.old, anomaly.Within session.range) ∨
          session.preview = true ∧ Carried oracle live moves session.old) := by
  intro options live found oracle always moves run session
  have hopen : LiveView.open? options 172800000 2000 default .empty = .ok live := rfl
  have hinside : oracle.Inside := by
    intro id call window reply hwindow hreply anomaly hanomaly
    rw [← Except.ok.inj hreply] at hanomaly
    simp only [Reply.found, hwindow, Option.map_some, Option.getD_some, found,
      List.mem_singleton] at hanomaly
    rw [hanomaly]
    exact ⟨Int.le_refl _, Int.le_refl _⟩
  have hturn : Along oracle (fun run move => run.inTurn move = true) { live := live } moves := by
    dsimp only [moves, live, found, oracle, always]
    decide +kernel
  have hsettled : run.flights.isEmpty = true ∧ session.errored = false ∧
      session.isCurrent = true := by
    dsimp only [session, run, moves, live, found, oracle, always]
    decide +kernel
  refine ⟨hopen, hinside, hturn, ?_, ?_, sets_inWindow hopen hinside hturn
    (List.isEmpty_iff.1 hsettled.1) hsettled.2.1 hsettled.2.2⟩
  · dsimp only [session, run, moves, live, found, oracle, always]
    decide +kernel
  · dsimp only [session, run, moves, live, found, oracle, always]
    decide +kernel

/-- If the configuration is changed first, the range is only remembered: the next preview compares
what it finds there with what was found in the range before. -/
theorem sets_inWindow_outdated_range :
    let options : ViewOptions := {
      alertId := 7, preview := true, alertYaml := some "live", savedYaml := some "saved"
      range := some ⟨0, 1000⟩ }
    let live : LiveView := {
      zone := default, now := 2000, session := {
        alertId := 7, preview := true, edit := false, granularity := none
        dimensionExploration := false, alertYaml := some "live", savedYaml := some "saved"
        range := ⟨0, 1000⟩, duration := .custom, baselineOffset := .predicted } }
    let first : Anomaly := { metricUrn := "thirdeye:metric:7", startTime := 600, endTime := 700 }
    let second : Anomaly := { metricUrn := "thirdeye:metric:7", startTime := 100, endTime := 200 }
    let oracle : Oracle := fun id call => .ok (.evaluation {
      anomalies := [if id = 1 then first else second].filter fun anomaly =>
        call.window?.any fun window => decide (anomaly.Within window)
      predictions := [{ detectorName := "mean:rule", metricUrn := "thirdeye:metric:7" }]
      diagnostics := [("0", .obj [("thirdeye:metric:7", .null)])] })
    let always : Nat → Call → Bool := fun _ _ => true
    let moves : List Move :=
      [.begin .requestPreview always, .begin (.setYaml "edited") always,
        .begin (.selectRange 0 500 .custom) always, .begin .requestPreview always]
    let run := after oracle { live := live } moves
    let session := run.live.session
    LiveView.open? options 172800000 2000 default .empty = .ok live ∧ oracle.Inside ∧
      Along oracle (fun run move => run.inTurn move = true) { live := live } moves ∧
      run.flights.isEmpty = true ∧ session.errored = false ∧ session.isCurrent = true ∧
      session.old = [first] ∧ session.new = [second] ∧ ¬ first.Within session.range := by
  intro options live first second oracle always moves run session
  refine ⟨rfl, ?_, ?_⟩
  · intro id call window reply hwindow hreply anomaly hanomaly
    rw [← Except.ok.inj hreply] at hanomaly
    have hwithin := (List.mem_filter.1 hanomaly).2
    simpa [hwindow] using hwithin
  · dsimp only [session, run, moves, live, first, second, oracle, always]
    decide +kernel

end Run

end AlertDetail
