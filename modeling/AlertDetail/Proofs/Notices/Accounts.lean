import AlertDetail.Proofs.Calendar.Display
import AlertDetail.Proofs.Loads.Failures
import AlertDetail.Proofs.Run.Endings
import AlertDetail.Proofs.Sets.Window

/-!
# Accounts of notices

Where operations are begun one after the other, the notices that were collected and those that are
left are the ones that the operations told, in order: one for every load that failed, one for every
request for series that failed, one for every report that was accepted, and none for any other
operation. The notices may be collected at any time, also while an operation is in flight.
-/

namespace AlertDetail

/-- A session in which a range is shown, with the sets of a draft emptied. -/
def Session.showing (session : Session) (range : AnalysisRange) (duration : RangePreset) :
    Session :=
  let shown := { session with range := range, duration := duration }
  if session.preview then shown.clear else shown

namespace Operation

/-- The session on which an operation begins a load, if it begins one. -/
def origin (live : LiveView) : Operation → Session
  | selectRange first last duration => live.session.showing ⟨first, last⟩ duration
  | selectPreset preset =>
    (preset.range? live.now live.zone).elim live.session fun range =>
      live.session.showing range preset
  | operation => operation.opened live.session

/-- Whether an operation requests series, other than as the last part of a load. -/
def requests (live : LiveView) : Operation → Bool
  | selectRule _ => true
  | selectDimension label => (Slice.resolve? live.session.metricUrns label).isSome
  | selectBaseline offset => live.session.baselineOffset ≠ offset
  | _ => false

/-- Whether an operation reports a missed anomaly. -/
def isReport : Operation → Bool
  | submitReport _ => true
  | _ => false

/-- Whether an operation that came out in a way told the user. -/
def tells (live : LiveView) (operation : Operation) : Result → Bool
  | .loaded outcome => outcome == .failed
  | .done => operation.isReport
  | .changed _ => false
  | .refused _ => operation.requests live

/-- An operation that requests series reports nothing. -/
theorem isReport_of_requests {live : LiveView} {operation : Operation}
    (h : operation.requests live = true) : operation.isReport = false := by
  cases operation <;> first | rfl | cases h

/-- The load that an operation begins in a run, if it begins one. -/
def load (before : Run) (operation : Operation) : Load where
  operation := before.begun
  made := before.calls.length
  now := before.live.now
  origin := operation.origin before.live
  notices := before.live.notices

end Operation

namespace LiveView

/-- How an operation begins while no load is in flight, as far as notices are concerned: it loads,
requests series, sends a report, or ends without telling anything. -/
inductive Beginning (live : LiveView) : Operation → LiveView × Next → Prop
  | load {operation : Operation} {prepared : LiveView} (hloads : operation.loads live = true)
    (hsession : loading prepared.session = loading (operation.origin live))
    (hnow : prepared.now = live.now) (hnotices : prepared.notices = live.notices) :
    Beginning live operation (prepared.beginPass false)
  | series {operation : Operation} {prepared : LiveView} {purpose : Purpose}
    (hrequests : operation.requests live = true) (hpurpose : purpose ≠ .load)
    (hnotices : prepared.notices = live.notices) :
    Beginning live operation (prepared.requestSeries purpose)
  | report {form : ReportForm} {prepared : LiveView} {report : Report} {call : Call}
    (hcheck : form.check = .ok report) (hzone : prepared.zone = live.zone)
    (hnotices : prepared.notices = live.notices) :
    Beginning live (.submitReport form) (prepared, .ask call (.report report))
  | ended {operation : Operation} {prepared : LiveView} {result : Result}
    (htells : operation.tells live result = false) (hnotices : prepared.notices = live.notices) :
    Beginning live operation (prepared, .finish result)

variable {live prepared : LiveView} {operation : Operation}

/-- A load that a failure suppresses begins unless the last one failed. -/
theorem beginTriggered_beginning (hloads : operation.loads live = !live.session.errored)
    (herrored : prepared.session.errored = live.session.errored)
    (hsession : loading prepared.session = loading (operation.origin live))
    (hnow : prepared.now = live.now) (hnotices : prepared.notices = live.notices) :
    Beginning live operation (prepared.beginTriggered false) := by
  unfold beginTriggered
  rw [herrored]
  cases hfailed : live.session.errored with
  | true => exact .ended rfl hnotices
  | false =>
    rw [hfailed] at hloads
    exact .load hloads hsession hnow hnotices

/-- A selected range is shown, and loaded if the details that are shown belong to the configuration
and the last load did not fail. -/
theorem showRange_beginning {range : AnalysisRange} {duration : RangePreset}
    (hloads : operation.loads live = (live.session.setState.follows && !live.session.errored))
    (horigin : operation.origin live = live.session.showing range duration) :
    Beginning live operation (live.showRange false range duration) := by
  unfold showRange
  dsimp only [update]
  have hfollows : (live.session.showDetails && live.session.isCurrent) =
      live.session.setState.follows := rfl
  rw [hfollows]
  cases hshown : live.session.setState.follows with
  | false => exact .ended rfl rfl
  | true =>
    rw [hshown, Bool.true_and] at hloads
    rw [if_pos rfl]
    unfold Session.showing at horigin
    cases hdraft : live.session.preview with
    | true =>
      rw [hdraft] at horigin
      exact beginTriggered_beginning hloads rfl (by rw [horigin]; rfl) rfl rfl
    | false =>
      rw [hdraft] at horigin
      exact beginTriggered_beginning hloads rfl (by rw [horigin]; rfl) rfl rfl

/-- An operation begins in one of these ways. -/
theorem begin_beginning (live : LiveView) (operation : Operation) :
    Beginning live operation (live.begin false operation) := by
  cases operation with
  | start =>
    unfold begin
    dsimp only
    cases hpreview : live.session.preview with
    | true => exact .ended rfl rfl
    | false => exact .load (by simp [Operation.loads, hpreview]) rfl rfl rfl
  | requestPreview => exact .load rfl rfl rfl rfl
  | triggerFetch => exact beginTriggered_beginning rfl rfl rfl rfl rfl
  | setYaml yaml => exact .ended rfl rfl
  | selectRule rule => exact .series rfl Purpose.noConfusion rfl
  | selectDimension label =>
    unfold begin
    dsimp only
    cases hslice : Slice.resolve? live.session.metricUrns label with
    | none => exact .ended (by simp [Operation.tells, Operation.requests, hslice]) rfl
    | some urn => exact .series (by simp [Operation.requests, hslice]) Purpose.noConfusion rfl
  | selectBaseline offset =>
    unfold begin
    dsimp only
    split
    · exact .ended rfl rfl
    · next hoffset => exact .series (by simpa [Operation.requests]) Purpose.noConfusion rfl
  | selectRange start stop duration =>
    unfold begin selectRange
    dsimp only
    cases hnew : AnalysisRange.new start stop with
    | error cause => exact .ended rfl rfl
    | ok range =>
      obtain ⟨-, rfl⟩ := AnalysisRange.new_eq_ok_iff.1 hnew
      exact showRange_beginning (by simp [Operation.loads, Operation.range?, hnew, Except.toOption])
        rfl
  | selectPreset preset =>
    unfold begin
    dsimp only
    cases hrange : preset.range? live.now live.zone with
    | none => exact .ended rfl rfl
    | some range =>
      dsimp only
      unfold selectRange
      rw [RangePreset.new_of_range? hrange]
      refine showRange_beginning (by simp [Operation.loads, Operation.range?, hrange]) ?_
      simp only [Operation.origin, hrange, Option.elim_some]
  | submitReport form =>
    unfold begin submit
    dsimp only
    split
    · next hcheck _ => exact .report hcheck rfl rfl
    · exact .ended rfl rfl
    · exact .ended rfl rfl

end LiveView

namespace Load

variable {oracle : Oracle} {load : Load} {session : Session} {pass : Pass} {made : Nat}

/-- The passes of a load do not depend on what was told before it. -/
theorem Reaches.of_notices (board : NoticeBoard) (h : load.Reaches oracle session pass made) :
    { load with notices := board }.Reaches oracle session pass made := by
  cases h with
  | first => exact .first
  | second present hfetched hstate => exact .second present hfetched hstate

/-- Nor does its failure. -/
theorem Fails.of_notices {call? : Nat → Option Call} {cause : ChartError} {last : Session}
    (board : NoticeBoard) (h : load.Fails oracle call? cause last) :
    { load with notices := board }.Fails oracle call? cause last := by
  cases h with
  | first hfirst => exact .first hfirst
  | second hfirst hstate hempty hsecond => exact .second hfirst hstate hempty hsecond
  | slice hpass hfetched hlast hslice =>
    exact .slice (hpass.of_notices board) hfetched hlast hslice
  | series hpass hfetched hlast hslice hid hcall hseries hanswer =>
    exact .series (hpass.of_notices board) hfetched hlast hslice hid hcall hseries hanswer

/-- A failure stays explained when more calls are made. -/
theorem Fails.mono {call? later? : Nat → Option Call} {cause : ChartError} {last : Session}
    (hlater : ∀ id call, call? id = some call → later? id = some call)
    (h : load.Fails oracle call? cause last) : load.Fails oracle later? cause last := by
  cases h with
  | first hfirst => exact .first hfirst
  | second hfirst hstate hempty hsecond => exact .second hfirst hstate hempty hsecond
  | slice hpass hfetched hlast hslice => exact .slice hpass hfetched hlast hslice
  | series hpass hfetched hlast hslice hid hcall hseries hanswer =>
    exact .series hpass hfetched hlast hslice hid (hlater _ _ hcall) hseries hanswer

/-- While a load is in flight it may have told nothing above any other notices as well. -/
theorem Progress.of_notices {run : Run} (h : Progress oracle load run) (hflights : run.flights ≠ [])
    {live : LiveView} (hlive : live.session = run.live.session) :
    Progress oracle { load with notices := live.notices } { run with live := live } := by
  cases h with
  | evaluation hpass hvisible hcall hflights' hlength hmade hsession =>
    exact .evaluation (hpass.of_notices _) hvisible hcall hflights' hlength hmade
      (hlive.trans hsession) rfl
  | detected hpass hremains hcount hflights' hlength hmade hsession =>
    exact .detected (hpass.of_notices _) hremains hcount hflights' hlength hmade
      (hlive.trans hsession) rfl
  | series hpass hfetched hlast hslice hrequest hpurpose hflights' hlength hmade hsession =>
    exact .series (hpass.of_notices _) hfetched hlast hslice hrequest hpurpose hflights' hlength
      hmade ((congrArg Session.failed hlive).trans hsession) rfl
  | ended _ hnone => exact absurd hnone hflights
  | failed _ hnone => exact absurd hnone hflights

end Load

namespace Run

/-- What is seen of moves, each in the run in which it is made. -/
def seen {α : Type} (oracle : Oracle) (sight : Run → Move → Option α) : Run → List Move → List α
  | _, [] => []
  | run, move :: rest => (sight run move).toList ++ seen oracle sight (run.step oracle move) rest

/-- The operation that a move begins, with the run in which it does. -/
def beginning? (run : Run) : Move → Option (Run × Operation)
  | .begin operation _ => some (run, operation)
  | _ => none

/-- The notices that a move collects. -/
def collection? (run : Run) : Move → Option (List Notice)
  | .drain => some run.drain.1
  | _ => none

/-- The operations that moves begin, each with the run in which it does. -/
def beginnings (oracle : Oracle) : Run → List Move → List (Run × Operation) :=
  seen oracle beginning?

/-- The notices that moves collect, list by list. -/
def collected (oracle : Oracle) : Run → List Move → List (List Notice) := seen oracle collection?

/-- The last move is seen after the others. -/
theorem seen_concat {α : Type} (oracle : Oracle) (sight : Run → Move → Option α) (run : Run)
    (moves : List Move) (last : Move) :
    seen oracle sight run (moves ++ [last]) =
      seen oracle sight run moves ++ (sight (run.after oracle moves) last).toList := by
  induction moves generalizing run with
  | nil => simp [seen, after]
  | cons move rest ih =>
    have hafter : run.after oracle (move :: rest) = (run.step oracle move).after oracle rest := rfl
    simp only [List.cons_append, seen, ih, hafter, List.append_assoc]

end Run

/-- An operation that came out. -/
structure Account where
  /-- The run in which it began. -/
  before : Run
  /-- The operation. -/
  operation : Operation
  /-- How it came out. -/
  result : Result
  /-- What it told the user. -/
  notices : List Notice

namespace Account

/-- The operation with the run in which it began. -/
def beginning (account : Account) : Run × Operation := (account.before, account.operation)

/-- The result under the number of the operation. -/
def entry (account : Account) : Nat × Result := (account.before.begun, account.result)

/-- The stretch of time that an accepted report told is the one that the session reports. -/
def Reported (account : Account) (session : Session) : Prop :=
  account.operation.isReport = true → account.result = .done →
    ∃ stretch, account.notices = [⟨false, "Anomaly reported", stretch⟩] ∧
      session.report.reportedRange = some stretch

/-- An operation told what it owes: a failed load its cause, a failed request for series the cause
with which the operation came out, an accepted report the stretch of time reported, from one written
end to the other, and every other operation nothing. -/
inductive Fair (oracle : Oracle) (call? : Nat → Option Call) : Account → Prop
  | load {before : Run} {operation : Operation} {cause : ChartError} {last : Session}
    (hloads : operation.loads before.live = true)
    (hfails : (operation.load before).Fails oracle call? cause last) :
    Fair oracle call? ⟨before, operation, .loaded .failed, [cause.notice]⟩
  | series {before : Run} {operation : Operation} {cause : ChartError}
    (hrequests : operation.requests before.live = true) :
    Fair oracle call? ⟨before, operation, .refused cause, [cause.notice]⟩
  | report {before : Run} {form : ReportForm} {report : Report} {first last : String}
    (hcheck : form.check = .ok report)
    (hfirst : before.live.zone.Written report.startTime first)
    (hlast : before.live.zone.Written report.endTime last) :
    Fair oracle call? ⟨before, .submitReport form, .done,
      [⟨false, "Anomaly reported", first ++ " - " ++ last⟩]⟩
  | quiet {before : Run} {operation : Operation} {result : Result}
    (htells : operation.tells before.live result = false) :
    Fair oracle call? ⟨before, operation, result, []⟩

/-- There is nothing to agree on for an operation that came out in another way. -/
theorem Reported.of_ne_done {account : Account} (session : Session) (h : account.result ≠ .done) :
    account.Reported session :=
  fun _ hdone => absurd hdone h

/-- It stays so when more calls are made. -/
theorem Fair.mono {oracle : Oracle} {call? later? : Nat → Option Call} {account : Account}
    (hlater : ∀ id call, call? id = some call → later? id = some call)
    (h : account.Fair oracle call?) : account.Fair oracle later? := by
  cases h with
  | load hloads hfails => exact .load hloads (hfails.mono hlater)
  | series hrequests => exact .series hrequests
  | report hcheck hfirst hlast => exact .report hcheck hfirst hlast
  | quiet htells => exact .quiet htells

end Account

namespace Run

/-- An operation that began in a run and goes on alone, above notices that are up: it loads,
requests series, waits for the reply to a report, or ended and told what it owes. -/
inductive Pending (oracle : Oracle) (before : Run) (operation : Operation) (board : List Notice)
    (run : Run) : Prop
  | load (hloads : operation.loads before.live = true)
    (hgoing : Going before.begun .load before.results (.kept board) run)
    (hprogress : Load.Progress oracle { operation.load before with notices := .kept board } run)
  | series {purpose : Purpose} (hrequests : operation.requests before.live = true)
    (hpurpose : purpose ≠ .load)
    (hgoing : Going before.begun purpose before.results (.kept board) run)
  | report {form : ReportForm} {report : Report} {waiting : List Nat}
    (hoperation : operation = .submitReport form) (hcheck : form.check = .ok report)
    (hflights : run.flights = [⟨before.begun, .report report, waiting⟩])
    (hresults : run.results = before.results) (hnotices : run.live.notices = .kept board)
    (hzone : run.live.zone = before.live.zone)
  | ended {result : Result} {notices : List Notice} (hflights : run.flights = [])
    (hresults : run.results = before.results ++ [(before.begun, result)])
    (hnotices : run.live.notices = .kept (board ++ notices))
    (hfair : Account.Fair oracle run.call? ⟨before, operation, result, notices⟩)
    (hreported : Account.Reported ⟨before, operation, result, notices⟩ run.live.session)

variable {oracle : Oracle} {before run : Run} {operation : Operation} {board : List Notice}

/-- An operation that ended told what it owes, and a report what the session reports. -/
theorem Pending.account (h : Pending oracle before operation board run) (hbefore : before.Numbered)
    (hnone : run.flights = []) :
    ∃ result notices, run.results = before.results ++ [(before.begun, result)] ∧
      run.live.notices = .kept (board ++ notices) ∧
      Account.Fair oracle run.call? ⟨before, operation, result, notices⟩ ∧
      Account.Reported ⟨before, operation, result, notices⟩ run.live.session := by
  cases h with
  | load hloads hgoing hprogress =>
    cases hgoing with
    | waits hflights => cases hnone.symm.trans hflights
    | complete _ hresults hnotices =>
      exact ⟨_, [], hresults, by rw [hnotices, List.append_nil], .quiet rfl,
        .of_ne_done _ Result.noConfusion⟩
    | @failed cause _ hresults hposted =>
      cases hprogress with
      | evaluation _ _ _ hflights => cases hnone.symm.trans hflights
      | detected _ _ _ hflights => cases hnone.symm.trans hflights
      | series _ _ _ _ _ _ hflights => cases hnone.symm.trans hflights
      | @ended outcome houtcome _ hresult =>
        -- the only result under its number is the failure
        rw [hresults, List.mem_append, List.mem_singleton] at hresult
        rcases hresult with hearlier | hsame
        · have hmem : before.begun ∈ before.results.map (·.1) := List.mem_map_of_mem hearlier
          exact absurd (hbefore.lt_begun (List.mem_append_right _ hmem)) (Nat.lt_irrefl _)
        · exact absurd (Result.loaded.inj (Prod.mk.inj hsame).2) houtcome
      | failed hfails _ _ hnotices =>
        exact ⟨_, _, hresults, hnotices, .load hloads (hfails.of_notices before.live.notices),
          .of_ne_done _ Result.noConfusion⟩
  | @series purpose hrequests hpurpose hgoing =>
    cases hgoing with
    | waits hflights => cases hnone.symm.trans hflights
    | complete _ hresults hnotices =>
      have hquiet := Operation.isReport_of_requests hrequests
      refine ⟨_, [], hresults, by rw [hnotices, List.append_nil], .quiet ?_,
        fun hreport => absurd (hreport.symm.trans hquiet) Bool.noConfusion⟩
      cases purpose with
      | load => exact absurd rfl hpurpose
      | selection => exact hquiet
      | baseline => rfl
    | @failed cause _ hresults hposted =>
      have hfailure : purpose.failure cause = .refused cause := by
        cases purpose with
        | load => exact absurd rfl hpurpose
        | selection => rfl
        | baseline => rfl
      rw [hfailure] at hresults
      exact ⟨_, _, hresults, hposted, .series hrequests, .of_ne_done _ Result.noConfusion⟩
  | report _ _ hflights => cases hnone.symm.trans hflights
  | ended _ hresults hnotices hfair hreported =>
    exact ⟨_, _, hresults, hnotices, hfair, hreported⟩

/-- While it is in flight it told nothing and has no result. -/
theorem Pending.waits (h : Pending oracle before operation board run) (hsome : run.flights ≠ []) :
    run.results = before.results ∧ run.live.notices = .kept board ∧
      ∃ stage waiting, run.flights = [⟨before.begun, stage, waiting⟩] := by
  have hgoes {purpose : Purpose}
      (hgoing : Going before.begun purpose before.results (.kept board) run) :
      run.results = before.results ∧ run.live.notices = .kept board ∧
        ∃ stage waiting, run.flights = [⟨before.begun, stage, waiting⟩] := by
    cases hgoing with
    | waits hflights _ hresults hnotices => exact ⟨hresults, hnotices, _, _, hflights⟩
    | complete hflights => exact absurd hflights hsome
    | failed hflights => exact absurd hflights hsome
  cases h with
  | load _ hgoing => exact hgoes hgoing
  | series _ _ hgoing => exact hgoes hgoing
  | report _ _ hflights hresults hnotices => exact ⟨hresults, hnotices, _, _, hflights⟩
  | ended hflights => exact absurd hflights hsome

/-- An operation tells what it owes by taking an answer, or goes on. -/
theorem Pending.keeps : Keeps oracle before.begun [] (Pending oracle before operation board) where
  take := by
    intro run stage waiting id call hflights hid hcall h
    cases h with
    | load hloads hgoing hprogress =>
      exact .load hloads ((Going.keeps oracle).take hflights hid hcall hgoing)
        (hprogress.take hflights hid hcall)
    | series hrequests hpurpose hgoing =>
      exact .series hrequests hpurpose ((Going.keeps oracle).take hflights hid hcall hgoing)
    | report hoperation hcheck hflights' hresults hnotices hzone =>
      subst hoperation
      cases hflights.symm.trans hflights'
      rw [taken_eq, LiveView.resume, LiveView.takeReport]
      cases (oracle id call).accepted with
      | ok reply =>
        refine .ended rfl (congrArg (· ++ [_]) hresults)
          (congrArg (NoticeBoard.post _) hnotices) ?_ fun _ _ => ⟨_, rfl, rfl⟩
        rw [hzone]
        exact .report hcheck (Zone.written_iff.2 rfl) (Zone.written_iff.2 rfl)
      | error cause =>
        have hkept : run.live.notices = .kept (board ++ []) := by rw [hnotices, List.append_nil]
        exact .ended rfl (congrArg (· ++ [_]) hresults) hkept (.quiet rfl)
          (.of_ne_done _ Result.noConfusion)
    | ended hflights' => cases hflights.symm.trans hflights'
  double := by
    intro run request id hflights h
    cases h with
    | load hloads hgoing hprogress =>
      exact .load hloads ((Going.keeps oracle).double hflights hgoing) (hprogress.double hflights)
    | series hrequests hpurpose hgoing =>
      exact .series hrequests hpurpose ((Going.keeps oracle).double hflights hgoing)
    | report _ _ hflights' => cases hflights.symm.trans hflights'
    | ended hflights' => cases hflights.symm.trans hflights'

/-- An operation that begins alone told what it owes, or goes on. -/
theorem Pending.started (halone : run.flights = []) (hnotices : run.live.notices = .kept board)
    (operation : Operation) : Pending oracle run operation board (run.started operation) := by
  rw [run.started_alone halone]
  have hbeginning := run.live.begin_beginning operation
  generalize run.live.begin false operation = step at hbeginning ⊢
  cases hbeginning with
  | @load _ prepared hloads hsession hnow hsame =>
    have hfirst : { operation.load run with notices := .kept board }.Reaches oracle
        (operation.origin run.live)
        (.plan (LiveView.loading (operation.origin run.live)) false prepared.now)
        run.calls.length := by
      rw [hnow]
      exact .first
    have hturn := prepared.beginPass_turn false
    exact .load hloads (.hold hturn rfl (hsame.trans hnotices) [])
      (Load.Progress.beginPass hfirst hsession (hsame.trans hnotices) [])
  | @series _ prepared purpose hrequests hpurpose hsame =>
    exact .series hrequests hpurpose
      (.hold (prepared.requestSeries_turn purpose) rfl (hsame.trans hnotices) [])
  | report hcheck hzone hsame =>
    exact .report rfl hcheck rfl rfl (hsame.trans hnotices) hzone
  | ended htells hsame =>
    have hkept : run.live.notices = .kept (board ++ []) := by rw [hnotices, List.append_nil]
    refine .ended rfl rfl (hsame.trans hkept) (.quiet htells) fun hreport hdone => ?_
    obtain rfl : _ = Result.done := hdone
    exact absurd (hreport.symm.trans htells) Bool.noConfusion

/-- While it is in flight the clock and the remembered views may change, and notices be
collected. -/
theorem Pending.beside (h : Pending oracle before operation board run) (hsome : run.flights ≠ [])
    {live : LiveView} {board' : List Notice} (hsession : live.session = run.live.session)
    (hzone : live.zone = run.live.zone) (hnotices : live.notices = .kept board') :
    Pending oracle before operation board' { run with live := live } := by
  have hgoes {purpose : Purpose}
      (hgoing : Going before.begun purpose before.results (.kept board) run) :
      Going before.begun purpose before.results (.kept board') { run with live := live } := by
    cases hgoing with
    | waits hflights hstage hresults => exact .waits hflights hstage hresults hnotices
    | complete hflights => exact absurd hflights hsome
    | failed hflights => exact absurd hflights hsome
  cases h with
  | load hloads hgoing hprogress =>
    have hprogress' := hprogress.of_notices hsome hsession
    rw [hnotices] at hprogress'
    exact .load hloads (hgoes hgoing) hprogress'
  | series hrequests hpurpose hgoing => exact .series hrequests hpurpose (hgoes hgoing)
  | report hoperation hcheck hflights hresults _ hzone' =>
    exact .report hoperation hcheck hflights hresults hnotices (hzone.trans hzone')
  | ended hflights => exact absurd hflights hsome

/-- The accounts of the operations that came out, given those that were begun and the notices that
were collected: nothing is in flight, or one operation that told nothing yet. -/
inductive Ledger (oracle : Oracle) (begun : List (Run × Operation)) (gathered : List Notice)
    (accounts : List Account) (run : Run) : Prop
  | idle {board : List Notice} (hnone : run.flights = [])
    (hnotices : run.live.notices = .kept board) (hresults : run.results = accounts.map (·.entry))
    (hfair : ∀ account ∈ accounts, account.Fair oracle run.call?)
    (htold : gathered ++ board = accounts.flatMap (·.notices))
    (hbegun : begun = accounts.map (·.beginning))
    (hlast : ∀ account, accounts.getLast? = some account → account.Reported run.live.session)
  | busy {before : Run} {operation : Operation} {board : List Notice} (hsome : run.flights ≠ [])
    (hbefore : before.Numbered) (hpending : Pending oracle before operation board run)
    (hresults : before.results = accounts.map (·.entry))
    (hfair : ∀ account ∈ accounts, account.Fair oracle run.call?)
    (htold : gathered ++ board = accounts.flatMap (·.notices))
    (hbegun : begun = accounts.map (·.beginning) ++ [(before, operation)])

variable {begun : List (Run × Operation)} {gathered : List Notice} {accounts : List Account}

/-- An operation that ended gets an account, one that goes on does not. -/
theorem Ledger.of_pending (hbefore : before.Numbered)
    (hpending : Pending oracle before operation board run)
    (hresults : before.results = accounts.map (·.entry))
    (hfair : ∀ account ∈ accounts, account.Fair oracle run.call?)
    (htold : gathered ++ board = accounts.flatMap (·.notices))
    (hbegun : begun = accounts.map (·.beginning) ++ [(before, operation)]) :
    ∃ accounts, Ledger oracle begun gathered accounts run := by
  by_cases hnone : run.flights = []
  · obtain ⟨result, notices, hresults', hnotices, hfair', hreported⟩ :=
      hpending.account hbefore hnone
    refine ⟨accounts ++ [⟨before, operation, result, notices⟩],
      .idle hnone hnotices ?_ ?_ ?_ ?_ ?_⟩
    · rw [hresults', hresults, List.map_append]
      rfl
    · intro account haccount
      rcases List.mem_append.1 haccount with hearlier | hlast
      · exact hfair account hearlier
      · rwa [List.mem_singleton.1 hlast]
    · rw [← List.append_assoc, htold, List.flatMap_append, List.flatMap_singleton]
    · rw [hbegun, List.map_append]
      rfl
    · intro account haccount
      rw [List.getLast?_append_of_ne_nil _ (List.cons_ne_nil _ _)] at haccount
      rwa [← Option.some.inj haccount]
  · exact ⟨accounts, .busy hnone hbefore hpending hresults hfair htold hbegun⟩

/-- Accounts stay fair through every move. -/
theorem fair_step (hrun : run.Numbered)
    (hfair : ∀ account ∈ accounts, account.Fair oracle run.call?) (move : Move) :
    ∀ account ∈ accounts, account.Fair oracle (run.step oracle move).call? :=
  fun account haccount => (hfair account haccount).mono fun _ _ hmade =>
    hrun.call?_step oracle hmade move

/-- An operation that begins while nothing is in flight is accounted for. -/
theorem Ledger.begin (h : Ledger oracle begun gathered accounts run) (hrun : run.Numbered)
    (hnone : run.flights = []) (operation : Operation) (prompt : Nat → Call → Bool) :
    ∃ accounts, Ledger oracle (begun ++ [(run, operation)]) gathered accounts
      (run.step oracle (.begin operation prompt)) := by
  cases h with
  | @idle board _ hnotices hresults hfair htold hbegun =>
    have hkeeps : Keeps oracle run.begun run.flights (Pending oracle run operation board) := by
      rw [hnone]
      exact Pending.keeps
    have hpending := hkeeps.begin prompt (.started hnone hnotices operation)
    exact Ledger.of_pending hrun hpending hresults (fair_step hrun hfair _) htold (by rw [hbegun])
  | busy hsome => exact absurd hnone hsome

/-- So is one that takes an answer. -/
theorem Ledger.settle (h : Ledger oracle begun gathered accounts run) (hrun : run.Numbered)
    (id : Nat) (prompt : Nat → Call → Bool) :
    ∃ accounts, Ledger oracle begun gathered accounts (run.step oracle (.settle id prompt)) := by
  cases h with
  | idle hnone hnotices hresults hfair htold hbegun hlast =>
    have hsame : run.step oracle (.settle id prompt) = run := by
      simp only [Run.step, Run.settle, hnone, List.find?_nil]
      split <;> rfl
    rw [hsame]
    exact ⟨accounts, .idle hnone hnotices hresults hfair htold hbegun hlast⟩
  | busy hsome hbefore hpending hresults hfair htold hbegun =>
    obtain ⟨-, -, halone⟩ := hpending.waits hsome
    have hpending' := Pending.keeps.settle_alone hrun (.inr halone) hpending id prompt
    exact Ledger.of_pending hbefore hpending' hresults (fair_step hrun hfair _) htold hbegun

/-- Where nothing but the clock and the remembered views change, or notices are collected, the
accounts stay as they are. -/
theorem Ledger.beside (h : Ledger oracle begun gathered accounts run) {live : LiveView}
    (hsession : live.session = run.live.session) (hzone : live.zone = run.live.zone)
    {collected : List Notice} (hboard : ∀ board, run.live.notices = .kept board →
      ∃ left, live.notices = .kept left ∧ board = collected ++ left) :
    Ledger oracle begun (gathered ++ collected) accounts { run with live := live } := by
  cases h with
  | idle hnone hnotices hresults hfair htold hbegun hlast =>
    obtain ⟨left, hleft, rfl⟩ := hboard _ hnotices
    refine .idle hnone hleft hresults hfair (by rw [List.append_assoc, htold]) hbegun ?_
    intro account haccount
    rw [hsession]
    exact hlast account haccount
  | busy hsome hbefore hpending hresults hfair htold hbegun =>
    obtain ⟨-, hnotices, -⟩ := hpending.waits hsome
    obtain ⟨left, hleft, rfl⟩ := hboard _ hnotices
    exact .busy hsome hbefore (hpending.beside hsome hsession hzone hleft) hresults hfair
      (by rw [List.append_assoc, htold]) hbegun

/-- Every move of an operation in its turn leaves accounts that agree with what was told. -/
theorem Ledger.step (h : Ledger oracle begun gathered accounts run) (hrun : run.Numbered)
    {move : Move} (hturn : run.inTurn move = true) :
    ∃ accounts, Ledger oracle (begun ++ (run.beginning? move).toList)
      (gathered ++ (run.collection? move).toList.flatten) accounts (run.step oracle move) := by
  have haside (live : LiveView) (hsession : live.session = run.live.session)
      (hzone : live.zone = run.live.zone) (hnotices : live.notices = run.live.notices) :
      Ledger oracle (begun ++ []) (gathered ++ []) accounts { run with live := live } := by
    rw [List.append_nil begun]
    exact h.beside hsession hzone fun board hboard => ⟨board, hnotices.trans hboard, rfl⟩
  cases move with
  | begin operation prompt =>
    have hnone : run.flights = [] := by simpa [inTurn, Move.begins] using hturn
    simpa [beginning?, collection?] using h.begin hrun hnone operation prompt
  | settle id prompt => simpa [beginning?, collection?] using h.settle hrun id prompt
  | setClock now => exact ⟨accounts, haside _ rfl rfl rfl⟩
  | drain =>
    have hdrained (board : List Notice) (hboard : run.live.notices = .kept board) :
        ∃ left, run.drain.2.live.notices = .kept left ∧ board = run.drain.1 ++ left := by
      refine ⟨[], ?_, ?_⟩ <;> simp [Run.drain, NoticeBoard.drain, NoticeBoard.empty, hboard]
    have hledger : Ledger oracle begun (gathered ++ run.drain.1) accounts run.drain.2 :=
      h.beside (by rfl) (by rfl) hdrained
    exact ⟨accounts, by simpa [beginning?, collection?, Run.step] using hledger⟩
  | look => exact ⟨accounts, haside _ rfl rfl rfl⟩

/-- Through every run in which operations take turns the accounts agree with what was told. -/
theorem ledger_after (oracle : Oracle) {live : LiveView} (hempty : live.notices = .empty)
    {moves : List Move}
    (hturn : Along oracle (fun run move => run.inTurn move = true) { live := live } moves) :
    ∃ accounts, Ledger oracle (beginnings oracle { live := live } moves)
      (collected oracle { live := live } moves).flatten accounts
      (after oracle { live := live } moves) := by
  -- from the last move back, since accounts are added at the end
  induction moves using List.reverseRecOn with
  | nil =>
    exact ⟨[], .idle rfl hempty rfl (fun _ hnone => nomatch hnone) rfl rfl
      fun _ hnone => nomatch hnone⟩
  | append_singleton moves last ih =>
    obtain ⟨hmoves, hlast⟩ := along_concat.1 hturn
    obtain ⟨accounts, hledger⟩ := ih hmoves
    have hrun : (after oracle { live := live } moves).AtRest := (atRest_new live).after oracle moves
    rw [after_append, beginnings, collected, seen_concat, seen_concat, List.flatten_append]
    exact hledger.step hrun.numbered hlast

/-- Every failure is told exactly once. Take a view without notices, any answers, and any operations
begun one after the other, with the notices collected at any time. The notices that were collected
and those that are left are together what the operations that came out told, in the order in which
they were begun: a failed load told its cause, a failed request for series the cause with which its
operation came out, an accepted report the stretch of time reported, and every other operation
nothing. An operation that is still in flight told nothing; if there is none, every operation that
was begun has its account, and if the last one is an accepted report, then what it told is the
stretch that the session reports. -/
theorem failures_told_once (oracle : Oracle) {live : LiveView} (hempty : live.notices = .empty)
    {moves : List Move}
    (hturn : Along oracle (fun run move => run.inTurn move = true) { live := live } moves) :
    let final := after oracle { live := live } moves
    let begun := beginnings oracle { live := live } moves
    ∃ accounts : List Account,
      (collected oracle { live := live } moves).flatten ++ final.live.notices.notices =
        accounts.flatMap (·.notices) ∧
      (∀ account ∈ accounts, account.Fair oracle final.call?) ∧
      final.results = accounts.map (·.entry) ∧ accounts.map (·.beginning) <+: begun ∧
      (final.flights = [] → accounts.map (·.beginning) = begun ∧
        ∀ account, accounts.getLast? = some account → account.Reported final.live.session) := by
  intro final begun
  obtain ⟨accounts, hledger⟩ := ledger_after oracle hempty hturn
  refine ⟨accounts, ?_⟩
  cases hledger with
  | idle _ hnotices hresults hfair htold hbegun hlast =>
    have hleft : final.live.notices.notices = _ := congrArg NoticeBoard.notices hnotices
    rw [hleft]
    exact ⟨htold, hfair, hresults, hbegun ▸ List.prefix_rfl, fun _ => ⟨hbegun.symm, hlast⟩⟩
  | busy hsome _ hpending hresults hfair htold hbegun =>
    obtain ⟨hsame, hnotices, -⟩ := hpending.waits hsome
    have hleft : final.live.notices.notices = _ := congrArg NoticeBoard.notices hnotices
    rw [hleft]
    exact ⟨htold, hfair, hsame.trans hresults, ⟨_, hbegun.symm⟩,
      fun hnone => absurd hnone hsome⟩

/-- The anomalies of an alert cannot be read, and the notice is collected. Afterwards a baseline is
selected, which fails for want of a slice, and an incomplete report is refused, of which nobody is
told. Then a load finds the slice, and a report on it is accepted: the stretch that it reports is
told, five and a half hours east of universal time. -/
theorem failures_told_once_unavailable :
    let live : LiveView := {
      zone := ⟨"east", 19800, []⟩, now := 2000, session := {
        alertId := 7, preview := false, edit := false, granularity := none
        dimensionExploration := false, alertYaml := none, savedYaml := none
        range := ⟨0, 1000⟩, duration := .custom, baselineOffset := .wo1w } }
    let oracle : Oracle := fun id call => match call with
      | .anomalies .. => if id = 1 then .error (.fetch "unavailable") else .ok (.anomalies [
          { id := some 1, metricUrn := "thirdeye:metric:7", startTime := 0, endTime := 5 }])
      | .report .. => .ok .accepted
      | _ => .ok (.series { timestamp := [id] })
    let never : Nat → Call → Bool := fun _ _ => false
    let always : Nat → Call → Bool := fun _ _ => true
    let form : ReportForm := {
      startTime := some 60000, endTime := some 120000, feedbackType := some "ANOMALY" }
    let moves : List Move :=
      [.begin .start never, .settle 1 never, .drain, .begin (.selectBaseline .wo2w) never,
        .begin (.submitReport {}) never, .begin .start always, .begin (.submitReport form) never,
        .settle 5 never]
    let final := after oracle { live := live } moves
    let begun := beginnings oracle { live := live } moves
    let stretch := "1970-01-01 05:31 - 1970-01-01 05:32"
    Along oracle (fun run move => run.inTurn move = true) { live := live } moves ∧
      collected oracle { live := live } moves =
        [[⟨true, "Error", "fetch failed: unavailable"⟩]] ∧
      final.live.notices =
        .kept [ChartError.missingSlice.notice, ⟨false, "Anomaly reported", stretch⟩] ∧
      final.live.session.report.reportedRange = some stretch ∧ final.results.length = 5 ∧
      ∃ accounts : List Account,
        (collected oracle { live := live } moves).flatten ++ final.live.notices.notices =
          accounts.flatMap (·.notices) ∧
        (∀ account ∈ accounts, account.Fair oracle final.call?) ∧
        final.results = accounts.map (·.entry) ∧ accounts.map (·.beginning) <+: begun ∧
        (final.flights = [] → accounts.map (·.beginning) = begun ∧
          ∀ account, accounts.getLast? = some account →
            account.Reported final.live.session) := by
  intro live oracle never always form moves final begun stretch
  have hempty : live.notices = .empty := rfl
  have hturn : Along oracle (fun run move => run.inTurn move = true) { live := live } moves := by
    dsimp only [moves, form, live, oracle, never, always]
    decide +kernel
  refine ⟨hturn, ?_, ?_, ?_, ?_, failures_told_once oracle hempty hturn⟩
  · dsimp only [moves, form, live, oracle, never, always]
    decide +kernel
  · dsimp only [final, moves, form, live, oracle, never, always]
    decide +kernel
  · dsimp only [final, moves, form, live, oracle, never, always]
    decide +kernel
  · dsimp only [final, moves, form, live, oracle, never, always]
    decide +kernel

end Run

end AlertDetail
