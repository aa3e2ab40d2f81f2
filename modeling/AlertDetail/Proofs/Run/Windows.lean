import AlertDetail.Proofs.Calendar.Windows
import AlertDetail.Proofs.Sets.Passes

/-!
# Windows of calls

Calls for anomalies and for series ask in a window. Detected anomalies and series are asked for in a
range that was shown when their pass was planned or their request issued. Such a range starts before
it ends, but for one that the options stated as it was read. An evaluation is asked for in the part
of the range up to the present. Of a range that lies wholly in the future there is no such part: the
window of the call ends before it starts.
-/

namespace AlertDetail

/-- Ranges that a view opened with these options may show: those whose bounds were checked, and the
one that the options state, as it stands. -/
def ViewOptions.Admits (options : ViewOptions) (range : AnalysisRange) : Prop :=
  range.start < range.stop ∨ options.range = some range

/-- The range in which an operation that waits has asked, or still asks, for anomalies or series. -/
def Stage.range? : Stage → Option AnalysisRange
  | evaluation pass | detected pass _ => some pass.range
  | measured request | both request | measuredOnly request _ | baselineOnly request _ =>
    some request.range
  | report _ => none

variable {admits : AnalysisRange → Prop}

/-- What an operation waits for lies in a range that may be shown. -/
def Stage.Admitted (admits : AnalysisRange → Prop) (stage : Stage) : Prop :=
  ∀ range ∈ stage.range?, admits range

/-- Where a call asks while a range is shown: an evaluation in the part of this range up to the
present, detected anomalies and series in some range that may be shown. -/
def Call.Fits (admits : AnalysisRange → Prop) (range : AnalysisRange) (now : Int) : Call → Prop
  | bounds _ window | preview _ _ window => window = range.upTo now
  | anomalies _ window | timeseries _ window _ _ => admits window
  | report .. => True

/-- What an operation on a view does next fits the range shown. -/
def Next.Fits (admits : AnalysisRange → Prop) (live : LiveView) : Next → Prop
  | ask call stage => call.Fits admits live.session.range live.now ∧ stage.Admitted admits
  | wait stage => stage.Admitted admits
  | finish _ => True

/-- An operation that waits for something in a range. -/
theorem Stage.admitted_iff {stage : Stage} {range : AnalysisRange}
    (hrange : stage.range? = some range) : stage.Admitted admits ↔ admits range := by
  unfold Admitted
  rw [hrange]
  simp

/-- Series are waited for in the range of their request. -/
theorem Stage.range?_of_request? {stage : Stage} {request : SeriesRequest}
    (hstage : stage.request? = some request) : stage.range? = some request.range := by
  cases stage <;> cases hstage <;> rfl

/-- The evaluation of a pass is asked for in the window that was planned for it. -/
theorem Pass.fits_of_evaluationCall {pass : Pass} {call : Call} {range : AnalysisRange} {now : Int}
    (hwindow : pass.window = range.upTo now) (h : pass.evaluationCall = .ok call) :
    call.Fits admits range now := by
  rcases evaluationCall_cases h with rfl | ⟨yaml, rfl⟩ <;> exact hwindow

namespace LiveView

/-- A step that leaves the range and the clock, and goes on with what fits them. -/
structure Sends (admits : AnalysisRange → Prop) (live : LiveView) (step : LiveView × Next) :
    Prop where
  /-- The range shown stays. -/
  range : step.1.session.range = live.session.range
  /-- The clock stays. -/
  now : step.1.now = live.now
  /-- What comes next fits the range, if this may be shown. -/
  next : admits live.session.range → step.2.Fits admits live

variable {live : LiveView}

/-- A step from a view with the same range and clock. -/
theorem Sends.of_same {live' : LiveView} {step : LiveView × Next} (h : Sends admits live' step)
    (hrange : live'.session.range = live.session.range) (hnow : live'.now = live.now) :
    Sends admits live step where
  range := h.range.trans hrange
  now := h.now.trans hnow
  next hadmits := by
    have hfits := h.next (by rwa [hrange])
    unfold Next.Fits at hfits ⊢
    rwa [hrange, hnow] at hfits

/-- What fits the view before the step fits the view after it. -/
theorem Sends.fits {step : LiveView × Next} (h : Sends admits live step)
    (hadmits : admits live.session.range) : step.2.Fits admits step.1 := by
  have hfits := h.next hadmits
  unfold Next.Fits at hfits ⊢
  rwa [h.range, h.now]

/-- A load that fails sends nothing. -/
theorem failLoad_sends (live : LiveView) (cause : ChartError) :
    Sends admits live (live.failLoad cause) := ⟨rfl, rfl, fun _ => trivial⟩

/-- Nor does a request that fails, -/
theorem failSeries_sends (live : LiveView) (purpose : Purpose) (cause : ChartError) :
    Sends admits live (live.failSeries purpose cause) := ⟨rfl, rfl, fun _ => trivial⟩

/-- nor one that is complete. -/
theorem finishSeries_sends (live : LiveView) (request : SeriesRequest)
    (measured baseline : Option TimeSeries) :
    Sends admits live (live.finishSeries request measured baseline) := by
  unfold finishSeries install
  split <;> exact ⟨rfl, rfl, fun _ => trivial⟩

/-- Series are requested in the range shown. -/
theorem requestSeries_sends (live : LiveView) (purpose : Purpose) :
    Sends admits live (live.requestSeries purpose) := by
  have hstart := live.requestSeries_start purpose
  generalize live.requestSeries purpose = step at hstart ⊢
  cases hstart with
  | missing => exact (failSeries_sends _ _ _).of_same rfl rfl
  | unpredicted => exact (finishSeries_sends _ _ _ _).of_same rfl rfl
  | predicted => exact (finishSeries_sends _ _ _ _).of_same rfl rfl
  | compared => exact ⟨rfl, rfl, fun hadmits => ⟨hadmits, (Stage.admitted_iff rfl).2 hadmits⟩⟩
  | measured => exact ⟨rfl, rfl, fun hadmits => ⟨hadmits, (Stage.admitted_iff rfl).2 hadmits⟩⟩

/-- A pass is planned in the range shown. -/
theorem beginPass_sends (live : LiveView) (reentered : Bool) :
    Sends admits live (live.beginPass reentered) := by
  have hstart := live.beginPass_start reentered
  generalize live.beginPass reentered = step at hstart ⊢
  cases hstart with
  | failed => exact (failLoad_sends _ _).of_same rfl rfl
  | evaluation hvisible hcall =>
    exact ⟨rfl, rfl, fun hadmits =>
      ⟨Pass.fits_of_evaluationCall rfl hcall, (Stage.admitted_iff rfl).2 hadmits⟩⟩
  | detected => exact ⟨rfl, rfl, fun hadmits => ⟨hadmits, (Stage.admitted_iff rfl).2 hadmits⟩⟩

/-- So is the second pass, and the series that follow a pass are requested in it. -/
theorem finishPass_sends (live : LiveView) (pass : Pass) (choice : SliceChoice)
    (result : FetchResult) : Sends admits live (live.finishPass pass choice result) := by
  have hrange : (live.merged pass choice result).session.range = live.session.range :=
    (merge_apply_options live.session choice pass.viewState result).2
  have hend := live.finishPass_end pass choice result
  generalize live.finishPass pass choice result = step at hend ⊢
  cases hend with
  | again => exact (beginPass_sends _ true).of_same hrange rfl
  | missing => exact (failLoad_sends _ _).of_same hrange rfl
  | series => exact (requestSeries_sends _ _).of_same hrange rfl

/-- An operation that takes an answer goes on in the range in which it asked, or in the one that is
shown. -/
theorem resume_sends (live : LiveView) (first : Bool) (answer : Answer) {stage : Stage}
    (hstage : stage.Admitted admits) : Sends admits live (live.resume first answer stage) := by
  rcases stage.pass_or_series_or_report with hpass | ⟨request, hrequest⟩ | ⟨report, rfl⟩
  · have hanswer := live.resume_passAnswer first answer hpass
    generalize live.resume first answer stage = step at hanswer ⊢
    cases hanswer with
    | failed => exact failLoad_sends live _
    | reads => exact ⟨rfl, rfl, fun _ => ⟨(Stage.admitted_iff rfl).1 hstage, hstage⟩⟩
    | evaluated => exact finishPass_sends live _ _ _
    | detected => exact finishPass_sends live _ _ _
  · have hadmits := (Stage.admitted_iff (Stage.range?_of_request? hrequest)).1 hstage
    have hanswer := live.resume_series first answer hrequest
    generalize live.resume first answer stage = step at hanswer ⊢
    cases hanswer with
    | failed => exact failSeries_sends live _ _
    | measured =>
      cases hrequest
      exact ⟨rfl, rfl, fun _ => ⟨hadmits, hstage⟩⟩
    | bothMeasured => exact ⟨rfl, rfl, fun _ => hstage⟩
    | bothBaseline => exact ⟨rfl, rfl, fun _ => hstage⟩
    | lastMeasured => exact finishSeries_sends live _ _ _
    | lastBaseline => exact finishSeries_sends live _ _ _
  · unfold resume takeReport
    cases answer.accepted <;> exact ⟨rfl, rfl, fun _ => trivial⟩

/-- A view that began an operation shows the range that the operation prepared. -/
theorem begin_range (live : LiveView) (busy : Bool) (operation : Operation) :
    (live.begin busy operation).1.session.range = (operation.prepare live).range := by
  have hopening := live.begin_setOpening busy operation
  generalize live.begin busy operation = step at hopening ⊢
  cases hopening with
  | @load prepared _ _ hsets =>
    have hsends : Sends (fun _ => True) prepared (prepared.beginPass false) :=
      beginPass_sends prepared false
    exact hsends.range.trans (congrArg SetState.range hsets)
  | aside _ hsets haside =>
    exact (congrArg SetState.range haside.sets).trans (congrArg SetState.range hsets)

/-- An operation prepares a range that may be shown, if every range may whose bounds were
checked. -/
theorem prepare_admitted (hchecked : ∀ range : AnalysisRange, range.start < range.stop →
    admits range) (h : admits live.session.range) (operation : Operation) :
    admits (operation.prepare live).range := by
  have hprepares := operation.prepares live
  generalize operation.prepare live = sets at hprepares ⊢
  cases hprepares with
  | requested => exact h
  | edited => exact h
  | same => exact h
  | @shown _ range hrange =>
    have hshown : (live.session.setState.showRange range).range = range := by
      unfold SetState.showRange
      split <;> rfl
    rw [hshown]
    refine hchecked range ?_
    cases operation with
    | selectRange first last duration =>
      cases hnew : AnalysisRange.new first last with
      | error cause =>
        rw [Operation.range?, hnew] at hrange
        cases hrange
      | ok valid =>
        rw [Operation.range?, hnew] at hrange
        obtain rfl := Option.some.inj hrange
        exact AnalysisRange.lt_of_new hnew
    | selectPreset preset => exact RangePreset.lt_of_range? hrange
    | _ => cases hrange

/-- An operation begins with what fits the range that it prepared, at the same time. -/
theorem begin_sends (live : LiveView) (busy : Bool) (operation : Operation) :
    (live.begin busy operation).1.now = live.now ∧
      (admits (live.begin busy operation).1.session.range →
        (live.begin busy operation).2.Fits admits (live.begin busy operation).1) := by
  have hprepared {prepared : LiveView} (h : Prepared live prepared) : prepared.now = live.now := by
    cases h <;> rfl
  have hstart := live.begin_start busy operation
  generalize live.begin busy operation = step at hstart ⊢
  cases hstart with
  | finished h => exact ⟨hprepared h, fun _ => trivial⟩
  | report h => exact ⟨hprepared h, fun _ => ⟨trivial, nofun⟩⟩
  | @load prepared h =>
    have hsends : Sends admits prepared (prepared.beginPass false) :=
      beginPass_sends prepared false
    refine ⟨hsends.now.trans (hprepared h), fun hadmits => hsends.fits ?_⟩
    rwa [← hsends.range]
  | @series prepared purpose h =>
    have hsends : Sends admits prepared (prepared.requestSeries purpose) :=
      requestSeries_sends prepared purpose
    refine ⟨hsends.now.trans (hprepared h), fun hadmits => hsends.fits ?_⟩
    rwa [← hsends.range]

end LiveView

/-- A session opens with the range that its options state, or with one whose bounds were checked. -/
theorem Session.new?_admits {options : ViewOptions} {now : Int} {zone : Zone} {session : Session}
    (h : new? options now zone = .ok session) : options.Admits session.range := by
  unfold ViewOptions.Admits
  cases hrange : options.range with
  | some range =>
    simp only [new?, hrange] at h
    obtain rfl := Except.ok.inj h
    exact .inr rfl
  | none =>
    cases hwindow : AnalysisRange.ofWindow now
        (options.window.getD AnalysisRange.defaultWindow) zone with
    | error cause => simp [new?, hrange, hwindow, bind, Except.bind] at h
    | ok range =>
      simp only [new?, hrange, hwindow] at h
      obtain rfl := Except.ok.inj h
      exact .inl (AnalysisRange.lt_of_ofWindow hwindow)

/-- So does a view. -/
theorem LiveView.open?_admits {options : ViewOptions} {window now : Int} {zone : Zone}
    {notices : NoticeBoard} {live : LiveView}
    (h : open? options window now zone notices = .ok live) :
    options.Admits live.session.range := by
  obtain ⟨session, hnew, rfl⟩ := open?_eq_ok h
  have hadmits := Session.new?_admits hnew
  exact hadmits

namespace Run

variable {run : Run} {before : List Call}

/-- A run in which every call that was made after some others fits the range shown, and every
operation in flight waits for what lies in a range that may be shown. -/
structure Sending (admits : AnalysisRange → Prop) (before : List Call) (run : Run) : Prop where
  /-- The range shown may be shown. -/
  shown : admits run.live.session.range
  /-- So may the ranges in which operations wait. -/
  waiting : ∀ flight ∈ run.flights, flight.stage.Admitted admits
  /-- The other calls fit the range shown. -/
  calls : ∃ made, run.calls = before ++ made ∧
    ∀ call ∈ made, call.Fits admits run.live.session.range run.live.now

/-- A run in which no other calls were made. -/
theorem sending_of_calls (shown : admits run.live.session.range)
    (waiting : ∀ flight ∈ run.flights, flight.stage.Admitted admits) (hcalls : run.calls = before) :
    run.Sending admits before where
  shown := shown
  waiting := waiting
  calls := ⟨[], by rw [hcalls, List.append_nil], fun _ hmem => absurd hmem List.not_mem_nil⟩

/-- Another view in place of this one, with some of the operations in flight. -/
theorem Sending.of_same (h : run.Sending admits before) {live : LiveView} {flights : List Flight}
    (hrange : live.session.range = run.live.session.range) (hnow : live.now = run.live.now)
    (hflights : ∀ flight ∈ flights, flight ∈ run.flights) :
    { run with live := live, flights := flights }.Sending admits before where
  shown := by
    rw [hrange]
    exact h.shown
  waiting flight hflight := h.waiting flight (hflights flight hflight)
  calls := by
    dsimp only
    rw [hrange, hnow]
    exact h.calls

/-- A call that fits the range shown. -/
theorem Sending.record (h : run.Sending admits before) {call : Call}
    (hcall : call.Fits admits run.live.session.range run.live.now) :
    (run.record call).2.Sending admits before where
  shown := h.shown
  waiting := h.waiting
  calls := by
    obtain ⟨made, hmade, hfits⟩ := h.calls
    refine ⟨made ++ [call], ?_, fun other hother => ?_⟩
    · rw [Run.record, hmade, List.append_assoc]
    · rcases List.mem_append.1 hother with hold | hnew
      · exact hfits other hold
      · rw [List.mem_singleton.1 hnew]
        exact hcall

/-- An operation that waits for what lies in a range that may be shown. -/
theorem Sending.park (h : run.Sending admits before) {flight : Flight}
    (hflight : flight.stage.Admitted admits) : (run.park flight).Sending admits before where
  shown := h.shown
  waiting other hother := by
    rcases mem_flights_park.1 hother with hmem | rfl
    · exact h.waiting other hmem
    · exact hflight
  calls := h.calls

/-- An operation that goes on with what fits the range shown. -/
theorem Sending.hold (h : run.Sending admits before) {next : Next}
    (hnext : next.Fits admits run.live) (operation : Nat) (waiting : List Nat) :
    (run.hold operation waiting next).Sending admits before := by
  cases next with
  | ask call stage => exact (h.record hnext.1).park hnext.2
  | wait stage => exact h.park hnext
  | finish result => exact ⟨h.shown, h.waiting, h.calls⟩

/-- What was sent fits the range while an operation goes on. -/
theorem Sending.keeps (oracle : Oracle) (operation : Nat) (others : List Flight) :
    Keeps oracle operation others (Sending admits before) where
  take := by
    intro run stage waiting id call hflights _ _ h
    have hsends := run.live.resume_sends (waiting.head? == some id) (oracle id call)
      (h.waiting _ (last_mem_flights hflights))
    rw [taken_eq]
    refine (h.of_same hsends.range hsends.now fun flight hflight => ?_).hold (hsends.fits h.shown)
      _ _
    exact mem_flights_of_others hflights hflight
  double := by
    intro run request id hflights h
    have hrequest := h.waiting _ (last_mem_flights hflights)
    have hothers : { run with flights := others }.Sending admits before :=
      h.of_same rfl rfl fun flight hflight => mem_flights_of_others hflights hflight
    have hcall : request.baselineCall.Fits admits run.live.session.range run.live.now :=
      hrequest _ rfl
    exact (hothers.record hcall).park hrequest

/-- What a move sends fits the range that is shown after it, at the time that the clock shows
then. -/
theorem Sending.step (h : run.Sending admits before) (hrun : run.Numbered)
    (hchecked : ∀ range : AnalysisRange, range.start < range.stop → admits range)
    (oracle : Oracle) (move : Move) : (run.step oracle move).Sending admits run.calls := by
  have hrest : run.Sending admits run.calls := sending_of_calls h.shown h.waiting rfl
  cases move with
  | begin operation prompt =>
    refine (Sending.keeps oracle run.begun run.flights).begin prompt ?_
    have hadmits : admits (run.live.begin run.busy operation).1.session.range := by
      rw [LiveView.begin_range]
      exact LiveView.prepare_admitted hchecked h.shown operation
    have hbegun : { run with live := (run.live.begin run.busy operation).1 }.Sending admits
        run.calls := sending_of_calls hadmits h.waiting rfl
    exact hbegun.hold ((run.live.begin_sends run.busy operation).2 hadmits) _ _
  | settle id prompt =>
    refine hrun.settle_induct prompt hrest fun hflights _ => ⟨Sending.keeps oracle _ _, ?_⟩
    exact hrest.of_same rfl rfl fun flight hflight => (mem_rotate hflights flight).1 hflight
  | setClock now => exact sending_of_calls h.shown h.waiting rfl
  | drain => exact hrest.of_same rfl rfl fun _ => id
  | look => exact hrest.of_same rfl rfl fun _ => id

/-- Only setting the clock sets it: every other move is made at one time. -/
theorem Numbered.now_step (hrun : run.Numbered) (oracle : Oracle) {move : Move}
    (hclock : ∀ now, move ≠ .setClock now) : (run.step oracle move).live.now = run.live.now := by
  have hkeeps (operation : Nat) (others : List Flight) :
      Keeps oracle operation others fun other => other.live.now = run.live.now := {
    take := by
      intro other stage waiting id call _ _ _ hnow
      have hsends : LiveView.Sends (fun _ => True) other.live
          (other.live.resume (waiting.head? == some id) (oracle id call) stage) :=
        LiveView.resume_sends _ _ _ fun _ _ => trivial
      rw [taken_eq, live_hold]
      exact hsends.now.trans hnow
    double := fun _ hnow => hnow }
  cases move with
  | begin operation prompt =>
    refine (hkeeps _ _).begin prompt ?_
    dsimp only [started]
    rw [live_hold]
    exact (@LiveView.begin_sends (fun _ => True) run.live run.busy operation).1
  | settle id prompt => exact hrun.settle_induct prompt (by exact rfl) fun _ _ => ⟨hkeeps _ _, rfl⟩
  | setClock now => exact absurd rfl (hclock now)
  | drain => rfl
  | look => rfl

/-- What is sent fits through every run of a view that shows an admitted range. -/
theorem sending_after {live : LiveView} (h : admits live.session.range)
    (hchecked : ∀ range : AnalysisRange, range.start < range.stop → admits range)
    (oracle : Oracle) (moves : List Move) :
    ∃ before, (after oracle { live := live } moves).Sending admits before := by
  have hopened : ({ live := live } : Run).Sending admits [] :=
    sending_of_calls h (fun _ hflight => absurd hflight List.not_mem_nil) rfl
  have hkept {run : Run} {move : Move} (hrest : run.AtRest) (_ : True)
      (hsending : ∃ before, run.Sending admits before) :
      ∃ before, (run.step oracle move).Sending admits before := by
    obtain ⟨before, hsending⟩ := hsending
    exact ⟨run.calls, hsending.step hrest.numbered hchecked oracle move⟩
  exact (atRest_new live).keeps hkept (fun _ _ => trivial) ⟨[], hopened⟩

/-- A call that was not made before a move and is made after it fits. -/
theorem Sending.fits (h : run.Sending admits before) {earlier : Run}
    (hbefore : earlier.calls = before) {id : Nat} {call : Call} (hnew : earlier.call? id = none)
    (hcall : run.call? id = some call) :
    call.Fits admits run.live.session.range run.live.now := by
  obtain ⟨made, hmade, hfits⟩ := h.calls
  unfold call? at hnew hcall
  split at hcall
  · contradiction
  · next hid =>
    rw [if_neg hid, hbefore] at hnew
    rw [hmade, List.getElem?_append_right (List.getElem?_eq_none_iff.1 hnew)] at hcall
    exact hfits call (List.mem_of_getElem? hcall)

/-- In which windows a run asks. Every call is made by a move, at one time; take the range that is
shown then. An evaluation is asked for from the start of this range to its end or the present,
whichever is earlier, so the window does not end before it starts exactly if the range has begun.
Detected anomalies and series are asked for in a window that starts before it ends, unless it is the
range of the options as they were read. -/
theorem calls_within_range {options : ViewOptions} {window now : Int} {zone : Zone}
    {notices : NoticeBoard} {live : LiveView}
    (hopen : LiveView.open? options window now zone notices = .ok live) (oracle : Oracle)
    {moves : List Move} {id : Nat} {call : Call}
    (hcall : (after oracle { live := live } moves).call? id = some call) :
    ∃ earlier move later, moves = earlier ++ move :: later ∧
      let before := after oracle { live := live } earlier
      let made := before.step oracle move
      let shown := made.live.session.range
      before.call? id = none ∧ made.call? id = some call ∧ made.live.now = before.live.now ∧
        (shown.start < shown.stop ∨ options.range = some shown) ∧
        match call with
        | .bounds _ asked | .preview _ _ asked =>
          asked.start = shown.start ∧ asked.stop = min shown.stop made.live.now ∧
            (asked.start ≤ asked.stop ↔
              shown.start ≤ shown.stop ∧ shown.start ≤ made.live.now)
        | .anomalies _ asked | .timeseries _ asked _ _ =>
          asked.start < asked.stop ∨ options.range = some asked
        | .report .. => True := by
  have hopened : options.Admits live.session.range := LiveView.open?_admits hopen
  have hchecked (range : AnalysisRange) (h : range.start < range.stop) : options.Admits range :=
    .inl h
  obtain ⟨earlier, move, later, hmoves, hnone, hmade⟩ := exists_move_of_call? oracle live hcall
  obtain ⟨since, hsending⟩ := sending_after hopened hchecked oracle earlier
  have hnumbered := ((atRest_new live).after oracle earlier).numbered
  have hsent := hsending.step hnumbered hchecked oracle move
  have hfits := hsent.fits rfl hnone hmade
  have hclock (now : Int) : move ≠ .setClock now := by
    rintro rfl
    exact Option.some_ne_none call (hmade.symm.trans hnone)
  refine ⟨earlier, move, later, hmoves, hnone, hmade, hnumbered.now_step oracle hclock,
    hsent.shown, ?_⟩
  have hupTo {range asked : AnalysisRange} {now : Int} (h : asked = range.upTo now) :
      asked.start = range.start ∧ asked.stop = min range.stop now ∧
        (asked.start ≤ asked.stop ↔ range.start ≤ range.stop ∧ range.start ≤ now) := by
    subst h
    exact ⟨rfl, rfl, le_min_iff⟩
  cases call with
  | bounds alertId asked => exact hupTo hfits
  | preview yaml alertId asked => exact hupTo hfits
  | anomalies alertId asked => exact hfits
  | timeseries urn asked offset timezone => exact hfits
  | report alertId urn report => trivial

/-- The two passes of a changed alert, with the clock set after the first answer: the second
evaluation is asked for up to the present as it was when the pass began. -/
theorem calls_within_range_second_pass :
    let options : ViewOptions := {
      alertId := 7, preview := true, edit := true, alertYaml := some "live"
      savedYaml := some "saved", range := some ⟨0, 1000⟩ }
    let live : LiveView := {
      zone := default, now := 500, session := {
        alertId := 7, preview := true, edit := true, granularity := none
        dimensionExploration := false, alertYaml := some "live", savedYaml := some "saved"
        range := ⟨0, 1000⟩, duration := .custom, baselineOffset := .predicted } }
    let oracle : Oracle := fun id _ =>
      if id = 2 then .ok (.anomalies []) else .ok (.evaluation {})
    let moves : List Move :=
      [.begin .requestPreview fun _ _ => false, .settle 1 fun _ _ => false, .setClock 800,
        .settle 2 fun _ _ => false]
    let run := after oracle { live := live } moves
    LiveView.open? options 172800000 500 default .empty = .ok live ∧
      run.calls = [.preview "saved" 7 ⟨0, 500⟩, .anomalies 7 ⟨0, 1000⟩,
        .preview "live" 7 ⟨0, 800⟩] ∧
      ∃ earlier move later, moves = earlier ++ move :: later ∧
        let before := after oracle { live := live } earlier
        let made := before.step oracle move
        let shown := made.live.session.range
        before.call? 3 = none ∧ made.call? 3 = some (.preview "live" 7 ⟨0, 800⟩) ∧
          made.live.now = before.live.now ∧
          (shown.start < shown.stop ∨ options.range = some shown) ∧
          0 = shown.start ∧ 800 = min shown.stop made.live.now ∧
            ((0 : Int) ≤ 800 ↔ shown.start ≤ shown.stop ∧ shown.start ≤ made.live.now) := by
  intro options live oracle moves run
  have hopen : LiveView.open? options 172800000 500 default .empty = .ok live := rfl
  have hcalls : run.calls = [.preview "saved" 7 ⟨0, 500⟩, .anomalies 7 ⟨0, 1000⟩,
      .preview "live" 7 ⟨0, 800⟩] := by
    dsimp only [run, moves, live, oracle]
    decide +kernel
  have hcall : run.call? 3 = some (.preview "live" 7 ⟨0, 800⟩) := by
    unfold call?
    rw [hcalls]
    rfl
  exact ⟨hopen, hcalls, calls_within_range hopen oracle hcall⟩

/-- A range that lies wholly in the future may be selected and shown. The evaluation is then asked
for in a window that ends before it starts. -/
theorem calls_within_range_future :
    let options : ViewOptions := {
      alertId := 7, preview := true, alertYaml := some "live", range := some ⟨0, 1000⟩ }
    let live : LiveView := {
      zone := default, now := 2000, session := {
        alertId := 7, preview := true, edit := false, granularity := none
        dimensionExploration := false, alertYaml := some "live", savedYaml := none
        range := ⟨0, 1000⟩, duration := .custom, baselineOffset := .predicted } }
    let oracle : Oracle := fun _ _ => .ok (.evaluation {})
    let moves : List Move :=
      [.begin (.selectRange 5000 9000 .custom) fun _ _ => true,
        .begin .requestPreview fun _ _ => true]
    LiveView.open? options 172800000 2000 default .empty = .ok live ∧
      (after oracle { live := live } moves).calls = [.preview "live" 7 ⟨5000, 2000⟩] ∧
      ¬ (5000 : Int) ≤ 2000 := by
  intro options live oracle moves
  refine ⟨rfl, ?_, by decide⟩
  dsimp only [moves, live, oracle]
  decide +kernel

end Run

end AlertDetail
