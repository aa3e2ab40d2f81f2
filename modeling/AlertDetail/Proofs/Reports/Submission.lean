import AlertDetail.Proofs.Run.Order

/-!
# Submitted reports

A report of a missed anomaly is sent once if its form is complete and a slice is selected, and not
at all otherwise. Whether it was accepted, what is told to the user and what is kept of the form all
follow from that one answer, or from what is missing; the rest of the view is left alone. Operations
in flight may wait meanwhile.
-/

namespace AlertDetail

namespace ReportForm

/-- The names of the fields that a report needs, in the order of the form. -/
def required : List String := ["startTime", "endTime", "feedbackType"]

/-- Whether a required field is missing: a time if it is not given or zero, the verdict if nothing
but blanks is given. -/
def lacks (form : ReportForm) (field : String) : Bool :=
  if field = "startTime" then form.startTime.getD 0 = 0
  else if field = "endTime" then form.endTime.getD 0 = 0
  else Text.trim (form.feedbackType.getD "") = ""

/-- The required fields that are missing, in the order of the form. -/
def lacking (form : ReportForm) : List String := required.filter form.lacks

/-- The report of a form that lacks nothing. -/
def filled (form : ReportForm) : Report where
  startTime := form.startTime.getD 0
  endTime := form.endTime.getD 0
  feedbackType := Text.trim (form.feedbackType.getD "")
  extra := form.extra

/-- The failure of a form that lacks something. -/
def rejection (form : ReportForm) : ChartError :=
  .validation ("missing data: " ++ Text.joined ", " form.lacking)

variable (form : ReportForm)

/-- A time counts as given if it is there and not zero. -/
theorem given_eq (time : Option Int) :
    given time = if time.getD 0 = 0 then none else some (time.getD 0) := by
  cases time with
  | none => rfl
  | some value => by_cases hzero : value = 0 <;> simp [given, hzero]

/-- A verdict counts as given if something is left of it without blanks. -/
theorem verdict_eq :
    form.verdict = if Text.trim (form.feedbackType.getD "") = "" then none
      else some (Text.trim (form.feedbackType.getD "")) := by
  unfold verdict
  cases form.feedbackType with
  | none => rfl
  | some typed => by_cases hblank : Text.trim typed = "" <;> simp [hblank]

/-- A form that lacks nothing passes its check as it is filled in; any other is rejected with the
names of all that it lacks. -/
theorem check_eq :
    form.check = if form.lacking = [] then .ok form.filled else .error form.rejection := by
  by_cases hstart : form.startTime.getD 0 = 0 <;> by_cases hend : form.endTime.getD 0 = 0 <;>
    by_cases hverdict : Text.trim (form.feedbackType.getD "") = "" <;>
    simp [check, missing, rejection, lacking, required, lacks, filled, given_eq, verdict_eq, hstart,
      hend, hverdict]

end ReportForm

/-- Whether a move begins no operation, collects no notices and hands no answer to one of the
operations in flight. -/
def Move.spares (flights : List Flight) : Move → Bool
  | begin .. | drain => false
  | settle id _ => !flights.any (·.awaits id)
  | _ => true

/-- What is kept of a report that came out so: the form and the stretch of time that was reported,
or an empty form and the stretch reported before. -/
def ReportState.settled (state : ReportState) (form : ReportForm) (stretch : String)
    (result : Result) : ReportState :=
  if result = .done then
    { isSuccess := true, isFailure := false, form := form, reportedRange := some stretch }
  else { state with isSuccess := false, isFailure := true, form := {} }

namespace LiveView

/-- The view while a form is under way. -/
def submitting (live : LiveView) (form : ReportForm) : LiveView :=
  live.update fun session => { session with report := { session.report with form := form } }

/-- A form that lacks something is refused with the names of all that it lacks; a complete one is
sent for the selected slice, if there is one. -/
theorem submit_eq (live : LiveView) (form : ReportForm) :
    live.submit form =
      if form.lacking = [] then
        match live.session.metricUrn with
        | some urn =>
          (live.submitting form,
            .ask (.report live.session.alertId urn form.filled) (.report form.filled))
        | none => (live.submitting form).refuseReport (.validation "no metric slice selected")
      else (live.submitting form).refuseReport form.rejection := by
  have hsame : (live.submitting form).session.metricUrn = live.session.metricUrn := rfl
  rw [submit, ← submitting]
  by_cases hcomplete : form.lacking = []
  · have hcheck : form.check = .ok form.filled := form.check_eq.trans (if_pos hcomplete)
    rw [if_pos hcomplete, hcheck, hsame]
    cases live.session.metricUrn <;> rfl
  · have hcheck : form.check = .error form.rejection := form.check_eq.trans (if_neg hcomplete)
    rw [if_neg hcomplete, hcheck]

end LiveView

namespace Run

variable {oracle : Oracle} {before run : Run} {form : ReportForm} {urn : String} {result : Result}

/-- The call that sends a form for a slice. -/
def reportCall (before : Run) (form : ReportForm) (urn : String) : Call :=
  .report before.live.session.alertId urn form.filled

/-- The stretch of time of a form as the zone shows it. -/
def stretchOf (before : Run) (form : ReportForm) : String :=
  before.live.zone.stretchText form.filled.startTime form.filled.endTime

/-- What decides on a submitted form: what it lacks, that no slice is selected, or the answer to the
one call that it takes. -/
inductive Decided (oracle : Oracle) (before : Run) (form : ReportForm) : List Call → Result → Prop
  | incomplete (hlacks : form.lacking ≠ []) :
    Decided oracle before form [] (.refused form.rejection)
  | unselected (hcomplete : form.lacking = []) (hslice : before.live.session.metricUrn = none) :
    Decided oracle before form [] (.refused (.validation "no metric slice selected"))
  | accepted {urn : String} (hcomplete : form.lacking = [])
    (hslice : before.live.session.metricUrn = some urn)
    (hanswer : (oracle (before.calls.length + 1) (before.reportCall form urn)).accepted = .ok ()) :
    Decided oracle before form [before.reportCall form urn] .done
  | declined {urn : String} {cause : ChartError} (hcomplete : form.lacking = [])
    (hslice : before.live.session.metricUrn = some urn)
    (hanswer :
      (oracle (before.calls.length + 1) (before.reportCall form urn)).accepted = .error cause) :
    Decided oracle before form [before.reportCall form urn] (.refused cause)

/-- A form is sent once if it lacks nothing and a slice is selected. -/
theorem Decided.sent {calls : List Call} (h : Decided oracle before form calls result)
    (hcomplete : form.lacking = []) (hslice : before.live.session.metricUrn = some urn) :
    calls = [before.reportCall form urn] := by
  cases h with
  | incomplete hlacks => exact absurd hcomplete hlacks
  | unselected _ hnone => cases hnone.symm.trans hslice
  | accepted _ hslice' => cases hslice'.symm.trans hslice; rfl
  | declined _ hslice' => cases hslice'.symm.trans hslice; rfl

/-- Otherwise it is not sent. -/
theorem Decided.unsent {calls : List Call} (h : Decided oracle before form calls result)
    (hunsent : form.lacking ≠ [] ∨ before.live.session.metricUrn = none) : calls = [] := by
  have hnot {urn : String} (hcomplete : form.lacking = [])
      (hslice : before.live.session.metricUrn = some urn) : False := by
    rcases hunsent with hlacks | hnone
    · exact hlacks hcomplete
    · cases hnone.symm.trans hslice
  cases h with
  | incomplete => rfl
  | unselected => rfl
  | accepted hcomplete hslice => exact (hnot hcomplete hslice).elim
  | declined hcomplete hslice => exact (hnot hcomplete hslice).elim

/-- It succeeds if it was sent and accepted. -/
theorem Decided.done_iff {calls : List Call} (h : Decided oracle before form calls result) :
    result = .done ↔ ∃ urn, form.lacking = [] ∧ before.live.session.metricUrn = some urn ∧
      (oracle (before.calls.length + 1) (before.reportCall form urn)).accepted = .ok () := by
  constructor
  · rintro rfl
    cases h with
    | accepted hcomplete hslice hanswer => exact ⟨_, hcomplete, hslice, hanswer⟩
  · rintro ⟨urn, hcomplete, hslice, hanswer⟩
    cases h with
    | incomplete hlacks => exact absurd hcomplete hlacks
    | unselected _ hnone => cases hnone.symm.trans hslice
    | accepted => rfl
    | declined _ hslice' hdeclined =>
      cases hslice'.symm.trans hslice
      cases hdeclined.symm.trans hanswer

/-- Otherwise it is refused. -/
theorem Decided.done_or_refused {calls : List Call}
    (h : Decided oracle before form calls result) :
    result = .done ∨ ∃ cause, result = .refused cause := by
  cases h with
  | incomplete => exact .inr ⟨_, rfl⟩
  | unselected => exact .inr ⟨_, rfl⟩
  | accepted => exact .inl rfl
  | declined => exact .inr ⟨_, rfl⟩

/-- What a form lacks is the cause before anything else. -/
theorem Decided.rejected {calls : List Call} (h : Decided oracle before form calls result)
    (hlacks : form.lacking ≠ []) : result = .refused form.rejection := by
  cases h with
  | incomplete => rfl
  | unselected hcomplete => exact absurd hcomplete hlacks
  | accepted hcomplete => exact absurd hcomplete hlacks
  | declined hcomplete => exact absurd hcomplete hlacks

/-- A form was sent for a slice and waits for the answer. -/
structure Sent (before : Run) (form : ReportForm) (urn : String) (run : Run) : Prop where
  /-- The form lacks nothing. -/
  complete : form.lacking = []
  /-- The slice was selected. -/
  slice : before.live.session.metricUrn = some urn
  /-- Its operation is in flight beside those that were. -/
  flights : run.flights = before.flights ++
    [⟨before.begun, .report form.filled, [before.calls.length + 1]⟩]
  /-- It was sent once. -/
  calls : run.calls = before.calls ++ [before.reportCall form urn]
  /-- Nothing came out meanwhile. -/
  results : run.results = before.results
  /-- The zone is the same. -/
  zone : run.live.zone = before.live.zone
  /-- The form is kept, and nothing else of the session changed. -/
  session : run.live.session = { before.live.session with
    report := { before.live.session.report with form := form } }
  /-- Nothing was told. -/
  notices : run.live.notices = before.live.notices

/-- A submitted form came out so. -/
structure Submitted (oracle : Oracle) (before : Run) (form : ReportForm) (result : Result)
    (run : Run) : Prop where
  /-- How it came out was decided, with the calls that this took. -/
  decided : ∃ calls, Decided oracle before form calls result ∧ run.calls = before.calls ++ calls
  /-- The same operations are in flight as before. -/
  flights : run.flights = before.flights
  /-- Its operation came out once. -/
  results : run.results = before.results ++ [(before.begun, result)]
  /-- Nothing else of the session changed than the report. -/
  session : run.live.session = { before.live.session with
    report := before.live.session.report.settled form (before.stretchOf form) result }
  /-- A success was told, a failure was not. -/
  notices : run.live.notices =
    if result = .done then
      before.live.notices.post ⟨false, "Anomaly reported", before.stretchOf form⟩
    else before.live.notices

/-- The answer to a form that was sent decides on it. -/
theorem Sent.answered (h : Sent before form urn run) (oracle : Oracle) (backend : Backend) :
    ∃ result, Submitted oracle before form result
      ({ run with
        live := (run.live.takeReport form.filled
          (oracle (before.calls.length + 1) (before.reportCall form urn))).1
        flights := before.flights }.drive backend before.begun []
          (run.live.takeReport form.filled
            (oracle (before.calls.length + 1) (before.reportCall form urn))).2) := by
  unfold LiveView.takeReport
  cases hanswer : (oracle (before.calls.length + 1) (before.reportCall form urn)).accepted with
  | ok reply =>
    have hdecided : Decided oracle before form [before.reportCall form urn] .done :=
      .accepted h.complete h.slice hanswer
    refine ⟨.done, ⟨⟨_, hdecided, ?_⟩, ?_, ?_, ?_, ?_⟩⟩ <;>
      simp only [LiveView.acceptReport, Run.drive, Run.finish, LiveView.update, LiveView.notify,
        h.calls, h.results, h.session, h.notices, h.zone, ReportState.settled, stretchOf, if_true]
  | error cause =>
    have hdecided : Decided oracle before form [before.reportCall form urn] (.refused cause) :=
      .declined h.complete h.slice hanswer
    refine ⟨.refused cause, ⟨⟨_, hdecided, ?_⟩, ?_, ?_, ?_, ?_⟩⟩ <;>
      simp only [LiveView.refuseReport, Run.drive, Run.finish, LiveView.update, h.calls, h.results,
        h.session, h.notices, ReportState.settled, if_false, reduceCtorEq]

/-- A refused form ends its operation at once. -/
theorem submitted_refused {cause : ChartError}
    (hdecided : Decided oracle before form [] (.refused cause))
    (hsubmit : before.live.submit form = (before.live.submitting form).refuseReport cause)
    (prompt : Nat → Call → Bool) :
    Submitted oracle before form (.refused cause)
      (before.step oracle (.begin (.submitReport form) prompt)) := by
  simp only [Run.step, Run.begin, LiveView.begin, hsubmit, LiveView.refuseReport, Run.drive,
    Run.finish]
  refine ⟨⟨[], hdecided, (List.append_nil _).symm⟩, rfl, rfl, rfl, ?_⟩
  rw [if_neg Result.noConfusion]
  rfl

/-- A submitted form is decided on at once, or it is sent and waits for an answer that was not there
at once. -/
theorem submit_begins (oracle : Oracle) (before : Run) (form : ReportForm)
    (prompt : Nat → Call → Bool) :
    (∃ result, Submitted oracle before form result
        (before.step oracle (.begin (.submitReport form) prompt))) ∨
      ∃ urn, Sent before form urn (before.step oracle (.begin (.submitReport form) prompt)) ∧
        prompt (before.calls.length + 1) (before.reportCall form urn) = false := by
  by_cases hcomplete : form.lacking = []
  · cases hslice : before.live.session.metricUrn with
    | none =>
      have hsubmit : before.live.submit form = (before.live.submitting form).refuseReport
          (.validation "no metric slice selected") := by
        rw [LiveView.submit_eq, if_pos hcomplete, hslice]
      exact .inl ⟨_, submitted_refused (.unselected hcomplete hslice) hsubmit prompt⟩
    | some urn =>
      have hparked : Sent before form urn
          ({ before with live := before.live.submitting form }.hold before.begun []
            (.ask (before.reportCall form urn) (.report form.filled))) :=
        ⟨hcomplete, hslice, rfl, rfl, rfl, rfl, rfl, rfl⟩
      have hstep : before.step oracle (.begin (.submitReport form) prompt) =
          { before with live := before.live.submitting form }.drive (oracle.backend prompt)
            before.begun [] (.ask (before.reportCall form urn) (.report form.filled)) := by
        simp only [Run.step, Run.begin, LiveView.begin, LiveView.submit_eq, if_pos hcomplete,
          hslice, reportCall]
      rw [hstep, Run.drive]
      cases hprompt : prompt (before.calls.length + 1) (before.reportCall form urn) with
      | true =>
        have hanswer : oracle.backend prompt (before.calls.length + 1)
            (before.reportCall form urn) =
              some (oracle (before.calls.length + 1) (before.reportCall form urn)) :=
          if_pos hprompt
        simp only [Run.record, hanswer]
        exact .inl (hparked.answered oracle (oracle.backend prompt))
      | false =>
        have hnone : oracle.backend prompt (before.calls.length + 1)
            (before.reportCall form urn) = none :=
          if_neg (by rw [hprompt]; exact Bool.false_ne_true)
        simp only [Run.record, hnone]
        exact .inr ⟨urn, hparked, hprompt⟩
  · have hsubmit : before.live.submit form =
        (before.live.submitting form).refuseReport form.rejection := by
      rw [LiveView.submit_eq, if_neg hcomplete]
    exact .inl ⟨_, submitted_refused (.incomplete hcomplete) hsubmit prompt⟩

/-- An answer that no operation waits for changes nothing. -/
theorem step_settle_unawaited {id : Nat} (hnone : run.flights.any (·.awaits id) = false)
    (oracle : Oracle) (prompt : Nat → Call → Bool) :
    run.step oracle (.settle id prompt) = run := by
  have hfind : run.flights.find? (·.awaits id) = none := by
    rw [List.find?_eq_none]
    rwa [List.any_eq_false] at hnone
  simp only [Run.step, Run.settle, hfind]
  split <;> rfl

/-- A move that spares what was in flight hands a sent form its answer, or the form goes on
waiting. -/
theorem Sent.step (h : Sent before form urn run) (hrun : run.Numbered) {move : Move}
    (hmove : move.spares before.flights = true) :
    (∃ result, Submitted oracle before form result (run.step oracle move)) ∨
      Sent before form urn (run.step oracle move) ∧
        ∀ prompt, move ≠ .settle (before.calls.length + 1) prompt := by
  cases move with
  | begin operation prompt => cases hmove
  | settle id prompt =>
    have hothers : before.flights.any (·.awaits id) = false := by
      simpa [Move.spares] using hmove
    by_cases hid : id = before.calls.length + 1
    · subst hid
      have hmem : (⟨before.begun, .report form.filled, [before.calls.length + 1]⟩ : Flight) ∈
          run.flights := last_mem_flights h.flights
      have hcall : run.call? (before.calls.length + 1) = some (before.reportCall form urn) := by
        have hrecord := before.call?_record (before.reportCall form urn)
        unfold call? at hrecord ⊢
        rwa [h.calls]
      have hfilter : run.flights.filter (!·.awaits (before.calls.length + 1)) =
          before.flights := by
        have hkept : ∀ flight ∈ before.flights,
            (!flight.awaits (before.calls.length + 1)) = true := fun flight hflight => by
          simpa using List.any_eq_false.1 hothers flight hflight
        rw [h.flights, List.filter_append, List.filter_eq_self.2 hkept,
          List.filter_cons_of_neg (by simp [Flight.awaits]), List.filter_nil, List.append_nil]
      have hanswered := h.answered oracle (oracle.backend prompt)
      simp only [Run.step, hcall]
      rw [hrun.settle_waiting hmem (List.mem_singleton_self _), hfilter, List.erase_cons_head]
      exact .inl hanswered
    · have hnone : run.flights.any (·.awaits id) = false := by
        rw [h.flights, List.any_append, hothers]
        simpa [Flight.awaits] using hid
      rw [step_settle_unawaited hnone]
      exact .inr ⟨h, fun prompt' hsame => hid (Move.settle.inj hsame).1⟩
  | setClock now =>
    have hsent : Sent before form urn (run.step oracle (.setClock now)) :=
      ⟨h.complete, h.slice, h.flights, h.calls, h.results, h.zone, h.session, h.notices⟩
    exact .inr ⟨hsent, fun _ => Move.noConfusion⟩
  | drain => cases hmove
  | look =>
    have hsent : Sent before form urn (run.step oracle .look) :=
      ⟨h.complete, h.slice, h.flights, h.calls, h.results, h.zone, h.session, h.notices⟩
    exact .inr ⟨hsent, fun _ => Move.noConfusion⟩

/-- Such a move changes nothing any more once the form came out. -/
theorem Submitted.step (h : Submitted oracle before form result run) {move : Move}
    (hmove : move.spares before.flights = true) :
    Submitted oracle before form result (run.step oracle move) := by
  cases move with
  | begin operation prompt => cases hmove
  | settle id prompt =>
    have hnone : run.flights.any (·.awaits id) = false := by
      rw [h.flights]
      simpa [Move.spares] using hmove
    rwa [step_settle_unawaited hnone]
  | setClock now => exact ⟨h.decided, h.flights, h.results, h.session, h.notices⟩
  | drain => cases hmove
  | look => exact ⟨h.decided, h.flights, h.results, h.session, h.notices⟩

/-- Nor does a list of such moves. -/
theorem Submitted.after (h : Submitted oracle before form result run) {moves : List Move}
    (hmoves : ∀ move ∈ moves, move.spares before.flights = true) :
    Submitted oracle before form result (run.after oracle moves) := by
  induction moves generalizing run with
  | nil => exact h
  | cons move rest ih =>
    exact ih (h.step (hmoves move List.mem_cons_self)) fun other hother =>
      hmoves other (List.mem_cons_of_mem _ hother)

/-- After such moves a sent form came out, or its answer was not handed in. -/
theorem Sent.after (h : Sent before form urn run) (hrun : run.AtRest) {moves : List Move}
    (hmoves : ∀ move ∈ moves, move.spares before.flights = true) :
    (∃ result, Submitted oracle before form result (run.after oracle moves)) ∨
      Sent before form urn (run.after oracle moves) ∧
        ∀ prompt, .settle (before.calls.length + 1) prompt ∉ moves := by
  induction moves generalizing run with
  | nil => exact .inr ⟨h, fun _ => List.not_mem_nil⟩
  | cons move rest ih =>
    have hrest : ∀ other ∈ rest, other.spares before.flights = true := fun other hother =>
      hmoves other (List.mem_cons_of_mem _ hother)
    rcases h.step hrun.numbered (hmoves move List.mem_cons_self) with
      ⟨result, hsubmitted⟩ | ⟨hsent, hother⟩
    · exact .inl ⟨result, hsubmitted.after hrest⟩
    · refine (ih hsent (hrun.step oracle move) hrest).imp_right fun ⟨hafter, hnone⟩ =>
        ⟨hafter, fun prompt hmem => ?_⟩
      rcases List.mem_cons.1 hmem with hsame | hlater
      · exact hother prompt hsame.symm
      · exact hnone prompt hlater

/-- Take any run and submit a form, while whatever is in flight waits. The report is sent once, for
the alert and the selected slice and with its verdict trimmed, if the form has a start and an end
that are not zero and a verdict that is not blank and a slice is selected; otherwise nothing is
sent. The operation ends, at the latest when the answer to the report is handed in. It succeeds if
the report was sent and accepted; the form and the stretch of time that it reports are kept then,
and the user is told. Otherwise it is refused, with all that the form lacks as the cause if it lacks
anything; an empty form and the stretch reported before are kept, and nothing is told. Nothing of
the session but its report changes. -/
theorem report_sent_once (oracle : Oracle) (live : LiveView) (earlier : List Move)
    (form : ReportForm) (prompt : Nat → Call → Bool) (later : List Move) :
    let run := after oracle { live := live } earlier
    let session := run.live.session
    let id := run.calls.length + 1
    let call (urn : String) : Call := .report session.alertId urn form.filled
    let stretch := run.live.zone.stretchText form.filled.startTime form.filled.endTime
    let final := (run.step oracle (.begin (.submitReport form) prompt)).after oracle later
    (∀ move ∈ later, move.spares run.flights = true) →
      (∀ urn, form.lacking = [] → session.metricUrn = some urn →
        final.calls = run.calls ++ [call urn]) ∧
      (form.lacking ≠ [] ∨ session.metricUrn = none → final.calls = run.calls) ∧
      (form.lacking ≠ [] ∨ session.metricUrn = none ∨ (∀ urn, prompt id (call urn) = true) ∨
          (∃ prompt', .settle id prompt' ∈ later) →
        ∃ result, (run.begun, result) ∈ final.results) ∧
      final.live.session = { session with report := final.live.session.report } ∧
      ∀ result, (run.begun, result) ∈ final.results →
        final.results = run.results ++ [(run.begun, result)] ∧ final.flights = run.flights ∧
        (result = .done ↔ ∃ urn, form.lacking = [] ∧ session.metricUrn = some urn ∧
          (oracle id (call urn)).accepted = .ok ()) ∧
        (result = .done ∨ ∃ cause, result = .refused cause) ∧
        (form.lacking ≠ [] → result = .refused (.validation
          ("missing data: " ++ Text.joined ", " form.lacking))) ∧
        final.live.session.report = (if result = .done then
            { isSuccess := true, isFailure := false, form := form, reportedRange := some stretch }
          else { session.report with isSuccess := false, isFailure := true, form := {} }) ∧
        final.live.notices = (if result = .done then
            run.live.notices.post ⟨false, "Anomaly reported", stretch⟩
          else run.live.notices) := by
  intro run session id call stretch final hlater
  have hrest : run.AtRest := (atRest_new live).after oracle earlier
  have hfinal : (∃ result, Submitted oracle run form result final) ∨
      ∃ urn, Sent run form urn final ∧ prompt id (call urn) = false ∧
        ∀ prompt', .settle id prompt' ∉ later := by
    rcases submit_begins oracle run form prompt with ⟨result, hsubmitted⟩ | ⟨urn, hsent, hprompt⟩
    · exact .inl ⟨result, hsubmitted.after hlater⟩
    · exact (hsent.after (hrest.step oracle _) hlater).imp_right fun ⟨hafter, hnone⟩ =>
        ⟨urn, hafter, hprompt, hnone⟩
  rcases hfinal with ⟨actual, hsubmitted⟩ | ⟨urn, hsent, hprompt, hnone⟩
  · obtain ⟨calls, hdecided, hcalls⟩ := hsubmitted.decided
    have hended : (run.begun, actual) ∈ final.results := by
      rw [hsubmitted.results]
      exact List.mem_append_right _ (List.mem_singleton_self _)
    refine ⟨fun urn hcomplete hslice => ?_, fun hunsent => ?_, fun _ => ⟨actual, hended⟩, ?_,
      fun result hresult => ?_⟩
    · rw [hcalls, hdecided.sent hcomplete hslice]
      rfl
    · rw [hcalls, hdecided.unsent hunsent, List.append_nil]
    · rw [hsubmitted.session]
    · have hnumbered : final.Numbered := ((hrest.step oracle _).after oracle later).numbered
      obtain rfl := hnumbered.result_unique hresult hended
      exact ⟨hsubmitted.results, hsubmitted.flights, hdecided.done_iff, hdecided.done_or_refused,
        hdecided.rejected, congrArg Session.report hsubmitted.session, hsubmitted.notices⟩
  · refine ⟨fun other _ hslice => ?_, fun hunsent => ?_, fun hends => ?_, ?_,
      fun result hresult => ?_⟩
    · cases hsent.slice.symm.trans hslice
      exact hsent.calls
    · rcases hunsent with hlacks | hslice
      · exact absurd hsent.complete hlacks
      · cases hslice.symm.trans hsent.slice
    · rcases hends with hlacks | hslice | hthere | ⟨prompt', hmem⟩
      · exact absurd hsent.complete hlacks
      · cases hslice.symm.trans hsent.slice
      · cases hprompt.symm.trans (hthere urn)
      · exact absurd hmem (hnone prompt')
    · rw [hsent.session]
    · rw [hsent.results] at hresult
      exact absurd (hrest.numbered.result_lt_begun hresult) (Nat.lt_irrefl _)

/-- A report that is accepted after an earlier one was declined: it is sent once with its verdict
trimmed, while the series of a rule are under way. Had its start been zero and its verdict blank,
nothing would have been sent, and both would have been named. -/
theorem report_sent_once_after_failure :
    let live : LiveView := {
      zone := default, now := 500, session := {
        alertId := 7, preview := false, edit := false, granularity := none
        dimensionExploration := false, alertYaml := none, savedYaml := none
        range := ⟨0, 1000⟩, duration := .custom, baselineOffset := .wo1w
        metricUrn := some "thirdeye:metric:1" } }
    let oracle : Oracle := fun id _ => if id = 4 then .ok .accepted else .error (.fetch "down")
    let never : Nat → Call → Bool := fun _ _ => false
    let form : ReportForm := {
      startTime := some 60000, endTime := some 120000, feedbackType := some " ANOMALY " }
    let incomplete : ReportForm := {
      startTime := some 0, endTime := some 120000, feedbackType := some " " }
    let earlier : List Move := [.begin (.submitReport form) never, .settle 1 never,
      .begin (.selectRule ⟨"mean:rule", "mean"⟩) never]
    let run := after oracle { live := live } earlier
    let final :=
      (run.step oracle (.begin (.submitReport form) never)).after oracle [.settle 4 never]
    let refused := run.step oracle (.begin (.submitReport incomplete) never)
    run.live.session.report = { isFailure := true } ∧
      final.calls =
        run.calls ++ [.report 7 "thirdeye:metric:1" ⟨60000, 120000, "ANOMALY", .empty⟩] ∧
      final.results = run.results ++ [(2, .done)] ∧
      final.live.session.report = {
        isSuccess := true, form := form
        reportedRange := some "1970-01-01 00:01 - 1970-01-01 00:02" } ∧
      refused.calls = run.calls ∧
      refused.results = run.results ++
        [(2, .refused (.validation "missing data: startTime, feedbackType"))] ∧
      refused.live.session.report = { isFailure := true } := by
  intro live oracle never form incomplete earlier run final refused
  have hspares : ∀ move ∈ [Move.settle 4 never], move.spares run.flights = true := by
    intro move hmove
    obtain rfl := List.mem_singleton.1 hmove
    dsimp only [run, earlier, form, live, oracle, never]
    decide +kernel
  obtain ⟨hsent, -, hends, -, hended⟩ :=
    report_sent_once oracle live earlier form never [.settle 4 never] hspares
  have hlacking : form.lacking = [] := by
    dsimp only [form]
    decide +kernel
  have hslice : run.live.session.metricUrn = some "thirdeye:metric:1" := by
    dsimp only [run, earlier, form, live, oracle, never]
    decide +kernel
  have hnumber : run.begun = 2 ∧ run.calls.length = 3 ∧
      run.live.session.report = { isFailure := true } := by
    dsimp only [run, earlier, form, live, oracle, never]
    decide +kernel
  obtain ⟨hbegun, hlength, hreport⟩ := hnumber
  have hhanded : .settle (run.calls.length + 1) never ∈ [Move.settle 4 never] := by
    rw [hlength]
    exact List.mem_singleton_self _
  obtain ⟨result, hresult⟩ := hends (.inr (.inr (.inr ⟨never, hhanded⟩)))
  obtain ⟨hresults, -, hdone, -, -, hkept, -⟩ := hended result hresult
  have hsucceeded : result = .done := hdone.2 ⟨_, hlacking, hslice, by rw [hlength]; rfl⟩
  subst hsucceeded
  -- the form that lacks something, at the same place of the run
  obtain ⟨-, hunsent, hends', -, hended'⟩ :=
    report_sent_once oracle live earlier incomplete never [] fun _ hnone => nomatch hnone
  have hlacks : incomplete.lacking ≠ [] ∧ "missing data: " ++ Text.joined ", " incomplete.lacking =
      "missing data: startTime, feedbackType" := by
    dsimp only [incomplete]
    decide +kernel
  obtain ⟨result, hresult'⟩ := hends' (.inl hlacks.1)
  obtain ⟨hresults', -, -, -, hrejected, hkept', -⟩ := hended' result hresult'
  obtain rfl := hrejected hlacks.1
  refine ⟨hreport, ?_, ?_, ?_, hunsent (.inl hlacks.1), ?_, ?_⟩
  · rw [hsent _ hlacking hslice]
    dsimp only [run, earlier, form, live, oracle, never]
    decide +kernel
  · rw [hresults, hbegun]
  · rw [hkept, if_pos rfl]
    dsimp only [run, earlier, form, live, oracle, never]
    decide +kernel
  · rw [← hlacks.2, ← hbegun]
    exact hresults'
  · rw [hreport, if_neg Result.noConfusion] at hkept'
    exact hkept'

end Run

end AlertDetail
