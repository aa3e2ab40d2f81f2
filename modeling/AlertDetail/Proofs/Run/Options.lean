import AlertDetail.Proofs.Run.Preparation
import AlertDetail.Proofs.Run.Schedule

/-!
# Options of a run

A view keeps the options with which it was opened through every run, but for the configuration to
evaluate: that one is replaced on request, and never taken away.
-/

namespace AlertDetail

namespace LiveView

/-- What holds of a view through every run: operations keep it where they begin and where they take
an answer, and it does not depend on the clock, the notices and the remembered views. -/
structure Stable (kept : LiveView → Prop) : Prop where
  /-- Beginning an operation keeps it. -/
  begin : ∀ live busy operation, kept live → kept (live.begin busy operation).1
  /-- Taking an answer keeps it. -/
  resume : ∀ live first answer stage, kept live → kept (live.resume first answer stage).1
  /-- It does not depend on the rest of the view. -/
  aside : ∀ live live' : LiveView, live'.session = live.session → live'.ticket = live.ticket →
    live'.zone = live.zone → kept live → kept live'

end LiveView

namespace Run

/-- What is stable holds until an operation waits or ends. -/
theorem drive_stable {kept : LiveView → Prop} (stable : LiveView.Stable kept) {run : Run}
    (backend : Backend) (operation : Nat) (waiting : List Nat) (next : Next)
    (h : kept run.live) : kept (run.drive backend operation waiting next).live := by
  fun_induction Run.drive run backend operation waiting next with
  | case1 => exact h
  | case2 => exact h
  | case3 run waiting call stage id recorded hrecord answer hanswer ih =>
    obtain ⟨rfl, rfl⟩ := Prod.mk.inj hrecord
    exact ih (stable.resume _ _ _ _ h)
  | case4 run waiting call id recorded hrecord hanswer request =>
    obtain ⟨rfl, rfl⟩ := Prod.mk.inj hrecord
    have hbaseline (answer : Answer) : kept (run.live.takeBaseline request answer).1 :=
      stable.resume run.live false answer (.both request) h
    unfold alongside
    dsimp only
    split
    · exact h
    · next answer hsecond => split <;> exact hbaseline answer
  | case5 run waiting call id recorded hrecord hanswer stage hstage =>
    obtain ⟨rfl, rfl⟩ := Prod.mk.inj hrecord
    exact h

/-- What is stable holds after every move. -/
theorem step_stable {kept : LiveView → Prop} (stable : LiveView.Stable kept) (oracle : Oracle)
    {run : Run} (h : kept run.live) (move : Move) : kept (run.step oracle move).live := by
  cases move with
  | begin operation prompt => exact drive_stable stable _ _ _ _ (stable.begin _ _ _ h)
  | settle id prompt =>
    unfold Run.step
    dsimp only
    split
    · unfold Run.settle
      split
      · exact h
      · exact drive_stable stable _ _ _ _ (stable.resume _ _ _ _ h)
    · exact h
  | setClock now => exact stable.aside run.live _ rfl rfl rfl h
  | drain => exact stable.aside run.live _ rfl rfl rfl h
  | look => exact stable.aside run.live _ rfl rfl rfl h

/-- What is stable holds after every list of moves. -/
theorem after_stable {kept : LiveView → Prop} (stable : LiveView.Stable kept) (oracle : Oracle)
    {run : Run} (h : kept run.live) (moves : List Move) : kept (run.after oracle moves).live := by
  induction moves generalizing run with
  | nil => exact h
  | cons move rest ih => exact ih (step_stable stable oracle h move)

end Run

namespace Session

/-- The options of a session are those of another one, but for the configuration to evaluate, which
is there if it was there. -/
structure SameAlert (before after : Session) : Prop where
  /-- The other options are the same. -/
  options : after.options = { before.options with alertYaml := after.alertYaml }
  /-- A configuration is not taken away. -/
  yaml : before.alertYaml.isSome = true → after.alertYaml.isSome = true

/-- The sets and the predictions belong to what a session holds beside its series. -/
theorem sets_of_core {before after : Session} (h : after.core = before.core) :
    after.old = before.old ∧ after.new = before.new ∧ after.predictions = before.predictions := by
  have hold : after.core.old = before.core.old := by rw [h]
  have hnew : after.core.new = before.core.new := by rw [h]
  have hpredictions : after.core.predictions = before.core.predictions := by rw [h]
  exact ⟨hold, hnew, hpredictions⟩

/-- The same options make the same alert. -/
theorem SameAlert.of_options {before after : Session} (h : after.options = before.options) :
    before.SameAlert after where
  options := by
    have hyaml : after.alertYaml = before.alertYaml := congrArg ViewOptions.alertYaml h
    rw [h, hyaml]
    rfl
  yaml hyaml := by
    have hsame : after.alertYaml = before.alertYaml := congrArg ViewOptions.alertYaml h
    rwa [hsame]

/-- A session after one of the same alert. -/
theorem SameAlert.trans {before middle after : Session} (h : before.SameAlert middle)
    (h' : middle.SameAlert after) : before.SameAlert after where
  options := by rw [h'.options, h.options]
  yaml := h'.yaml ∘ h.yaml

end Session

namespace LiveView

/-- Completing a request changes nothing but the series and what is said of loads. -/
theorem finishSeries_core (live : LiveView) (request : SeriesRequest)
    (measured baseline : Option TimeSeries) :
    (live.finishSeries request measured baseline).1.session.core = live.session.core := by
  unfold finishSeries install
  split <;> rfl

/-- Requesting series changes nothing else either. -/
theorem requestSeries_core (live : LiveView) (purpose : Purpose) :
    (live.requestSeries purpose).1.session.core = live.session.core := by
  have hissued : live.issued.session.core = live.session.core := rfl
  have hstart := live.requestSeries_start purpose
  generalize live.requestSeries purpose = step at hstart ⊢
  cases hstart with
  | missing => rfl
  | unpredicted => exact (finishSeries_core _ _ _ _).trans hissued
  | predicted => exact (finishSeries_core _ _ _ _).trans hissued
  | compared => exact hissued
  | measured => exact hissued

/-- So it keeps the options. -/
theorem requestSeries_options (live : LiveView) (purpose : Purpose) :
    (live.requestSeries purpose).1.session.options = live.session.options := by
  rw [← Session.options_core, requestSeries_core]
  rfl

/-- Nor does an answer to an operation that waits for series change anything else. -/
theorem resume_core (live : LiveView) (first : Bool) (answer : Answer) {stage : Stage}
    {request : SeriesRequest} (hstage : stage.request? = some request) :
    (live.resume first answer stage).1.session.core = live.session.core := by
  have hanswer := live.resume_series first answer hstage
  generalize live.resume first answer stage = step at hanswer ⊢
  cases hanswer with
  | failed => rfl
  | measured => rfl
  | bothMeasured => rfl
  | bothBaseline => rfl
  | lastMeasured => exact finishSeries_core _ _ _ _
  | lastBaseline => exact finishSeries_core _ _ _ _

/-- A view opens with the session of its options, in the zone and at the time that are given. -/
theorem open?_eq_ok {options : ViewOptions} {window now : Int} {zone : Zone}
    {notices : NoticeBoard} {live : LiveView}
    (h : open? options window now zone notices = .ok live) :
    ∃ session, Session.new? { options with window := options.window.or (some window) } now zone =
        .ok session ∧
      live = {
        zone := zone, now := now, notices := notices
        session := { session with
          showDetails := !session.preview, isCurrent := !session.preview } } := by
  unfold open? at h
  cases hnew : Session.new? { options with window := options.window.or (some window) } now zone with
  | error cause =>
    simp only [hnew, bind, Except.bind] at h
    contradiction
  | ok session =>
    simp only [hnew, bind, Except.bind] at h
    exact ⟨session, rfl, (Except.ok.inj h).symm⟩

/-- A view that opens holds its options and a range, and nothing was loaded. Its details are shown
at once unless it previews a draft. -/
theorem open?_session {options : ViewOptions} {window now : Int} {zone : Zone}
    {notices : NoticeBoard} {live : LiveView}
    (h : open? options window now zone notices = .ok live) :
    live.session = {
      alertId := options.alertId
      preview := options.preview
      edit := options.edit
      granularity := options.granularity
      dimensionExploration := options.dimensionExploration
      alertYaml := options.alertYaml
      savedYaml := options.savedYaml
      range := live.session.range
      duration := live.session.duration
      baselineOffset := Session.openingBaseline options
      showDetails := !options.preview
      isCurrent := !options.preview } := by
  obtain ⟨session, hnew, rfl⟩ := open?_eq_ok h
  rw [Session.new?_eq_ok hnew]
  rfl

/-- A view holds the options with which it was opened; the range and the window only say which range
is shown. -/
theorem open?_options {options : ViewOptions} {window now : Int} {zone : Zone}
    {notices : NoticeBoard} {live : LiveView}
    (h : open? options window now zone notices = .ok live) :
    live.session.options = { options with window := none, range := none } := by
  rw [open?_session h]
  rfl

/-- A pass keeps the options where it begins. -/
theorem beginPass_options (live : LiveView) (reentered : Bool) :
    (live.beginPass reentered).1.session.options = live.session.options := by
  unfold beginPass
  dsimp only
  split
  · split <;> rfl
  · rfl

/-- Taking anomalies over with the choice that came with them keeps the options and the range. -/
theorem merge_apply_options (session : Session) (choice : SliceChoice) (state : ViewState)
    (result : FetchResult) :
    ((choice.apply session).merge state result).1.options = session.options ∧
      ((choice.apply session).merge state result).1.range = session.range := by
  rw [merge_apply_eq]
  exact ⟨rfl, rfl⟩

/-- A pass keeps the options where it ends. -/
theorem finishPass_options (live : LiveView) (pass : Pass) (choice : SliceChoice)
    (result : FetchResult) :
    (live.finishPass pass choice result).1.session.options = live.session.options := by
  have hmerged := (merge_apply_options live.session choice pass.viewState result).1
  unfold finishPass
  dsimp only
  split
  · rw [beginPass_options]
    exact hmerged
  · split
    · exact hmerged
    · rw [requestSeries_options]
      exact hmerged

/-- Taking an answer keeps the options. -/
theorem resume_options (live : LiveView) (first : Bool) (answer : Answer) (stage : Stage) :
    (live.resume first answer stage).1.session.options = live.session.options := by
  rcases stage.pass_or_series_or_report with hpass | ⟨request, hrequest⟩ | ⟨report, rfl⟩
  · cases stage with
    | evaluation pass =>
      unfold resume takeEvaluation
      cases answer.evaluation with
      | error cause => rfl
      | ok evaluation =>
        dsimp only
        split
        · rfl
        · exact finishPass_options _ _ _ _
    | detected pass evaluation =>
      unfold resume takeDetected
      cases answer.anomalies with
      | error cause => rfl
      | ok anomalies => cases evaluation <;> exact finishPass_options _ _ _ _
    | _ => contradiction
  · rw [← Session.options_core, resume_core live first answer hrequest]
    rfl
  · unfold resume takeReport
    cases answer.accepted <;> rfl

/-- Preparing an operation keeps the alert. -/
theorem Prepared.sameAlert {live prepared : LiveView} (h : Prepared live prepared) :
    live.session.SameAlert prepared.session := by
  cases h with
  | edited yaml => exact ⟨rfl, fun _ => rfl⟩
  | _ => exact .of_options rfl

/-- Beginning an operation keeps the alert. -/
theorem begin_sameAlert (live : LiveView) (busy : Bool) (operation : Operation) :
    live.session.SameAlert (live.begin busy operation).1.session := by
  have hstart := live.begin_start busy operation
  generalize live.begin busy operation = step at hstart ⊢
  cases hstart with
  | finished hprepared => exact hprepared.sameAlert
  | load hprepared => exact hprepared.sameAlert.trans (.of_options (beginPass_options _ false))
  | series hprepared => exact hprepared.sameAlert.trans (.of_options (requestSeries_options _ _))
  | report hprepared => exact hprepared.sameAlert

/-- Every run keeps the alert. -/
theorem sameAlert_stable (session : Session) :
    Stable fun live => session.SameAlert live.session where
  begin live busy operation h := h.trans (begin_sameAlert live busy operation)
  resume live first answer stage h := h.trans (.of_options (resume_options live first answer stage))
  aside live live' hsession _ _ h := by rwa [hsession]

end LiveView

/-- Through every run a view keeps the options that it had, but for the configuration to evaluate,
which is never taken away. -/
theorem Run.after_sameAlert (oracle : Oracle) (run : Run) (moves : List Move) :
    run.live.session.SameAlert (run.after oracle moves).live.session :=
  after_stable (LiveView.sameAlert_stable run.live.session) oracle (.of_options rfl) moves

end AlertDetail
