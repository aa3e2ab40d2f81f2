import AlertDetail.Proofs.Run.Numbering
import AlertDetail.Proofs.Run.Preparation
import AlertDetail.Proofs.Sets.Passes
import AlertDetail.Proofs.Slices.Keys
import AlertDetail.Proofs.Slices.Partition

/-!
# The selected slice

A view offers slices and has one of them selected, under its label. Loads replace all three, the
slices by those that an evaluation or the anomalies name, unless they name none; a user selects
another slice by its label. Whatever the backend answers, the selected slice is one of those
offered, and its label finds a slice that looks the same. Nothing tells slices with one label apart,
so the slice found need not be the selected one.
-/

namespace AlertDetail

namespace Slice

/-- No label is empty. -/
theorem label_ne_empty (urn : String) : label urn ≠ "" := by
  unfold label
  split
  · decide
  · next hfilters => exact hfilters

/-- A slice is meant by its own label. -/
theorem isSelectedBy_label (urn : String) : isSelectedBy (label urn) urn = true := by
  unfold isSelectedBy label
  by_cases hwhole : tail urn = ""
  · simp [hwhole]
  · simp [hwhole]

/-- Slices meant by the label of a slice have this label. -/
theorem label_eq_of_isSelectedBy {urn other : String}
    (h : isSelectedBy (label urn) other = true) : label other = label urn := by
  unfold isSelectedBy at h
  rw [Bool.or_eq_true, Bool.and_eq_true, decide_eq_true_eq, decide_eq_true_eq,
    decide_eq_true_eq] at h
  rcases h with hfilters | ⟨hwhole, hlabel⟩
  · have hne : tail other ≠ "" := hfilters ▸ label_ne_empty urn
    exact (if_neg hne).trans hfilters
  · exact (if_pos hwhole).trans hlabel.symm

/-- The label of a slice finds a slice with the same label among those that hold it. -/
theorem resolve?_label {urns : List String} {urn : String} (h : urn ∈ urns) :
    ∃ found ∈ urns, resolve? urns (label urn) = some found ∧ label found = label urn := by
  have hsome : (urns.find? (isSelectedBy (label urn))).isSome = true :=
    List.find?_isSome.2 ⟨urn, h, isSelectedBy_label urn⟩
  obtain ⟨found, hfound⟩ := Option.isSome_iff_exists.1 hsome
  exact ⟨found, List.mem_of_find?_eq_some hfound, hfound,
    label_eq_of_isSelectedBy (List.find?_some hfound)⟩

/-- The slices of anomalies are distinct. -/
theorem nodup_ofAnomalies (anomalies : List Anomaly) : (ofAnomalies anomalies).Nodup :=
  (firstSeen_ofAnomalies anomalies).nodup

end Slice

/-- The slices to choose from, and which one is selected. -/
structure SliceState where
  /-- The slices to choose from. -/
  urns : List String
  /-- The selected slice. -/
  selected : Option String
  /-- The label of the selected slice. -/
  label : Option String

/-- The slices of a session. -/
def Session.sliceState (session : Session) : SliceState :=
  ⟨session.metricUrns, session.metricUrn, session.dimension⟩

/-- The slices belong to what a session holds beside its series. -/
theorem Session.sliceState_of_core {before after : Session} (h : after.core = before.core) :
    after.sliceState = before.sliceState :=
  (congrArg Session.sliceState h : after.core.sliceState = before.core.sliceState)

namespace SliceState

/-- There are no slices, or one of them is selected under its label. -/
inductive Consistent : SliceState → Prop
  | none : Consistent ⟨[], .none, .none⟩
  | selected {urns : List String} {urn : String} (hmem : urn ∈ urns) :
    Consistent ⟨urns, some urn, some (Slice.label urn)⟩

variable {slices : SliceState}

/-- Something is selected if and only if there are slices to choose from. -/
theorem Consistent.selected_eq_none_iff (h : slices.Consistent) :
    (slices.selected = .none ↔ slices.urns = []) ∧ (slices.label = .none ↔ slices.urns = []) := by
  cases h with
  | none => exact ⟨⟨fun _ => rfl, fun _ => rfl⟩, ⟨fun _ => rfl, fun _ => rfl⟩⟩
  | selected hmem =>
    have hsome := List.ne_nil_of_mem hmem
    exact ⟨⟨fun h => (nomatch h), fun h => absurd h hsome⟩,
      ⟨fun h => (nomatch h), fun h => absurd h hsome⟩⟩

/-- A slice that is selected is one of those to choose from, under its label. -/
theorem Consistent.of_selected (h : slices.Consistent) {urn : String}
    (hselected : slices.selected = some urn) :
    urn ∈ slices.urns ∧ slices.label = some (Slice.label urn) := by
  cases h with
  | none => cases hselected
  | selected hmem =>
    obtain rfl := Option.some.inj hselected
    exact ⟨hmem, rfl⟩

end SliceState

/-- What a choice makes of the slices: it replaces them and selects its first, if it has any. -/
def SliceChoice.offer (choice : SliceChoice) (slices : SliceState) : SliceState :=
  match choice.metricUrns with
  | [] => slices
  | first :: rest => ⟨first :: rest, some first, some (Slice.label first)⟩

/-- Slices stay consistent under every choice. -/
theorem SliceState.Consistent.offer {slices : SliceState} (h : slices.Consistent)
    (choice : SliceChoice) : (choice.offer slices).Consistent := by
  unfold SliceChoice.offer
  split
  · exact h
  · exact .selected List.mem_cons_self

/-- They stay distinct if those of the choice are. -/
theorem SliceChoice.nodup_offer {choice : SliceChoice} {slices : SliceState}
    (hslices : slices.urns.Nodup) (hchoice : choice.metricUrns.Nodup) :
    (choice.offer slices).urns.Nodup := by
  unfold SliceChoice.offer
  split
  · exact hslices
  · next first rest hurns =>
    rw [hurns] at hchoice
    exact hchoice

/-- The evaluation that a pass holds while it reads the detected anomalies. -/
def Stage.evaluation? : Stage → Option Evaluation
  | detected _ held => held
  | _ => none

/-- An operation that does not wait for anomalies holds no evaluation. -/
theorem Stage.evaluation?_of_not_pass {stage : Stage} (h : stage.isPass = false) :
    stage.evaluation? = none := by
  cases stage <;> first | rfl | cases h

/-- An evaluation is read from an answer that is one. -/
theorem Answer.eq_of_evaluation {answer : Answer} {evaluation : Evaluation}
    (h : answer.evaluation = .ok evaluation) : answer = .ok (.evaluation evaluation) := by
  unfold Answer.evaluation at h
  split at h
  · rw [Except.ok.inj h]
  · cases h
  · cases h

/-- The choices that can come with an answer taken at a stage: the slices of anomalies, or those of
the evaluation that the answer is or that the stage holds. -/
inductive SliceChoice.ComesWith (answer : Answer) (stage : Stage) : SliceChoice → Prop
  | anomalies (anomalies : List Anomaly) : ComesWith answer stage (.ofAnomalies anomalies)
  | evaluation {evaluation : Evaluation}
    (hsource : answer = .ok (.evaluation evaluation) ∨ stage.evaluation? = some evaluation) :
    ComesWith answer stage (.ofEvaluation evaluation)

/-- The slices of such a choice are distinct if those of the evaluations are. -/
theorem SliceChoice.ComesWith.nodup {answer : Answer} {stage : Stage} {choice : SliceChoice}
    (h : choice.ComesWith answer stage)
    (hanswer : ∀ evaluation, answer = .ok (.evaluation evaluation) → evaluation.keyed = true)
    (hstage : ∀ evaluation, stage.evaluation? = some evaluation → evaluation.keyed = true) :
    choice.metricUrns.Nodup := by
  cases h with
  | anomalies anomalies => exact Slice.nodup_ofAnomalies anomalies
  | @evaluation evaluation hsource =>
    have hkeyed : evaluation.keyed = true := hsource.elim (hanswer _) (hstage _)
    unfold ofEvaluation
    split
    · next urns hurns => exact Evaluation.nodup_metricUrns? hkeyed hurns
    · exact List.nodup_nil

namespace LiveView

/-- Merging offers the slices of the choice. -/
theorem merged_sliceState (live : LiveView) (pass : Pass) (choice : SliceChoice)
    (result : FetchResult) :
    (live.merged pass choice result).session.sliceState =
      choice.offer live.session.sliceState := by
  have happly : (choice.apply live.session).sliceState = choice.offer live.session.sliceState := by
    unfold SliceChoice.apply SliceChoice.selectSlice SliceChoice.offer
    cases choice.metricUrns <;> rfl
  have hmerge (session : Session) :
      (session.merge pass.viewState result).1.sliceState = session.sliceState := by
    cases pass.viewState <;> rfl
  rw [← happly]
  exact hmerge _

/-- A step of an operation that leaves the slices as they are and holds no evaluation. -/
structure SlicesKept (live : LiveView) (step : LiveView × Next) : Prop where
  /-- The slices stay as they are. -/
  slices : step.1.session.sliceState = live.session.sliceState
  /-- No evaluation is held. -/
  held : ∀ stage, step.2.stage? = some stage → stage.evaluation? = none

/-- A pass leaves the slices where it begins. -/
theorem beginPass_slicesKept (live : LiveView) (reentered : Bool) :
    SlicesKept live (live.beginPass reentered) := by
  have hstart := live.beginPass_start reentered
  generalize live.beginPass reentered = step at hstart ⊢
  cases hstart with
  | failed => exact ⟨rfl, fun _ hstage => (nomatch hstage)⟩
  | evaluation =>
    refine ⟨rfl, fun stage hstage => ?_⟩
    cases hstage
    rfl
  | detected =>
    refine ⟨rfl, fun stage hstage => ?_⟩
    cases hstage
    rfl

/-- So does a request for series. -/
theorem requestSeries_slicesKept (live : LiveView) (purpose : Purpose) :
    SlicesKept live (live.requestSeries purpose) where
  slices := Session.sliceState_of_core (requestSeries_core live purpose)
  held _ hstage :=
    Stage.evaluation?_of_not_pass ((requestSeries_aside live purpose).next _ hstage)

/-- The end of a pass offers the slices of its choice. -/
theorem finishPass_slices (live : LiveView) (pass : Pass) (choice : SliceChoice)
    (result : FetchResult) :
    (live.finishPass pass choice result).1.session.sliceState =
        choice.offer live.session.sliceState ∧
      ∀ stage, (live.finishPass pass choice result).2.stage? = some stage →
        stage.evaluation? = none := by
  have hmerged := live.merged_sliceState pass choice result
  have hend := live.finishPass_end pass choice result
  generalize live.finishPass pass choice result = step at hend ⊢
  cases hend with
  | again =>
    have hkept := beginPass_slicesKept (live.merged pass choice result) true
    exact ⟨hkept.slices.trans hmerged, hkept.held⟩
  | missing => exact ⟨hmerged, fun _ hstage => (nomatch hstage)⟩
  | series =>
    have hkept := requestSeries_slicesKept (live.merged pass choice result) .load
    exact ⟨hkept.slices.trans hmerged, hkept.held⟩

/-- What taking an answer makes of the slices: they stay, or those of a choice are offered that
comes with the answer. An evaluation that is held afterwards is the answer. -/
structure SliceAnswer (live : LiveView) (answer : Answer) (stage : Stage)
    (step : LiveView × Next) : Prop where
  /-- The slices stay or are replaced. -/
  slices : step.1.session.sliceState = live.session.sliceState ∨
    ∃ choice : SliceChoice, choice.ComesWith answer stage ∧
      step.1.session.sliceState = choice.offer live.session.sliceState
  /-- What is held was just answered. -/
  held : ∀ stage' evaluation, step.2.stage? = some stage' → stage'.evaluation? = some evaluation →
    answer = .ok (.evaluation evaluation)

/-- A step that holds no evaluation. -/
theorem SliceAnswer.of_held_none {live : LiveView} {answer : Answer} {stage : Stage}
    {step : LiveView × Next} (hslices : step.1.session.sliceState = live.session.sliceState ∨
      ∃ choice : SliceChoice, choice.ComesWith answer stage ∧
        step.1.session.sliceState = choice.offer live.session.sliceState)
    (hheld : ∀ stage', step.2.stage? = some stage' → stage'.evaluation? = none) :
    SliceAnswer live answer stage step :=
  ⟨hslices, fun stage' _ hstage hevaluation =>
    nomatch (hheld stage' hstage).symm.trans hevaluation⟩

/-- Every answer does this to the slices. -/
theorem resume_slices (live : LiveView) (first : Bool) (answer : Answer) (stage : Stage) :
    SliceAnswer live answer stage (live.resume first answer stage) := by
  cases hstage : stage.isPass with
  | false =>
    refine .of_held_none (.inl ?_) fun stage' hnext =>
      Stage.evaluation?_of_not_pass ((live.resume_aside first answer hstage).next stage' hnext)
    rcases stage.pass_or_series_or_report with hpass | ⟨request, hrequest⟩ | ⟨report, rfl⟩
    · exact absurd (hstage.symm.trans hpass) Bool.false_ne_true
    · exact Session.sliceState_of_core (live.resume_core first answer hrequest)
    · unfold resume takeReport
      cases answer.accepted <;> rfl
  | true =>
    have hfinish {pass : Pass} {choice : SliceChoice} {result : FetchResult}
        (hchoice : choice.ComesWith answer stage) :
        SliceAnswer live answer stage (live.finishPass pass choice result) := by
      obtain ⟨hslices, hheld⟩ := live.finishPass_slices pass choice result
      exact .of_held_none (.inr ⟨choice, hchoice, hslices⟩) hheld
    have hfail (cause : ChartError) : SliceAnswer live answer stage (live.failLoad cause) :=
      .of_held_none (.inl rfl) fun _ hnext => (nomatch hnext)
    cases stage with
    | evaluation pass =>
      unfold resume takeEvaluation
      cases hanswer : answer.evaluation with
      | error cause => exact hfail cause
      | ok evaluation =>
        have hsource := Answer.eq_of_evaluation hanswer
        dsimp only
        split
        · refine ⟨.inl rfl, fun stage' evaluation' hnext hheld => ?_⟩
          cases hnext
          cases hheld
          exact hsource
        · exact hfinish (.evaluation (.inl hsource))
    | detected pass evaluation =>
      unfold resume takeDetected
      cases answer.anomalies with
      | error cause => exact hfail cause
      | ok anomalies =>
        cases evaluation with
        | none => exact hfinish (.anomalies anomalies)
        | some evaluation => exact hfinish (.evaluation (.inr rfl))
    | _ => contradiction

/-- Preparing an operation leaves the slices to choose from, and what is selected of them
consistent. -/
theorem Prepared.slices {live prepared : LiveView} (h : Prepared live prepared) :
    prepared.session.metricUrns = live.session.metricUrns ∧
      (live.session.sliceState.Consistent → prepared.session.sliceState.Consistent) := by
  cases h with
  | slice hslice => exact ⟨rfl, fun _ => .selected (List.mem_of_find?_eq_some hslice)⟩
  | _ => exact ⟨rfl, id⟩

/-- So does its beginning, and it holds no evaluation. -/
theorem begin_slices (live : LiveView) (busy : Bool) (operation : Operation) :
    (live.begin busy operation).1.session.metricUrns = live.session.metricUrns ∧
      (live.session.sliceState.Consistent →
        (live.begin busy operation).1.session.sliceState.Consistent) ∧
      ∀ stage, (live.begin busy operation).2.stage? = some stage → stage.evaluation? = none := by
  have hstart := live.begin_start busy operation
  generalize live.begin busy operation = step at hstart ⊢
  -- a step that leaves the slices after what was prepared
  have hkept {prepared : LiveView} {step : LiveView × Next} (hprepared : Prepared live prepared)
      (hstep : SlicesKept prepared step) :
      step.1.session.metricUrns = live.session.metricUrns ∧
        (live.session.sliceState.Consistent → step.1.session.sliceState.Consistent) ∧
        ∀ stage, step.2.stage? = some stage → stage.evaluation? = none := by
    obtain ⟨hurns, hconsistent⟩ := hprepared.slices
    refine ⟨(congrArg SliceState.urns hstep.slices).trans hurns, fun h => ?_, hstep.held⟩
    rw [hstep.slices]
    exact hconsistent h
  cases hstart with
  | finished hprepared => exact hkept hprepared ⟨rfl, fun _ hstage => (nomatch hstage)⟩
  | load hprepared => exact hkept hprepared (beginPass_slicesKept _ false)
  | series hprepared => exact hkept hprepared (requestSeries_slicesKept _ _)
  | report hprepared =>
    refine hkept hprepared ⟨rfl, fun stage hstage => ?_⟩
    cases hstage
    rfl

/-- The slices of a view stay consistent through every run. -/
theorem consistent_stable : Stable fun live => live.session.sliceState.Consistent where
  begin live busy operation h := (live.begin_slices busy operation).2.1 h
  resume live first answer stage h := by
    rcases (live.resume_slices first answer stage).slices with hsame | ⟨choice, -, hoffered⟩
    · rwa [hsame]
    · rw [hoffered]
      exact h.offer choice
  aside live live' hsession _ _ h := by rwa [hsession]

end LiveView

/-- Whether the evaluations that a backend answers have every key of every object once, as all that
are read from a text have. -/
def Oracle.Keyed (oracle : Oracle) : Prop :=
  ∀ id call evaluation, oracle id call = .ok (.evaluation evaluation) → evaluation.keyed = true

/-- A backend that is reached over the web answers so, whatever is replied to each request. -/
theorem Oracle.keyed_of_perform {oracle : Oracle} {base : String}
    {send : Nat → Http.Request → Option Http.Reply}
    (h : ∀ id call, oracle id call = Id.run (Http.perform (send id) base call)) :
    oracle.Keyed := by
  intro id call evaluation hanswer
  rw [h] at hanswer
  unfold Http.perform at hanswer
  split at hanswer
  · cases hanswer
  · next request _ =>
    dsimp only at hanswer
    split at hanswer
    · cases hreply : send id request with
      | none =>
        simp only [hreply] at hanswer
        cases hanswer
      | some reply =>
        simp only [hreply] at hanswer
        exact Http.keyed_of_answer hanswer
    · cases hanswer

namespace Run

/-- The slices to choose from are distinct, and will be after the evaluations that are held. -/
structure Distinct (run : Run) : Prop where
  /-- The slices are distinct. -/
  urns : run.live.session.metricUrns.Nodup
  /-- Evaluations that are held have every key once. -/
  held : ∀ flight ∈ run.flights, ∀ evaluation, flight.stage.evaluation? = some evaluation →
    evaluation.keyed = true

variable {run : Run} {oracle : Oracle}

/-- An operation that goes on beside others keeps this, if it leaves distinct slices and holds
nothing else. -/
theorem Distinct.hold (h : run.Distinct) {others : List Flight}
    (hothers : ∀ flight ∈ others, flight ∈ run.flights) {step : LiveView × Next}
    (hurns : step.1.session.metricUrns.Nodup)
    (hheld : ∀ stage evaluation, step.2.stage? = some stage →
      stage.evaluation? = some evaluation → evaluation.keyed = true)
    (operation : Nat) (waiting : List Nat) :
    ({ run with live := step.1, flights := others }.hold operation waiting step.2).Distinct where
  urns := by
    rw [live_hold]
    exact hurns
  held flight hflight evaluation hevaluation := by
    rcases mem_flights_hold hflight with hother | ⟨-, hstage⟩
    · exact h.held flight (hothers flight hother) evaluation hevaluation
    · exact hheld _ _ hstage hevaluation

/-- It is kept while an operation goes on. -/
theorem Distinct.keeps (hkeyed : oracle.Keyed) (operation : Nat) (others : List Flight) :
    Keeps oracle operation others Distinct where
  take := by
    intro run stage waiting id call hflights _ _ h
    have hstage := h.held _ (last_mem_flights hflights)
    have hanswer := hkeyed id call
    have hstep := run.live.resume_slices (waiting.head? == some id) (oracle id call) stage
    have hurns : (run.live.resume (waiting.head? == some id) (oracle id call)
        stage).1.session.sliceState.urns.Nodup := by
      rcases hstep.slices with hsame | ⟨choice, hchoice, hoffered⟩
      · rw [hsame]
        exact h.urns
      · rw [hoffered]
        exact SliceChoice.nodup_offer h.urns (hchoice.nodup hanswer hstage)
    rw [taken_eq]
    exact h.hold (fun _ => mem_flights_of_others hflights) hurns
      (fun stage' evaluation hnext hheld => hanswer _ (hstep.held stage' evaluation hnext hheld))
      operation _
  double := by
    intro run request id hflights h
    refine ⟨h.urns, fun flight hflight evaluation hevaluation => ?_⟩
    rcases mem_flights_doubled.1 hflight with hother | rfl
    · exact h.held flight (mem_flights_of_others hflights hother) evaluation hevaluation
    · cases hevaluation

/-- Every move keeps it. -/
theorem Distinct.step (h : run.Distinct) (hrun : run.Numbered) (hkeyed : oracle.Keyed)
    (move : Move) : (run.step oracle move).Distinct := by
  cases move with
  | begin operation prompt =>
    obtain ⟨hurns, -, hheld⟩ := run.live.begin_slices run.busy operation
    refine (Distinct.keeps hkeyed run.begun run.flights).begin prompt ?_
    have hdistinct : (run.live.begin run.busy operation).1.session.metricUrns.Nodup := by
      rw [hurns]
      exact h.urns
    refine h.hold (fun _ => id) hdistinct (fun stage evaluation hnext hevaluation => ?_)
      run.begun []
    exact nomatch (hheld stage hnext).symm.trans hevaluation
  | settle id prompt =>
    refine hrun.settle_induct prompt h fun hflights _ => ⟨Distinct.keeps hkeyed _ _, ?_⟩
    exact ⟨h.urns, fun flight hflight => h.held flight ((mem_rotate hflights flight).1 hflight)⟩
  | setClock now => exact ⟨h.urns, h.held⟩
  | drain => exact ⟨h.urns, h.held⟩
  | look => exact ⟨h.urns, h.held⟩

/-- So does every list of moves. -/
theorem Distinct.after (h : run.Distinct) (hrun : run.AtRest) (hkeyed : oracle.Keyed)
    (moves : List Move) : (run.after oracle moves).Distinct :=
  hrun.keeps (fun hrest _ h => h.step hrest.numbered hkeyed _) (fun _ _ => trivial) h

/-- The slices of a view are consistent in every run from its opening, with any answers. The slices
to choose from are distinct if no object of an evaluation repeats a key. A slice and its label are
selected if and only if there are slices to choose from; the selected slice is one of them, and its
label finds one among them that has the same label. -/
theorem slices_consistent {options : ViewOptions} {window now : Int} {zone : Zone}
    {notices : NoticeBoard} {live : LiveView}
    (hopen : LiveView.open? options window now zone notices = .ok live)
    (oracle : Oracle) (moves : List Move) :
    let session := (after oracle { live := live } moves).live.session
    (oracle.Keyed → session.metricUrns.Nodup) ∧
      (session.metricUrn = none ↔ session.metricUrns = []) ∧
      (session.dimension = none ↔ session.metricUrns = []) ∧
      ∀ urn, session.metricUrn = some urn →
        urn ∈ session.metricUrns ∧ session.dimension = some (Slice.label urn) ∧
        ∃ found ∈ session.metricUrns,
          Slice.resolve? session.metricUrns (Slice.label urn) = some found ∧
            Slice.label found = Slice.label urn := by
  intro session
  have hopened := LiveView.open?_session hopen
  have hconsistent : session.sliceState.Consistent := by
    refine after_stable LiveView.consistent_stable oracle ?_ moves
    show live.session.sliceState.Consistent
    rw [hopened]
    exact .none
  obtain ⟨hselected, hlabel⟩ := hconsistent.selected_eq_none_iff
  refine ⟨fun hkeyed => ?_, hselected, hlabel, fun urn hurn => ?_⟩
  · have hnew : Distinct { live := live } := by
      refine ⟨?_, fun _ hflight => (nomatch hflight)⟩
      show live.session.metricUrns.Nodup
      rw [hopened]
      exact List.nodup_nil
    exact (hnew.after (atRest_new live) hkeyed moves).urns
  · obtain ⟨hmem, hdimension⟩ := hconsistent.of_selected hurn
    exact ⟨hmem, hdimension, Slice.resolve?_label hmem⟩

/-- A filter may read like the label of the slice without filters. That slice is then selected by
an empty text, and its label finds the other one, which has the same label. -/
theorem slices_consistent_shared_label :
    let options : ViewOptions := {
      alertId := 7, preview := true, alertYaml := some "draft", range := some ⟨0, 1000⟩ }
    let live : LiveView := {
      zone := default, now := 500, session := {
        alertId := 7, preview := true, edit := false, granularity := none
        dimensionExploration := false, alertYaml := some "draft", savedYaml := none
        range := ⟨0, 1000⟩, duration := .custom, baselineOffset := .predicted } }
    let filtered := "thirdeye:metric:7:All%20Dimensions"
    let whole := "thirdeye:metric:7"
    let evaluation : Evaluation :=
      { diagnostics := [("0", .obj [(filtered, .null), (whole, .null)])] }
    let oracle : Oracle := fun _ _ => .ok (.evaluation evaluation)
    let moves : List Move :=
      [.begin .requestPreview fun _ _ => true, .begin (.selectDimension "") fun _ _ => true]
    let session := (after oracle { live := live } moves).live.session
    LiveView.open? options 0 500 default .empty = .ok live ∧ oracle.Keyed ∧
      session.metricUrns = [filtered, whole] ∧ session.metricUrns.Nodup ∧
      session.metricUrn = some whole ∧ session.dimension = some (Slice.label whole) ∧
      Slice.resolve? session.metricUrns (Slice.label whole) = some filtered ∧
      Slice.label filtered = Slice.label whole := by
  intro options live filtered whole evaluation oracle moves session
  have hopen : LiveView.open? options 0 500 default .empty = .ok live := rfl
  have hkeyed : oracle.Keyed := by
    intro id call evaluation' h
    rw [← Reply.evaluation.inj (Except.ok.inj h)]
    decide +kernel
  have hsession : session.metricUrns = [filtered, whole] ∧ session.metricUrn = some whole ∧
      Slice.resolve? session.metricUrns (Slice.label whole) = some filtered := by
    dsimp only [session, moves, live, oracle, evaluation, filtered, whole]
    decide +kernel
  obtain ⟨hurns, hselected, hresolve⟩ := hsession
  obtain ⟨hdistinct, -, -, hconsistent⟩ := slices_consistent hopen oracle moves
  obtain ⟨-, hdimension, found, -, hfound, hlabel⟩ := hconsistent whole hselected
  have hsame : found = filtered := Option.some.inj (hfound.symm.trans hresolve)
  exact ⟨hopen, hkeyed, hurns, hdistinct hkeyed, hselected, hdimension, hresolve, hsame ▸ hlabel⟩

end Run

end AlertDetail
