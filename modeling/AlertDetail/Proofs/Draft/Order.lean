import AlertDetail.Proofs.Draft.Results
import AlertDetail.Proofs.Sets.Passes

/-!
# Order of the sets of a draft

The draft of a new alert fills its old set first, so the new set never holds anything while the old
one is empty, and what it holds was found later. Where a pass puts its anomalies is decided when the
pass begins. If a range is selected meanwhile, both sets are emptied, and the load that this asks
for is dropped because the pass is still in flight; the pass then puts its anomalies into the new
set of two empty ones. Through every run in which this does not happen the sets are in order.
-/

namespace AlertDetail

/-- Where the draft of a new alert puts anomalies: into the old set if it is empty, otherwise into
the new one, whose anomalies become the old ones if there are any. -/
theorem Session.draft_viewState {session : Session} (hpreview : session.preview = true)
    (hedit : session.edit = false) :
    session.setState.viewState =
      if session.old = [] then .baseline else if session.new = [] then .replace else .shuffle := by
  have hdraft : (LiveView.loading session).IsDraft := ⟨hpreview, hedit, rfl⟩
  exact hdraft.viewState

/-- The sets of the draft of a new alert when anomalies were put there. -/
theorem Session.draft_place {session : Session} (hpreview : session.preview = true)
    (hedit : session.edit = false) (anomalies : List Anomaly) :
    let placed := session.setState.place session.setState.viewState anomalies
    placed.old =
        (if session.old = [] then anomalies else if session.new = [] then session.old
          else session.new) ∧
      placed.new = if session.old = [] then session.new else anomalies := by
  dsimp only
  rw [draft_viewState hpreview hedit]
  by_cases hold : session.old = []
  · simp only [hold, if_true]
    exact ⟨rfl, rfl⟩
  · by_cases hnew : session.new = []
    · simp only [hold, hnew, if_false, if_true]
      exact ⟨rfl, rfl⟩
    · simp only [hold, hnew, if_false]
      exact ⟨rfl, rfl⟩

/-- The two sets of a draft, each with what was found under a number below `bound`: both are empty,
or the new one is, or the new one was found after the old one. -/
inductive InOrder (found : Nat → List Anomaly → Prop) (bound : Nat) :
    List Anomaly → List Anomaly → Prop
  | empty : InOrder found bound [] []
  | one {id : Nat} {old : List Anomaly} (hold : old ≠ []) (hfound : found id old)
    (hbound : id < bound) : InOrder found bound old []
  | two {id id' : Nat} {old new : List Anomaly} (hold : old ≠ []) (hnew : new ≠ [])
    (hfound : found id old) (hfound' : found id' new) (horder : id < id') (hbound : id' < bound) :
    InOrder found bound old new

namespace InOrder

variable {found : Nat → List Anomaly → Prop} {bound : Nat} {old new : List Anomaly}

/-- A new set never stands beside an empty old one. -/
theorem old_ne_nil (h : InOrder found bound old new) (hnew : new ≠ []) : old ≠ [] := by
  cases h with
  | empty => exact absurd rfl hnew
  | one => exact absurd rfl hnew
  | two hold => exact hold

/-- Order stays when more is found and numbers grow. -/
theorem mono (h : InOrder found bound old new) {found' : Nat → List Anomaly → Prop}
    {bound' : Nat} (hfound : ∀ id anomalies, found id anomalies → found' id anomalies)
    (hbound : bound ≤ bound') : InOrder found' bound' old new := by
  cases h with
  | empty => exact .empty
  | one hold hid hlt => exact .one hold (hfound _ _ hid) (Nat.lt_of_lt_of_le hlt hbound)
  | two hold hnew hid hid' horder hlt =>
    exact .two hold hnew (hfound _ _ hid) (hfound _ _ hid') horder (Nat.lt_of_lt_of_le hlt hbound)

/-- Anomalies found under a later number, put where a draft with these sets puts them. -/
theorem place {id : Nat} (h : InOrder found id old new) {anomalies : List Anomaly}
    (hfound : found id anomalies) (hbound : id < bound) :
    InOrder found bound (if old = [] then anomalies else if new = [] then old else new)
      (if old = [] then new else anomalies) := by
  by_cases hempty : anomalies = []
  · subst hempty
    cases h with
    | empty => exact .empty
    | one hold hfirst hlt =>
      rw [if_neg hold, if_neg hold, if_pos rfl]
      exact .one hold hfirst (Nat.lt_trans hlt hbound)
    | two hold hnew hfirst hsecond horder hlt =>
      rw [if_neg hold, if_neg hold, if_neg hnew]
      exact .one hnew hsecond (Nat.lt_trans hlt hbound)
  · cases h with
    | empty => exact .one hempty hfound hbound
    | one hold hfirst hlt =>
      rw [if_neg hold, if_neg hold, if_pos rfl]
      exact .two hold hempty hfirst hfound hlt hbound
    | two hold hnew hfirst hsecond horder hlt =>
      rw [if_neg hold, if_neg hold, if_neg hnew]
      exact .two hnew hempty hsecond hfound hlt hbound

end InOrder

namespace LiveView

/-- A pass of a draft that is in flight: it evaluates the draft, and it was planned from the sets as
they are. -/
def Plans (live : LiveView) (stage : Stage) : Prop :=
  ∃ pass, stage = .evaluation pass ∧ pass.preview = true ∧
    pass.viewState = live.session.setState.viewState

/-- A plan stays right while the sets do, whatever range is shown. -/
theorem Plans.congr {live live' : LiveView} {stage : Stage} (h : live.Plans stage)
    (hmode : live'.session.preview = live.session.preview ∧
      live'.session.edit = live.session.edit)
    (hsets : live'.session.old = live.session.old ∧ live'.session.new = live.session.new) :
    live'.Plans stage := by
  obtain ⟨pass, hstage, hpreview, hstate⟩ := h
  refine ⟨pass, hstage, hpreview, hstate.trans ?_⟩
  simp only [SetState.viewState, Session.setState, hmode, hsets]

end LiveView

namespace Run

/-- The evaluation under a number found anomalies. -/
def Found (oracle : Oracle) (run : Run) (id : Nat) (anomalies : List Anomaly) : Prop :=
  ∃ call evaluation, run.call? id = some call ∧ (oracle id call).evaluation = .ok evaluation ∧
    evaluation.anomalies = anomalies

/-- Whether a move selects a range that empties sets which are not empty, while a load waits for
anomalies that it means to put beside them. -/
def undercuts (run : Run) : Move → Bool
  | .begin operation _ =>
    operation.empties run.live && !run.live.session.old.isEmpty &&
      run.flights.any (·.stage.isPass)
  | _ => false

/-- A run on the draft of a new alert whose sets are in order. -/
structure SetsOrdered (oracle : Oracle) (run : Run) : Prop where
  /-- A draft is evaluated. -/
  preview : run.live.session.preview = true
  /-- The alert is new. -/
  edit : run.live.session.edit = false
  /-- What the sets hold was found by calls that were made. -/
  sets : InOrder (run.Found oracle) (run.calls.length + 1) run.live.session.old
    run.live.session.new
  /-- A pass in flight was planned from the sets, before it made its call. -/
  passes : ∀ flight ∈ run.flights, flight.stage.isPass = true →
    run.live.Plans flight.stage ∧ ∀ id ∈ flight.waiting,
      InOrder (run.Found oracle) id run.live.session.old run.live.session.new

/-- The same of a run whose operations are in order as well. -/
structure Ordered (oracle : Oracle) (run : Run) : Prop extends run.Orderly, run.SetsOrdered oracle

variable {oracle : Oracle} {run : Run}

/-- What was found stays found while the calls that were made keep their numbers. -/
theorem Found.mono {run' : Run}
    (hcalls : ∀ {id call}, run.call? id = some call → run'.call? id = some call) (id : Nat)
    (anomalies : List Anomaly) (h : run.Found oracle id anomalies) :
    run'.Found oracle id anomalies := by
  obtain ⟨call, evaluation, hcall, hanswer, hfound⟩ := h
  exact ⟨call, evaluation, hcalls hcall, hanswer, hfound⟩

/-- Order depends on nothing of the view but the sets and its mode, and not on operations that are
no longer in flight. -/
theorem SetsOrdered.congr (h : run.SetsOrdered oracle) {live : LiveView} {others : List Flight}
    (hmode : live.session.preview = run.live.session.preview ∧
      live.session.edit = run.live.session.edit)
    (hsets : live.session.old = run.live.session.old ∧ live.session.new = run.live.session.new)
    (hothers : ∀ flight ∈ others, flight ∈ run.flights) :
    { run with live := live, flights := others }.SetsOrdered oracle where
  preview := hmode.1.trans h.preview
  edit := hmode.2.trans h.edit
  sets := by
    dsimp only
    rw [hsets.1, hsets.2]
    exact h.sets
  passes flight hflight hpass := by
    obtain ⟨hplans, horder⟩ := h.passes flight (hothers flight hflight) hpass
    refine ⟨hplans.congr hmode hsets, ?_⟩
    dsimp only
    rw [hsets.1, hsets.2]
    exact horder

/-- Order is kept by an operation that goes on, if what it goes on with is planned from the sets. -/
theorem SetsOrdered.hold (h : run.SetsOrdered oracle) {operation : Nat} {waiting : List Nat}
    {next : Next} (horderly : (run.hold operation waiting next).Orderly) (hasks : next.Asks)
    (hnext : ∀ stage, next.stage? = some stage → stage.isPass = true → run.live.Plans stage) :
    (run.hold operation waiting next).Ordered oracle := by
  have hfound : ∀ id anomalies, run.Found oracle id anomalies →
      (run.hold operation waiting next).Found oracle id anomalies :=
    Found.mono fun hcall => call?_hold hcall operation waiting next
  have hlength := run.calls_length_hold operation waiting next
  have hlive := run.live_hold operation waiting next
  refine ⟨horderly, ?_, ?_, ?_, ?_⟩
  · rw [hlive]
    exact h.preview
  · rw [hlive]
    exact h.edit
  · rw [hlive]
    exact h.sets.mono hfound (by omega)
  · intro flight hflight hpass
    rw [hlive]
    have hother (hmem : flight ∈ run.flights) : run.live.Plans flight.stage ∧
        ∀ id ∈ flight.waiting, InOrder ((run.hold operation waiting next).Found oracle) id
          run.live.session.old run.live.session.new := by
      obtain ⟨hplans, horder⟩ := h.passes flight hmem hpass
      exact ⟨hplans, fun id hid => (horder id hid).mono hfound (Nat.le_refl _)⟩
    cases next with
    | ask call stage =>
      rcases mem_flights_park.1 hflight with hmem | rfl
      · exact hother hmem
      · refine ⟨hnext stage rfl hpass, fun id hid => ?_⟩
        rw [List.mem_singleton.1 hid]
        exact h.sets.mono hfound (Nat.le_refl _)
    | wait stage =>
      rcases mem_flights_park.1 hflight with hmem | rfl
      · exact hother hmem
      · exact absurd (hpass.symm.trans hasks) Bool.noConfusion
    | finish result => exact hother hflight

/-- Order is kept by an operation that goes on beside the sets. -/
theorem SetsOrdered.aside {live : LiveView} {others : List Flight}
    (h : { run with live := live, flights := others }.SetsOrdered oracle)
    {step : LiveView × Next} (haside : live.Aside step) {operation : Nat} {waiting : List Nat}
    (horderly : ({ run with live := step.1, flights := others }.hold operation waiting
      step.2).Orderly) :
    ({ run with live := step.1, flights := others }.hold operation waiting
      step.2).Ordered oracle := by
  have hsame : { run with live := step.1, flights := others }.SetsOrdered oracle :=
    h.congr ⟨congrArg SetState.preview haside.sets, congrArg SetState.edit haside.sets⟩
      ⟨congrArg SetState.old haside.sets, congrArg SetState.new haside.sets⟩ fun _ => id
  exact hsame.hold horderly (Next.asks_of_not_pass haside.next) fun stage hstage hpass =>
    absurd (hpass.symm.trans (haside.next stage hstage)) Bool.noConfusion

/-- Order is kept when the anomalies that a pass found are put into the sets it was planned from. -/
theorem SetsOrdered.merge (h : run.SetsOrdered oracle) {pass : Pass}
    (hstate : pass.viewState = run.live.session.setState.viewState) {id : Nat} {call : Call}
    (horder : InOrder (run.Found oracle) id run.live.session.old run.live.session.new)
    (hcall : run.call? id = some call) (hbound : id < run.calls.length + 1)
    {evaluation : Evaluation} (hfound : (oracle id call).evaluation = .ok evaluation)
    (choice : SliceChoice) {others : List Flight}
    (hothers : ∀ flight ∈ others, flight.stage.isPass = false) :
    { run with
      live := run.live.merged pass choice ⟨evaluation.anomalies, evaluation.predictions⟩
      flights := others }.SetsOrdered oracle := by
  have hsets := run.live.merged_setState pass choice ⟨evaluation.anomalies, evaluation.predictions⟩
  rw [hstate, SetState.place_eq] at hsets
  have hold : (run.live.merged pass choice _).session.old = _ := congrArg SetState.old hsets
  have hnew : (run.live.merged pass choice _).session.new = _ := congrArg SetState.new hsets
  obtain ⟨hold', hnew'⟩ := Session.draft_place h.preview h.edit evaluation.anomalies
  refine ⟨(congrArg SetState.preview hsets).trans h.preview,
    (congrArg SetState.edit hsets).trans h.edit, ?_, fun flight hflight hpass => ?_⟩
  · dsimp only
    rw [hold, hnew, hold', hnew']
    exact horder.place ⟨call, evaluation, hcall, hfound, rfl⟩ hbound
  · exact absurd (hpass.symm.trans (hothers flight hflight)) Bool.noConfusion

/-- A pass of a draft takes an answer. -/
theorem Ordered.take_pass (h : run.Ordered oracle) {operation : Nat} {others : List Flight}
    {stage : Stage} {waiting : List Nat} {id : Nat} {call : Call}
    (hflights : run.flights = others ++ [⟨operation, stage, waiting⟩]) (hid : id ∈ waiting)
    (hcall : run.call? id = some call) (hstage : stage.isPass = true) :
    (run.taken others ⟨operation, stage, waiting⟩ id (oracle id call)).Ordered oracle := by
  have hmem := last_mem_flights hflights
  have horderly := (Orderly.keeps oracle operation others).take hflights hid hcall h.toOrderly
  have hothers := h.toOrderly.no_other_pass hflights hstage
  obtain ⟨⟨pass, hevaluation, hpreview, hstate⟩, hbefore⟩ := h.passes _ hmem hstage
  obtain rfl : stage = .evaluation pass := hevaluation
  have hbound : id < run.calls.length + 1 := by
    have hasked := h.asked _ hmem id hid
    omega
  have hbootstrap : pass.viewState ≠ .bootstrap := by
    rw [hstate, Session.draft_viewState h.preview h.edit]
    split
    · exact ViewState.noConfusion
    · split <;> exact ViewState.noConfusion
  have hanswer := run.live.resume_passAnswer (waiting.head? == some id) (oracle id call) hstage
  rw [taken_eq] at horderly ⊢
  dsimp only at horderly ⊢
  generalize run.live.resume (waiting.head? == some id) (oracle id call) (.evaluation pass) = step
    at hanswer horderly ⊢
  cases hanswer with
  | failed =>
    have hsame : { run with live := run.live, flights := others }.SetsOrdered oracle :=
      h.toSetsOrdered.congr ⟨rfl, rfl⟩ ⟨rfl, rfl⟩ fun _ => mem_flights_of_others hflights
    exact hsame.aside (run.live.failLoad_aside _) horderly
  | reads hreads =>
    rw [Pass.readsDetected, hpreview] at hreads
    simp [hbootstrap] at hreads
  | @evaluated _ evaluation choice hfound =>
    have hmerged := h.toSetsOrdered.merge hstate (hbefore id hid) hcall hbound hfound choice hothers
    have hend := run.live.finishPass_end pass choice
      ⟨evaluation.anomalies, evaluation.predictions⟩
    generalize run.live.finishPass pass choice ⟨evaluation.anomalies, evaluation.predictions⟩ =
      step at hend horderly ⊢
    cases hend with
    | again hagain => exact absurd hagain hbootstrap
    | missing => exact hmerged.aside (LiveView.failLoad_aside _ _) horderly
    | series => exact hmerged.aside (LiveView.requestSeries_aside _ _) horderly

/-- Order is kept while an operation goes on. -/
theorem Ordered.keeps (oracle : Oracle) (operation : Nat) (others : List Flight) :
    Keeps oracle operation others (Ordered oracle) where
  take := by
    intro run stage waiting id call hflights hid hcall h
    cases hstage : stage.isPass with
    | true => exact h.take_pass hflights hid hcall hstage
    | false =>
      have hsame : { run with live := run.live, flights := others }.SetsOrdered oracle :=
        h.toSetsOrdered.congr ⟨rfl, rfl⟩ ⟨rfl, rfl⟩ fun _ => mem_flights_of_others hflights
      exact hsame.aside (run.live.resume_aside _ (oracle id call) hstage)
        ((Orderly.keeps oracle operation others).take hflights hid hcall h.toOrderly)
  double := by
    intro run request id hflights h
    have horderly := (Orderly.keeps oracle operation others).double hflights h.toOrderly
    have hfound : ∀ id anomalies, run.Found oracle id anomalies →
        (run.doubled others operation id request).Found oracle id anomalies :=
      Found.mono fun hcall => call?_record_of_some hcall request.baselineCall
    have hlength : run.calls.length ≤ (run.doubled others operation id request).calls.length := by
      show run.calls.length ≤ (run.calls ++ [request.baselineCall]).length
      rw [List.length_append]
      omega
    refine ⟨horderly, h.preview, h.edit, h.sets.mono hfound (by omega), ?_⟩
    intro flight hflight hpass
    rcases mem_flights_doubled.1 hflight with hother | rfl
    · obtain ⟨hplans, horder⟩ := h.passes flight (mem_flights_of_others hflights hother) hpass
      exact ⟨hplans, fun id hid => (horder id hid).mono hfound (Nat.le_refl _)⟩
    · cases hpass

/-- What an operation prepares is in order, unless it empties sets that a pass was planned from. -/
theorem SetsOrdered.prepared (h : run.SetsOrdered oracle) {operation : Operation}
    {prompt : Nat → Call → Bool} (hallowed : run.undercuts (.begin operation prompt) = false)
    {prepared : LiveView} (hsets : prepared.session.setState = operation.prepare run.live) :
    { run with live := prepared }.SetsOrdered oracle := by
  obtain ⟨hpreview, hedit⟩ := operation.prepare_mode run.live
  have hmode : prepared.session.preview = run.live.session.preview ∧
      prepared.session.edit = run.live.session.edit :=
    ⟨(congrArg SetState.preview hsets).trans hpreview, (congrArg SetState.edit hsets).trans hedit⟩
  have hprepare := operation.prepare_sets run.live
  rw [← hsets] at hprepare
  cases hempties : operation.empties run.live with
  | false =>
    rw [hempties, if_neg Bool.false_ne_true] at hprepare
    exact h.congr hmode (Prod.mk.inj hprepare) fun _ => id
  | true =>
    rw [hempties, if_pos rfl] at hprepare
    obtain ⟨hold, hnew⟩ : prepared.session.old = [] ∧ prepared.session.new = [] :=
      Prod.mk.inj hprepare
    by_cases hempty : run.live.session.old = []
    · -- the sets were empty before, so a pass in flight was planned from empty ones
      have hempty' : run.live.session.new = [] := by
        by_contra hne
        exact h.sets.old_ne_nil hne hempty
      exact h.congr hmode ⟨hold.trans hempty.symm, hnew.trans hempty'.symm⟩ fun _ => id
    · refine ⟨hmode.1.trans h.preview, hmode.2.trans h.edit, ?_, fun flight hflight hpass => ?_⟩
      · dsimp only
        rw [hold, hnew]
        exact .empty
      · have hpasses : run.flights.any (·.stage.isPass) = true :=
          List.any_eq_true.2 ⟨flight, hflight, hpass⟩
        simp [undercuts, hempties, hpasses, hempty] at hallowed

/-- An operation that begins keeps order, unless it empties sets that a pass was planned from. -/
theorem Ordered.started (h : run.Ordered oracle) {operation : Operation}
    {prompt : Nat → Call → Bool} (hallowed : run.undercuts (.begin operation prompt) = false) :
    (run.started operation).Ordered oracle := by
  have horderly := h.toOrderly.started operation
  have hasks := run.live.begin_asks run.busy operation
  have hopening := run.live.begin_setOpening run.busy operation
  unfold Run.started at horderly ⊢
  dsimp only at horderly ⊢
  generalize run.live.begin run.busy operation = step at hopening hasks horderly ⊢
  cases hopening with
  | aside _ hsets haside => exact (h.toSetsOrdered.prepared hallowed hsets).aside haside horderly
  | @load prepared _ _ hsets =>
    have hprepared := h.toSetsOrdered.prepared hallowed hsets
    have hloading : { run with live := prepared.update LiveView.loading }.SetsOrdered oracle :=
      hprepared.congr ⟨rfl, rfl⟩ ⟨rfl, rfl⟩ fun _ => id
    have hstart := prepared.beginPass_start false
    generalize prepared.beginPass false = step at hstart hasks horderly ⊢
    cases hstart with
    | failed => exact hloading.aside (LiveView.failLoad_aside _ _) horderly
    | evaluation =>
      refine hloading.hold horderly hasks fun stage hstage _ => ?_
      cases hstage
      exact ⟨_, rfl, hprepared.preview, LiveView.plan_viewState prepared.session prepared.now⟩
    | detected hhidden =>
      have hpreview : prepared.session.preview = true := hprepared.preview
      rw [Session.rulesVisible, hpreview] at hhidden
      cases hhidden

/-- Every move keeps order, unless it empties sets that a pass was planned from. -/
theorem Ordered.step (h : run.Ordered oracle) {move : Move}
    (hallowed : run.undercuts move = false) : (run.step oracle move).Ordered oracle := by
  cases move with
  | begin operation prompt =>
    exact (Ordered.keeps oracle run.begun run.flights).begin prompt (h.started hallowed)
  | settle id prompt =>
    refine h.toNumbered.settle_induct prompt h fun hflights _ => ⟨Ordered.keeps oracle _ _, ?_⟩
    exact ⟨h.toOrderly.rotate hflights, h.toSetsOrdered.congr ⟨rfl, rfl⟩ ⟨rfl, rfl⟩
      fun flight => (mem_rotate hflights flight).1⟩
  | setClock now =>
    exact ⟨h.toOrderly.step oracle (.setClock now), h.preview, h.edit, h.sets, h.passes⟩
  | drain => exact ⟨h.toOrderly.step oracle .drain, h.preview, h.edit, h.sets, h.passes⟩
  | look => exact ⟨h.toOrderly.step oracle .look, h.preview, h.edit, h.sets, h.passes⟩

/-- The sets of the draft of a new alert are in order. Whatever the backend answers, whatever
operations are begun and in whichever order they go on: as long as no range is selected that empties
sets while a load waits for anomalies to put beside them, the new set only holds anomalies while the
old one does, and what it holds was found by a later evaluation. -/
theorem draft_sets_inOrder {options : ViewOptions} {window now : Int} {zone : Zone}
    {notices : NoticeBoard} {live : LiveView}
    (hopen : LiveView.open? options window now zone notices = .ok live)
    (hpreview : options.preview = true) (hedit : options.edit = false) (oracle : Oracle)
    {moves : List Move}
    (hmoves : Along oracle (fun run move => run.undercuts move = false) { live := live } moves) :
    let run := after oracle { live := live } moves
    (run.live.session.new ≠ [] → run.live.session.old ≠ []) ∧
      InOrder (run.Found oracle) (run.calls.length + 1) run.live.session.old
        run.live.session.new := by
  intro run
  have hopened := LiveView.open?_setState hopen
  have hold : live.session.old = [] := congrArg SetState.old hopened
  have hnew : live.session.new = [] := congrArg SetState.new hopened
  have hnone : ∀ flight, flight ∉ ({ live := live } : Run).flights := fun _ => List.not_mem_nil
  have hstart : Ordered oracle { live := live } := {
    toOrderly := orderly_new live
    preview := (congrArg SetState.preview hopened).trans hpreview
    edit := (congrArg SetState.edit hopened).trans hedit
    sets := by
      dsimp only
      rw [hold, hnew]
      exact .empty
    passes := fun flight hflight => absurd hflight (hnone flight) }
  have hrun : run.Ordered oracle := hmoves.keeps (fun hallowed h => h.step hallowed) hstart
  exact ⟨hrun.sets.old_ne_nil, hrun.sets⟩

/-- A range is selected while an evaluation is awaited, but the configuration was changed before, so
that the sets are not emptied and the evaluation is put beside the one before it. -/
theorem draft_sets_inOrder_outdated_range :
    let options : ViewOptions := {
      alertId := 7, preview := true, alertYaml := some "live", savedYaml := some "saved"
      range := some ⟨0, 1000⟩ }
    let live : LiveView := {
      zone := default, now := 2000, session := {
        alertId := 7, preview := true, edit := false, granularity := none
        dimensionExploration := false, alertYaml := some "live", savedYaml := some "saved"
        range := ⟨0, 1000⟩, duration := .custom, baselineOffset := .predicted } }
    let found (id : Nat) : List Anomaly :=
      [{ metricUrn := "thirdeye:metric:7", startTime := id, endTime := id + 5 }]
    let oracle : Oracle := fun id _ => .ok (.evaluation {
      anomalies := found id
      predictions := [{ detectorName := "mean:rule", metricUrn := "thirdeye:metric:7" }]
      diagnostics := [("0", .obj [("thirdeye:metric:7", .null)])] })
    let always : Nat → Call → Bool := fun _ _ => true
    let never : Nat → Call → Bool := fun _ _ => false
    let moves : List Move :=
      [.begin .requestPreview always, .begin .requestPreview never,
        .begin (.setYaml "edited") never, .begin (.selectRange 0 500 .custom) never,
        .settle 2 never]
    let run := after oracle { live := live } moves
    LiveView.open? options 172800000 2000 default .empty = .ok live ∧
      Along oracle (fun run move => run.undercuts move = false) { live := live } moves ∧
      run.live.session.old = found 1 ∧ run.live.session.new = found 2 ∧
      (run.live.session.new ≠ [] → run.live.session.old ≠ []) := by
  intro options live found oracle always never moves run
  have hopen : LiveView.open? options 172800000 2000 default .empty = .ok live := rfl
  have hmoves :
      Along oracle (fun run move => run.undercuts move = false) { live := live } moves := by
    dsimp only [moves, live, found, oracle, always, never]
    decide +kernel
  refine ⟨hopen, hmoves, ?_, ?_, (draft_sets_inOrder hopen rfl rfl oracle hmoves).1⟩
  · dsimp only [run, moves, live, found, oracle, always, never]
    decide +kernel
  · dsimp only [run, moves, live, found, oracle, always, never]
    decide +kernel

/-- Without the change of the configuration the range empties both sets, the load that it asks for
is dropped, and the evaluation is put into the new set beside an empty old one. -/
theorem draft_sets_undercut :
    let options : ViewOptions := {
      alertId := 7, preview := true, alertYaml := some "live", savedYaml := some "saved"
      range := some ⟨0, 1000⟩ }
    let live : LiveView := {
      zone := default, now := 2000, session := {
        alertId := 7, preview := true, edit := false, granularity := none
        dimensionExploration := false, alertYaml := some "live", savedYaml := some "saved"
        range := ⟨0, 1000⟩, duration := .custom, baselineOffset := .predicted } }
    let oracle : Oracle := fun _ _ => .ok (.evaluation {
      anomalies := [{ metricUrn := "thirdeye:metric:7", startTime := 0, endTime := 5 }]
      predictions := [{ detectorName := "mean:rule", metricUrn := "thirdeye:metric:7" }]
      diagnostics := [("0", .obj [("thirdeye:metric:7", .null)])] })
    let always : Nat → Call → Bool := fun _ _ => true
    let never : Nat → Call → Bool := fun _ _ => false
    let run := after oracle { live := live }
      [.begin .requestPreview always, .begin .requestPreview never]
    let selected := run.step oracle (.begin (.selectRange 0 500 .custom) never)
    let final := selected.step oracle (.settle 2 never)
    LiveView.open? options 172800000 2000 default .empty = .ok live ∧
      run.undercuts (.begin (.selectRange 0 500 .custom) never) = true ∧
      selected.results.getLast? = some (2, .loaded .dropped) ∧
      final.flights.isEmpty = true ∧ final.live.session.old = [] ∧
      final.live.session.new ≠ [] := by
  intro options live oracle always never run selected final
  refine ⟨rfl, ?_⟩
  dsimp only [final, selected, run, live, oracle, always, never]
  decide +kernel

end Run

end AlertDetail
