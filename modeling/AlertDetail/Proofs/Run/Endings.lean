import AlertDetail.Proofs.Run.Schedule

/-!
# How operations end

A load and a request for series are taken step by step to the same three ends: a step goes on
waiting, completes the operation, or fails it, and only a failure puts a notice up. So an operation
that goes on alone tells nothing until it ends, and then tells of its failure once or of nothing.
-/

namespace AlertDetail

/-- The notice of a failure. -/
def ChartError.notice (cause : ChartError) : Notice := ⟨true, "Error", cause.message⟩

/-- What an operation that waits for anomalies or series was begun for. -/
def Stage.purpose? (stage : Stage) : Option Purpose :=
  if stage.isPass then some .load else stage.request?.map (·.purpose)

/-- A stage at which anomalies are awaited belongs to a load. -/
theorem Stage.purpose?_of_isPass {stage : Stage} (h : stage.isPass = true) :
    stage.purpose? = some .load :=
  if_pos h

/-- A stage at which series are awaited has the purpose of their request. -/
theorem Stage.purpose?_of_request? {stage : Stage} {request : SeriesRequest}
    (h : stage.request? = some request) : stage.purpose? = some request.purpose := by
  unfold purpose?
  rw [isPass_of_request? h, h]
  rfl

namespace LiveView

/-- What a step does to an operation with a purpose: it goes on waiting for its own sake, or is
complete, or fails. -/
inductive Turn (live : LiveView) (purpose : Purpose) : LiveView × Next → Prop
  | onward {after : LiveView} {next : Next} {stage : Stage}
    (hnotices : after.notices = live.notices) (hnext : next.stage? = some stage)
    (hstage : stage.purpose? = some purpose) :
    Turn live purpose (after, next)
  | complete {after : LiveView} (hnotices : after.notices = live.notices) :
    Turn live purpose (after, .finish purpose.success)
  | failed {after : LiveView} {cause : ChartError}
    (hnotices : after.notices = live.notices.post cause.notice)
    (herrored : after.session.errored = true) :
    Turn live purpose (after, .finish (purpose.failure cause))

variable {live : LiveView} {purpose : Purpose}

/-- A step from a view with the same notices. -/
theorem Turn.of_notices {live' : LiveView} {step : LiveView × Next} (h : Turn live' purpose step)
    (hnotices : live'.notices = live.notices) : Turn live purpose step := by
  cases h with
  | onward hsame hnext hstage => exact .onward (hsame.trans hnotices) hnext hstage
  | complete hsame => exact .complete (hsame.trans hnotices)
  | failed hposted herrored => exact .failed (hnotices ▸ hposted) herrored

/-- An operation that goes on waits for its own sake. -/
theorem Turn.purpose? {step : LiveView × Next} (h : Turn live purpose step) {stage : Stage}
    (hstage : step.2.stage? = some stage) : stage.purpose? = some purpose := by
  cases h with
  | onward hnotices hnext hpurpose =>
    obtain rfl := Option.some.inj (hnext.symm.trans hstage)
    exact hpurpose
  | complete => cases hstage
  | failed => cases hstage

/-- An operation that comes to its end does so with the success or a failure of its purpose. -/
theorem Turn.result {step : LiveView × Next} (h : Turn live purpose step) {result : Result}
    (hresult : step.2 = .finish result) :
    result = purpose.success ∨ ∃ cause, result = purpose.failure cause := by
  cases h with
  | @onward after next stage hnotices hnext =>
    have hfinish : next = .finish result := hresult
    rw [hfinish] at hnext
    cases hnext
  | complete => exact .inl (Next.finish.inj hresult).symm
  | failed => exact .inr ⟨_, (Next.finish.inj hresult).symm⟩

/-- A completed request tells nothing. -/
theorem finishSeries_notices (live : LiveView) (request : SeriesRequest)
    (measured baseline : Option TimeSeries) :
    (live.finishSeries request measured baseline).1.notices = live.notices := by
  unfold finishSeries install
  split <;> rfl

/-- A request for series waits, is complete, or fails without a slice. -/
theorem requestSeries_turn (live : LiveView) (purpose : Purpose) :
    Turn live purpose (live.requestSeries purpose) := by
  have hstart := live.requestSeries_start purpose
  generalize live.requestSeries purpose = step at hstart ⊢
  cases hstart with
  | missing => exact .failed rfl rfl
  | unpredicted => exact .complete (finishSeries_notices live.issued _ _ _)
  | predicted => exact .complete (finishSeries_notices live.issued _ _ _)
  | compared => exact .onward rfl rfl rfl
  | measured => exact .onward rfl rfl rfl

/-- A pass waits for anomalies or fails. -/
theorem beginPass_turn (live : LiveView) (reentered : Bool) :
    Turn live .load (live.beginPass reentered) := by
  unfold beginPass
  dsimp only
  split
  · split
    · exact .onward rfl rfl rfl
    · exact .failed rfl rfl
  · exact .onward rfl rfl rfl

/-- The end of a pass begins the second one, fails without a slice, or requests the series. -/
theorem finishPass_turn (live : LiveView) (pass : Pass) (choice : SliceChoice)
    (result : FetchResult) : Turn live .load (live.finishPass pass choice result) := by
  unfold finishPass
  dsimp only
  split
  · exact (beginPass_turn _ true).of_notices rfl
  · split
    · exact .failed rfl rfl
    · exact (requestSeries_turn _ .load).of_notices rfl

/-- An answer to an operation that waits for anomalies or series takes it on in one of these
ways. -/
theorem resume_turn (live : LiveView) (first : Bool) (answer : Answer) {stage : Stage}
    (hpurpose : stage.purpose? = some purpose) :
    Turn live purpose (live.resume first answer stage) := by
  rcases stage.pass_or_series_or_report with hpass | ⟨request, hrequest⟩ | ⟨report, rfl⟩
  · obtain rfl := Option.some.inj ((Stage.purpose?_of_isPass hpass).symm.trans hpurpose)
    cases stage with
    | evaluation pass =>
      unfold resume takeEvaluation
      cases answer.evaluation with
      | error cause => exact .failed rfl rfl
      | ok evaluation =>
        dsimp only
        split
        · exact .onward rfl rfl rfl
        · exact finishPass_turn live pass _ _
    | detected pass evaluation =>
      unfold resume takeDetected
      cases answer.anomalies with
      | error cause => exact .failed rfl rfl
      | ok anomalies => cases evaluation <;> exact finishPass_turn live pass _ _
    | measured request => cases hpass
    | both request => cases hpass
    | measuredOnly request baseline => cases hpass
    | baselineOnly request measured => cases hpass
    | report report => cases hpass
  · obtain rfl := Option.some.inj ((Stage.purpose?_of_request? hrequest).symm.trans hpurpose)
    have hanswer := live.resume_series first answer hrequest
    generalize live.resume first answer stage = step at hanswer ⊢
    cases hanswer with
    | failed hstage =>
      obtain rfl := Option.some.inj (hstage.symm.trans hrequest)
      exact .failed rfl rfl
    | measured => cases hrequest; exact .onward rfl rfl rfl
    | bothMeasured => cases hrequest; exact .onward rfl rfl rfl
    | bothBaseline => cases hrequest; exact .onward rfl rfl rfl
    | lastMeasured => cases hrequest; exact .complete (finishSeries_notices _ _ _ _)
    | lastBaseline => cases hrequest; exact .complete (finishSeries_notices _ _ _ _)
  · cases hpurpose

end LiveView

namespace Run

/-- How far an operation with a purpose has come that goes on alone, after earlier results and above
earlier notices: it waits and told nothing, it is complete, or it failed and told why. -/
inductive Going (number : Nat) (purpose : Purpose) (earlier : List (Nat × Result))
    (board : NoticeBoard) (run : Run) : Prop
  | waits {stage : Stage} {waiting : List Nat} (hflights : run.flights = [⟨number, stage, waiting⟩])
    (hstage : stage.purpose? = some purpose) (hresults : run.results = earlier)
    (hnotices : run.live.notices = board)
  | complete (hflights : run.flights = [])
    (hresults : run.results = earlier ++ [(number, purpose.success)])
    (hnotices : run.live.notices = board)
  | failed {cause : ChartError} (hflights : run.flights = [])
    (hresults : run.results = earlier ++ [(number, purpose.failure cause)])
    (hnotices : run.live.notices = board.post cause.notice)
    (herrored : run.live.session.errored = true)

variable {number : Nat} {purpose : Purpose} {earlier : List (Nat × Result)} {board : NoticeBoard}
  {run : Run}

/-- An operation has come so far after any step. -/
theorem Going.hold {live : LiveView} {step : LiveView × Next} (hturn : live.Turn purpose step)
    (hresults : run.results = earlier) (hnotices : live.notices = board) (waiting : List Nat) :
    Going number purpose earlier board
      ({ run with live := step.1, flights := [] }.hold number waiting step.2) := by
  subst hnotices hresults
  cases hturn with
  | @onward after next stage hsame hnext hstage =>
    cases next with
    | ask call stage' =>
      cases hnext
      exact .waits rfl hstage rfl hsame
    | wait stage' =>
      cases hnext
      exact .waits rfl hstage rfl hsame
    | finish result => cases hnext
  | complete hsame => exact .complete rfl rfl hsame
  | failed hposted herrored => exact .failed rfl rfl hposted herrored

/-- It goes on in these ways until it ends. -/
theorem Going.keeps (oracle : Oracle) :
    Keeps oracle number [] (Going number purpose earlier board) where
  take := by
    intro run stage waiting id call hflights _ _ h
    cases h with
    | waits hflights' hstage hresults hnotices =>
      cases hflights.symm.trans hflights'
      rw [taken_eq]
      exact .hold (run.live.resume_turn _ _ hstage) hresults hnotices _
    | complete hflights' => cases hflights.symm.trans hflights'
    | failed hflights' => cases hflights.symm.trans hflights'
  double := by
    intro run request id hflights h
    cases h with
    | waits hflights' hstage hresults hnotices =>
      cases hflights.symm.trans hflights'
      exact .waits rfl hstage hresults hnotices
    | complete hflights' => cases hflights.symm.trans hflights'
    | failed hflights' => cases hflights.symm.trans hflights'

end Run

end AlertDetail
