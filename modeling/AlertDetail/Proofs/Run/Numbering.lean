import AlertDetail.Proofs.Run.Schedule
import Mathlib.Data.List.Induction
import Mathlib.Data.List.Nodup

/-!
# Numbers of calls and operations

In every run the operations are numbered without gaps, each either in flight or with its result, and
every call that is waited for was made and is waited for once. So handing in an answer resumes at
most one operation, and a move is this operation going on from its answer while all others stay as
they are.
-/

namespace AlertDetail

/-- Whether an operation waits for the measured series and did not call for the baseline yet, which
it never does between moves. -/
def Stage.isMeasured : Stage → Bool
  | measured _ => true
  | _ => false

namespace Run

/-- Calls and operations of a run are numbered properly. -/
structure Numbered (run : Run) : Prop where
  /-- What is waited for was called for. -/
  asked : ∀ flight ∈ run.flights, ∀ id ∈ flight.waiting, 0 < id ∧ id ≤ run.calls.length
  /-- No call is waited for twice. -/
  once : (run.flights.flatMap (·.waiting)).Nodup
  /-- Operations have the numbers below how many there are, each once. -/
  operations : (run.flights.map (·.operation) ++ run.results.map (·.1)).Perm (List.range run.begun)

/-- The same while one operation is in hand, neither in flight nor at its end. -/
structure InHand (run : Run) (operation : Nat) (waiting : List Nat) : Prop where
  /-- What is waited for was called for. -/
  asked : ∀ flight ∈ run.flights, ∀ id ∈ flight.waiting, 0 < id ∧ id ≤ run.calls.length
  /-- What the operation in hand waits for was called for. -/
  askedInHand : ∀ id ∈ waiting, 0 < id ∧ id ≤ run.calls.length
  /-- No call is waited for twice. -/
  once : (waiting ++ run.flights.flatMap (·.waiting)).Nodup
  /-- Operations have the numbers below how many there are, each once. -/
  operations : (operation :: (run.flights.map (·.operation) ++ run.results.map (·.1))).Perm
    (List.range (run.begun + 1))

variable {run : Run} {operation : Nat} {waiting : List Nat}

/-- No number is that of two operations. -/
theorem Numbered.nodup (h : run.Numbered) :
    (run.flights.map (·.operation) ++ run.results.map (·.1)).Nodup :=
  h.operations.nodup_iff.2 List.nodup_range

/-- An operation comes out in one way. -/
theorem Numbered.result_unique (h : run.Numbered) {result result' : Result}
    (hresult : (operation, result) ∈ run.results) (hresult' : (operation, result') ∈ run.results) :
    result = result' := by
  have hnodup := (List.nodup_append.1 h.nodup).2.1
  exact (Prod.mk.inj (List.inj_on_of_nodup_map hnodup hresult hresult' rfl)).2

/-- An operation in flight did not come out yet. -/
theorem Numbered.no_result (h : run.Numbered) {flight : Flight} (hflight : flight ∈ run.flights)
    {result : Result} : (flight.operation, result) ∉ run.results := by
  intro hresult
  have hdisjoint := List.disjoint_of_nodup_append h.nodup
  exact hdisjoint (List.mem_map.2 ⟨flight, hflight, rfl⟩) (List.mem_map.2 ⟨_, hresult, rfl⟩)

/-- An operation is in flight once. -/
theorem Numbered.flight_unique (h : run.Numbered) {flight flight' : Flight}
    (hflight : flight ∈ run.flights) (hflight' : flight' ∈ run.flights)
    (hsame : flight.operation = flight'.operation) : flight = flight' :=
  List.inj_on_of_nodup_map (List.nodup_append.1 h.nodup).1 hflight hflight' hsame

/-- An operation put down waits for calls of its own under a number of its own. -/
theorem InHand.park (h : run.InHand operation waiting) (stage : Stage) :
    (run.park ⟨operation, stage, waiting⟩).Numbered where
  asked flight hflight id hid := by
    rcases mem_flights_park.1 hflight with hother | rfl
    · exact h.asked flight hother id hid
    · exact h.askedInHand id hid
  once := by
    rw [Run.park, List.flatMap_append, List.flatMap_singleton]
    exact List.perm_append_comm.nodup_iff.1 h.once
  operations := by
    rw [begun_park, Run.park, List.map_append, List.append_assoc]
    exact List.perm_middle.trans h.operations

/-- An operation that comes to its end keeps its number. -/
theorem InHand.finish (h : run.InHand operation waiting) (result : Result) :
    (run.finish operation result).Numbered where
  asked := h.asked
  once := (List.nodup_append.1 h.once).2.1
  operations := by
    rw [begun_finish, Run.finish, List.map_append, ← List.append_assoc]
    exact (List.perm_append_singleton _ _).trans h.operations

/-- A new call has a number that nobody waits for. -/
theorem InHand.record (h : run.InHand operation waiting) (call : Call) :
    (run.record call).2.InHand operation (waiting ++ [(run.record call).1]) where
  asked flight hflight id hid := by
    have hid := h.asked flight hflight id hid
    simp only [Run.record, List.length_append, List.length_singleton]
    omega
  askedInHand id hid := by
    simp only [Run.record, List.length_append, List.length_singleton] at hid ⊢
    rcases List.mem_append.1 hid with hold | hnew
    · have hid := h.askedInHand id hold
      omega
    · rw [List.mem_singleton.1 hnew]
      omega
  once := by
    have hfresh : run.calls.length + 1 ∉ waiting ++ run.flights.flatMap (·.waiting) := by
      intro hmem
      rcases List.mem_append.1 hmem with hhand | hflight
      · have hid := h.askedInHand _ hhand
        omega
      · obtain ⟨flight, hflight, hid⟩ := List.mem_flatMap.1 hflight
        have hid := h.asked flight hflight _ hid
        omega
    have hcons : ((run.calls.length + 1) :: (waiting ++ run.flights.flatMap (·.waiting))).Nodup :=
      List.nodup_cons.2 ⟨hfresh, h.once⟩
    rw [List.append_assoc]
    exact List.perm_middle.nodup_iff.2 hcons
  operations := h.operations

/-- An operation in hand may stop waiting. -/
theorem InHand.forget (h : run.InHand operation waiting) : run.InHand operation [] where
  asked := h.asked
  askedInHand _ hid := nomatch hid
  once := (List.nodup_append.1 h.once).2.1
  operations := h.operations

/-- Whatever the operation in hand does next, numbers stay proper. -/
theorem InHand.hold (h : run.InHand operation waiting) (next : Next) :
    (run.hold operation waiting next).Numbered := by
  cases next with
  | ask call stage => exact (h.forget.record call).park stage
  | wait stage => exact h.park stage
  | finish result => exact h.finish result

/-- An operation taken in hand to receive an answer. -/
theorem Numbered.release (h : run.Numbered) {before after : List Flight} {flight : Flight}
    (hflights : run.flights = before ++ flight :: after) (live : LiveView) (id : Nat) :
    { run with live := live, flights := before ++ after }.InHand flight.operation
      (flight.waiting.erase id) where
  asked other hother := by
    refine h.asked other ?_
    rw [hflights]
    exact List.perm_middle.mem_iff.2 (List.mem_cons_of_mem _ hother)
  askedInHand other hother := by
    refine h.asked flight ?_ other (List.mem_of_mem_erase hother)
    rw [hflights]
    exact List.mem_append_right _ List.mem_cons_self
  once := by
    have hperm := List.Perm.flatMap_right (fun flight : Flight => flight.waiting)
      (List.perm_middle : (before ++ flight :: after).Perm (flight :: (before ++ after)))
    have honce := h.once
    rw [hflights, hperm.nodup_iff, List.flatMap_cons] at honce
    exact honce.sublist (List.erase_sublist.append_right _)
  operations := by
    have hbegun : run.begun = (before ++ after).length + run.results.length + 1 := by
      simp only [begun, hflights, List.length_append, List.length_cons]
      omega
    have hoperations := h.operations
    rw [hbegun, hflights] at hoperations
    refine List.Perm.trans ?_ hoperations
    rw [List.map_append, List.map_append, List.map_cons, List.append_assoc, List.append_assoc,
      List.cons_append]
    exact List.perm_middle.symm

/-- An operation that begins has the next number. -/
theorem Numbered.next (h : run.Numbered) (live : LiveView) :
    { run with live := live }.InHand run.begun [] where
  asked := h.asked
  askedInHand _ hid := nomatch hid
  once := h.once
  operations := by
    have hcons := h.operations.cons run.begun
    refine hcons.trans ?_
    show (run.begun :: List.range run.begun).Perm (List.range (run.begun + 1))
    rw [List.range_succ]
    exact (List.perm_append_singleton _ _).symm

/-- The same operations are in flight when one of them is moved behind the others. -/
theorem mem_rotate {before after : List Flight} {flight : Flight}
    (hflights : run.flights = before ++ flight :: after) (other : Flight) :
    other ∈ before ++ after ++ [flight] ↔ other ∈ run.flights := by
  rw [hflights]
  exact ((List.perm_append_singleton flight (before ++ after)).trans
    List.perm_middle.symm).mem_iff

/-- As many operations were begun. -/
theorem begun_rotate {before after : List Flight} {flight : Flight}
    (hflights : run.flights = before ++ flight :: after) :
    { run with flights := before ++ after ++ [flight] }.begun = run.begun := by
  simp only [begun, hflights, List.length_append, List.length_cons, List.length_nil]
  omega

/-- Numbers stay proper when an operation in flight is moved behind the others. -/
theorem Numbered.rotate (h : run.Numbered) {before after : List Flight} {flight : Flight}
    (hflights : run.flights = before ++ flight :: after) :
    { run with flights := before ++ after ++ [flight] }.Numbered := by
  have hnumbered := (h.release hflights run.live 0).park flight.stage
  have hwaiting : flight.waiting.erase 0 = flight.waiting := by
    refine List.erase_of_not_mem fun hzero => ?_
    have hasked := h.asked flight (by rw [hflights]; simp) 0 hzero
    omega
  rw [hwaiting] at hnumbered
  exact hnumbered

/-- Numbers stay proper while an operation goes on. -/
theorem Numbered.keeps (oracle : Oracle) (operation : Nat) (others : List Flight) :
    Keeps oracle operation others Numbered where
  take := by
    intro run stage waiting id call hflights hid hcall h
    have hinHand := h.release hflights
      (run.live.resume (waiting.head? == some id) (oracle id call) stage).1 id
    rw [List.append_nil] at hinHand
    exact hinHand.hold _
  double := by
    intro run request id hflights h
    have hinHand := h.release hflights run.live 0
    have hwaiting : [id].erase 0 = [id] := by
      refine List.erase_of_not_mem fun hzero => ?_
      have hasked := h.asked ⟨operation, .measured request, [id]⟩ (by rw [hflights]; simp) 0 hzero
      omega
    rw [List.append_nil, hwaiting] at hinHand
    exact (hinHand.record request.baselineCall).park (.both request)

/-- Nobody else waits for a call that an operation waits for. -/
theorem Numbered.not_waiting (h : run.Numbered) {before after : List Flight} {flight : Flight}
    (hflights : run.flights = before ++ flight :: after) {id : Nat} (hid : id ∈ flight.waiting) :
    ∀ other ∈ before ++ after, id ∉ other.waiting := by
  intro other hother hmem
  have hperm := List.Perm.flatMap_right (fun flight : Flight => flight.waiting)
    (List.perm_middle : (before ++ flight :: after).Perm (flight :: (before ++ after)))
  have honce := h.once
  rw [hflights, hperm.nodup_iff, List.flatMap_cons] at honce
  exact List.disjoint_of_nodup_append honce hid (List.mem_flatMap.2 ⟨other, hother, hmem⟩)

/-- The operation that waits for a call is the one that is found. -/
theorem Numbered.find_awaits (h : run.Numbered) {flight : Flight} (hflight : flight ∈ run.flights)
    {id : Nat} (hid : id ∈ flight.waiting) :
    run.flights.find? (·.awaits id) = some flight := by
  cases hfind : run.flights.find? (·.awaits id) with
  | none =>
    have hawaits := List.find?_eq_none.1 hfind flight hflight
    exact absurd (List.contains_iff_mem.2 hid) hawaits
  | some other =>
    obtain ⟨hawaits, before, after, hflights, -⟩ := List.find?_eq_some_iff_append.1 hfind
    have hnot := h.not_waiting hflights (List.contains_iff_mem.1 hawaits)
    rw [hflights] at hflight
    rcases List.mem_cons.1 (List.perm_middle.mem_iff.1 hflight) with rfl | hmem
    · rfl
    · exact absurd hid (hnot flight hmem)

/-- A call that an operation waits for was made. -/
theorem Numbered.call?_of_waiting (h : run.Numbered) {flight : Flight}
    (hflight : flight ∈ run.flights) {id : Nat} (hid : id ∈ flight.waiting) :
    ∃ call, run.call? id = some call := by
  obtain ⟨hpositive, hmade⟩ := h.asked flight hflight id hid
  have hne : id ≠ 0 := by omega
  have hlt : id - 1 < run.calls.length := by omega
  exact ⟨run.calls[id - 1], by simp only [call?, hne, if_false, List.getElem?_eq_getElem hlt]⟩

/-- The answer to a call that an operation waits for goes to this operation. -/
theorem Numbered.settle_waiting (h : run.Numbered) {flight : Flight}
    (hflight : flight ∈ run.flights) {id : Nat} (hid : id ∈ flight.waiting) (backend : Backend)
    (answer : Answer) :
    run.settle backend id answer =
      { run with
        live := (run.live.resume (flight.waiting.head? == some id) answer flight.stage).1
        flights := run.flights.filter (!·.awaits id) }.drive backend flight.operation
          (flight.waiting.erase id)
          (run.live.resume (flight.waiting.head? == some id) answer flight.stage).2 := by
  simp only [Run.settle, h.find_awaits hflight hid]

/-- An answer that nobody waits for changes nothing. Any other goes to the one operation that waits
for it, which goes on from it until it waits or ends. -/
theorem Numbered.settle_cases (h : run.Numbered) (backend : Backend) (id : Nat) (answer : Answer) :
    run.settle backend id answer = run ∨
      ∃ before flight after, run.flights = before ++ flight :: after ∧ id ∈ flight.waiting ∧
        run.settle backend id answer =
          { run with
            live := (run.live.resume (flight.waiting.head? == some id) answer flight.stage).1
            flights := before ++ after }.drive backend flight.operation (flight.waiting.erase id)
              (run.live.resume (flight.waiting.head? == some id) answer flight.stage).2 := by
  cases hfind : run.flights.find? (·.awaits id) with
  | none => exact .inl (by simp only [Run.settle, hfind])
  | some flight =>
    obtain ⟨hawaits, before, after, hflights, -⟩ := List.find?_eq_some_iff_append.1 hfind
    have hid : id ∈ flight.waiting := by simpa [Flight.awaits] using hawaits
    have hother : ∀ other ∈ before ++ after, (!other.awaits id) = true := by
      intro other hother
      simpa [Flight.awaits] using h.not_waiting hflights hid other hother
    have hfilter : run.flights.filter (!·.awaits id) = before ++ after := by
      rw [hflights, List.filter_append, List.filter_cons_of_neg (by simpa using hawaits),
        ← List.filter_append]
      exact List.filter_eq_self.2 hother
    refine .inr ⟨before, flight, after, hflights, hid, ?_⟩
    simp only [Run.settle, hfind, hfilter]

/-- What an answer to a call keeps: it holds if it held before, also with the operation that takes
the answer moved behind the others, and is kept while that operation goes on. -/
theorem Numbered.settle_induct (hrun : run.Numbered) {oracle : Oracle} {invariant : Run → Prop}
    {id : Nat} (prompt : Nat → Call → Bool) (stay : invariant run)
    (resumed : ∀ {before : List Flight} {flight : Flight} {after : List Flight},
      run.flights = before ++ flight :: after → id ∈ flight.waiting →
        Keeps oracle flight.operation (before ++ after) invariant ∧
          invariant { run with flights := before ++ after ++ [flight] }) :
    invariant (run.step oracle (.settle id prompt)) := by
  cases hcall : run.call? id with
  | none => simpa only [Run.step, hcall] using stay
  | some call =>
    simp only [Run.step, hcall]
    rcases hrun.settle_cases (oracle.backend prompt) id (oracle id call) with
      hsame | ⟨before, flight, after, hflights, hid, hsettle⟩
    · rwa [hsame]
    · obtain ⟨keeps, hrotated⟩ := resumed hflights hid
      have hrotatedCall : { run with flights := before ++ after ++ [flight] }.call? id =
          some call := hcall
      have htaken := keeps.take rfl hid hrotatedCall hrotated
      rw [hsettle]
      exact keeps.drive prompt rfl htaken

/-- A call that was made keeps its number through every move. -/
theorem Numbered.call?_step {run : Run} (h : run.Numbered) (oracle : Oracle) {id : Nat}
    {made : Call} (hmade : run.call? id = some made) (move : Move) :
    (run.step oracle move).call? id = some made := by
  have hkeeps (operation : Nat) (others : List Flight) :
      Keeps oracle operation others fun run => run.call? id = some made := {
    take := fun _ _ _ hmade => call?_hold (by exact hmade) _ _ _
    double := fun _ hmade => call?_record_of_some hmade _ }
  cases move with
  | begin operation prompt => exact (hkeeps _ _).begin prompt (call?_hold (by exact hmade) _ _ _)
  | settle id' prompt => exact h.settle_induct prompt hmade fun _ _ => ⟨hkeeps _ _, hmade⟩
  | setClock now => exact hmade
  | drain => exact hmade
  | look => exact hmade

/-- What is kept while an operation goes on with nothing else in flight is kept by every answer: if
anybody takes it, this operation does. -/
theorem Keeps.settle_alone {oracle : Oracle} {invariant : Run → Prop}
    (keeps : Keeps oracle operation [] invariant) (hrun : run.Numbered)
    (halone : run.flights = [] ∨
      ∃ stage waiting, run.flights = [⟨operation, stage, waiting⟩])
    (h : invariant run) (id : Nat) (prompt : Nat → Call → Bool) :
    invariant (run.step oracle (.settle id prompt)) := by
  refine hrun.settle_induct prompt h fun {before flight after} hflights _ => ?_
  obtain ⟨stage, waiting, hone⟩ : ∃ stage waiting,
      run.flights = [⟨operation, stage, waiting⟩] := by
    rcases halone with hnone | hone
    · rw [hnone] at hflights
      have hsome := List.append_ne_nil_of_right_ne_nil before (List.cons_ne_nil flight after)
      exact absurd hflights hsome.symm
    · exact hone
  have hsingle := hflights.symm.trans hone
  obtain ⟨rfl, rfl, rfl⟩ : before = [] ∧ flight = ⟨operation, stage, waiting⟩ ∧ after = [] := by
    rcases List.append_eq_singleton_iff.1 hsingle with ⟨hbefore, hlast⟩ | ⟨-, hnone⟩
    · obtain ⟨hflight, hafter⟩ := List.cons.inj hlast
      exact ⟨hbefore, hflight, hafter⟩
    · cases hnone
  have hsame : { run with flights := [] ++ [] ++ [⟨operation, stage, waiting⟩] } = run := by
    rw [← hone]
    rfl
  refine ⟨keeps, ?_⟩
  rw [hsame]
  exact h

end Run

namespace LiveView

/-- A request for series never begins by waiting for calls that it did not make. -/
theorem requestSeries_ne_wait (live : LiveView) (purpose : Purpose) (stage : Stage) :
    (live.requestSeries purpose).2 ≠ .wait stage := by
  have hstart := live.requestSeries_start purpose
  generalize live.requestSeries purpose = step at hstart
  cases hstart <;> exact Next.noConfusion

/-- A load never goes on by waiting for calls that it did not make. -/
theorem LoadStep.ne_wait {live : LiveView} {step : LiveView × Next} (h : LoadStep live step)
    (stage : Stage) : step.2 ≠ .wait stage := by
  cases h with
  | pass => exact Next.noConfusion
  | failed => exact Next.noConfusion
  | series => exact requestSeries_ne_wait _ _ stage

/-- An operation never begins by waiting for calls that it did not make. -/
theorem begin_ne_wait (live : LiveView) (busy : Bool) (operation : Operation) (stage : Stage) :
    (live.begin busy operation).2 ≠ .wait stage := by
  have hopening := live.begin_opening busy operation
  generalize live.begin busy operation = step at hopening
  cases hopening with
  | finished => exact Next.noConfusion
  | reported => exact Next.noConfusion
  | load hbusy hstep => exact hstep.ne_wait stage
  | series => exact requestSeries_ne_wait _ _ stage

/-- An operation that goes on waiting has called for both of its series. -/
theorem resume_wait {live : LiveView} {first : Bool} {answer : Answer} {stage stage' : Stage}
    (h : (live.resume first answer stage).2 = .wait stage') : stage'.isMeasured = false := by
  rcases stage.pass_or_series_or_report with hpass | ⟨request, hrequest⟩ | ⟨report, rfl⟩
  · exact absurd h ((live.resume_pass first answer hpass).ne_wait stage')
  · have hanswer := live.resume_series first answer hrequest
    generalize live.resume first answer stage = step at hanswer h
    cases hanswer <;> cases h <;> rfl
  · obtain ⟨after, result, hreport, -⟩ := live.resume_report first answer report
    rw [hreport] at h
    cases h

end LiveView

namespace Run

/-- A run between two moves: its numbers are proper, and every operation that waits for the measured
series waits for the baseline as well, or has it. -/
structure AtRest (run : Run) : Prop where
  /-- Numbers are proper. -/
  numbered : run.Numbered
  /-- No operation has a call still to make before it waits. -/
  called : ∀ flight ∈ run.flights, flight.stage.isMeasured = false

/-- An operation that goes on until it waits has made its calls. -/
theorem drive_called {run : Run} (backend : Backend) (operation : Nat) (waiting : List Nat)
    {next : Next} (hcalled : ∀ flight ∈ run.flights, flight.stage.isMeasured = false)
    (hnext : ∀ stage, next = .wait stage → stage.isMeasured = false) :
    ∀ flight ∈ (run.drive backend operation waiting next).flights,
      flight.stage.isMeasured = false := by
  have hpark {run : Run} {stage : Stage} {waiting : List Nat}
      (hcalled : ∀ flight ∈ run.flights, flight.stage.isMeasured = false)
      (hstage : stage.isMeasured = false) :
      ∀ flight ∈ (run.park ⟨operation, stage, waiting⟩).flights,
        flight.stage.isMeasured = false := by
    intro flight hflight
    rcases mem_flights_park.1 hflight with hother | rfl
    · exact hcalled flight hother
    · exact hstage
  fun_induction Run.drive run backend operation waiting next with
  | case1 => exact hcalled
  | case2 run waiting stage => exact hpark hcalled (hnext stage rfl)
  | case3 run waiting call stage id recorded hrecord answer hanswer ih =>
    obtain ⟨rfl, rfl⟩ := Prod.mk.inj hrecord
    exact ih hcalled fun stage' hwait => LiveView.resume_wait hwait
  | case4 run waiting call id recorded hrecord hanswer request =>
    obtain ⟨rfl, rfl⟩ := Prod.mk.inj hrecord
    unfold alongside
    dsimp only
    split
    · exact hpark hcalled rfl
    · next answer hsecond =>
      unfold LiveView.takeBaseline
      cases answer.series with
      | error cause => exact hcalled
      | ok baseline => exact hpark hcalled rfl
  | case5 run waiting call id recorded hrecord hanswer stage hstage =>
    obtain ⟨rfl, rfl⟩ := Prod.mk.inj hrecord
    refine hpark hcalled ?_
    cases stage <;> first | rfl | exact absurd rfl (hstage _)

/-- A run stays at rest after every move. -/
theorem AtRest.step {run : Run} (h : run.AtRest) (oracle : Oracle) (move : Move) :
    (run.step oracle move).AtRest := by
  cases move with
  | begin operation prompt =>
    have hstarted : (run.started operation).Numbered := (h.numbered.next _).hold _
    refine ⟨(Numbered.keeps oracle run.begun run.flights).begin prompt hstarted, ?_⟩
    exact drive_called _ _ _ h.called fun stage hwait =>
      absurd hwait (LiveView.begin_ne_wait _ _ _ stage)
  | settle id prompt =>
    refine ⟨h.numbered.settle_induct prompt h.numbered fun hflights _ =>
      ⟨Numbered.keeps oracle _ _, h.numbered.rotate hflights⟩, ?_⟩
    simp only [Run.step]
    split
    · next call hcall =>
      rcases h.numbered.settle_cases (oracle.backend prompt) id (oracle id call) with
        hsame | ⟨before, flight, after, hflights, -, hsettle⟩
      · rw [hsame]
        exact h.called
      · rw [hsettle]
        refine drive_called _ _ _ (fun other hother => h.called other ?_) fun stage hwait =>
          LiveView.resume_wait hwait
        rw [hflights]
        exact List.perm_middle.mem_iff.2 (List.mem_cons_of_mem _ hother)
    · exact h.called
  | setClock now => exact ⟨⟨h.numbered.asked, h.numbered.once, h.numbered.operations⟩, h.called⟩
  | drain => exact ⟨⟨h.numbered.asked, h.numbered.once, h.numbered.operations⟩, h.called⟩
  | look => exact ⟨⟨h.numbered.asked, h.numbered.once, h.numbered.operations⟩, h.called⟩

/-- A run stays at rest after a list of moves. -/
theorem AtRest.after {run : Run} (h : run.AtRest) (oracle : Oracle) (moves : List Move) :
    (run.after oracle moves).AtRest := by
  induction moves generalizing run with
  | nil => exact h
  | cons move rest ih => exact ih (h.step oracle move)

/-- What every allowed move keeps between runs at rest holds after a list of such moves. -/
theorem AtRest.keeps {oracle : Oracle} {allowed : Move → Prop} {invariant : Run → Prop}
    (kept : ∀ {run : Run} {move : Move}, run.AtRest → allowed move → invariant run →
      invariant (run.step oracle move))
    {run : Run} (hrun : run.AtRest) {moves : List Move} (hmoves : ∀ move ∈ moves, allowed move)
    (h : invariant run) : invariant (run.after oracle moves) := by
  induction moves generalizing run with
  | nil => exact h
  | cons move rest ih =>
    have hmove := hmoves move List.mem_cons_self
    exact ih (hrun.step oracle move) (fun other hother =>
      hmoves other (List.mem_cons_of_mem _ hother)) (kept hrun hmove h)

/-- A run on which nothing was begun is at rest. -/
theorem atRest_new (live : LiveView) : AtRest { live := live } where
  numbered :=
    { asked := fun _ hflight => nomatch hflight
      once := List.nodup_nil
      operations := List.Perm.refl _ }
  called _ hflight := nomatch hflight

/-- A call of a run was made by one of its moves. -/
theorem exists_move_of_call? (oracle : Oracle) (live : LiveView) {moves : List Move} {id : Nat}
    {call : Call} (hcall : (after oracle { live := live } moves).call? id = some call) :
    ∃ earlier move later, moves = earlier ++ move :: later ∧
      (after oracle { live := live } earlier).call? id = none ∧
      ((after oracle { live := live } earlier).step oracle move).call? id = some call := by
  induction moves using List.reverseRecOn with
  | nil =>
    unfold call? at hcall
    split at hcall <;> cases hcall
  | append_singleton moves last ih =>
    have hstep : after oracle { live := live } (moves ++ [last]) =
        (after oracle { live := live } moves).step oracle last := after_append _ _ _ _
    rw [hstep] at hcall
    cases hbefore : (after oracle { live := live } moves).call? id with
    | none => exact ⟨moves, last, [], rfl, hbefore, hcall⟩
    | some made =>
      have hnumbered := ((atRest_new live).after oracle moves).numbered
      obtain rfl : made = call :=
        Option.some.inj ((hnumbered.call?_step oracle hbefore last).symm.trans hcall)
      obtain ⟨earlier, move, later, rfl, hnone, hmade⟩ := ih hbefore
      exact ⟨earlier, move, later ++ [last], by simp, hnone, hmade⟩

end Run

end AlertDetail
