import AlertDetail.Proofs.Run.Numbering
import AlertDetail.Run.Serve

/-!
# Served runs

An operation that is served alone comes to its end. It waits for one call, or for two where it
called for both of its series, so there is something to ask in every round, and every answer that it
takes leaves fewer calls to come. What an operation keeps while it goes on therefore holds when it
has ended, whatever is answered and whatever answering does to the world outside.
-/

namespace AlertDetail

/-- How many calls an operation waits for at a stage. -/
def Stage.awaited : Stage → Nat
  | both _ => 2
  | _ => 1

/-- A bound on the calls that an operation still makes or waits for after a step. -/
def Next.left : Next → Nat
  | ask _ stage | wait stage => stage.rank
  | finish _ => 0

/-- An operation waits for two calls only where it waits for both of its series. -/
theorem Stage.awaited_of_isPass {stage : Stage} (h : stage.isPass = true) : stage.awaited = 1 := by
  cases stage <;> first | rfl | cases h

namespace LiveView

/-- A request for series begins by waiting for one call. -/
theorem requestSeries_awaited (live : LiveView) (purpose : Purpose) {stage : Stage}
    (hstage : (live.requestSeries purpose).2.stage? = some stage) : stage.awaited = 1 := by
  have hstart := live.requestSeries_start purpose
  generalize live.requestSeries purpose = step at hstart hstage
  cases hstart with
  | missing => cases hstage
  | unpredicted => cases hstage
  | predicted => cases hstage
  | compared => cases hstage; rfl
  | measured => cases hstage; rfl

/-- So does a load that goes on. -/
theorem LoadStep.awaited {live : LiveView} {step : LiveView × Next} (h : LoadStep live step)
    {stage : Stage} (hstage : step.2.stage? = some stage) : stage.awaited = 1 := by
  cases h with
  | pass _ _ _ hpass =>
    cases hstage
    exact Stage.awaited_of_isPass hpass
  | failed => cases hstage
  | series => exact requestSeries_awaited _ _ hstage

/-- An operation begins by waiting for one call. -/
theorem begin_awaited (live : LiveView) (busy : Bool) (operation : Operation) {stage : Stage}
    (hstage : (live.begin busy operation).2.stage? = some stage) : stage.awaited = 1 := by
  have hopening := live.begin_opening busy operation
  generalize live.begin busy operation = step at hopening hstage
  cases hopening with
  | finished => cases hstage
  | reported => cases hstage; rfl
  | load _ hstep => exact hstep.awaited hstage
  | series => exact requestSeries_awaited _ _ hstage

/-- With an answer an operation goes on to wait for one call; it makes no new one only if it waited
for two. -/
theorem resume_awaited (live : LiveView) (first : Bool) (answer : Answer) {stage stage' : Stage}
    (hstage : (live.resume first answer stage).2.stage? = some stage') :
    stage'.awaited = 1 ∧
      ((live.resume first answer stage).2 = .wait stage' → stage.awaited = 2) := by
  rcases stage.pass_or_series_or_report with hpass | ⟨request, hrequest⟩ | ⟨report, rfl⟩
  · have hstep := live.resume_pass first answer hpass
    exact ⟨hstep.awaited hstage, fun hwait => absurd hwait (hstep.ne_wait stage')⟩
  · have hanswer := live.resume_series first answer hrequest
    generalize live.resume first answer stage = step at hanswer hstage
    cases hanswer with
    | failed => cases hstage
    | measured => cases hstage; exact ⟨rfl, Next.noConfusion⟩
    | bothMeasured => cases hstage; exact ⟨rfl, fun _ => rfl⟩
    | bothBaseline => cases hstage; exact ⟨rfl, fun _ => rfl⟩
    | lastMeasured => cases hstage
    | lastBaseline => cases hstage
  · obtain ⟨after, result, hreport, -⟩ := live.resume_report first answer report
    rw [hreport] at hstage
    cases hstage

/-- An answer leaves fewer calls to make or to wait for. -/
theorem resume_left (live : LiveView) (first : Bool) (answer : Answer) (stage : Stage) :
    (live.resume first answer stage).2.left < stage.rank := by
  have hrank := live.resume_rank first answer stage
  cases hnext : (live.resume first answer stage).2 with
  | ask call stage' =>
    rw [hnext] at hrank
    exact hrank
  | finish result =>
    rw [hnext] at hrank
    exact hrank
  | wait stage' =>
    -- only the second of two answers is waited for without another call
    have hstage : (live.resume first answer stage).2.stage? = some stage' := by rw [hnext]; rfl
    have htwo := (live.resume_awaited first answer hstage).2 hnext
    cases stage with
    | both request =>
      have hanswer := live.resume_series first answer (rfl : (Stage.both request).request? = _)
      generalize live.resume first answer (.both request) = step at hanswer hnext
      cases hanswer <;> cases hnext <;> exact Nat.lt_succ_self 1
    | _ => cases htwo

end LiveView

namespace Run

variable {run : Run} {number : Nat}

/-- What is left to an operation that goes on beside others while nothing is answered at once. -/
theorem rank_drive_later (run : Run) (number : Nat) (waiting : List Nat) (next : Next) :
    (run.drive .later number waiting next).rank = run.rank + next.left := by
  have hpark (run : Run) (flight : Flight) :
      (run.park flight).rank = run.rank + flight.stage.rank := by
    simp only [rank, park, List.foldr_append, List.foldr_cons, List.foldr_nil]
    induction run.flights with
    | nil => simp
    | cons first rest ih => simp only [List.foldr_cons, ih, Nat.add_assoc]
  rw [Run.drive.eq_def]
  cases next with
  | finish result => rfl
  | wait stage => exact hpark run _
  | ask call stage =>
    simp only [Backend.later]
    split
    · simp only [alongside]
      exact hpark _ _
    · exact hpark _ _

/-- At most one operation is in flight, and it waits for as many calls as its stage says, all of
which were made. -/
inductive Awaiting (number : Nat) (run : Run) : Prop
  | none (hflights : run.flights = [])
  | one {stage : Stage} {waiting : List Nat} (hflights : run.flights = [⟨number, stage, waiting⟩])
    (hlength : waiting.length = stage.awaited)
    (hmade : ∀ id ∈ waiting, ∃ call, run.call? id = some call)

/-- It is so where an operation waits with what it does next. -/
theorem Awaiting.hold {live : LiveView} {waiting : List Nat} {next : Next}
    (hone : ∀ stage, next.stage? = some stage → stage.awaited = 1)
    (hwait : ∀ stage, next = .wait stage → waiting.length = 1)
    (hmade : ∀ id ∈ waiting, ∃ call, run.call? id = some call) :
    Awaiting number ({ run with live := live, flights := [] }.hold number waiting next) := by
  cases next with
  | ask call stage =>
    refine .one rfl (hone stage rfl).symm fun id hid => ?_
    rw [List.mem_singleton.1 hid]
    exact ⟨call, call?_record _ call⟩
  | wait stage => exact .one rfl ((hwait stage rfl).trans (hone stage rfl).symm) hmade
  | finish result => exact .none rfl

/-- It stays so while the operation goes on. -/
theorem Awaiting.keeps (oracle : Oracle) (number : Nat) :
    Keeps oracle number [] (Awaiting number) where
  take := by
    intro run stage waiting id call hflights hid _ h
    cases h with
    | none hnone => cases hflights.symm.trans hnone
    | one hflights' hlength hmade =>
      cases hflights.symm.trans hflights'
      rw [taken_eq]
      refine .hold (fun stage' hstage => ?_) (fun stage' hwait => ?_) fun other hother =>
        hmade other (List.mem_of_mem_erase hother)
      · exact (run.live.resume_awaited _ _ hstage).1
      · have htwo := (run.live.resume_awaited _ _ (congrArg Next.stage? hwait)).2 hwait
        rw [List.length_erase_of_mem hid, hlength, htwo]
  double := by
    intro run request id hflights h
    cases h with
    | none hnone => cases hflights.symm.trans hnone
    | one hflights' _ hmade =>
      cases hflights.symm.trans hflights'
      refine .one rfl rfl fun other hother => ?_
      rcases List.mem_cons.1 hother with rfl | hsecond
      · obtain ⟨call, hcall⟩ := hmade other (List.mem_singleton_self _)
        exact ⟨call, call?_record_of_some hcall _⟩
      · rw [List.mem_singleton.1 hsecond]
        exact ⟨_, call?_record _ _⟩

/-- The run in which an operation has begun under a number while nothing was in flight, and waits
with what it does first. -/
def startedAlone (run : Run) (number : Nat) (operation : Operation) : Run :=
  { run with live := (run.live.begin false operation).1, flights := [] }.hold number []
    (run.live.begin false operation).2

/-- Two things that are kept are kept together. -/
theorem Keeps.and {oracle : Oracle} {others : List Flight} {first second : Run → Prop}
    (hfirst : Keeps oracle number others first) (hsecond : Keeps oracle number others second) :
    Keeps oracle number others fun run => first run ∧ second run where
  take hflights hid hcall h :=
    ⟨hfirst.take hflights hid hcall h.1, hsecond.take hflights hid hcall h.2⟩
  double hflights h := ⟨hfirst.double hflights h.1, hsecond.double hflights h.2⟩

variable {invariant : Run → Prop}

/-- What an operation keeps, whatever is answered, it keeps when an answer is handed in. If it waits
for the answer, fewer calls are left. -/
theorem Awaiting.settle (h : Awaiting number run) (id : Nat) (answer : Answer)
    (keeps : ∀ oracle, Keeps oracle number [] invariant) (hkept : invariant run) :
    Awaiting number (run.settle .later id answer) ∧ invariant (run.settle .later id answer) ∧
      (run.settle .later id answer).rank ≤ run.rank ∧
      (id ∈ run.waiting → (run.settle .later id answer).rank < run.rank) := by
  cases h with
  | none hnone =>
    have hsame : run.settle .later id answer = run := by simp [Run.settle, hnone]
    have hwaiting : run.waiting = [] := by simp [Run.waiting, hnone]
    rw [hsame, hwaiting]
    exact ⟨.none hnone, hkept, Nat.le_refl _, fun hid => absurd hid List.not_mem_nil⟩
  | @one stage waiting hflights hlength hmade =>
    have hwaiting : id ∈ run.waiting ↔ id ∈ waiting := by simp [Run.waiting, hflights]
    by_cases hid : id ∈ waiting
    · let oracle : Oracle := fun _ _ => answer
      let later : Nat → Call → Bool := fun _ _ => false
      have hsettle : run.settle (oracle.backend later) id answer =
          { run with
            live := (run.live.resume (waiting.head? == some id) answer stage).1
            flights := [] }.drive (oracle.backend later) number (waiting.erase id)
              (run.live.resume (waiting.head? == some id) answer stage).2 := by
        simp [Run.settle, hflights, Flight.awaits, hid]
      have hbackend : oracle.backend later = Backend.later := rfl
      obtain ⟨call, hcall⟩ := hmade id hid
      have hboth := (Awaiting.keeps oracle number).and (keeps oracle)
      obtain ⟨hawaiting, hkept'⟩ := hboth.drive later rfl
        (hboth.take hflights hid hcall ⟨.one hflights hlength hmade, hkept⟩)
      have hrank : (run.settle .later id answer).rank < run.rank := by
        rw [← hbackend, hsettle, hbackend, rank_drive_later]
        have hleft := run.live.resume_left (waiting.head? == some id) answer stage
        simpa [rank, hflights] using hleft
      rw [← hbackend, hsettle]
      rw [← hbackend, hsettle] at hrank
      exact ⟨hawaiting, hkept', Nat.le_of_lt hrank, fun _ => hrank⟩
    · have hsame : run.settle .later id answer = run := by
        simp [Run.settle, hflights, Flight.awaits, hid]
      rw [hsame]
      exact ⟨.one hflights hlength hmade, hkept, Nat.le_refl _,
        fun hmem => absurd (hwaiting.1 hmem) hid⟩

/-- So it does when several answers are handed in. -/
theorem Awaiting.settleAll (h : Awaiting number run)
    (keeps : ∀ oracle, Keeps oracle number [] invariant) (hkept : invariant run)
    (answers : List (Nat × Answer)) :
    Awaiting number (run.settleAll answers) ∧ invariant (run.settleAll answers) ∧
      (run.settleAll answers).rank ≤ run.rank := by
  induction answers generalizing run with
  | nil => exact ⟨h, hkept, Nat.le_refl _⟩
  | cons answer rest ih =>
    obtain ⟨h', hkept', hrank, -⟩ := h.settle answer.1 answer.2 keeps hkept
    obtain ⟨hrest, hkeptRest, hrankRest⟩ := ih h' hkept'
    exact ⟨hrest, hkeptRest, Nat.le_trans hrankRest hrank⟩

/-- If one of them is waited for when the first is handed in, fewer calls are left. -/
theorem Awaiting.settleAll_lower (h : Awaiting number run)
    (keeps : ∀ oracle, Keeps oracle number [] invariant) (hkept : invariant run)
    {answers : List (Nat × Answer)} {id : Nat} {rest : List Nat}
    (hids : answers.map (·.1) = id :: rest) (hid : id ∈ run.waiting) :
    (run.settleAll answers).rank < run.rank := by
  cases answers with
  | nil => cases hids
  | cons answer answers =>
    obtain ⟨rfl, -⟩ := List.cons.inj hids
    obtain ⟨h', hkept', -, hlower⟩ := h.settle answer.1 answer.2 keeps hkept
    obtain ⟨-, -, hrank⟩ := h'.settleAll keeps hkept' answers
    exact Nat.lt_of_le_of_lt hrank (hlower hid)

/-- Nothing is asked only where nothing is in flight, and what is asked is waited for. -/
theorem Awaiting.asked (h : Awaiting number run) :
    (run.asked = [] → run.flights = []) ∧ ∀ asked ∈ run.asked, asked.1 ∈ run.waiting := by
  constructor
  · intro hasked
    cases h with
    | none hnone => exact hnone
    | @one stage waiting hflights hlength hmade =>
      have hsome : waiting ≠ [] := by
        rintro rfl
        cases stage <;> cases hlength
      obtain ⟨id, hid⟩ := List.exists_mem_of_ne_nil _ hsome
      obtain ⟨call, hcall⟩ := hmade id hid
      have hmem : (id, call) ∈ run.asked :=
        List.mem_filterMap.2 ⟨id, by simpa [Run.waiting, hflights] using hid, by simp [hcall]⟩
      rw [hasked] at hmem
      exact absurd hmem List.not_mem_nil
  · intro asked hasked
    obtain ⟨id, hid, hcall⟩ := List.mem_filterMap.1 hasked
    cases hmade : run.call? id with
    | none => simp [hmade] at hcall
    | some call =>
      simp only [hmade, Option.map_eq_map, Option.map_some, Option.some.injEq] at hcall
      rw [← hcall]
      exact hid

section

variable {σ : Type} (answer : Nat → Call → StateM σ Answer)

/-- Every call that is asked is answered under its number. -/
theorem ids_answered (calls : List (Nat × Call)) (world : σ) :
    ((calls.mapM fun asked => (asked.1, ·) <$> answer asked.1 asked.2) world).1.map (·.1) =
      calls.map (·.1) := by
  induction calls generalizing world with
  | nil => rfl
  | cons asked rest ih =>
    rw [List.mapM_cons]
    exact congrArg (asked.1 :: ·) (ih _)

/-- An operation that is served for enough rounds has ended. -/
theorem Awaiting.serveRounds (h : Awaiting number run)
    (keeps : ∀ oracle, Keeps oracle number [] invariant) (hkept : invariant run) {rounds : Nat}
    (hrounds : run.rank ≤ rounds) (world : σ) :
    (run.serveRounds answer rounds world).1.flights = [] ∧
      invariant (run.serveRounds answer rounds world).1 := by
  induction rounds generalizing run world with
  | zero =>
    refine ⟨?_, hkept⟩
    cases h with
    | none hnone => exact hnone
    | @one stage waiting hflights =>
      have hpositive := stage.rank_pos
      simp only [rank, hflights, List.foldr_cons, List.foldr_nil] at hrounds
      omega
  | succ rounds ih =>
    obtain ⟨hnothing, hwaits⟩ := h.asked
    unfold Run.serveRounds
    cases hasked : run.asked with
    | nil => exact ⟨hnothing hasked, hkept⟩
    | cons first rest =>
      let answered := (first :: rest).mapM (fun asked => (asked.1, ·) <$> answer asked.1 asked.2)
        world
      show ((run.settleAll answered.1).serveRounds answer rounds answered.2).1.flights = [] ∧
        invariant ((run.settleAll answered.1).serveRounds answer rounds answered.2).1
      have hids : answered.1.map (·.1) = first.1 :: rest.map (·.1) :=
        ids_answered answer (first :: rest) world
      obtain ⟨hawaiting, hkept', -⟩ := h.settleAll keeps hkept answered.1
      refine ih hawaiting hkept' ?_ answered.2
      have hfirst : first.1 ∈ run.waiting := hwaits first (by rw [hasked]; exact List.mem_cons_self)
      have hlower := h.settleAll_lower keeps hkept hids hfirst
      omega

/-- An operation that begins while nothing is in flight and is served has ended, and what it keeps
holds then if it holds where the operation waits with what it does first. -/
theorem carryOut_alone (hnone : run.flights = [])
    (keeps : ∀ oracle, Keeps oracle number [] invariant) {operation : Operation}
    (hkept : invariant (run.startedAlone number operation)) (world : σ) :
    (run.carryOut answer number operation world).1.flights = [] ∧
      invariant (run.carryOut answer number operation world).1 := by
  let never : Oracle := fun _ _ => .error Answer.unexpected
  let later : Nat → Call → Bool := fun _ _ => false
  have hbegin : run.begin .later number operation =
      { run with live := (run.live.begin false operation).1, flights := [] }.drive
        (never.backend later) number [] (run.live.begin false operation).2 := by
    have hbusy : run.busy = false := by simp [busy, hnone]
    simp only [Run.begin, hbusy, ← hnone]
    rfl
  have hawaiting : Awaiting number (run.startedAlone number operation) :=
    .hold (fun stage hstage => run.live.begin_awaited false operation hstage)
      (fun stage hwait => absurd hwait (run.live.begin_ne_wait false operation stage))
      fun _ hid => absurd hid List.not_mem_nil
  have hboth := (Awaiting.keeps never number).and (keeps never)
  obtain ⟨hawaiting', hkept'⟩ := hboth.drive later rfl ⟨hawaiting, hkept⟩
  rw [← hbegin] at hawaiting' hkept'
  exact hawaiting'.serveRounds answer keeps hkept' (Nat.le_refl _) world

end

end Run

end AlertDetail
