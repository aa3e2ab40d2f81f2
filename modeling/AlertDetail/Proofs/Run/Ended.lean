import AlertDetail.Proofs.Run.Order

/-!
# Operations that leave no trace

An operation may come out at once and change nothing. A run in which one more such operation was
begun goes on as the run without it: by the same calls to the same view, with the same outcomes;
only operations that begin later have other numbers.
-/

namespace AlertDetail

/-- The number that an operation has when one more was begun under `number`. -/
def shifted (number operation : Nat) : Nat :=
  if operation < number then operation else operation + 1

theorem shifted_of_lt {number operation : Nat} (h : operation < number) :
    shifted number operation = operation := if_pos h

theorem shifted_of_le {number operation : Nat} (h : number ≤ operation) :
    shifted number operation = operation + 1 := if_neg (Nat.not_lt.2 h)

/-- Nothing else has the number of that operation. -/
theorem shifted_ne (number operation : Nat) : shifted number operation ≠ number := by
  unfold shifted
  split <;> omega

/-- An operation in flight when one more was begun under `number`. -/
def Flight.shift (number : Nat) (flight : Flight) : Flight :=
  { flight with operation := shifted number flight.operation }

namespace Run

/-- A run in which one more operation was begun, under `number`, and came out so without a trace:
operations begun later have the next number, and nothing else differs. -/
structure WithEnded (number : Nat) (result : Result) (run full : Run) : Prop where
  /-- The view is the same. -/
  live : full.live = run.live
  /-- The calls are the same. -/
  calls : full.calls = run.calls
  /-- The same operations are in flight, waiting for the same calls. -/
  flights : full.flights = run.flights.map (Flight.shift number)
  /-- The operation came out so. -/
  ended : (number, result) ∈ full.results
  /-- The others came out in the same way. -/
  results : full.results.filter (·.1 ≠ number) =
    run.results.map fun (operation, result) => (shifted number operation, result)
  /-- One more was begun. -/
  begun : full.begun = run.begun + 1

variable {number operation : Nat} {ended : Result} {run full : Run}

/-- A call is made in both runs. -/
theorem WithEnded.record (h : WithEnded number ended run full) (call : Call) :
    WithEnded number ended (run.record call).2 (full.record call).2 :=
  ⟨h.live, congrArg (· ++ [call]) h.calls, h.flights, h.ended, h.results, h.begun⟩

/-- It has the same number in both. -/
theorem WithEnded.record_number (h : WithEnded number ended run full) (call : Call) :
    (full.record call).1 = (run.record call).1 := by
  simp only [Run.record, h.calls]

/-- The view changes in both. -/
theorem WithEnded.setLive (h : WithEnded number ended run full) (live : LiveView) :
    WithEnded number ended { run with live := live } { full with live := live } :=
  ⟨rfl, h.calls, h.flights, h.ended, h.results, h.begun⟩

/-- An operation waits in both. -/
theorem WithEnded.park (h : WithEnded number ended run full) (flight : Flight) :
    WithEnded number ended (run.park flight) (full.park (flight.shift number)) where
  live := h.live
  calls := h.calls
  flights := by simp only [Run.park, h.flights, List.map_append, List.map_cons, List.map_nil]
  ended := h.ended
  results := h.results
  begun := by rw [begun_park, begun_park, h.begun]

/-- An operation ends in both. -/
theorem WithEnded.finish (h : WithEnded number ended run full) (operation : Nat) (result : Result) :
    WithEnded number ended (run.finish operation result)
      (full.finish (shifted number operation) result) where
  live := h.live
  calls := h.calls
  flights := h.flights
  ended := List.mem_append_left _ h.ended
  results := by
    have hother : [(shifted number operation, result)].filter (·.1 ≠ number) =
        [(shifted number operation, result)] :=
      List.filter_cons_of_pos (decide_eq_true (shifted_ne number operation))
    simp only [Run.finish, List.filter_append, h.results, hother, List.map_append, List.map_cons,
      List.map_nil]
  begun := by rw [begun_finish, begun_finish, h.begun]

/-- An operation calls for the baseline as well in both. -/
theorem WithEnded.alongside (h : WithEnded number ended run full) (backend : Backend)
    (operation id : Nat) (request : SeriesRequest) :
    WithEnded number ended (run.alongside backend operation id request)
      (full.alongside backend (shifted number operation) id request) := by
  unfold Run.alongside
  dsimp only
  rw [h.record_number]
  cases backend (run.record request.baselineCall).1 request.baselineCall with
  | none => exact (h.record _).park ⟨operation, .both request, _⟩
  | some answer =>
    dsimp only
    rw [(h.record request.baselineCall).live]
    cases ((run.record request.baselineCall).2.live.takeBaseline request answer).2 with
    | ask call stage => exact ((h.record _).setLive _).park ⟨operation, stage, [id]⟩
    | wait stage => exact ((h.record _).setLive _).park ⟨operation, stage, [id]⟩
    | finish result => exact ((h.record _).setLive _).finish operation result

/-- An operation goes on in both until it waits or ends. -/
theorem WithEnded.drive (h : WithEnded number ended run full) (backend : Backend) (operation : Nat)
    (waiting : List Nat) (next : Next) :
    WithEnded number ended (run.drive backend operation waiting next)
      (full.drive backend (shifted number operation) waiting next) := by
  fun_induction Run.drive run backend operation waiting next generalizing full with
  | case1 run waiting result =>
    rw [Run.drive]
    exact h.finish operation result
  | case2 run waiting stage =>
    rw [Run.drive]
    exact h.park ⟨operation, stage, waiting⟩
  | case3 run waiting call stage id recorded hrecord answer hanswer ih =>
    obtain ⟨rfl, rfl⟩ := Prod.mk.inj hrecord
    have hsame : backend (full.record call).1 call = some answer := by
      rw [h.record_number]
      exact hanswer
    rw [Run.drive]
    dsimp only
    rw [hsame]
    dsimp only
    rw [(h.record call).live]
    exact ih ((h.record call).setLive _)
  | case4 run waiting call id recorded hrecord hanswer request =>
    obtain ⟨rfl, rfl⟩ := Prod.mk.inj hrecord
    have hsame : backend (full.record call).1 call = none := by
      rw [h.record_number]
      exact hanswer
    rw [Run.drive]
    dsimp only
    rw [hsame, h.record_number]
    exact (h.record call).alongside backend operation _ request
  | case5 run waiting call id recorded hrecord hanswer stage hstage =>
    obtain ⟨rfl, rfl⟩ := Prod.mk.inj hrecord
    have hsame : backend (full.record call).1 call = none := by
      rw [h.record_number]
      exact hanswer
    rw [Run.drive]
    dsimp only
    rw [hsame, h.record_number]
    have hpark := (h.record call).park ⟨operation, stage, [run.calls.length + 1]⟩
    cases stage <;> first | exact absurd rfl (hstage _) | exact hpark

/-- As many loads are in flight. -/
theorem WithEnded.busy (h : WithEnded number ended run full) : full.busy = run.busy := by
  simp only [Run.busy, h.flights, List.any_map]
  rfl

/-- An operation begins in both. -/
theorem WithEnded.begin (h : WithEnded number ended run full) (hnumber : number ≤ run.begun)
    (backend : Backend) (operation : Operation) :
    WithEnded number ended (run.begin backend run.begun operation)
      (full.begin backend full.begun operation) := by
  have hshifted : full.begun = shifted number run.begun := by
    rw [shifted_of_le hnumber, h.begun]
  unfold Run.begin
  dsimp only
  rw [h.live, h.busy, hshifted]
  exact (h.setLive _).drive backend run.begun [] _

/-- An answer is handed in in both. -/
theorem WithEnded.settle (h : WithEnded number ended run full) (backend : Backend) (id : Nat)
    (answer : Answer) :
    WithEnded number ended (run.settle backend id answer) (full.settle backend id answer) := by
  have hfind : full.flights.find? (·.awaits id) =
      (run.flights.find? (·.awaits id)).map (Flight.shift number) := by
    rw [h.flights, List.find?_map]
    rfl
  have hfilter : full.flights.filter (!·.awaits id) =
      (run.flights.filter (!·.awaits id)).map (Flight.shift number) := by
    rw [h.flights, List.filter_map]
    rfl
  unfold Run.settle
  rw [hfind]
  cases run.flights.find? (·.awaits id) with
  | none => exact h
  | some flight =>
    dsimp only [Option.map_some, Flight.shift]
    rw [h.live]
    let rest (run : Run) : Run := { run with
      live := (run.live.resume (flight.waiting.head? == some id) answer flight.stage).1
      flights := run.flights.filter (!·.awaits id) }
    have hrest : WithEnded number ended (rest run) (rest full) := by
      refine ⟨by simp only [rest, h.live], h.calls, hfilter, h.ended, h.results, ?_⟩
      have hbegun := h.begun
      simp only [Run.begun, h.flights, List.length_map] at hbegun
      simp only [Run.begun, rest, hfilter, List.length_map]
      omega
    have hdrive := hrest.drive backend flight.operation (flight.waiting.erase id)
      (run.live.resume (flight.waiting.head? == some id) answer flight.stage).2
    simp only [rest, h.live] at hdrive
    exact hdrive

/-- Every move is made in both. -/
theorem WithEnded.step (h : WithEnded number ended run full) (hfull : full.Numbered)
    (oracle : Oracle) (move : Move) :
    WithEnded number ended (run.step oracle move) (full.step oracle move) := by
  cases move with
  | begin operation prompt =>
    have hnumber : number < full.begun := hfull.result_lt_begun h.ended
    rw [h.begun] at hnumber
    exact h.begin (Nat.le_of_lt_succ hnumber) _ operation
  | settle id prompt =>
    have hcall : full.call? id = run.call? id := by simp only [call?, h.calls]
    simp only [Run.step, hcall]
    cases run.call? id with
    | none => exact h
    | some call => exact h.settle _ id _
  | setClock now =>
    simp only [Run.step, Run.setClock, h.live]
    exact h.setLive _
  | drain =>
    simp only [Run.step, Run.drain, h.live]
    exact h.setLive _
  | look =>
    simp only [Run.step, h.live]
    exact h.setLive _

/-- So is every list of moves. -/
theorem WithEnded.after (h : WithEnded number ended run full) (hfull : full.AtRest)
    (oracle : Oracle) (moves : List Move) :
    WithEnded number ended (run.after oracle moves) (full.after oracle moves) := by
  induction moves generalizing run full with
  | nil => exact h
  | cons move rest ih => exact ih (h.step hfull.numbered oracle move) (hfull.step oracle move)

/-- An operation that came out at once and changed nothing is one more in the run, and nothing
else. -/
theorem Numbered.withEnded (h : run.Numbered) (result : Result) :
    WithEnded run.begun result run
      { run with results := run.results ++ [(run.begun, result)] } where
  live := rfl
  calls := rfl
  flights := by
    have hsame : ∀ flight ∈ run.flights, flight.shift run.begun = flight := by
      intro flight hflight
      have hnumber : flight.operation < run.begun := h.flight_lt_begun hflight
      simp only [Flight.shift, shifted_of_lt hnumber]
    exact ((List.map_congr_left hsame).trans (List.map_id _)).symm
  ended := List.mem_append_right _ (List.mem_singleton_self _)
  results := by
    have hnumber : ∀ result ∈ run.results, result.1 < run.begun :=
      fun _ hresult => h.result_lt_begun hresult
    have hother : run.results.filter (·.1 ≠ run.begun) = run.results :=
      List.filter_eq_self.2 fun result hresult =>
        decide_eq_true (Nat.ne_of_lt (hnumber result hresult))
    have hsame : ∀ result ∈ run.results, (shifted run.begun result.1, result.2) = result :=
      fun result hresult => by rw [shifted_of_lt (hnumber result hresult)]
    rw [List.filter_append, hother, List.filter_cons_of_neg (by simp), List.filter_nil,
      List.append_nil]
    exact ((List.map_congr_left hsame).trans (List.map_id _)).symm
  begun := run.begun_finish run.begun result

/-- An operation that ends at once is in no flight and makes no call. -/
theorem step_of_finished {operation : Operation} {live : LiveView} {result : Result}
    (hbegin : run.live.begin run.busy operation = (live, .finish result)) (oracle : Oracle)
    (prompt : Nat → Call → Bool) :
    run.step oracle (.begin operation prompt) =
      { run with live := live, results := run.results ++ [(run.begun, result)] } := by
  simp only [Run.step, Run.begin, hbegin]
  rw [drive_eq_hold _ _ _ _ fun _ _ => Next.noConfusion]
  rfl

end Run

end AlertDetail
