import AlertDetail.Merge
import Mathlib.Data.List.Induction

/-!
# Results of a draft

The draft of a new alert is evaluated again and again, and every result is merged under the view
state that the session has at that moment. The two sets then hold the two most recent results that
found anomalies. A result without anomalies makes the new set the old one, so that the result after
it is compared with the most recent anomalies and not with earlier ones.
-/

namespace AlertDetail

namespace Session

/-- The session with a result merged under its own view state, and what follows. -/
def absorb (session : Session) (result : FetchResult) : Session × MergeOutcome :=
  session.merge session.viewState result

/-- The session after merging results in order, each under the view state that the session then
has, and what followed each of them. -/
def absorbAll : Session → List FetchResult → Session × List MergeOutcome
  | session, [] => (session, [])
  | session, result :: rest =>
    let (merged, outcome) := session.absorb result
    let (final, outcomes) := merged.absorbAll rest
    (final, outcome :: outcomes)

/-- Merging one more result is merging it into what the earlier ones gave. -/
theorem absorbAll_concat (session : Session) (results : List FetchResult) (last : FetchResult) :
    session.absorbAll (results ++ [last]) =
      (((session.absorbAll results).1.absorb last).1,
        (session.absorbAll results).2 ++ [((session.absorbAll results).1.absorb last).2]) := by
  induction results generalizing session with
  | nil => rfl
  | cons result rest ih => simp only [List.cons_append, absorbAll, ih]

/-- A session that evaluates the draft of a new alert and did not fail. -/
structure IsDraft (session : Session) : Prop where
  /-- A draft is evaluated. -/
  preview : session.preview = true
  /-- The alert is new. -/
  edit : session.edit = false
  /-- Nothing failed. -/
  errored : session.errored = false

/-- The view state of a draft follows from which of its sets are empty. -/
theorem IsDraft.viewState {session : Session} (h : session.IsDraft) :
    session.viewState =
      if session.old = [] then .baseline else if session.new = [] then .replace else .shuffle := by
  cases ho : session.old <;> cases hn : session.new <;>
    simp [Session.viewState, ViewState.resolve, h.preview, h.edit, h.errored, ho, hn]

/-- Placing anomalies changes nothing but the two sets and their number. -/
theorem place_eq (session : Session) (state : ViewState) (anomalies : List Anomaly) :
    session.place state anomalies =
      { session with
        old := (session.place state anomalies).old
        new := (session.place state anomalies).new
        anomaliesRevision := (session.place state anomalies).anomaliesRevision } := by
  cases state <;> rfl

/-- Merging under a view state without failure takes the whole result over. -/
theorem merge_of_ne_errored (session : Session) {state : ViewState} (h : state ≠ .errored)
    (result : FetchResult) :
    session.merge state result =
      ({ session.place state result.anomalies with
          isLoading := false, predictions := result.predictions },
        MergeOutcome.ofViewState state) := by
  cases state <;> first | contradiction | rfl

/-- A draft never has the view state of a failure. -/
theorem IsDraft.viewState_ne_errored {session : Session} (h : session.IsDraft) :
    session.viewState ≠ .errored := by
  rw [h.viewState]
  split
  · decide
  · split <;> decide

/-- Absorbing a result takes its predictions over and keeps the session a draft. -/
theorem IsDraft.absorb {session : Session} (h : session.IsDraft) (result : FetchResult) :
    (session.absorb result).1.IsDraft ∧
      (session.absorb result).1.predictions = result.predictions ∧
      (session.absorb result).2 = .applied := by
  rw [Session.absorb, merge_of_ne_errored session h.viewState_ne_errored, place_eq]
  refine ⟨⟨h.preview, h.edit, h.errored⟩, rfl, ?_⟩
  rw [h.viewState]
  split
  · rfl
  · split <;> rfl

/-- Where a draft puts the anomalies of a result: into the old set if that one is empty; otherwise
they become the new set, and what was the new set becomes the old one. -/
theorem IsDraft.absorb_sets {session : Session} (h : session.IsDraft) (result : FetchResult) :
    ((session.absorb result).1.old, (session.absorb result).1.new) =
      if session.old = [] then (result.anomalies, session.new)
      else if session.new = [] then (session.old, result.anomalies)
      else (session.new, result.anomalies) := by
  rw [Session.absorb, merge_of_ne_errored session h.viewState_ne_errored, h.viewState]
  split
  · rfl
  · split <;> rfl

end Session

namespace FetchResult

/-- The results that found anomalies. -/
def found (results : List FetchResult) : List FetchResult :=
  results.filter fun result => !result.anomalies.isEmpty

/-- The anomalies of the last of several results. -/
def lastSet (results : List FetchResult) : List Anomaly :=
  (results.getLast?.map (·.anomalies)).getD []

@[simp] theorem lastSet_nil : lastSet [] = [] := rfl

@[simp] theorem lastSet_concat (results : List FetchResult) (last : FetchResult) :
    lastSet (results ++ [last]) = last.anomalies := by
  simp [lastSet]

/-- A result without anomalies is not among those that found some. -/
theorem found_concat_of_empty (results : List FetchResult) {last : FetchResult}
    (h : last.anomalies = []) : found (results ++ [last]) = found results := by
  simp [found, List.filter_append, h]

/-- A result with anomalies is the last of those that found some. -/
theorem found_concat_of_found (results : List FetchResult) {last : FetchResult}
    (h : last.anomalies ≠ []) : found (results ++ [last]) = found results ++ [last] := by
  simp [found, List.filter_append, h]

/-- The last of the results that found anomalies has some, unless there is no such result. -/
theorem lastSet_found_eq_nil_iff (results : List FetchResult) :
    lastSet (found results) = [] ↔ found results = [] := by
  cases hlast : (found results).getLast? with
  | none =>
    have hnil : found results = [] := List.getLast?_eq_none_iff.1 hlast
    simp [hnil]
  | some last =>
    have hmem : last ∈ found results := List.mem_of_getLast? hlast
    have hne : last.anomalies ≠ [] := by simpa [found] using (List.mem_filter.1 hmem).2
    simp only [lastSet, hlast, Option.map_some, Option.getD_some, hne, false_iff]
    exact List.ne_nil_of_mem hmem

end FetchResult

namespace Session

open FetchResult

/-- What the sets of a draft hold after results: the last anomalies found and nothing beside them,
or the last ones as new set and the ones before them as old set. -/
def Holds (session : Session) (results : List FetchResult) : Prop :=
  (session.old = lastSet (found results) ∧ session.new = []) ∨
    ∃ earlier latest, found earlier ≠ [] ∧ found results = found earlier ++ [latest] ∧
      latest.anomalies ≠ [] ∧
      session.old = lastSet (found earlier) ∧ session.new = latest.anomalies

/-- After a result without anomalies the last anomalies found are the old set, and the new set is
empty. -/
theorem Holds.absorb_empty {session : Session} {results : List FetchResult}
    (hdraft : session.IsDraft) (hholds : session.Holds results) {last : FetchResult}
    (hlast : last.anomalies = []) :
    (session.absorb last).1.old = lastSet (found results) ∧ (session.absorb last).1.new = [] := by
  have hsets := hdraft.absorb_sets last
  rw [hlast] at hsets
  rcases hholds with ⟨hold, hnew⟩ | ⟨earlier, latest, hearlier, hfound, hlatest, hold, hnew⟩
  · by_cases hempty : session.old = []
    · rw [if_pos hempty, hnew] at hsets
      exact ⟨by rw [(Prod.mk.inj hsets).1, ← hold, hempty], (Prod.mk.inj hsets).2⟩
    · rw [if_neg hempty, if_pos hnew, hold] at hsets
      exact Prod.mk.inj hsets
  · have hold_ne : session.old ≠ [] := by
      rwa [hold, Ne, lastSet_found_eq_nil_iff]
    rw [if_neg hold_ne, if_neg (by rwa [hnew]), hnew] at hsets
    rw [hfound, lastSet_concat]
    exact Prod.mk.inj hsets

/-- A result with anomalies becomes the old set if it is the first one. Otherwise it becomes the new
set, beside the last anomalies found before it. -/
theorem Holds.absorb_found {session : Session} {results : List FetchResult}
    (hdraft : session.IsDraft) (hholds : session.Holds results) (last : FetchResult) :
    ((session.absorb last).1.old, (session.absorb last).1.new) =
      if found results = [] then (last.anomalies, [])
      else (lastSet (found results), last.anomalies) := by
  have hsets := hdraft.absorb_sets last
  rcases hholds with ⟨hold, hnew⟩ | ⟨earlier, latest, hearlier, hfound, hlatest, hold, hnew⟩
  · by_cases hempty : found results = []
    · rw [if_pos hempty]
      rwa [if_pos (by rw [hold, hempty, lastSet_nil]), hnew] at hsets
    · rw [if_neg hempty]
      rwa [if_neg (by rwa [hold, lastSet_found_eq_nil_iff]), if_pos hnew, hold] at hsets
  · have hold_ne : session.old ≠ [] := by
      rwa [hold, Ne, lastSet_found_eq_nil_iff]
    rw [if_neg (by rw [hfound]; simp)]
    rwa [if_neg hold_ne, if_neg (by rwa [hnew]), hnew, ← lastSet_concat (found earlier) latest,
      ← hfound] at hsets

/-- One more result keeps what the sets of a draft hold. -/
theorem Holds.absorb {session : Session} {results : List FetchResult}
    (hdraft : session.IsDraft) (hholds : session.Holds results) (last : FetchResult) :
    (session.absorb last).1.Holds (results ++ [last]) := by
  by_cases hlast : last.anomalies = []
  · rw [Holds, found_concat_of_empty results hlast]
    exact .inl (hholds.absorb_empty hdraft hlast)
  · have hsets := hholds.absorb_found hdraft last
    rw [Holds, found_concat_of_found results hlast]
    by_cases hempty : found results = []
    · rw [if_pos hempty] at hsets
      rw [lastSet_concat]
      exact .inl (Prod.mk.inj hsets)
    · rw [if_neg hempty] at hsets
      obtain ⟨hold, hnew⟩ := Prod.mk.inj hsets
      exact .inr ⟨results, last, hempty, rfl, hlast, hold, hnew⟩

/-- Absorbing results one after the other keeps a draft a draft, takes every result over, and keeps
the last anomalies found in the sets. -/
theorem IsDraft.absorbAll {session : Session} (hdraft : session.IsDraft)
    (hold : session.old = []) (hnew : session.new = []) (results : List FetchResult) :
    (session.absorbAll results).1.IsDraft ∧ (session.absorbAll results).1.Holds results ∧
      (session.absorbAll results).2 = List.replicate results.length .applied := by
  -- on the order of merging, so from the last result back
  induction results using List.reverseRecOn with
  | nil => exact ⟨hdraft, .inl ⟨hold, hnew⟩, rfl⟩
  | append_singleton results last ih =>
    obtain ⟨hdraft', hholds, houtcomes⟩ := ih
    obtain ⟨hkeeps, -, happlied⟩ := hdraft'.absorb last
    rw [absorbAll_concat]
    refine ⟨hkeeps, hholds.absorb hdraft' last, ?_⟩
    simp only [houtcomes, happlied, List.length_append, List.length_singleton,
      List.replicate_succ']

/-- The draft of a new alert keeps the two most recent results. Starting from empty sets, every
merge takes its result over, the predictions are those of the last result, and the sets hold:
nothing while no result found anomalies; the only result that found some, as old set; the last two
such results if the last result of all is among them; and otherwise the last such result as old set.
-/
theorem absorbAll_keeps_recent {session : Session} (hdraft : session.IsDraft)
    (hold : session.old = []) (hnew : session.new = []) (results : List FetchResult)
    (last : FetchResult) :
    let after := session.absorbAll (results ++ [last])
    let found := found (results ++ [last])
    after.2 = List.replicate (results.length + 1) .applied ∧
      after.1.predictions = last.predictions ∧
      (found = [] → after.1.old = [] ∧ after.1.new = []) ∧
      (∀ only, found = [only] → after.1.old = only.anomalies ∧ after.1.new = []) ∧
      ∀ earlier previous latest, found = earlier ++ [previous, latest] →
        (last.anomalies ≠ [] →
          after.1.old = previous.anomalies ∧ after.1.new = latest.anomalies) ∧
        (last.anomalies = [] → after.1.old = latest.anomalies ∧ after.1.new = []) := by
  intro after found
  obtain ⟨hdraft', hholds, -⟩ := hdraft.absorbAll hold hnew results
  have houtcomes := (hdraft.absorbAll hold hnew (results ++ [last])).2.2
  have hafter : after.1 = ((session.absorbAll results).1.absorb last).1 := by
    simp only [after, absorbAll_concat]
  refine ⟨by simpa using houtcomes, hafter ▸ (hdraft'.absorb last).2.1, ?_⟩
  rw [hafter]
  by_cases hlast : last.anomalies = []
  · have hfound : found = FetchResult.found results := found_concat_of_empty results hlast
    obtain ⟨hold', hnew'⟩ := hholds.absorb_empty hdraft' hlast
    rw [← hfound] at hold'
    refine ⟨fun h => ?_, fun only h => ?_, fun earlier previous latest h => ?_⟩
    · exact ⟨by rw [hold', h, lastSet_nil], hnew'⟩
    · exact ⟨by rw [hold', h]; rfl, hnew'⟩
    · refine ⟨fun hne => absurd hlast hne, fun _ => ⟨?_, hnew'⟩⟩
      rw [hold', h, List.append_cons, lastSet_concat]
  · have hfound : found = FetchResult.found results ++ [last] := found_concat_of_found results hlast
    have hsets := hholds.absorb_found hdraft' last
    refine ⟨fun h => ?_, fun only h => ?_, fun earlier previous latest h => ?_⟩
    · rw [hfound] at h
      simp at h
    · rw [hfound] at h
      have hsplit : FetchResult.found results ++ [last] = [] ++ [only] := h
      obtain ⟨hearlier, honly⟩ := List.append_inj' hsplit rfl
      obtain rfl : last = only := by simpa using honly
      rw [if_pos hearlier] at hsets
      exact Prod.mk.inj hsets
    · have hsplit : FetchResult.found results ++ [last] = (earlier ++ [previous]) ++ [latest] := by
        rw [← hfound, h, List.append_assoc]
        rfl
      obtain ⟨hearlier, hlatest⟩ := List.append_inj' hsplit rfl
      obtain rfl : last = latest := by simpa using hlatest
      rw [if_neg (by rw [hearlier]; simp), hearlier, lastSet_concat] at hsets
      exact ⟨fun _ => Prod.mk.inj hsets, fun hempty => absurd hempty hlast⟩

/-- Results without anomalies stand between those with some, and the last two of the latter are
kept. -/
theorem absorbAll_keeps_recent_across_empty :
    let draft : Session := {
      alertId := 7, preview := true, edit := false, granularity := none
      dimensionExploration := false, alertYaml := some "live", savedYaml := none
      range := ⟨0, 1000⟩, duration := .custom, baselineOffset := .predicted }
    let result (start : Int) : FetchResult :=
      ⟨[{ metricUrn := "thirdeye:metric:1", startTime := start, endTime := start + 10 }], []⟩
    let after := draft.absorbAll ([result 1, {}, result 2, {}] ++ [result 3])
    draft.IsDraft ∧ draft.old = [] ∧ draft.new = [] ∧
      after.1.old = (result 2).anomalies ∧ after.1.new = (result 3).anomalies := by
  intro draft result
  have hdraft : draft.IsDraft := ⟨rfl, rfl, rfl⟩
  have hkeeps := absorbAll_keeps_recent hdraft rfl rfl [result 1, {}, result 2, {}] (result 3)
  obtain ⟨-, -, -, -, hseveral⟩ := hkeeps
  have hsets := (hseveral [result 1] (result 2) (result 3) rfl).1 (List.cons_ne_nil _ _)
  exact ⟨hdraft, rfl, rfl, hsets⟩

end Session

end AlertDetail
