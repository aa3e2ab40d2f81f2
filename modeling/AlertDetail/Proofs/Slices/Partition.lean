import AlertDetail.Selection
import AlertDetail.Slice
import Mathlib.Data.List.Basic
import Mathlib.Data.List.Induction

/-!
# Partition into slices

The slices of anomalies and the rules of predictions are offered once each, in the order in which
they are first met. What a selection leaves of anomalies is said without the search that decides it:
the name of the detector is a part of the name of the component. Slice by slice, with the rules
hidden, every anomaly is left exactly as often as it was there.
-/

namespace AlertDetail

/-! ## In the order of the first occurrence -/

/-- A list tells the texts of another one, each once and in the order in which they first stand
there. -/
structure FirstSeen (seen texts : List String) : Prop where
  /-- No text is told twice. -/
  nodup : seen.Nodup
  /-- The texts of the other list are told, and nothing else. -/
  mem_iff : ∀ text, text ∈ seen ↔ text ∈ texts
  /-- What is told earlier first stands earlier. -/
  ordered : seen.Pairwise fun earlier later => texts.idxOf earlier < texts.idxOf later

namespace FirstSeen

variable {seen texts : List String} {text : String}

/-- The order leaves no room for repetitions. -/
theorem of_ordered (hmem : ∀ text, text ∈ seen ↔ text ∈ texts)
    (hordered : seen.Pairwise fun earlier later => texts.idxOf earlier < texts.idxOf later) :
    FirstSeen seen texts where
  nodup := List.nodup_iff_pairwise_ne.2 <| hordered.imp fun hbefore hsame => by
    rw [hsame] at hbefore
    exact Nat.lt_irrefl _ hbefore
  mem_iff := hmem
  ordered := hordered

/-- The order stays when another text follows. -/
theorem ordered_concat (h : FirstSeen seen texts) (text : String) :
    seen.Pairwise fun earlier later =>
      (texts ++ [text]).idxOf earlier < (texts ++ [text]).idxOf later :=
  h.ordered.imp_of_mem fun hearlier hlater hbefore => by
    rwa [List.idxOf_append_of_mem ((h.mem_iff _).1 hearlier),
      List.idxOf_append_of_mem ((h.mem_iff _).1 hlater)]

/-- A text that was met before adds nothing. -/
theorem concat_of_mem (h : FirstSeen seen texts) (hseen : text ∈ seen) :
    FirstSeen seen (texts ++ [text]) := by
  refine of_ordered (fun other => ?_) (h.ordered_concat text)
  rw [List.mem_append, List.mem_singleton, h.mem_iff other]
  refine ⟨.inl, fun hother => hother.elim id fun hsame => ?_⟩
  rw [hsame]
  exact (h.mem_iff text).1 hseen

/-- A text that is met for the first time is told last. -/
theorem concat_of_notMem (h : FirstSeen seen texts) (hnew : text ∉ seen) :
    FirstSeen (seen ++ [text]) (texts ++ [text]) := by
  refine of_ordered (fun other => ?_) ?_
  · rw [List.mem_append, List.mem_append, h.mem_iff other]
  · refine List.pairwise_append.2 ⟨h.ordered_concat text, List.pairwise_singleton _ text, ?_⟩
    intro earlier hearlier last hlast
    have hmem := (h.mem_iff earlier).1 hearlier
    have hlength := List.idxOf_lt_length_of_mem hmem
    rw [List.mem_singleton.1 hlast, List.idxOf_append_of_mem hmem,
      List.idxOf_append_of_notMem fun hagain => hnew ((h.mem_iff text).2 hagain)]
    omega

end FirstSeen

/-- Texts without the later of equal ones stand in the order of their first occurrence. -/
theorem firstSeen_eraseDups (texts : List String) : FirstSeen texts.eraseDups texts := by
  -- the texts that were met so far are what is told so far, so the next one is added at the end
  induction texts using List.reverseRecOn with
  | nil => exact .of_ordered (fun _ => Iff.rfl) .nil
  | append_singleton texts text ih =>
    rw [List.eraseDups_append]
    by_cases hseen : text ∈ texts
    · have hnone : [text].removeAll texts = [] := by simp [List.removeAll, hseen]
      rw [hnone, List.eraseDups_nil, List.append_nil]
      exact ih.concat_of_mem (List.mem_eraseDups.2 hseen)
    · have hone : [text].removeAll texts = [text] := by simp [List.removeAll, hseen]
      rw [hone, List.eraseDups_cons, List.filter_nil, List.eraseDups_nil]
      exact ih.concat_of_notMem (mt List.mem_eraseDups.1 hseen)

/-- The slices of anomalies are offered as they are first met. -/
theorem Slice.firstSeen_ofAnomalies (anomalies : List Anomaly) :
    FirstSeen (ofAnomalies anomalies) (anomalies.map (·.metricUrn)) :=
  firstSeen_eraseDups _

/-- So are the rules of predictions, by their detectors. -/
theorem Rule.firstSeen_ofPredictions (predictions : List Prediction) :
    FirstSeen ((ofPredictions predictions).map (·.detectorName))
      (predictions.map (·.detectorName)) := by
  have hdetectors : (ofPredictions predictions).map (·.detectorName) =
      (predictions.map (·.detectorName)).eraseDups := by
    rw [ofPredictions, List.map_map]
    exact List.map_id _
  rw [hdetectors]
  exact firstSeen_eraseDups _

/-! ## What a selection leaves -/

/-- An anomaly was detected by a rule if both are known and the name of the detector is a part of
the name of the component. -/
def Anomaly.DetectedBy (anomaly : Anomaly) (rule : Option Rule) : Prop :=
  ∃ detecting component before after, rule = some detecting ∧
    anomaly.component? = some component ∧ component = before ++ detecting.detectorName ++ after

theorem Anomaly.isDetectedBy_iff {anomaly : Anomaly} {rule : Option Rule} :
    anomaly.isDetectedBy rule = true ↔ anomaly.DetectedBy rule := by
  unfold isDetectedBy
  split
  · next detecting component hcomponent =>
    rw [Text.contains_iff]
    constructor
    · rintro ⟨before, after, htext⟩
      refine ⟨detecting, component, .ofList before, .ofList after, rfl, hcomponent, ?_⟩
      apply String.toList_injective
      rw [String.toList_append, String.toList_append, String.toList_ofList, String.toList_ofList,
        htext]
    · rintro ⟨_, _, before, after, hrule, hsame, htext⟩
      obtain rfl := Option.some.inj hrule
      obtain rfl := Option.some.inj (hcomponent.symm.trans hsame)
      exact ⟨before.toList, after.toList, by rw [htext, String.toList_append, String.toList_append]⟩
  · next hnone =>
    refine iff_of_false Bool.false_ne_true ?_
    rintro ⟨detecting, component, -, -, hrule, hcomponent, -⟩
    exact hnone detecting component hrule hcomponent

namespace Selection

/-- An anomaly belongs to a selection if it lies on the selected slice and, where rules are visible,
was detected by the selected rule. -/
structure Admits (selection : Selection) (anomaly : Anomaly) : Prop where
  /-- It lies on the slice. -/
  slice : selection.metricUrn = some anomaly.metricUrn
  /-- It was detected by the rule. -/
  detected : selection.rulesVisible = true → anomaly.DetectedBy selection.rule

variable {selection : Selection} {anomaly : Anomaly} {anomalies : List Anomaly}

theorem admits_iff : selection.admits anomaly = true ↔ selection.Admits anomaly := by
  rw [admits, Bool.and_eq_true, Bool.or_eq_true, decide_eq_true_eq, Anomaly.isDetectedBy_iff]
  cases hvisible : selection.rulesVisible with
  | false => exact ⟨fun h => ⟨h.1, by simp [hvisible]⟩, fun h => ⟨h.slice, .inl rfl⟩⟩
  | true =>
    constructor
    · rintro ⟨hslice, hhidden | hdetected⟩
      · cases hhidden
      · exact ⟨hslice, fun _ => hdetected⟩
    · exact fun h => ⟨h.slice, .inr (h.detected hvisible)⟩

instance (selection : Selection) : DecidablePred selection.Admits :=
  fun _ => decidable_of_iff _ admits_iff

theorem mem_filter_iff :
    anomaly ∈ selection.filter anomalies ↔ anomaly ∈ anomalies ∧ selection.Admits anomaly := by
  rw [filter, List.mem_filter, admits_iff]

/-- What belongs to the selection is left as often as it was there, anything else is not. -/
theorem count_filter (selection : Selection) (anomalies : List Anomaly) (anomaly : Anomaly) :
    (selection.filter anomalies).count anomaly =
      if selection.Admits anomaly then anomalies.count anomaly else 0 := by
  by_cases hadmits : selection.Admits anomaly
  · rw [if_pos hadmits, filter, List.count_filter (admits_iff.2 hadmits)]
  · rw [if_neg hadmits]
    exact List.count_eq_zero.2 fun hmem => hadmits (mem_filter_iff.1 hmem).2

/-- A selection leaves, in their order, exactly the anomalies that belong to it, each as often as it
was there, so a second time it leaves all. Where rules are visible, each rule that is offered for
predictions leaves the anomalies of the slice whose component is its detector, and every detector of
a prediction is that of an offered rule. -/
theorem leaves_admitted (selection : Selection) (anomalies : List Anomaly)
    (predictions : List Prediction) :
    ((selection.filter anomalies).Sublist anomalies ∧
        ∀ anomaly, (selection.filter anomalies).count anomaly =
          if selection.Admits anomaly then anomalies.count anomaly else 0) ∧
      selection.filter (selection.filter anomalies) = selection.filter anomalies ∧
      (∀ rule ∈ Rule.ofPredictions predictions, ∀ anomaly ∈ anomalies,
        anomaly.component? = some rule.detectorName →
          anomaly ∈ Selection.filter
            { metricUrn := some anomaly.metricUrn, rule := some rule, rulesVisible := true }
            anomalies) ∧
      ∀ prediction ∈ predictions, ∃ rule ∈ Rule.ofPredictions predictions,
        rule.detectorName = prediction.detectorName := by
  refine ⟨⟨List.filter_sublist, count_filter selection anomalies⟩, ?_, ?_, ?_⟩
  · refine List.filter_eq_self.2 fun anomaly hleft => ?_
    exact admits_iff.2 (mem_filter_iff.1 hleft).2
  · intro rule _ anomaly hmem hcomponent
    refine mem_filter_iff.2 ⟨hmem, rfl, fun _ => ?_⟩
    exact ⟨rule, rule.detectorName, "", "", rfl, hcomponent, by simp⟩
  · intro prediction hmem
    have hseen := (Rule.firstSeen_ofPredictions predictions).mem_iff prediction.detectorName
    exact List.mem_map.1 (hseen.2 (List.mem_map_of_mem hmem))

/-- One component breaks the name of the detector off, another one holds it behind a part of its own
beginning, and a third one, which stands twice, is the detector. -/
theorem leaves_admitted_broken_beginning :
    let detected := fun component : String => ({
      metricUrn := "m:n:7", startTime := 0, endTime := 5
      properties := some { detectorComponentName := some component } } : Anomaly)
    let anomalies := [detected "aba", detected "aba:é", detected "ababa:é!", detected "aba:é"]
    let predictions := [{ detectorName := "aba:é", metricUrn := "m:n:8" }]
    let rule := Rule.ofDetector "aba:é"
    let selection : Selection := { metricUrn := some "m:n:7", rule, rulesVisible := true }
    selection.filter anomalies = [detected "aba:é", detected "ababa:é!", detected "aba:é"] ∧
      selection.Admits (detected "ababa:é!") ∧ ¬ selection.Admits (detected "aba") ∧
      (selection.filter anomalies).count (detected "ababa:é!") = 1 ∧
      (selection.filter anomalies).count (detected "aba") = 0 ∧
      rule ∈ Rule.ofPredictions predictions ∧ detected "aba:é" ∈ anomalies ∧
      (detected "aba:é").component? = some rule.detectorName ∧
      detected "aba:é" ∈ selection.filter anomalies := by
  intro detected anomalies predictions rule selection
  obtain ⟨⟨-, hcount⟩, -, hoffered, -⟩ := leaves_admitted selection anomalies predictions
  have hadmits : selection.Admits (detected "ababa:é!") := by decide
  have hbroken : ¬ selection.Admits (detected "aba") := by decide
  have hrule : rule ∈ Rule.ofPredictions predictions := by decide
  have hmem : detected "aba:é" ∈ anomalies := by decide
  refine ⟨by decide, hadmits, hbroken, ?_, ?_, hrule, hmem, rfl, hoffered rule hrule _ hmem rfl⟩
  · rw [hcount, if_pos hadmits]
    decide
  · rw [hcount, if_neg hbroken]

/-- A slice without a restriction to a rule, whichever rule is selected. -/
def ofSlice (urn : String) (rule : Option Rule) : Selection := { metricUrn := some urn, rule }

/-- A slice leaves the anomalies that lie on it. -/
theorem filter_ofSlice (urn : String) (rule : Option Rule) (anomalies : List Anomaly) :
    (ofSlice urn rule).filter anomalies = anomalies.filter (·.metricUrn = urn) := by
  refine List.filter_congr fun anomaly _ => ?_
  rw [Bool.eq_iff_iff, admits_iff, decide_eq_true_eq]
  exact ⟨fun h => (Option.some.inj h.slice).symm, fun h => ⟨congrArg some h.symm, nofun⟩⟩

end Selection

/-! ## Slice by slice -/

namespace Slice

/-- Distinct slices that all anomalies lie on hold every anomaly, one slice after the other. -/
theorem flatMap_filter_perm {urns : List String} {anomalies : List Anomaly}
    (hdistinct : urns.Nodup) (hall : ∀ anomaly ∈ anomalies, anomaly.metricUrn ∈ urns) :
    (urns.flatMap fun urn => anomalies.filter (·.metricUrn = urn)).Perm anomalies := by
  -- on the slices: the others hold what does not lie on the first one
  induction urns generalizing anomalies with
  | nil =>
    obtain rfl : anomalies = [] :=
      List.eq_nil_iff_forall_not_mem.2 fun anomaly hmem => List.not_mem_nil (hall anomaly hmem)
    exact .nil
  | cons urn rest ih =>
    obtain ⟨hnew, hdistinct⟩ := List.nodup_cons.1 hdistinct
    let others := anomalies.filter fun anomaly => !decide (anomaly.metricUrn = urn)
    have hothers : ∀ anomaly ∈ others, anomaly.metricUrn ∈ rest := by
      intro anomaly hmem
      obtain ⟨hmem, hother⟩ := List.mem_filter.1 hmem
      exact (List.mem_cons.1 (hall anomaly hmem)).resolve_left (by simpa using hother)
    have hrest : ∀ other ∈ rest,
        anomalies.filter (·.metricUrn = other) = others.filter (·.metricUrn = other) := by
      intro other hother
      rw [List.filter_filter]
      refine List.filter_congr fun anomaly _ => ?_
      have hne : other ≠ urn := fun hsame => hnew (hsame ▸ hother)
      by_cases hlies : anomaly.metricUrn = other
      · simp [hlies, hne]
      · simp [hlies]
    rw [List.flatMap_cons, List.flatMap_congr hrest]
    exact ((ih hdistinct hothers).append_left _).trans (List.filter_append_perm _ anomalies)

/-- The slices of anomalies and the detectors of predictions are offered in the order of their first
occurrence. Each of the slices holds anomalies, in their order; one slice after the other, all
anomalies are held and none by two slices, whatever rule is selected while the rules are hidden. -/
theorem slices_partition (anomalies : List Anomaly) (predictions : List Prediction)
    (rule : String → Option Rule) :
    FirstSeen (ofAnomalies anomalies) (anomalies.map (·.metricUrn)) ∧
      (∀ urn ∈ ofAnomalies anomalies,
        (Selection.ofSlice urn (rule urn)).filter anomalies ≠ [] ∧
          ((Selection.ofSlice urn (rule urn)).filter anomalies).Sublist anomalies) ∧
      ((ofAnomalies anomalies).flatMap fun urn =>
        (Selection.ofSlice urn (rule urn)).filter anomalies).Perm anomalies ∧
      (∀ anomaly first second, anomaly ∈ (Selection.ofSlice first (rule first)).filter anomalies →
        anomaly ∈ (Selection.ofSlice second (rule second)).filter anomalies → first = second) ∧
      FirstSeen ((Rule.ofPredictions predictions).map (·.detectorName))
        (predictions.map (·.detectorName)) := by
  have hslices := firstSeen_ofAnomalies anomalies
  have hmem {urn : String} : urn ∈ ofAnomalies anomalies ↔
      ∃ anomaly ∈ anomalies, anomaly.metricUrn = urn := (hslices.mem_iff urn).trans List.mem_map
  have hlies {anomaly : Anomaly} {urn : String}
      (h : anomaly ∈ anomalies.filter (·.metricUrn = urn)) : anomaly.metricUrn = urn :=
    of_decide_eq_true (List.mem_filter.1 h).2
  simp only [Selection.filter_ofSlice]
  refine ⟨hslices, fun urn hurn => ⟨?_, List.filter_sublist⟩, ?_, ?_,
    Rule.firstSeen_ofPredictions predictions⟩
  · obtain ⟨anomaly, hanomaly, hsame⟩ := hmem.1 hurn
    exact List.ne_nil_of_mem (List.mem_filter.2 ⟨hanomaly, decide_eq_true hsame⟩)
  · exact flatMap_filter_perm hslices.nodup fun anomaly hanomaly =>
      hmem.2 ⟨anomaly, hanomaly, rfl⟩
  · exact fun anomaly first second hfirst hsecond => (hlies hfirst).symm.trans (hlies hsecond)

/-- Two equal anomalies of the first slice, with one of the second slice between them, are both held
by the first one. -/
theorem slices_partition_returning_slice :
    let canada : Anomaly := { metricUrn := "m:n:7:ca", startTime := 0, endTime := 5 }
    let states : Anomaly := { metricUrn := "m:n:7:us", startTime := 0, endTime := 5 }
    let anomalies := [canada, states, canada]
    let rule := fun _ => some (Rule.ofDetector "wow_rule")
    let held := fun urn => (Selection.ofSlice urn (rule urn)).filter anomalies
    ofAnomalies anomalies = ["m:n:7:ca", "m:n:7:us"] ∧ held "m:n:7:ca" = [canada, canada] ∧
      held "m:n:7:us" = [states] ∧ [canada, canada, states].Perm anomalies ∧
      "m:n:7:us" ∈ ofAnomalies anomalies ∧ held "m:n:7:us" ≠ [] ∧ canada ∈ held "m:n:7:ca" ∧
      canada ∉ held "m:n:7:us" := by
  intro canada states anomalies rule held
  obtain ⟨-, heach, hperm, honce, -⟩ := slices_partition anomalies [] rule
  have hmem : "m:n:7:us" ∈ ofAnomalies anomalies := by decide
  have hheld : canada ∈ held "m:n:7:ca" := by decide
  have hother : "m:n:7:ca" ≠ "m:n:7:us" := by decide
  exact ⟨by decide, by decide, by decide, hperm, hmem, (heach _ hmem).1, hheld,
    fun hagain => hother (honce canada _ _ hheld hagain)⟩

end Slice

end AlertDetail
