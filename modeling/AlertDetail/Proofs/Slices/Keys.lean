import AlertDetail.Http.Exchange

/-!
# Keys of diagnostics

A JSON text may repeat a key in an object. Diagnostics are kept with every key once, however deep an
object stands in them, so the slices that they name are distinct. The type of a JSON value does not
say so; this module does, and shows it of every evaluation that is read.
-/

namespace AlertDetail

namespace Json

mutual

/-- Whether every object of the value has each of its keys once. -/
def keyed : Json → Bool
  | .arr items => keyedItems items
  | .obj members => (members.map (·.1)).Nodup && keyedMembers members
  | _ => true

/-- Whether all items are so. -/
def keyedItems : List Json → Bool
  | [] => true
  | item :: rest => item.keyed && keyedItems rest

/-- Whether the values of all members are so. -/
def keyedMembers : List (String × Json) → Bool
  | [] => true
  | (_, value) :: rest => value.keyed && keyedMembers rest

end

variable {members : List (String × Json)} {key : String} {value : Json}

/-- Setting a key adds it unless it is there. -/
theorem keys_putMember (key : String) (value : Json) (members : List (String × Json)) :
    (putMember key value members).map (·.1) =
      if key ∈ members.map (·.1) then members.map (·.1) else members.map (·.1) ++ [key] := by
  induction members with
  | nil => rfl
  | cons member rest ih =>
    unfold putMember
    by_cases hkey : member.1 = key
    · simp [hkey]
    · have hother : ¬ key = member.1 := fun h => hkey h.symm
      rw [if_neg hkey]
      simp only [List.map_cons, List.mem_cons, hother, false_or, List.cons_append]
      rw [ih]
      split <;> rfl

/-- It repeats no key. -/
theorem nodup_putMember (h : (members.map (·.1)).Nodup) :
    ((putMember key value members).map (·.1)).Nodup := by
  rw [keys_putMember]
  split
  · exact h
  · next hnew =>
    refine List.nodup_append.2 ⟨h, List.pairwise_singleton _ key, fun other hother last hlast => ?_⟩
    rw [List.mem_singleton.1 hlast]
    exact fun hsame => hnew (hsame ▸ hother)

/-- The values of other keys stay as they are. -/
theorem keyedMembers_putMember (hvalue : value.keyed = true) (h : keyedMembers members = true) :
    keyedMembers (putMember key value members) = true := by
  induction members with
  | nil => simp [putMember, keyedMembers, hvalue]
  | cons member rest ih =>
    obtain ⟨other, kept⟩ := member
    obtain ⟨hkept, hrest⟩ := Bool.and_eq_true_iff.1 h
    unfold putMember
    split
    · exact Bool.and_eq_true_iff.2 ⟨hvalue, hrest⟩
    · exact Bool.and_eq_true_iff.2 ⟨hkept, ih hrest⟩

/-- Members with every key once repeat none, and their values are those of the members. -/
theorem keyed_onceEach (h : keyedMembers members = true) :
    ((onceEach members).map (·.1)).Nodup ∧ keyedMembers (onceEach members) = true := by
  -- on the members still to be set, for any members that are there already
  have hset (members done : List (String × Json)) (h : keyedMembers members = true)
      (hkeys : (done.map (·.1)).Nodup) (hdone : keyedMembers done = true) :
      ((members.foldl (fun done member => putMember member.1 member.2 done) done).map
          (·.1)).Nodup ∧
        keyedMembers (members.foldl (fun done member => putMember member.1 member.2 done) done) =
          true := by
    induction members generalizing done with
    | nil => exact ⟨hkeys, hdone⟩
    | cons member rest ih =>
      obtain ⟨hvalue, hrest⟩ := Bool.and_eq_true_iff.1 h
      exact ih _ hrest (nodup_putMember hkeys) (keyedMembers_putMember hvalue hdone)
  exact hset members [] h List.nodup_nil rfl

mutual

/-- A merged value has every key of every object once. -/
theorem keyed_merged : (value : Json) → value.merged.keyed = true
  | .arr items => keyedItems_merged items
  | .obj members => by
    obtain ⟨hkeys, hvalues⟩ := keyed_onceEach (keyedMembers_merged members)
    exact Bool.and_eq_true_iff.2 ⟨decide_eq_true hkeys, hvalues⟩
  | .null => rfl
  | .bool _ => rfl
  | .int _ => rfl
  | .float _ => rfl
  | .str _ => rfl
  | .unreadable => rfl

/-- So has each merged item. -/
theorem keyedItems_merged : (items : List Json) → keyedItems (mergedItems items) = true
  | [] => rfl
  | item :: rest => Bool.and_eq_true_iff.2 ⟨keyed_merged item, keyedItems_merged rest⟩

/-- And the merged value of each member. -/
theorem keyedMembers_merged :
    (members : List (String × Json)) → keyedMembers (mergedMembers members) = true
  | [] => rfl
  | (_, value) :: rest => Bool.and_eq_true_iff.2 ⟨keyed_merged value, keyedMembers_merged rest⟩

end

/-- The value of a key is one of the values. -/
theorem keyed_of_lookup (h : keyedMembers members = true)
    (hlookup : members.lookup key = some value) : value.keyed = true := by
  induction members with
  | nil => cases hlookup
  | cons member rest ih =>
    obtain ⟨other, first⟩ := member
    obtain ⟨hfirst, hrest⟩ := Bool.and_eq_true_iff.1 h
    rw [List.lookup_cons] at hlookup
    split at hlookup
    · rwa [← Option.some.inj hlookup]
    · exact ih hrest hlookup

end Json

namespace Evaluation

/-- Whether the diagnostics of an evaluation have every key of every object once. -/
def keyed (evaluation : Evaluation) : Bool := (Json.obj evaluation.diagnostics).keyed

/-- Diagnostics that are read have every key once. -/
theorem keyed_of_diagnosticsOfJson? {value : Json} {members : List (String × Json)}
    (h : diagnosticsOfJson? value = some members) : (Json.obj members).keyed = true := by
  unfold diagnosticsOfJson? at h
  split at h
  · split at h
    · obtain rfl := Option.some.inj h
      exact Json.keyed_merged (.obj _)
    · cases h
  · cases h

/-- So have those of every evaluation that is read. -/
theorem keyed_of_ofJson? {value : Json} {evaluation : Evaluation}
    (h : ofJson? value = some evaluation) : evaluation.keyed = true := by
  simp only [ofJson?, bind, pure, Option.bind_eq_some_iff, Option.some.injEq] at h
  obtain ⟨fields, -, anomalies, -, predictions, -, diagnostics, hdiagnostics, rfl⟩ := h
  unfold Json.Fields.orElse at hdiagnostics
  split at hdiagnostics
  · exact keyed_of_diagnosticsOfJson? hdiagnostics
  · obtain rfl := Option.some.inj hdiagnostics
    rfl

/-- The slices that such diagnostics name are distinct. -/
theorem nodup_metricUrns? {evaluation : Evaluation} (h : evaluation.keyed = true)
    {urns : List String} (hurns : evaluation.metricUrns? = some urns) : urns.Nodup := by
  unfold metricUrns? at hurns
  split at hurns
  · next slices hlookup =>
    obtain ⟨-, hmembers⟩ := Bool.and_eq_true_iff.1 h
    obtain ⟨hslices, -⟩ := Bool.and_eq_true_iff.1 (Json.keyed_of_lookup hmembers hlookup)
    rw [← Option.some.inj hurns]
    exact of_decide_eq_true hslices
  · cases hurns

end Evaluation

/-- Every evaluation that a reply becomes has each key of its diagnostics once. -/
theorem Http.keyed_of_answer {call : Call} {url : Url} {reply : Http.Reply}
    {evaluation : Evaluation} (h : Http.answer call url reply = .ok (.evaluation evaluation)) :
    evaluation.keyed = true := by
  have hpayload : Http.payload? call reply.content = some (.evaluation evaluation) := by
    unfold Http.answer at h
    split at h
    · split at h
      · next payload hsome => rwa [Except.ok.inj h] at hsome
      · cases h
    · cases h
  have hread {text : String}
      (hsome : Reply.evaluation <$> ((Json.parse? text).bind Evaluation.ofJson?) =
        some (.evaluation evaluation)) : evaluation.keyed = true := by
    obtain ⟨read, hparsed, hsame⟩ := Option.map_eq_some_iff.1 hsome
    obtain ⟨value, -, hvalue⟩ := Option.bind_eq_some_iff.1 hparsed
    obtain rfl := Reply.evaluation.inj hsame
    exact Evaluation.keyed_of_ofJson? hvalue
  cases call with
  | preview => exact hread hpayload
  | bounds => exact hread hpayload
  | anomalies =>
    obtain ⟨anomalies, -, hother⟩ := Option.map_eq_some_iff.1 hpayload
    cases hother
  | timeseries =>
    obtain ⟨series, -, hother⟩ := Option.map_eq_some_iff.1 hpayload
    cases hother
  | report => cases hpayload

end AlertDetail
