import AlertDetail.Payload.Evaluation
import AlertDetail.Proofs.Json.Sound
import AlertDetail.Proofs.Slices.Keys

/-!
# Diagnostics are kept

Diagnostics are read with every key once. Merging repeated keys only drops values, so what was
shallow, readable and sound stays so; and where no key is repeated there is nothing to merge. So
diagnostics that were read are read again as they are.
-/

namespace AlertDetail.Json

variable {members : List (String × Json)} {key : String} {value : Json}

/-- Setting a key leaves the members that were there, apart from the one of that key. -/
theorem mem_putMember {member : String × Json} (h : member ∈ putMember key value members) :
    member = (key, value) ∨ member ∈ members := by
  induction members with
  | nil => exact .inl (List.mem_singleton.1 h)
  | cons first rest ih =>
    unfold putMember at h
    split at h
    · exact (List.mem_cons.1 h).imp_right (List.mem_cons_of_mem _)
    · rcases List.mem_cons.1 h with rfl | hrest
      · exact .inr List.mem_cons_self
      · exact (ih hrest).imp_right (List.mem_cons_of_mem _)

/-- Members with every key once are among the members. -/
theorem mem_onceEach {member : String × Json} (h : member ∈ onceEach members) :
    member ∈ members := by
  -- on the members still to be set, for any that are there already
  have hset (members done : List (String × Json))
      (h : member ∈ members.foldl (fun done member => putMember member.1 member.2 done) done) :
      member ∈ members ∨ member ∈ done := by
    induction members generalizing done with
    | nil => exact .inr h
    | cons first rest ih =>
      rcases ih _ h with hrest | hdone
      · exact .inl (List.mem_cons_of_mem _ hrest)
      · rcases mem_putMember hdone with rfl | hdone
        · exact .inl List.mem_cons_self
        · exact .inr hdone
  exact (hset members [] h).elim id nofun

/-- A new key is set at the end. -/
theorem putMember_of_notMem (h : key ∉ members.map (·.1)) :
    putMember key value members = members ++ [(key, value)] := by
  induction members with
  | nil => rfl
  | cons first rest ih =>
    rw [List.map_cons, List.mem_cons, not_or] at h
    rw [putMember, if_neg (Ne.symm h.1), ih h.2, List.cons_append]

/-- Members that repeat no key stay as they are. -/
theorem onceEach_of_nodup (h : (members.map (·.1)).Nodup) : onceEach members = members := by
  -- on the members still to be set, behind any that are there already
  have hset (members done : List (String × Json)) (h : ((done ++ members).map (·.1)).Nodup) :
      members.foldl (fun done member => putMember member.1 member.2 done) done =
        done ++ members := by
    induction members generalizing done with
    | nil => rw [List.foldl_nil, List.append_nil]
    | cons first rest ih =>
      have hnew : first.1 ∉ done.map (·.1) := fun hmem => by
        rw [List.map_append, List.map_cons] at h
        exact (List.nodup_append.1 h).2.2 first.1 hmem first.1 List.mem_cons_self rfl
      rw [List.foldl_cons, putMember_of_notMem hnew, ih _ (by simpa using h), List.append_assoc]
      rfl
  exact hset members [] h

mutual

/-- Where no key is repeated there is nothing to merge. -/
theorem merged_of_keyed : (value : Json) → value.keyed = true → value.merged = value
  | .arr items, h => by rw [merged, mergedItems_of_keyed items h]
  | .obj members, h => by
    obtain ⟨hkeys, hvalues⟩ := Bool.and_eq_true_iff.1 h
    rw [merged, mergedMembers_of_keyed members hvalues, onceEach_of_nodup (of_decide_eq_true hkeys)]
  | .null, _ => rfl
  | .bool _, _ => rfl
  | .int _, _ => rfl
  | .float _, _ => rfl
  | .str _, _ => rfl
  | .unreadable, _ => rfl

/-- Nor in such items. -/
theorem mergedItems_of_keyed :
    (items : List Json) → keyedItems items = true → mergedItems items = items
  | [], _ => rfl
  | item :: rest, h => by
    obtain ⟨hitem, hrest⟩ := Bool.and_eq_true_iff.1 h
    rw [mergedItems, merged_of_keyed item hitem, mergedItems_of_keyed rest hrest]

/-- Nor in the values of such members. -/
theorem mergedMembers_of_keyed : (members : List (String × Json)) →
    keyedMembers members = true → mergedMembers members = members
  | [], _ => rfl
  | (_, value) :: rest, h => by
    obtain ⟨hvalue, hrest⟩ := Bool.and_eq_true_iff.1 h
    rw [mergedMembers, merged_of_keyed value hvalue, mergedMembers_of_keyed rest hrest]

end

/-- A value that nests no deeper than a limit, has a value in all of its parts, and is sound. -/
structure Kept (limit : Nat) (value : Json) : Prop where
  depth : value.depth ≤ limit
  readable : value.readable = true
  sound : value.Sound

theorem depthItems_le_iff {limit : Nat} {items : List Json} :
    depthItems items ≤ limit ↔ ∀ item ∈ items, item.depth ≤ limit := by
  induction items with
  | nil => simp [depthItems]
  | cons item rest ih => simp [depthItems, ih]

theorem depthMembers_le_iff {limit : Nat} :
    depthMembers members ≤ limit ↔ ∀ member ∈ members, member.2.depth ≤ limit := by
  induction members with
  | nil => simp [depthMembers]
  | cons member rest ih => simp [depthMembers, ih]

/-- A list is kept one level further out than its items. -/
theorem kept_arr_iff {limit : Nat} {items : List Json} :
    (Json.arr items).Kept (limit + 1) ↔ ∀ item ∈ items, item.Kept limit where
  mp h item hitem := ⟨depthItems_le_iff.1 (Nat.le_of_succ_le_succ h.depth) item hitem,
    readable_arr_iff.1 h.readable item hitem, numbers_arr_iff.1 h.sound item hitem⟩
  mpr h := ⟨Nat.succ_le_succ (depthItems_le_iff.2 fun item hitem => (h item hitem).depth),
    readable_arr_iff.2 fun item hitem => (h item hitem).readable,
    numbers_arr_iff.2 fun item hitem => (h item hitem).sound⟩

/-- So is an object. -/
theorem kept_obj_iff {limit : Nat} :
    (Json.obj members).Kept (limit + 1) ↔ ∀ member ∈ members, member.2.Kept limit where
  mp h member hmember :=
    ⟨depthMembers_le_iff.1 (Nat.le_of_succ_le_succ h.depth) member hmember,
      readable_obj_iff.1 h.readable member hmember, numbers_obj_iff.1 h.sound member hmember⟩
  mpr h :=
    ⟨Nat.succ_le_succ (depthMembers_le_iff.2 fun member hmember => (h member hmember).depth),
      readable_obj_iff.2 fun member hmember => (h member hmember).readable,
      numbers_obj_iff.2 fun member hmember => (h member hmember).sound⟩

mutual

/-- Merging repeated keys keeps all of this. -/
theorem kept_merged : (value : Json) → ∀ {limit}, value.Kept limit → value.merged.Kept limit
  | .arr items, 0, h => absurd h.depth (by simp [Json.depth])
  | .arr items, limit + 1, h =>
    kept_arr_iff.2 (kept_mergedItems items (kept_arr_iff.1 h))
  | .obj members, 0, h => absurd h.depth (by simp [Json.depth])
  | .obj members, limit + 1, h =>
    kept_obj_iff.2 fun member hmember =>
      kept_mergedMembers members (kept_obj_iff.1 h) member (mem_onceEach hmember)
  | .null, _, h => h
  | .bool _, _, h => h
  | .int _, _, h => h
  | .float _, _, h => h
  | .str _, _, h => h
  | .unreadable, _, h => h

/-- So does merging in items. -/
theorem kept_mergedItems : (items : List Json) → ∀ {limit}, (∀ item ∈ items, item.Kept limit) →
    ∀ item ∈ mergedItems items, item.Kept limit
  | [], _, _ => List.forall_mem_nil _
  | item :: rest, _, h => by
    obtain ⟨hitem, hrest⟩ := List.forall_mem_cons.1 h
    exact List.forall_mem_cons.2 ⟨kept_merged item hitem, kept_mergedItems rest hrest⟩

/-- And in the values of members. -/
theorem kept_mergedMembers : (members : List (String × Json)) → ∀ {limit},
    (∀ member ∈ members, member.2.Kept limit) →
      ∀ member ∈ mergedMembers members, member.2.Kept limit
  | [], _, _ => List.forall_mem_nil _
  | (_, value) :: rest, _, h => by
    obtain ⟨hvalue, hrest⟩ := List.forall_mem_cons.1 h
    exact List.forall_mem_cons.2 ⟨kept_merged value hvalue, kept_mergedMembers rest hrest⟩

end

end AlertDetail.Json

namespace AlertDetail.Evaluation

open Json

/-- Diagnostics that were read from a sound value are read again as they are, and they are kept
within the limit. -/
theorem diagnosticsOfJson?_idem {value : Json} {diagnostics : List (String × Json)}
    (hvalue : value.Sound) (h : diagnosticsOfJson? value = some diagnostics) :
    diagnosticsOfJson? (.obj diagnostics) = some diagnostics ∧
      (Json.obj diagnostics).Kept (maxDepth - 1) := by
  obtain ⟨hkeys, hkeyed⟩ := Bool.and_eq_true_iff.1 (keyed_of_diagnosticsOfJson? h)
  unfold diagnosticsOfJson? at h
  split at h
  · next members =>
    split at h
    · next hread =>
      obtain rfl := Option.some.inj h
      have hlimit : (Json.obj members).Kept (maxDepth - 1) :=
        ⟨by rw [Json.depth]; omega, hread.2, hvalue⟩
      have hkept : (Json.obj members).merged.Kept (maxDepth - 1) := kept_merged _ hlimit
      refine ⟨?_, hkept⟩
      have hdepth := hkept.depth
      rw [merged, Json.depth] at hdepth
      have hagain : depthMembers (onceEach (mergedMembers members)) + 2 ≤ maxDepth ∧
          readableMembers (onceEach (mergedMembers members)) = true :=
        ⟨by simp only [maxDepth] at hdepth ⊢; omega, hkept.readable⟩
      rw [diagnosticsOfJson?, if_pos hagain, mergedMembers_of_keyed _ hkeyed,
        onceEach_of_nodup (of_decide_eq_true hkeys)]
    · cases h
  · cases h

end AlertDetail.Evaluation
