import AlertDetail.Table
import Mathlib.Data.List.Nodup

/-!
# Numbers of rows

The rows of the table are those of the old anomalies followed by those of the new ones. An old
anomaly that is stored under a number other than zero lends it to its row; every other row is
numbered by its place. Numbers of the two kinds do not know of each other, so rows are told apart by
their numbers only as long as no anomaly is stored under the place of a row without a number of its
own.
-/

namespace AlertDetail

/-- The number that an anomaly is stored under. Zero stands for none. -/
def Anomaly.stored? (anomaly : Anomaly) : Option Int := anomaly.id.filter (· ≠ 0)

namespace AnomalyRow

/-- The number that the anomaly of a row is stored under; those of the new set count as not
stored. -/
def storedAt? (old : List Anomaly) (place : Nat) : Option Int := old[place]?.bind (·.stored?)

/-- The number of the row at a place of the table. -/
def numberAt (old : List Anomaly) (place : Nat) : Int := (storedAt? old place).getD place

variable {old new : List Anomaly} {edit : Bool} {state : ViewState} {zone : Zone} {place : Nat}

/-! ## Rows and their numbers -/

/-- The tag of the old set is not that of the new one. -/
theorem oldTag_ne_new (edit : Bool) (state : ViewState) : oldTag edit state ≠ .new := by
  unfold oldTag
  split <;> exact SettingsTag.noConfusion

/-- There is one row for each anomaly, the old ones first. -/
theorem getElem?_table (old new : List Anomaly) (edit : Bool) (state : ViewState) (zone : Zone)
    (place : Nat) :
    (table old new edit state zone)[place]? = (old ++ new)[place]?.map fun anomaly =>
      ofAnomaly zone place anomaly (if place < old.length then oldTag edit state else .new) := by
  rw [table, List.getElem?_mapIdx, List.getElem?_append, List.getElem?_append, List.length_map]
  split <;> rw [List.getElem?_map, Option.map_map] <;> rfl

theorem length_table (old new : List Anomaly) (edit : Bool) (state : ViewState) (zone : Zone) :
    (table old new edit state zone).length = old.length + new.length := by
  rw [table, List.length_mapIdx, List.length_append, List.length_map, List.length_map]

/-- A row is numbered by what its anomaly is stored under, or else by its place. -/
theorem id_of_getElem?_table {row : AnomalyRow}
    (h : (table old new edit state zone)[place]? = some row) : row.id = numberAt old place := by
  rw [getElem?_table] at h
  obtain ⟨anomaly, hanomaly, rfl⟩ := Option.map_eq_some_iff.1 h
  show number anomaly _ place = numberAt old place
  by_cases hplace : place < old.length
  · rw [List.getElem?_append_left hplace] at hanomaly
    rw [if_pos hplace, number, if_neg (oldTag_ne_new edit state), numberAt, storedAt?, hanomaly]
    rfl
  · rw [if_neg hplace, number, if_pos rfl, numberAt, storedAt?,
      List.getElem?_eq_none (Nat.le_of_not_lt hplace)]
    rfl

/-- So the numbers of the rows are known from the old set and from how many rows there are. -/
theorem ids_table (old new : List Anomaly) (edit : Bool) (state : ViewState) (zone : Zone) :
    (table old new edit state zone).map (·.id) =
      (List.range (old.length + new.length)).map (numberAt old) := by
  refine List.ext_getElem (by simp [length_table]) fun place hrow _ => ?_
  rw [List.getElem_map, List.getElem_map, List.getElem_range]
  rw [List.length_map] at hrow
  exact id_of_getElem?_table (List.getElem?_eq_getElem hrow)

theorem numberAt_of_stored {number : Int} (h : storedAt? old place = some number) :
    numberAt old place = number := by
  rw [numberAt, h, Option.getD_some]

theorem numberAt_of_not_stored (h : storedAt? old place = none) : numberAt old place = place := by
  rw [numberAt, h, Option.getD_none]

/-! ## When rows are told apart -/

theorem mem_stored_iff {number : Int} :
    number ∈ old.filterMap (·.stored?) ↔ ∃ place, storedAt? old place = some number := by
  rw [List.mem_filterMap]
  constructor
  · rintro ⟨anomaly, hmem, hstored⟩
    obtain ⟨place, hplace⟩ := List.mem_iff_getElem?.1 hmem
    exact ⟨place, Option.bind_eq_some_iff.2 ⟨anomaly, hplace, hstored⟩⟩
  · rintro ⟨place, hplace⟩
    obtain ⟨anomaly, hanomaly, hstored⟩ := Option.bind_eq_some_iff.1 hplace
    exact ⟨anomaly, List.mem_of_getElem? hanomaly, hstored⟩

/-- Where stored numbers are distinct, one that stands at two places stands at one. -/
theorem storedAt?_inj (h : (old.filterMap (·.stored?)).Nodup) {other : Nat} {number : Int}
    (hplace : storedAt? old place = some number) (hother : storedAt? old other = some number) :
    place = other := by
  have hne := List.pairwise_iff_getElem.1 (List.pairwise_filterMap.1 h)
  have hapart {first second : Nat} (hlt : first < second)
      (hfirst : storedAt? old first = some number)
      (hsecond : storedAt? old second = some number) : False := by
    obtain ⟨earlier, hearlier, hstored⟩ := Option.bind_eq_some_iff.1 hfirst
    obtain ⟨later, hlater, hstored'⟩ := Option.bind_eq_some_iff.1 hsecond
    obtain ⟨hfirst, rfl⟩ := List.getElem?_eq_some_iff.1 hearlier
    obtain ⟨hsecond, rfl⟩ := List.getElem?_eq_some_iff.1 hlater
    exact hne first second hfirst hsecond hlt number hstored number hstored' rfl
  rcases Nat.lt_trichotomy place other with hlt | heq | hlt
  · exact (hapart hlt hplace hother).elim
  · exact heq
  · exact (hapart hlt hother hplace).elim

/-- A stored number is that of a row. -/
theorem lt_length_of_storedAt? {number : Int} (h : storedAt? old place = some number) :
    place < old.length := by
  obtain ⟨anomaly, hanomaly, -⟩ := Option.bind_eq_some_iff.1 h
  exact (List.getElem?_eq_some_iff.1 hanomaly).1

/-- The number of a stored row is not the place of another one, unless it is stored under it. -/
theorem numberAt_ne {stored placed : Nat} {number : Int}
    (hstored : storedAt? old stored = some number) (hplaced : storedAt? old placed = none)
    (hfree : (placed : Int) ∉ old.filterMap (·.stored?)) :
    numberAt old stored ≠ numberAt old placed := by
  rw [numberAt_of_stored hstored, numberAt_of_not_stored hplaced]
  exact fun hsame => hfree (mem_stored_iff.2 ⟨stored, hsame ▸ hstored⟩)

/-- Where no anomaly is stored under the place of a row that is numbered by it, rows with one number
are one row. -/
theorem numberAt_inj (h : (old.filterMap (·.stored?)).Nodup) {other : Nat}
    (hplace : storedAt? old place = none → (place : Int) ∉ old.filterMap (·.stored?))
    (hother : storedAt? old other = none → (other : Int) ∉ old.filterMap (·.stored?))
    (hsame : numberAt old place = numberAt old other) : place = other := by
  cases hfirst : storedAt? old place with
  | some number =>
    cases hsecond : storedAt? old other with
    | some number' =>
      rw [numberAt_of_stored hfirst, numberAt_of_stored hsecond] at hsame
      exact storedAt?_inj h hfirst (hsame ▸ hsecond)
    | none => exact (numberAt_ne hfirst hsecond (hother hsecond) hsame).elim
  | none =>
    cases hsecond : storedAt? old other with
    | some number => exact (numberAt_ne hsecond hfirst (hplace hfirst) hsame.symm).elim
    | none =>
      rw [numberAt_of_not_stored hfirst, numberAt_of_not_stored hsecond] at hsame
      exact Int.ofNat_inj.1 hsame

/-- There is one row for each anomaly, the old ones first and all in their order. It is numbered by
what its anomaly is stored under, or else by its place; and if no two old anomalies are stored under
one number, then no two rows have one exactly if no anomaly is stored under the place of a row that
is numbered by its place. -/
theorem rows_told_apart_iff (old new : List Anomaly) (edit : Bool) (state : ViewState) (zone : Zone)
    (h : (old.filterMap (·.stored?)).Nodup) :
    (∀ place, (table old new edit state zone)[place]? = (old ++ new)[place]?.map fun anomaly =>
        ofAnomaly zone place anomaly (if place < old.length then oldTag edit state else .new)) ∧
      (table old new edit state zone).map (·.id) =
        (List.range (old.length + new.length)).map (fun place =>
          (storedAt? old place).getD place) ∧
      (((table old new edit state zone).map (·.id)).Nodup ↔
        ∀ place < old.length + new.length, storedAt? old place = none →
          (place : Int) ∉ old.filterMap (·.stored?)) := by
  refine ⟨getElem?_table old new edit state zone, ids_table old new edit state zone, ?_⟩
  rw [ids_table, List.nodup_map_iff_inj_on List.nodup_range]
  constructor
  · intro hapart place hplace hfree hstored
    obtain ⟨other, hother⟩ := mem_stored_iff.1 hstored
    have hrow := lt_length_of_storedAt? hother
    have hsame : numberAt old other = numberAt old place :=
      (numberAt_of_stored hother).trans (numberAt_of_not_stored hfree).symm
    have heq := hapart other (List.mem_range.2 (by omega)) place (List.mem_range.2 hplace) hsame
    rw [heq, hfree] at hother
    cases hother
  · intro hfree place hplace other hother hsame
    exact numberAt_inj h (hfree place (List.mem_range.1 hplace))
      (hfree other (List.mem_range.1 hother)) hsame

/-- Anomalies are stored under one, minus two and zero. The row at place one has a number of its
own, zero stands for none, and no anomaly of the old set is stored under two or three. -/
theorem rows_told_apart_iff_stored_under_places :
    let anomaly := fun id => ({ id, metricUrn := "m:n:7", startTime := 0, endTime := 5 } : Anomaly)
    let old := [anomaly (some 1), anomaly (some (-2)), anomaly (some 0)]
    let new := [anomaly (some 1)]
    (old.filterMap (·.stored?)).Nodup ∧
      (table old new true .replace .utc).map (·.id) = [1, -2, 2, 3] ∧
      ((table old new true .replace .utc).map (·.id)).Nodup := by
  intro anomaly old new
  have hdistinct : (old.filterMap (·.stored?)).Nodup := by decide
  obtain ⟨-, hids, hapart⟩ := rows_told_apart_iff old new true .replace .utc hdistinct
  refine ⟨hdistinct, hids.trans (by decide), hapart.2 ?_⟩
  decide

/-- An anomaly that is stored under one stands before one that is not stored: both rows have the
number one. -/
theorem rows_share_number :
    let anomaly := fun id => ({ id, metricUrn := "m:n:7", startTime := 0, endTime := 5 } : Anomaly)
    let old := [anomaly (some 1), anomaly none]
    (old.filterMap (·.stored?)).Nodup ∧
      (table old [] false .baseline .utc).map (·.id) = [1, 1] ∧
      ¬ ((table old [] false .baseline .utc).map (·.id)).Nodup := by
  intro anomaly old
  have hids : (table old [] false .baseline .utc).map (·.id) = [1, 1] := by
    rw [ids_table]
    decide
  refine ⟨by decide, hids, ?_⟩
  rw [hids]
  decide

end AnomalyRow

end AlertDetail
