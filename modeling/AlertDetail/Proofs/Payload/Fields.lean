import AlertDetail.Payload.Fields
import AlertDetail.Proofs.Json.Printed
import AlertDetail.Proofs.Json.Sound

/-!
# Fields that are written and read again

Writing a record and reading it field by field gives the values back, provided the names of the
fields are distinct. A missing field, an empty list that is left out and a `null` all stand for the
same nothing that they were written for.
-/

namespace AlertDetail

/-! ## Texts by key -/

namespace TextMap

/-- A key above all others goes to the end. -/
theorem insertEntry_of_forall_lt {key text : String} {entries : List (String × String)}
    (h : ∀ e ∈ entries, e.1 < key) : insertEntry key text entries = entries ++ [(key, text)] := by
  induction entries with
  | nil => rfl
  | cons entry rest ih =>
    obtain ⟨hentry, hrest⟩ := List.forall_mem_cons.1 h
    rw [insertEntry, if_pos hentry, ih hrest, List.cons_append]

/-- The entries of a map make that map again. -/
theorem ofList_entries (map : TextMap) : ofList map.entries = map := by
  -- on the entries still to be set, for any map of smaller keys
  have hset (entries : List (String × String)) (done : TextMap)
      (h : (done.entries ++ entries).Pairwise fun a b => a.1 < b.1) :
      (entries.foldl (fun map entry => map.insert entry.1 entry.2) done).entries =
        done.entries ++ entries := by
    induction entries generalizing done with
    | nil => rw [List.foldl_nil, List.append_nil]
    | cons entry rest ih =>
      have hsmaller : ∀ e ∈ done.entries, e.1 < entry.1 := fun e he =>
        (List.pairwise_append.1 h).2.2 e he entry List.mem_cons_self
      have hinsert : (done.insert entry.1 entry.2).entries = done.entries ++ [entry] :=
        insertEntry_of_forall_lt hsmaller
      rw [List.foldl_cons, ih _ (by rwa [hinsert, List.append_assoc]), hinsert, List.append_assoc]
      rfl
  have hentries := hset map.entries empty map.ascending
  cases map with
  | mk entries ascending => exact TextMap.mk.injEq .. ▸ hentries

/-- The entries of a map that was made of entries are among them. -/
theorem mem_of_mem_ofList {entries : List (String × String)} {e : String × String}
    (h : e ∈ (ofList entries).entries) : e ∈ entries := by
  -- on the entries still to be set, for any map
  have hset (entries : List (String × String)) (done : TextMap)
      (h : e ∈ (entries.foldl (fun map entry => map.insert entry.1 entry.2) done).entries) :
      e ∈ entries ∨ e ∈ done.entries := by
    induction entries generalizing done with
    | nil => exact .inr h
    | cons entry rest ih =>
      rcases ih _ h with hrest | hdone
      · exact .inl (List.mem_cons_of_mem _ hrest)
      · rcases mem_insertEntry hdone with rfl | hdone
        · exact .inl List.mem_cons_self
        · exact .inr hdone
  exact (hset entries empty h).elim id nofun

end TextMap

namespace Json

/-! ## Values -/

/-- A signed number of 64 bits. -/
def Signed (n : Int) : Prop := leastInteger ≤ n ∧ n ≤ greatestInteger

instance : DecidablePred Signed := fun _ => instDecidableAnd

theorem integer?_int {n : Int} (h : Signed n) : integer? (.int n) = some n := if_pos h

theorem nullable_ofText? (text : Option String) : nullable text? (ofText? text) = some text := by
  cases text <;> rfl

theorem nullable_ofNumber? (x : Option Float) : nullable number? (ofNumber? x) = some x := by
  cases x <;> rfl

theorem nullable_ofInteger? {n : Option Int} (h : ∀ m ∈ n, Signed m) :
    nullable integer? (ofInteger? n) = some n := by
  cases n with
  | none => rfl
  | some n =>
    have hread : some <$> integer? (.int n) = some (some n) := by
      rw [integer?_int (h n rfl)]
      rfl
    exact hread

section Readers

variable {α : Type} {read : Json → Option α} {write : α → Json}

/-- A value that may be missing is read back, if something else than `null` stands for one that is
there. -/
theorem nullable_elim {value : Option α} (hnull : ∀ value, write value ≠ .null)
    (h : ∀ value, read (write value) = some value) :
    nullable read (value.elim .null write) = some value := by
  cases value with
  | none => rfl
  | some value =>
    rw [Option.elim_some, nullable, h value]
    · rfl
    · exact hnull value

/-- Values that are read back one by one are read back as a list. -/
theorem list?_arr_map {values : List α} (h : ∀ value ∈ values, read (write value) = some value) :
    list? read (.arr (values.map write)) = some values := by
  induction values with
  | nil => rfl
  | cons value rest ih =>
    obtain ⟨hvalue, hrest⟩ := List.forall_mem_cons.1 h
    have hothers : (rest.map write).mapM read = some rest := ih hrest
    rw [List.map_cons, list?, List.mapM_cons, hvalue, hothers]
    rfl

end Readers

theorem texts?_ofTexts (texts : TextMap) : texts? (ofTexts texts) = some texts := by
  have hread (entries : List (String × String)) :
      (entries.map fun entry => (entry.1, Json.str entry.2)).mapM
        (fun member : String × Json => (member.1, ·) <$> member.2.text?) = some entries := by
    induction entries with
    | nil => rfl
    | cons entry rest ih =>
      rw [List.map_cons, List.mapM_cons, ih]
      rfl
  have hentries := congrArg (Option.map TextMap.ofList) (hread texts.entries)
  rw [Option.map_some, TextMap.ofList_entries] at hentries
  exact hentries

/-- The keys of texts that are read are keys of the object. -/
theorem exists_of_mem_texts? {members : List (String × Json)} {texts : TextMap}
    (h : (Json.obj members).texts? = some texts) {entry : String × String}
    (hentry : entry ∈ texts.entries) : ∃ member ∈ members, member.1 = entry.1 := by
  obtain ⟨entries, hentries, rfl⟩ := Option.map_eq_some_iff.1 h
  obtain ⟨member, hmember, hread⟩ := exists_of_mem_mapM hentries (TextMap.mem_of_mem_ofList hentry)
  obtain ⟨text, -, rfl⟩ := Option.map_eq_some_iff.1 hread
  exact ⟨member, hmember, rfl⟩

/-! ## Records -/

section Records

variable {names : List String} {members others : List (String × Json)}

/-- Members whose names are known are told from those whose names are not. -/
theorem filter_names (hnames : (members.map (·.1)).Sublist names)
    (hothers : ∀ member ∈ others, member.1 ∉ names) :
    (members ++ others).filter (names.contains ·.1) = members ∧
      (members ++ others).filter (!names.contains ·.1) = others := by
  have hin : ∀ member ∈ members, names.contains member.1 = true := fun member hmember =>
    List.contains_iff_mem.2 (hnames.subset (List.mem_map_of_mem hmember))
  have hout : ∀ member ∈ others, names.contains member.1 = false := fun member hmember =>
    Bool.eq_false_iff.2 (mt List.contains_iff_mem.1 (hothers member hmember))
  constructor
  · rw [List.filter_append, List.filter_eq_self.2 hin, List.filter_eq_nil_iff.2, List.append_nil]
    exact fun member hmember => Bool.eq_false_iff.1 (hout member hmember)
  · rw [List.filter_append, List.filter_eq_nil_iff.2, List.filter_eq_self.2, List.nil_append]
    · exact fun member hmember => by rw [hout member hmember]; rfl
    · exact fun member hmember => by rw [hin member hmember]; exact Bool.false_ne_true

/-- The fields of a record that is written with some of its names, each once, are the members of
those names. -/
theorem record?_append (hnodup : names.Nodup) (hnames : (members.map (·.1)).Sublist names)
    (hothers : ∀ member ∈ others, member.1 ∉ names) :
    (Json.obj (members ++ others)).record? names = some members := by
  unfold record?
  dsimp only
  rw [(filter_names hnames hothers).1, if_pos (hnodup.sublist hnames)]

theorem record?_obj (hnodup : names.Nodup) (hnames : (members.map (·.1)).Sublist names) :
    (Json.obj members).record? names = some members := by
  have hrecord := record?_append hnodup hnames (List.forall_mem_nil _)
  rwa [List.append_nil] at hrecord

namespace Fields

variable {α : Type} {fields : Fields} {name : String} {read : Json → Option α} {value : Json}

theorem required_of_lookup (h : fields.lookup name = some value) :
    fields.required name read = read value := by
  rw [required, h]
  rfl

theorem orElse_of_lookup {missing : α} (h : fields.lookup name = some value) :
    fields.orElse name missing read = read value := by
  rw [orElse, h]

theorem optional_of_lookup (h : fields.lookup name = some value) :
    fields.optional name read = nullable read value :=
  orElse_of_lookup h

end Fields

/-- The values of the fields of a record are among the values in it. -/
theorem numbers_of_record? {fields : Fields} {value : Json} (h : value.record? names = some fields)
    {whole : Int → Prop} {double : Float → Prop} (hvalue : value.Numbers whole double) :
    ∀ field ∈ fields, field.2.Numbers whole double := by
  unfold record? at h
  split at h
  · dsimp only at h
    split at h
    · obtain rfl := Option.some.inj h
      exact fun field hfield => numbers_obj_iff.1 hvalue field (List.mem_filter.1 hfield).1
    · cases h
  · split at h
    · obtain rfl := Option.some.inj h
      exact fun field hfield => numbers_arr_iff.1 hvalue field.2 (List.of_mem_zip hfield).2
    · cases h
  · cases h

end Records

/-! ## What readers give for sound values -/

/-- Whether everything that a reader gives for a sound value has a property. -/
def Gives {α : Type} (property : α → Prop) (read : Json → Option α) : Prop :=
  ∀ value result, value.Sound → read value = some result → property result

theorem gives_integer? : Gives Signed integer? := by
  intro value n _ h
  unfold integer? at h
  split at h
  · split at h
    · next hsigned => exact Option.some.inj h ▸ hsigned
    · cases h
  · cases h

theorem gives_number? : Gives (fun x => x.isFinite = true) number? := by
  intro value x hvalue h
  unfold number? at h
  split at h
  · obtain rfl := Option.some.inj h
    split
    · exact Decimal.isFinite_neg (Decimal.isFinite_ofWord _)
    · exact Decimal.isFinite_ofWord _
  · exact Option.some.inj h ▸ hvalue
  · cases h

section Gives

variable {α : Type} {property : α → Prop} {read : Json → Option α}

theorem gives_nullable (h : Gives property read) :
    Gives (fun result => ∀ a ∈ result, property a) (nullable read) := by
  intro value result hvalue hread
  unfold nullable at hread
  split at hread
  · obtain rfl := Option.some.inj hread
    exact nofun
  · obtain ⟨a, ha, rfl⟩ := Option.map_eq_some_iff.1 hread
    exact fun b hb => Option.some.inj hb ▸ h value a hvalue ha

theorem gives_list? (h : Gives property read) :
    Gives (fun results => ∀ a ∈ results, property a) (list? read) := by
  intro value results hvalue hread a ha
  unfold list? at hread
  split at hread
  · obtain ⟨item, hitem, hfound⟩ := exists_of_mem_mapM hread ha
    exact h item a (numbers_arr_iff.1 hvalue item hitem) hfound
  · cases hread

namespace Fields

variable {fields : Fields} {name : String} {result missing : α}

theorem sound_of_lookup {value : Json} (hfields : ∀ field ∈ fields, field.2.Sound)
    (h : fields.lookup name = some value) : value.Sound := by
  obtain ⟨before, after, rfl, -⟩ := List.lookup_eq_some_iff.1 h
  exact hfields (name, value) (List.mem_append_right _ List.mem_cons_self)

theorem property_of_required (h : Gives property read) (hfields : ∀ field ∈ fields, field.2.Sound)
    (hread : fields.required name read = some result) : property result := by
  obtain ⟨value, hvalue, hfound⟩ := Option.bind_eq_some_iff.1 hread
  exact h value result (sound_of_lookup hfields hvalue) hfound

theorem property_of_orElse (h : Gives property read) (hfields : ∀ field ∈ fields, field.2.Sound)
    (hmissing : property missing) (hread : fields.orElse name missing read = some result) :
    property result := by
  unfold orElse at hread
  split at hread
  · next value hvalue => exact h value result (sound_of_lookup hfields hvalue) hread
  · exact Option.some.inj hread ▸ hmissing

theorem property_of_optional (h : Gives property read) (hfields : ∀ field ∈ fields, field.2.Sound)
    {result : Option α} (hread : fields.optional name read = some result) :
    ∀ a ∈ result, property a :=
  property_of_orElse (gives_nullable h) hfields (by exact nofun) hread

end Fields

end Gives

/-! ## What is written for values that may be missing -/

section Written

variable {whole : Int → Prop} {double : Float → Prop}

theorem numbers_ofText? (text : Option String) : (ofText? text).Numbers whole double := by
  cases text <;> trivial

theorem numbers_ofInteger? {n : Option Int} (h : ∀ m ∈ n, whole m) :
    (ofInteger? n).Numbers whole double := by
  cases n with
  | none => trivial
  | some n => exact h n rfl

theorem numbers_ofNumber? {x : Option Float} (h : ∀ y ∈ x, double y) :
    (ofNumber? x).Numbers whole double := by
  cases x with
  | none => trivial
  | some x => exact h x rfl

theorem numbers_ofTexts (texts : TextMap) : (ofTexts texts).Numbers whole double :=
  numbers_obj_iff.2 (List.forall_mem_map.2 fun _ _ => trivial)

theorem blanked_ofText? (text : Option String) : (ofText? text).blanked = ofText? text := by
  cases text <;> rfl

theorem blanked_ofInteger? (n : Option Int) : (ofInteger? n).blanked = ofInteger? n := by
  cases n <;> rfl

theorem blanked_ofNumber? (x : Option Float) :
    (ofNumber? x).blanked = ofNumber? (x.filter Float.isFinite) := by
  cases x with
  | none => rfl
  | some x =>
    rw [ofNumber?, Option.elim_some, blanked, Option.filter_some]
    split <;> rfl

theorem blanked_ofTexts (texts : TextMap) : (ofTexts texts).blanked = ofTexts texts := by
  rw [ofTexts, blanked, blankedMembers_eq_map, List.map_map]
  rfl

@[simp] theorem readable_ofText? (text : Option String) : (ofText? text).readable = true := by
  cases text <;> rfl

@[simp] theorem readable_ofInteger? (n : Option Int) : (ofInteger? n).readable = true := by
  cases n <;> rfl

@[simp] theorem readable_ofNumber? (x : Option Float) : (ofNumber? x).readable = true := by
  cases x <;> rfl

@[simp] theorem readable_ofTexts (texts : TextMap) : (ofTexts texts).readable = true :=
  readable_obj_iff.2 (List.forall_mem_map.2 fun _ _ => rfl)

end Written

end Json

end AlertDetail
