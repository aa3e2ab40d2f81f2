/-!
# Texts by key

A finite map from texts to texts whose entries stand in ascending order of their keys, by code
point. The order is part of the type, so equal maps are equal values.
-/

namespace AlertDetail

/-- Texts by key, the keys ascending. -/
structure TextMap where
  /-- Keys with their texts. -/
  entries : List (String × String)
  /-- Every key stands before the larger ones, so no key stands twice. -/
  ascending : entries.Pairwise fun a b => a.1 < b.1
  deriving DecidableEq

namespace TextMap

/-- The map without entries. -/
def empty : TextMap := ⟨[], .nil⟩

instance : Inhabited TextMap := ⟨empty⟩

/-- Set a key in an ascending list of entries. -/
def insertEntry (key text : String) : List (String × String) → List (String × String)
  | [] => [(key, text)]
  | entry :: rest =>
    if entry.1 < key then entry :: insertEntry key text rest
    else if entry.1 = key then (key, text) :: rest
    else (key, text) :: entry :: rest

theorem mem_insertEntry {key text : String} {entries : List (String × String)}
    {e : String × String} (h : e ∈ insertEntry key text entries) :
    e = (key, text) ∨ e ∈ entries := by
  induction entries with
  | nil => simpa [insertEntry] using h
  | cons entry rest ih =>
    simp only [insertEntry] at h
    split at h
    · rcases List.mem_cons.1 h with h | h
      · exact .inr (h ▸ List.mem_cons_self)
      · exact (ih h).imp_right (List.mem_cons_of_mem _)
    · split at h
      · exact (List.mem_cons.1 h).imp_right (List.mem_cons_of_mem _)
      · exact List.mem_cons.1 h

theorem lt_of_not_lt_of_ne {a b : String} (h : ¬ a < b) (hne : a ≠ b) : b < a :=
  String.not_le.1 fun hab => hne (String.le_antisymm hab (String.not_lt.1 h))

theorem insertEntry_ascending (key text : String) {entries : List (String × String)}
    (h : entries.Pairwise fun a b => a.1 < b.1) :
    (insertEntry key text entries).Pairwise fun a b => a.1 < b.1 := by
  induction entries with
  | nil => simp [insertEntry]
  | cons entry rest ih =>
    obtain ⟨hfirst, hrest⟩ := List.pairwise_cons.1 h
    simp only [insertEntry]
    split
    case isTrue hlt =>
      refine List.pairwise_cons.2 ⟨fun e he => ?_, ih hrest⟩
      rcases mem_insertEntry he with he | he
      · exact he ▸ hlt
      · exact hfirst e he
    case isFalse hlt =>
      split
      case isTrue heq =>
        exact List.pairwise_cons.2 ⟨fun e he => by simpa [← heq] using hfirst e he, hrest⟩
      case isFalse hne =>
        have hkey := lt_of_not_lt_of_ne hlt hne
        refine List.pairwise_cons.2 ⟨fun e he => ?_, h⟩
        rcases List.mem_cons.1 he with he | he
        · exact he ▸ hkey
        · exact String.lt_trans hkey (hfirst e he)

/-- The map with a key set to a text, whatever it was before. -/
def insert (map : TextMap) (key text : String) : TextMap :=
  ⟨insertEntry key text map.entries, insertEntry_ascending key text map.ascending⟩

/-- The map of entries in any order; of two entries with one key the later counts. -/
def ofList (entries : List (String × String)) : TextMap :=
  entries.foldl (fun map entry => map.insert entry.1 entry.2) empty

/-- The keys, ascending. -/
def keys (map : TextMap) : List String := map.entries.map (·.1)

/-- The texts, in the order of their keys. -/
def texts (map : TextMap) : List String := map.entries.map (·.2)

/-- The text of a key. -/
def get? (map : TextMap) (key : String) : Option String := map.entries.lookup key

@[simp] theorem entries_empty : empty.entries = [] := rfl

@[simp] theorem entries_insert (map : TextMap) (key text : String) :
    (map.insert key text).entries = insertEntry key text map.entries := rfl

end TextMap

end AlertDetail
