import AlertDetail.Decimal.Scaled
import AlertDetail.Json.Basic
import AlertDetail.TextMap

/-!
# Reading payloads

Readers of single JSON values, and of records, whose fields are looked up by name. A record is
either an object, in which no known field may stand twice and unknown fields are skipped, or a list
of the fields in their order, from which those at the end may be missing. Every reader gives none
for a value that it does not accept.
-/

namespace AlertDetail.Json

/-- Least signed 64-bit number. -/
def leastInteger : Int := -9223372036854775808

/-- Greatest signed 64-bit number. -/
def greatestInteger : Int := 9223372036854775807

/-- A signed 64-bit number. -/
def integer? : Json → Option Int
  | .int n => if leastInteger ≤ n ∧ n ≤ greatestInteger then some n else none
  | _ => none

/-- An unsigned 64-bit number. -/
def word? : Json → Option Nat
  | .int n => if 0 ≤ n then some n.toNat else none
  | _ => none

/-- A double, written with or without a point. -/
def number? : Json → Option Float
  | .int n => some (if n < 0 then -Decimal.ofWord n.natAbs else Decimal.ofWord n.natAbs)
  | .float x => some x
  | _ => none

/-- A text. -/
def text? : Json → Option String
  | .str text => some text
  | _ => none

/-- A value that may be `null`. -/
def nullable {α : Type} (read : Json → Option α) : Json → Option (Option α)
  | .null => some none
  | value => some <$> read value

/-- A list of values of one kind. -/
def list? {α : Type} (read : Json → Option α) : Json → Option (List α)
  | .arr items => items.mapM read
  | _ => none

/-- Texts by key; of two members with one key the later counts. -/
def texts? : Json → Option TextMap
  | .obj members => TextMap.ofList <$> members.mapM fun (key, value) => (key, ·) <$> value.text?
  | _ => none

/-- A name out of a choice: a text, or an object with that key and `null`. -/
def choice? {α : Type} (ofName? : String → Option α) : Json → Option α
  | .str name => ofName? name
  | .obj [(name, .null)] => ofName? name
  | _ => none

/-- Known fields of a record by name. -/
abbrev Fields := List (String × Json)

/-- The fields of a record. -/
def record? (names : List String) : Json → Option Fields
  | .obj members =>
    let known := members.filter (names.contains ·.1)
    if (known.map (·.1)).Nodup then some known else none
  | .arr items => if items.length ≤ names.length then some (names.zip items) else none
  | _ => none

namespace Fields

/-- A field that must be there. -/
def required {α : Type} (fields : Fields) (name : String) (read : Json → Option α) : Option α :=
  fields.lookup name >>= read

/-- A field that stands for something when it is missing. -/
def orElse {α : Type} (fields : Fields) (name : String) (missing : α) (read : Json → Option α) :
    Option α :=
  match fields.lookup name with
  | some value => read value
  | none => some missing

/-- A field that may be missing or `null`. -/
def optional {α : Type} (fields : Fields) (name : String) (read : Json → Option α) :
    Option (Option α) :=
  fields.orElse name none (nullable read)

end Fields

/-- A text or `null`. -/
def ofText? (text : Option String) : Json := text.elim .null .str

/-- A whole number or `null`. -/
def ofInteger? (n : Option Int) : Json := n.elim .null .int

/-- A double or `null`. -/
def ofNumber? (x : Option Float) : Json := x.elim .null .float

/-- Texts by key. -/
def ofTexts (texts : TextMap) : Json :=
  .obj (texts.entries.map fun (key, text) => (key, .str text))

end AlertDetail.Json
