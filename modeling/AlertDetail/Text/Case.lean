import AlertDetail.Text.CaseTable
import AlertDetail.Text.Ranges

/-!
# Lower case

A text in lower case, character by character. Two characters need more than a table: capital I with
a dot above becomes two characters, and capital sigma becomes final sigma at the end of a word. A
sigma ends a word if the nearest character before it, skipping ignorable ones, is cased and the
nearest after it is not.
-/

namespace AlertDetail.Text

/-- Small letter of a code point in a run of capitals, if it is one of them. -/
def CaseTable.Run.lower? (run : CaseTable.Run) (point : Nat) : Option Nat :=
  if run.first ≤ point ∧ point ≤ run.last ∧ (point - run.first) % run.stride = 0 then
    some (run.lower + (point - run.first))
  else none

/-- Lower case of a character on its own. -/
def lowerChar (c : Char) : List Char :=
  if c.toNat < 0x80 then [c.toLower]
  else if c = 'İ' then ['i', '\u0307']
  else match CaseTable.capitals.findSome? (·.lower? c.toNat) with
    | some point => [Char.ofNat point]
    | none => [c]

/-- Whether the nearest character that is not ignorable is cased. -/
def meetsCased (text : List Char) : Bool :=
  match text.dropWhile (isAmong CaseTable.ignorable) with
  | [] => false
  | c :: _ => isAmong CaseTable.cased c

/-- Lower case of the rest of a text, given what stands before it with the nearest character
first. -/
def lowerAfter (before : List Char) : List Char → List Char
  | [] => []
  | c :: rest =>
    let small :=
      if c = 'Σ' then [if meetsCased before && !meetsCased rest then 'ς' else 'σ']
      else lowerChar c
    small ++ lowerAfter (c :: before) rest

/-- A string in lower case. -/
def lower (text : String) : String :=
  .ofList (lowerAfter [] text.toList)

end AlertDetail.Text
