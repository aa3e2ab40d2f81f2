import AlertDetail.Domain.Joining
import AlertDetail.Domain.Mapping
import AlertDetail.Domain.Punycode
import AlertDetail.Text.Blank

/-!
# Domain names

A domain name as it is looked up: in ASCII, each label that holds other characters written in the
form for that, with a sign in front. Ways to write one name that look the same lead to one form.
Labels may be empty, and there is no bound on the length of a name.
-/

namespace AlertDetail.Domain

/-- What stands in front of a label whose rest is the form of another text. -/
def sign : List Char := "xn--".toList

/-- The most characters of a form that is read. -/
def mostRead : Nat := 2000

/-- The most characters of a label that is given a form. -/
def mostWritten : Nat := 1000

/-- Whether all characters are of the ASCII range. -/
def isAscii (text : List Char) : Bool := text.all (·.toNat < 0x80)

/-- Whether a text is as it would be after mapping and composing. -/
def isSettled (text : List Char) : Bool :=
  text.all standsForItself && Text.composed text == text

/-- The text that a form stands for. It must need a form, and it must be as labels are. -/
def unwritten? (form : List Char) : Option (List Char) := do
  if !isAscii form || mostRead < form.length then none
  let label ← Punycode.decode? form
  if isAscii label || !isSettled label || sign.isPrefixOf label then none
  return label

/-- The text of a label that may be a form. -/
def label? (text : List Char) : Option (List Char) :=
  if sign.isPrefixOf text then unwritten? (text.drop sign.length) else some text

/-- Whether a label can be looked up. -/
def isLabel (label : List Char) : Bool :=
  !label.head?.any isMark && joinersFit [] label && (isAscii label || label.length ≤ mostWritten)

/-- A label in ASCII. -/
def written (label : List Char) : List Char :=
  if isAscii label then label else sign ++ Punycode.encode label

/-- The labels of a name, none if it has none. -/
def labels? (name : List Char) : Option (List (List Char)) := do
  let text := Text.composed (← name.mapM mapped?).flatten
  if !text.all isAllowed then none
  let labels ← (Text.pieces '.' text).mapM label?
  if labels.all isLabel && Direction.areKept labels then return labels else none

/-- A name in ASCII. -/
def ascii? (name : List Char) : Option (List Char) :=
  (labels? name).map fun labels => ['.'].intercalate (labels.map written)

end AlertDetail.Domain
