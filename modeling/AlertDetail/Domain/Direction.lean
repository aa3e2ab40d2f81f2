import AlertDetail.Domain.DirectionTable
import AlertDetail.Text.Ranges

/-!
# Writing directions in domain names

Letters run from left to right or from right to left. So that nobody sees a name in another order
than it has, each label of a name with letters from right to left keeps to one direction, and begins
and ends with a character that has one.
-/

namespace AlertDetail.Domain

/-- How a character runs. -/
inductive Direction where
  /-- From left to right. -/
  | left
  /-- From right to left. -/
  | right
  /-- As part of an Arabic number. -/
  | arabicNumber
  /-- As part of a European number. -/
  | europeanNumber
  /-- On the character before it. -/
  | mark
  /-- With what is around it. -/
  | neutral
  deriving DecidableEq, Repr, Inhabited

namespace Direction

/-- The direction of a character. -/
def of (c : Char) : Direction :=
  if Text.isAmong DirectionTable.right c then right
  else if Text.isAmong DirectionTable.arabicNumber c then arabicNumber
  else if Text.isAmong DirectionTable.europeanNumber c then europeanNumber
  else if Text.isAmong DirectionTable.mark c then mark
  else if Text.isAmong DirectionTable.neutral c then neutral
  else left

/-- Whether a character asks that directions be kept. -/
def turns (c : Char) : Bool := of c == right || of c == arabicNumber

/-- Whether the last of some directions that is no mark, if there is one, is among those given. -/
def endsIn (ends directions : List Direction) : Bool :=
  ((directions.reverse.find? (· ≠ mark)).all ends.contains)

/-- Whether a label keeps to one direction. -/
def isKept (label : List Char) : Bool :=
  match label.map of with
  | left :: rest =>
    rest.all [left, europeanNumber, neutral, mark].contains && endsIn [left, europeanNumber] rest
  | right :: rest =>
    rest.all [right, arabicNumber, europeanNumber, neutral, mark].contains &&
      endsIn [right, arabicNumber, europeanNumber] rest &&
      !(rest.contains arabicNumber && rest.contains europeanNumber)
  | _ => false

/-- Whether all labels of a name keep to one direction, if they have to. -/
def areKept (labels : List (List Char)) : Bool :=
  !labels.any (·.any turns) || labels.all fun label => label.isEmpty || isKept label

end Direction

end AlertDetail.Domain
