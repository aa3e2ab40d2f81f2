import AlertDetail.Domain.Direction
import AlertDetail.Domain.JoiningTable
import AlertDetail.Text.Composition

/-!
# Joiners in domain names

Two characters without width ask that neighbours be joined or kept apart. They stand after a mark
that takes the vowel from a letter. The one that keeps apart may also stand between letters that
would join.
-/

namespace AlertDetail.Domain

/-- The character that keeps its neighbours apart. -/
def nonJoiner : Char := '\u200C'

/-- The character that joins its neighbours. -/
def joiner : Char := '\u200D'

/-- The class of marks that take the vowel from a letter. -/
def vowelKiller : Nat := 9

/-- Whether joining looks past a character. -/
def isSkipped (c : Char) : Bool :=
  Direction.of c == .mark || Text.isAmong JoiningTable.skipped c

/-- Whether a character stands on the one before it. -/
def isMark (c : Char) : Bool := Direction.of c == .mark || Text.isAmong JoiningTable.spacing c

/-- Whether the nearest character that joining does not look past is of a class. -/
def meets (letters : List (Nat × Nat)) (text : List Char) : Bool :=
  (text.dropWhile isSkipped).head?.any (Text.isAmong letters)

/-- Whether letters before and after a place would join. The nearest one before stands first. -/
def wouldJoin (before after : List Char) : Bool :=
  meets (JoiningTable.both ++ JoiningTable.after) before &&
    meets (JoiningTable.both ++ JoiningTable.before) after

/-- Whether the joiners in the rest of a text have what they need, given what stands before it with
the nearest character first. -/
def joinersFit (before : List Char) : List Char → Bool
  | [] => true
  | c :: rest =>
    (if c = nonJoiner ∨ c = joiner then
      before.head?.any (Text.markClass · == vowelKiller) ||
        (c == nonJoiner && wouldJoin before rest)
    else true) && joinersFit (c :: before) rest

end AlertDetail.Domain
