import AlertDetail.Text.CompositionTable
import AlertDetail.Text.Ranges
import AlertDetail.Text.Syllable

/-!
# Composed texts

Texts in which letters and the marks on them are written in one way only: every character is taken
apart, marks that follow one another are put in the order of their classes, and what can be one
character is put together again. The rules hold for the characters that can stand in domain names.
-/

namespace AlertDetail.Text

/-- The character that one is with the mark of a row. -/
def CompositionTable.Row.combine? (row : Row) (c : Char) : Option Char :=
  (row.plain.toList.zip row.combined.toList).lookup c

/-- The character that one of a row is without the mark. -/
def CompositionTable.Row.separate? (row : Row) (c : Char) : Option Char :=
  (row.combined.toList.zip row.plain.toList).lookup c

/-- The class of a mark; zero for a character that stays where it is. -/
def markClass (c : Char) : Nat :=
  ((CompositionTable.classes.find? fun (_, ranges) => isAmong ranges c).map (·.1)).getD 0

/-- A character as another one and a mark. -/
def separate? (c : Char) : Option (Char × Char) :=
  CompositionTable.rows.findSome? fun row => (row.separate? c).map (·, Char.ofNat row.mark)

/-- The character that one is with another after it. -/
def combine? (c mark : Char) : Option Char :=
  (Syllable.join? c mark).or
    ((CompositionTable.rows.filter (·.mark = mark.toNat)).findSome? (·.combine? c))

/-- How many marks a character can be taken apart into, one after the other. -/
def markLevels : Nat := 2

/-- A character with its marks taken off, at most as many as given. -/
def withoutMarks : Nat → Char → List Char
  | 0, c => [c]
  | levels + 1, c =>
    match separate? c with
    | some (plain, mark) => withoutMarks levels plain ++ [mark]
    | none => [c]

/-- A character taken apart. -/
def apart (c : Char) : List Char :=
  if c.toNat < 0x80 then [c] else (Syllable.letters? c).getD (withoutMarks markLevels c)

/-- Put a character in front of marks that are in order. It moves behind marks of a lower class. -/
def insertMark (c : Char) : List Char → List Char
  | [] => [c]
  | d :: rest =>
    if 0 < markClass d ∧ markClass d < markClass c then d :: insertMark c rest else c :: d :: rest

/-- A text with the marks that follow one another in order. -/
def orderMarks (text : List Char) : List Char := text.foldr insertMark []

/-- Put together a character and what stands after it. `marks` are those in between that could not
be put together with it, the last one first; only a mark of a higher class than theirs still can. -/
def combineAfter (c : Char) (marks : List Char) : List Char → List Char
  | [] => c :: marks.reverse
  | d :: rest =>
    let reaches := marks.head?.all fun mark => markClass mark < markClass d
    match if reaches then combine? c d else none with
    | some both => combineAfter both marks rest
    | none =>
      if markClass d = 0 then c :: marks.reverse ++ combineAfter d [] rest
      else combineAfter c (d :: marks) rest

/-- Put together what can be. Marks at the beginning have nothing to stand on. -/
def combineAll (text : List Char) : List Char :=
  text.takeWhile (markClass · ≠ 0) ++
    match text.dropWhile (markClass · ≠ 0) with
    | [] => []
    | c :: rest => combineAfter c [] rest

/-- A text in its composed form. -/
def composed (text : List Char) : List Char := combineAll (orderMarks (text.flatMap apart))

end AlertDetail.Text
