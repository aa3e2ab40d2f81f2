/-!
# Korean syllables

Syllables of the Korean script are numbered so that their letters can be counted out of the code
point: the first letter changes slowest, and the last one, which may be missing, changes fastest.
Letters of the old script form no such syllables.
-/

namespace AlertDetail.Text.Syllable

/-- Code point of the first syllable. -/
def start : Nat := 0xAC00

/-- Code point of the first letter that begins a syllable. -/
def firstLead : Nat := 0x1100

/-- Code point of the first vowel. -/
def firstVowel : Nat := 0x1161

/-- Code point before that of the first letter that ends a syllable. -/
def beforeTails : Nat := 0x11A7

/-- How many letters begin a syllable. -/
def leads : Nat := 19

/-- How many vowels there are. -/
def vowels : Nat := 21

/-- How many ways a syllable can end, the one without last letter among them. -/
def tails : Nat := 28

/-- The number of a character in a block that begins at a code point. -/
def number? (first count : Nat) (c : Char) : Option Nat :=
  if first ≤ c.toNat ∧ c.toNat < first + count then some (c.toNat - first) else none

/-- The letters of a syllable. -/
def letters? (c : Char) : Option (List Char) := do
  let number ← number? start (leads * vowels * tails) c
  let lead := Char.ofNat (firstLead + number / tails / vowels)
  let vowel := Char.ofNat (firstVowel + number / tails % vowels)
  let tail := number % tails
  return lead :: vowel :: if tail = 0 then [] else [Char.ofNat (beforeTails + tail)]

/-- The syllable of a first letter and a vowel. -/
def ofLead? (lead vowel : Char) : Option Char := do
  let lead ← number? firstLead leads lead
  let vowel ← number? firstVowel vowels vowel
  return Char.ofNat (start + (lead * vowels + vowel) * tails)

/-- A syllable without last letter together with a last letter. -/
def withTail? (syllable tail : Char) : Option Char := do
  let number ← number? start (leads * vowels * tails) syllable
  let tail ← number? (beforeTails + 1) (tails - 1) tail
  if number % tails = 0 then some (Char.ofNat (start + number + tail + 1)) else none

/-- The syllable that two characters form. -/
def join? (a b : Char) : Option Char := (ofLead? a b).or (withTail? a b)

end AlertDetail.Text.Syllable
