/-!
# Labels in ASCII

How a text is written in ASCII letters, digits and hyphens. Its ASCII characters come first. Each
other character follows as a number that tells how far it is, in the order of code points and of
places, from the one inserted before. Numbers are written in digits to the base 36, lowest first,
and how large the last digit may be adapts to the numbers before. A reader takes no number above 32
bits.
-/

namespace AlertDetail.Domain.Punycode

/-- The base of the digits. -/
def base : Nat := 36

/-- The largest number that is read. -/
def largest : Nat := 0xFFFFFFFF

/-- A digit: letters come before decimal digits. -/
def digitChar (digit : Nat) : Char :=
  Char.ofNat (if digit < 26 then 0x61 + digit else 0x30 + (digit - 26))

/-- Value of a digit. -/
def digit? (c : Char) : Option Nat :=
  if 'a' ≤ c ∧ c ≤ 'z' then some (c.toNat - 0x61)
  else if '0' ≤ c ∧ c ≤ '9' then some (c.toNat - 0x30 + 26)
  else none

theorem digit?_digitChar : ∀ digit < 36, digit? (digitChar digit) = some digit := by decide

/-- The least digit that does not end a number, given the place of the digit, counted in steps of
the base. -/
def threshold (bias place : Nat) : Nat := max 1 (min 26 (place - bias))

theorem threshold_pos (bias place : Nat) : 0 < threshold bias place := by
  simp only [threshold]
  omega

/-- The bias that a sum of digits leads to, given the steps so far. -/
def biasFrom (steps sum : Nat) : Nat :=
  if 455 < sum then biasFrom (steps + base) (sum / 35) else steps + base * sum / (sum + 38)
termination_by sum
decreasing_by omega

/-- The bias after a number, given how many characters there are then, and whether the number was
the first. -/
def nextBias (number count : Nat) (first : Bool) : Nat :=
  let scaled := if first then number / 700 else number / 2
  biasFrom 0 (scaled + scaled / count)

/-- Where the insertion of characters stands. -/
structure Insertion where
  /-- Code point of the last character inserted. -/
  point : Nat := 0x80
  /-- The place after the last character inserted. -/
  place : Nat := 0
  /-- The bias of the next number. -/
  bias : Nat := 72
  deriving DecidableEq, Repr, Inhabited

/-! ## Writing -/

/-- The digits of a number from a place on. -/
def digits (bias place number : Nat) : List Nat :=
  let least := threshold bias place
  if number < least then [number]
  else
    (least + (number - least) % (base - least)) ::
      digits bias (place + base) ((number - least) / (base - least))
termination_by number
decreasing_by
  have := threshold_pos bias place
  exact Nat.lt_of_le_of_lt (Nat.div_le_self ..) (by omega)

/-- Characters outside ASCII with their places in the text, in the order in which they are
inserted. -/
def insertions (text : List Char) : List (Nat × Nat) :=
  ((text.zipIdx.map fun (c, place) => (c.toNat, place)).filter (0x80 ≤ ·.1)).mergeSort
    fun a b => a.1 < b.1 || (a.1 == b.1 && a.2 ≤ b.2)

/-- The numbers that insert characters into a text. `count` characters are there already. -/
def numbers (text : List Char) (count : Nat) (state : Insertion) : List (Nat × Nat) → List Nat
  | [] => []
  | (point, place) :: rest =>
    let placeNow := (text.take place).countP (·.toNat ≤ point)
    let number := (point - state.point) * (count + 1) + placeNow - state.place
    let next : Insertion := {
      point := point
      place := placeNow + 1
      bias := nextBias number (count + 1) (state.place = 0) }
    digits state.bias base number ++ numbers text (count + 1) next rest

/-- A text in ASCII. -/
def encode (text : List Char) : List Char :=
  let plain := text.filter (·.toNat < 0x80)
  let inserted := numbers text plain.length {} (insertions text)
  plain ++ (if plain.isEmpty then [] else ['-']) ++ inserted.map digitChar

/-! ## Reading -/

/-- What has been read. -/
structure Reader where
  /-- The characters so far. -/
  text : List Char
  /-- Where the insertion stands before the number that is read. -/
  state : Insertion := {}
  /-- The part of the number that has been read. -/
  number : Nat := 0
  /-- What the next digit counts. -/
  weight : Nat := 1
  /-- The place of the next digit. -/
  place : Nat := base
  deriving DecidableEq, Repr, Inhabited

/-- Insert the character that a number tells. -/
def Reader.insert? (reader : Reader) : Option Reader :=
  let { text, state, number, .. } := reader
  let count := text.length + 1
  let point := state.point + (state.place + number) / count
  let place := (state.place + number) % count
  if point.isValidChar then
    some {
      text := text.take place ++ Char.ofNat point :: text.drop place
      state := {
        point := point
        place := place + 1
        bias := nextBias number count (state.place = 0) } }
  else none

/-- Read a digit. -/
def Reader.next? (reader : Reader) (digit : Nat) : Option Reader :=
  let number := reader.number + digit * reader.weight
  let least := threshold reader.state.bias reader.place
  let weight := reader.weight * (base - least)
  if largest < reader.state.place + number then none
  else if digit < least then { reader with number := number }.insert?
  else if largest < weight then none
  else some { reader with number := number, weight := weight, place := reader.place + base }

/-- The text that one in ASCII stands for. -/
def decode? (text : List Char) : Option (List Char) := do
  let written := (text.reverse.takeWhile (· ≠ '-')).reverse
  let plain := text.take (text.length - written.length - 1)
  let written := if plain.isEmpty then text else written
  let reader ← (← written.mapM digit?).foldlM Reader.next? { text := plain }
  if reader.place = base then some reader.text else none

end AlertDetail.Domain.Punycode
