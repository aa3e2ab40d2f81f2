/-!
# Characters as bytes

The byte form of characters and its inverse. Reading refuses overlong forms, surrogates, code
points past the last one and sequences that break off.
-/

namespace AlertDetail.Text.Utf8

/-- The bytes of a text. -/
def encode (text : List Char) : List UInt8 :=
  text.flatMap String.utf8EncodeChar

/-- The six payload bits of a continuation byte. -/
def continuation? (byte : UInt8) : Option Nat :=
  if 0x80 ≤ byte ∧ byte ≤ 0xBF then some (byte.toNat - 0x80) else none

/-- The character with a code point, if it is at least `least` and a character at all. -/
def charFrom? (least point : Nat) : Option Char :=
  if least ≤ point ∧ point.isValidChar then some (Char.ofNat point) else none

/-- The characters that the bytes stand for, or none where they stand for no text. -/
def decode? : List UInt8 → Option (List Char)
  | [] => some []
  | a :: rest =>
    if a < 0x80 then (Char.ofNat a.toNat :: ·) <$> decode? rest
    else if 0xC2 ≤ a ∧ a ≤ 0xDF then
      match rest with
      | b :: rest => do
        let c ← charFrom? 0x80 ((a.toNat - 0xC0) * 0x40 + (← continuation? b))
        (c :: ·) <$> decode? rest
      | _ => none
    else if 0xE0 ≤ a ∧ a ≤ 0xEF then
      match rest with
      | b :: c :: rest => do
        let point := ((a.toNat - 0xE0) * 0x40 + (← continuation? b)) * 0x40 + (← continuation? c)
        let c ← charFrom? 0x800 point
        (c :: ·) <$> decode? rest
      | _ => none
    else if 0xF0 ≤ a ∧ a ≤ 0xF4 then
      match rest with
      | b :: c :: d :: rest => do
        let point := (((a.toNat - 0xF0) * 0x40 + (← continuation? b)) * 0x40 +
          (← continuation? c)) * 0x40 + (← continuation? d)
        let c ← charFrom? 0x10000 point
        (c :: ·) <$> decode? rest
      | _ => none
    else none

end AlertDetail.Text.Utf8
