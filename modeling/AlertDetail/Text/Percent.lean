import AlertDetail.Text.Utf8

/-!
# Percent encoding

A byte written as a percent sign and two hexadecimal digits. Encoding takes the class of bytes that
stay as they are. Decoding leaves a percent sign that is not followed by two digits alone; a text
whose decoded bytes are no characters has no decoding.
-/

namespace AlertDetail.Text.Percent

/-- Value of a hexadecimal digit of either case, given as a byte. -/
def digit? (byte : UInt8) : Option UInt8 :=
  if 0x30 ≤ byte ∧ byte ≤ 0x39 then some (byte - 0x30)
  else if 0x41 ≤ byte ∧ byte ≤ 0x46 then some (byte - 0x41 + 10)
  else if 0x61 ≤ byte ∧ byte ≤ 0x66 then some (byte - 0x61 + 10)
  else none

/-- Capital hexadecimal digit of a number below sixteen. -/
def digitChar (n : UInt8) : Char :=
  Char.ofNat (if n < 10 then 0x30 + n.toNat else 0x37 + n.toNat)

/-- A byte written out. -/
def escaped (byte : UInt8) : List Char :=
  ['%', digitChar (byte / 16), digitChar (byte % 16)]

/-- The bytes with every `%XX` replaced by the byte it writes. -/
def decodeBytes : List UInt8 → List UInt8
  | [] => []
  | a :: b :: c :: rest =>
    if a = 0x25 then
      match digit? b, digit? c with
      | some high, some low => (high * 16 + low) :: decodeBytes rest
      | _, _ => a :: decodeBytes (b :: c :: rest)
    else a :: decodeBytes (b :: c :: rest)
  | a :: rest => a :: decodeBytes rest

/-- The decoded text, or none where the decoded bytes are no characters. -/
def decode? (text : List Char) : Option (List Char) :=
  Utf8.decode? (decodeBytes (Utf8.encode text))

/-- The bytes of a text as characters: those that `keep` names as they are, the others written
out. -/
def encode (keep : UInt8 → Bool) (text : List Char) : List Char :=
  (Utf8.encode text).flatMap fun byte =>
    if keep byte then [Char.ofNat byte.toNat] else escaped byte

end AlertDetail.Text.Percent
