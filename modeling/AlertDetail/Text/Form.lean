import AlertDetail.Text.Blank
import AlertDetail.Text.Percent

/-!
# Form encoding

Pairs of texts in one line, as the query of a web address carries them: `key=value` joined by `&`,
a space as `+`, and every byte but ASCII letters, digits and `*-._` percent-encoded. The reader
undoes the writer; a pair without `=` has an empty value.
-/

namespace AlertDetail.Text.Form

/-- Bytes that a form leaves as they are. -/
def isPlain (byte : UInt8) : Bool :=
  let c := Char.ofNat byte.toNat
  byte < 0x80 && (c.isAlphanum || c = '*' || c = '-' || c = '.' || c = '_')

/-- One text of a pair. -/
def encodeText (text : List Char) : List Char :=
  (Utf8.encode text).flatMap fun byte =>
    if byte = 0x20 then ['+']
    else if isPlain byte then [Char.ofNat byte.toNat]
    else Percent.escaped byte

/-- A pair of texts. -/
def encodePair (pair : String × String) : List Char :=
  encodeText pair.1.toList ++ '=' :: encodeText pair.2.toList

/-- All pairs, in order. -/
def encode : List (String × String) → List Char
  | [] => []
  | [pair] => encodePair pair
  | pair :: rest => encodePair pair ++ '&' :: encode rest

/-- The text that one side of a pair stands for. -/
def decodeText? (text : List Char) : Option String :=
  .ofList <$> Percent.decode? (text.map fun c => if c = '+' then ' ' else c)

/-- The pair that one piece between `&` stands for. -/
def decodePair? (piece : List Char) : Option (String × String) := do
  let key ← decodeText? (piece.takeWhile (· ≠ '='))
  let value ← decodeText? ((piece.dropWhile (· ≠ '=')).drop 1)
  return (key, value)

/-- The pairs that a query stands for; empty pieces are none. -/
def decode? (query : List Char) : Option (List (String × String)) :=
  ((pieces '&' query).filter (!·.isEmpty)).mapM decodePair?

end AlertDetail.Text.Form
