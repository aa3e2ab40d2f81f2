import AlertDetail.Json.Token

/-!
# Reading a JSON text

Tokens are read one by one, with the containers that are still open on a stack, so containers may
nest without limit. A text is one value with nothing but white space around it; no comma may stand
before a closing bracket.
-/

namespace AlertDetail.Json

/-- A key and its value while their object is open. A key whose string has no text is none. -/
abbrev Entry := Option String × Json

/-- A container that is still open, with what it holds so far, the latest first. -/
inductive Frame where
  | items (done : List Json)
  | members (done : List Entry) (key : Option String)

/-- What may come next. -/
inductive Expected where
  /-- A value. -/
  | value
  /-- A value or the end of a list that holds nothing yet. -/
  | firstItem
  /-- A key, or the end of the object if it holds nothing yet. -/
  | key (done : List Entry)
  /-- The colon after a key. -/
  | colon (done : List Entry) (key : Option String)
  /-- A comma or the end of the container, after a value; the end of the text if none is open. -/
  | next (value : Json)

/-- A reader: the open containers, the innermost first, and what may come next. -/
structure Reader where
  stack : List Frame
  expected : Expected

/-- The object with these members, the latest first; unreadable if a key is. -/
def closeObject (done : List Entry) : Json :=
  match done.reverse.mapM fun (key, value) => key.map (·, value) with
  | some members => .obj members
  | none => .unreadable

/-- A token where a value must come. -/
def Reader.value? (stack : List Frame) : Token → Option Reader
  | .scalar value => some ⟨stack, .next value⟩
  | .text (some text) => some ⟨stack, .next (.str text)⟩
  | .text none => some ⟨stack, .next .unreadable⟩
  | .openBracket => some ⟨.items [] :: stack, .firstItem⟩
  | .openBrace => some ⟨stack, .key []⟩
  | _ => none

/-- The reader after one more token, none if the token may not stand there. -/
def Reader.step? (reader : Reader) (token : Token) : Option Reader :=
  match reader.expected, token with
  | .value, token => Reader.value? reader.stack token
  | .firstItem, .closeBracket => some ⟨reader.stack.tail, .next (.arr [])⟩
  | .firstItem, token => Reader.value? reader.stack token
  | .key [], .closeBrace => some ⟨reader.stack, .next (.obj [])⟩
  | .key done, .text key => some ⟨reader.stack, .colon done key⟩
  | .colon done key, .colon => some ⟨.members done key :: reader.stack, .value⟩
  | .next value, token =>
    match reader.stack, token with
    | .items done :: stack, .comma => some ⟨.items (value :: done) :: stack, .value⟩
    | .items done :: stack, .closeBracket =>
      some ⟨stack, .next (.arr (value :: done).reverse)⟩
    | .members done key :: stack, .comma => some ⟨stack, .key ((key, value) :: done)⟩
    | .members done key :: stack, .closeBrace =>
      some ⟨stack, .next (closeObject ((key, value) :: done))⟩
    | _, _ => none
  | _, _ => none

/-- The reader before the first token. -/
def Reader.start : Reader := ⟨[], .value⟩

/-- The value that was read, once nothing is open. -/
def Reader.result? (reader : Reader) : Option Json :=
  match reader.stack, reader.expected with
  | [], .next value => some value
  | _, _ => none

/-- The value of a text, none where the text is not JSON. -/
def parse? (text : String) : Option Json := do
  let tokens ← tokens? text.toList
  (← tokens.foldlM Reader.step? Reader.start).result?

/-- The number of containers that may nest in a value that is read as a whole. -/
def maxDepth : Nat := 127

/-- The value of a text all of whose parts are read: it nests no deeper than allowed and holds
nothing unreadable. -/
def parseStrict? (text : String) : Option Json := do
  let value ← parse? text
  if value.depth ≤ maxDepth ∧ value.readable then some value else none

end AlertDetail.Json
