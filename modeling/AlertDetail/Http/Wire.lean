import AlertDetail.Http.Message
import AlertDetail.Text.Utf8
import AlertDetail.Text.Whole

/-!
# Messages on the wire

A request as the bytes that are sent, and a reply read from the bytes that come back until the
connection is closed. The text of a reply is as long as its head says, or comes in pieces that state
their lengths, or takes all that is left. Bytes that are no text count as an empty text. User and
password of an address are not sent.
-/

namespace AlertDetail.Http

/-- The end of a line. -/
def lineEnd : String := "\r\n"

/-- Text of the host that a request goes to, with the number after it. -/
def Request.hostText (request : Request) : String :=
  request.url.host.elim "" request.url.authorityText

/-- Lines of the head of a request. -/
def Request.head (request : Request) : List String :=
  [request.method.name ++ " " ++ request.url.target ++ " HTTP/1.1", "host: " ++ request.hostText,
    "accept: */*", "connection: close"] ++
    (request.contentType.elim [] fun kind => ["content-type: " ++ kind]) ++
    match request.method with
    | .get => []
    | .post => ["content-length: " ++ toString request.body.utf8ByteSize]

/-- The text of a request. -/
def Request.wireText (request : Request) : String :=
  .join (request.head.map (· ++ lineEnd)) ++ lineEnd ++ request.body

/-- The bytes of a line, and what follows its end. -/
def splitLine? : List UInt8 → Option (List UInt8 × List UInt8)
  | 13 :: 10 :: rest => some ([], rest)
  | byte :: rest => (splitLine? rest).map fun (line, rest) => (byte :: line, rest)
  | [] => none

theorem splitLine?_length {bytes line rest : List UInt8}
    (split : splitLine? bytes = some (line, rest)) : rest.length < bytes.length := by
  fun_induction splitLine? bytes generalizing line rest with
  | case1 bytes =>
    obtain ⟨rfl, rfl⟩ : [] = line ∧ bytes = rest := by simpa using split
    simp only [List.length_cons]
    omega
  | case2 byte bytes h ih =>
    simp only [Option.map_eq_some_iff, Prod.mk.injEq, Prod.exists] at split
    obtain ⟨first, later, found, rfl, rfl⟩ := split
    have := ih found
    simp only [List.length_cons]
    omega
  | case3 => simp at split

/-- Bytes as text, empty if they are none. -/
def textOf (bytes : List UInt8) : String := .ofList ((Text.Utf8.decode? bytes).getD [])

/-- A field of the head: its name in lower case, and its text. -/
abbrev HeadField := String × String

/-- The field that a line holds. -/
def headField (line : List UInt8) : HeadField :=
  let text := (textOf line).toList
  let name := text.takeWhile (· ≠ ':')
  (.ofList (name.map Char.toLower), Text.trim (.ofList (text.drop (name.length + 1))))

/-- The fields up to the empty line, and the bytes after it. -/
def headFields? (bytes : List UInt8) : Option (List HeadField × List UInt8) :=
  match _found : splitLine? bytes with
  | none => none
  | some ([], rest) => some ([], rest)
  | some (line, rest) =>
    (headFields? rest).map fun (fields, body) => (headField line :: fields, body)
termination_by bytes.length
decreasing_by exact splitLine?_length _found

theorem headFields?_length {bytes rest : List UInt8} {fields : List HeadField}
    (read : headFields? bytes = some (fields, rest)) : rest.length ≤ bytes.length := by
  fun_induction headFields? bytes generalizing fields rest with
  | case1 => simp at read
  | case2 bytes later found =>
    have := splitLine?_length found
    obtain ⟨rfl, rfl⟩ : [] = fields ∧ later = rest := by simpa using read
    omega
  | case3 bytes line later _ found ih =>
    simp only [Option.map_eq_some_iff, Prod.mk.injEq, Prod.exists] at read
    obtain ⟨first, body, found', rfl, rfl⟩ := read
    have := splitLine?_length found
    have := ih found'
    omega

/-- A number in hexadecimal digits. -/
def hexNumber? (digits : List Char) : Option Nat :=
  if digits.isEmpty then none else Host.number? 16 digits

/-- Pieces that state their lengths, up to the one without length. -/
def pieces? (bytes : List UInt8) : Option (List UInt8) :=
  match _found : splitLine? bytes with
  | none => none
  | some (line, rest) =>
    match hexNumber? ((textOf line).toList.takeWhile (fun c => c ≠ ';' && c ≠ ' ')) with
    | none => none
    | some 0 => some []
    | some length =>
      if rest.length < length + 2 then none
      else (rest.take length ++ ·) <$> pieces? (rest.drop (length + 2))
termination_by bytes.length
decreasing_by
  have := splitLine?_length _found
  simp only [List.length_drop]
  omega

/-- The bytes of a text, given the fields before it. -/
def bodyBytes? (fields : List HeadField) (bytes : List UInt8) : Option (List UInt8) :=
  if fields.lookup "transfer-encoding" = some "chunked" then pieces? bytes
  else
    match (fields.lookup "content-length").bind Text.word? with
    | some length => if bytes.length < length then none else some (bytes.take length)
    | none => some bytes

/-- The status that the first line of a reply states. -/
def status? (line : List UInt8) : Option Nat :=
  match Text.pieces ' ' (textOf line).toList with
  | _ :: code :: _ => Text.word? (.ofList code)
  | _ => none

/-- The reply that bytes hold. One that only announces another is passed over. -/
def Reply.ofBytes? (bytes : List UInt8) : Option Reply :=
  match _line : splitLine? bytes with
  | none => none
  | some (line, rest) =>
    match status? line, _fields : headFields? rest with
    | some status, some (fields, body) =>
      if isInterim status then ofBytes? body
      else if bare.contains status then ofStatus? status ""
      else (bodyBytes? fields body).bind fun bytes => ofStatus? status (textOf bytes)
    | _, _ => none
termination_by bytes.length
decreasing_by
  have := splitLine?_length _line
  have := headFields?_length _fields
  omega

end AlertDetail.Http
