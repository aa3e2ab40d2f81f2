import AlertDetail.Decimal.Shortest
import AlertDetail.Json.Basic

/-!
# Writing JSON

Two forms: compact, without white space, and indented by two spaces a level, where empty containers
stay closed. Strings escape quotes, backslashes and control characters only. Doubles are written
with the fewest digits that identify them; infinities and values that are not numbers are written
`null`.
-/

namespace AlertDetail.Json

/-- Doubles are written without an exponent from one hundred-thousandth up to sixteen digits before
the point. -/
def floatLayout : Decimal.Layout := ⟨16, -5⟩

/-- A double as text. -/
def renderFloat (x : Float) : String :=
  match Decimal.Binary.ofFloat? x with
  | none => "null"
  | some b =>
    let sign := if b.negative then "-" else ""
    if b.significand = 0 then sign ++ "0.0" else sign ++ b.shortest.render floatLayout

/-- Small hexadecimal digit of a number below sixteen. -/
def hexDigit (n : Nat) : Char :=
  Char.ofNat (if n < 10 then 0x30 + n else 0x57 + n)

/-- A character inside a string. -/
def escapeChar (c : Char) : List Char :=
  if c = '"' then ['\\', '"']
  else if c = '\\' then ['\\', '\\']
  else if c = '\x08' then ['\\', 'b']
  else if c = '\x0c' then ['\\', 'f']
  else if c = '\n' then ['\\', 'n']
  else if c = '\r' then ['\\', 'r']
  else if c = '\t' then ['\\', 't']
  else if c.toNat < 0x20 then
    ['\\', 'u', '0', '0', hexDigit (c.toNat / 16), hexDigit (c.toNat % 16)]
  else [c]

/-- A string with its quotes. -/
def renderString (text : String) : String :=
  .ofList ('"' :: text.toList.flatMap escapeChar ++ ['"'])

mutual

/-- The compact form. -/
def render : Json → String
  | .null => "null"
  | .bool value => if value then "true" else "false"
  | .int value => toString value
  | .float value => renderFloat value
  | .str value => renderString value
  | .arr items => "[" ++ ",".intercalate (renderItems items) ++ "]"
  | .obj members => "\x7b" ++ ",".intercalate (renderMembers members) ++ "\x7d"
  | .unreadable => "null"

/-- The compact form of each item. -/
def renderItems : List Json → List String
  | [] => []
  | item :: rest => item.render :: renderItems rest

/-- The compact form of each member. -/
def renderMembers : List (String × Json) → List String
  | [] => []
  | (key, value) :: rest => (renderString key ++ ":" ++ value.render) :: renderMembers rest

end

/-- The start of a line at a level. -/
def newLine (level : Nat) : String :=
  .ofList ('\n' :: List.replicate (2 * level) ' ')

/-- A container with a line for each part. -/
def spread (level : Nat) (opening closing : String) : List String → String
  | [] => opening ++ closing
  | parts =>
    opening ++ newLine (level + 1) ++ ("," ++ newLine (level + 1)).intercalate parts ++
      newLine level ++ closing

mutual

/-- The indented form at a level. -/
def renderAt (level : Nat) : Json → String
  | .arr items => spread level "[" "]" (itemsAt (level + 1) items)
  | .obj members => spread level "\x7b" "\x7d" (membersAt (level + 1) members)
  | .null => "null"
  | .bool value => if value then "true" else "false"
  | .int value => toString value
  | .float value => renderFloat value
  | .str value => renderString value
  | .unreadable => "null"

/-- The indented form of each item. -/
def itemsAt (level : Nat) : List Json → List String
  | [] => []
  | item :: rest => item.renderAt level :: itemsAt level rest

/-- The indented form of each member. -/
def membersAt (level : Nat) : List (String × Json) → List String
  | [] => []
  | (key, value) :: rest =>
    (renderString key ++ ": " ++ value.renderAt level) :: membersAt level rest

end

/-- The indented form. -/
def renderIndented (value : Json) : String := value.renderAt 0

end AlertDetail.Json
