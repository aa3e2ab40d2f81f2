import AlertDetail.Environment.Lines
import AlertDetail.Text.Alphanumeric

/-!
# Assignments of an environment file

A line gives a name a text. The text may be quoted; outside single quotes a dollar sign stands for
the text of the name that follows, and a backslash for a character that would otherwise mean
something.
-/

namespace AlertDetail.Environment

/-- What one line says. -/
inductive Line where
  /-- Nothing. -/
  | empty
  /-- A name is given a text, which is still written with quotes and escapes. -/
  | assignment (name : String) (written : List Char)
  deriving DecidableEq, Repr, Inhabited

/-- Characters that a name begins with. -/
def isNameStart (c : Char) : Bool := c.isAlpha || c == '_'

/-- Characters of a name. -/
def isNameChar (c : Char) : Bool := c.isAlphanum || c == '_' || c == '.'

/-- The name at the beginning, and what follows it. -/
def name? (text : List Char) : Option (String × List Char) :=
  if text.head?.any isNameStart then
    some (.ofList (text.takeWhile isNameChar), (text.dropWhile isNameChar).dropWhile Text.isBlank)
  else none

/-- What follows an equals sign and blanks. -/
def equals? : List Char → Option (List Char)
  | '=' :: rest => some (rest.dropWhile Text.isBlank)
  | _ => none

/-- The assignment of a text. The word `export` may stand in front; it is a name itself where an
equals sign follows. -/
def assignment? (text : List Char) : Option Line := do
  let (first, rest) ← name? text
  match equals? rest with
  | some written => return .assignment first written
  | none =>
    if first = "export" then
      let (second, rest) ← name? rest
      return .assignment second (← equals? rest)
    else none

/-- What a line says, none if it is not written as one. -/
def Line.parse? (text : List Char) : Option Line :=
  let text := Text.trimChars text
  if text.isEmpty ∨ text.head? = some '#' then some .empty else assignment? text

/-- Where in a written text a character stands. -/
inductive Place where
  /-- Outside quotes. -/
  | plain
  /-- After the end of the text. -/
  | ended
  /-- In single quotes. -/
  | single
  /-- In double quotes. -/
  | double
  /-- After a backslash, in double quotes or outside. -/
  | escaped (quoted : Bool)
  /-- In a name after a dollar sign, of which a part was read. -/
  | name (quoted : Bool) (part : List Char)
  /-- In a name in braces. -/
  | braced (quoted : Bool) (part : List Char)
  deriving DecidableEq, Repr, Inhabited

/-- The place in double quotes or outside. -/
def Place.inside (quoted : Bool) : Place := if quoted then double else plain

/-- The character that one after a backslash stands for. -/
def unescaped? : Char → Option Char
  | 'n' => some '\n'
  | c => if c = '\\' ∨ c = '\'' ∨ c = '"' ∨ c = '$' ∨ c = ' ' then some c else none

/-- Whether a character goes on with a name after a dollar sign. Letters of any script do, although
the names that lines give texts to are ASCII. -/
def continuesName (c : Char) : Bool := Text.isAlphanumeric c

/-- The text of a written text from a place on, given the texts of names. -/
def value? (textOf : List Char → List Char) (place : Place) : List Char → Option (List Char)
  | [] =>
    match place with
    | .plain | .ended | .escaped false => some []
    | .name false part => some (textOf part)
    | _ => none
  | c :: rest =>
    match place with
    | .ended =>
      if c = ' ' ∨ c = '\t' then value? textOf .ended rest
      else if c = '#' then some [] else none
    | .escaped quoted => do
      let c ← unescaped? c
      return c :: (← value? textOf (.inside quoted) rest)
    | .single =>
      if c = '\'' then value? textOf .plain rest else (c :: ·) <$> value? textOf .single rest
    | .name quoted part =>
      if continuesName c then value? textOf (.name quoted (part ++ [c])) rest
      else if c = '\x7b' ∧ part.isEmpty then value? textOf (.braced quoted []) rest
      else if c = '$' then (textOf part ++ ·) <$> value? textOf (.name quoted []) rest
      else (fun later => textOf part ++ c :: later) <$> value? textOf (.inside quoted) rest
    | .braced quoted part =>
      if c = '\x7d' then (textOf part ++ ·) <$> value? textOf (.inside quoted) rest
      else value? textOf (.braced quoted (part ++ [c])) rest
    | .double =>
      if c = '$' then value? textOf (.name true []) rest
      else if c = '"' then value? textOf .plain rest
      else if c = '\\' then value? textOf (.escaped true) rest
      else (c :: ·) <$> value? textOf .double rest
    | .plain =>
      if c = '$' then value? textOf (.name false []) rest
      else if c = '\'' then value? textOf .single rest
      else if c = '"' then value? textOf .double rest
      else if c = '\\' then value? textOf (.escaped false) rest
      else if c = ' ' ∨ c = '\t' then value? textOf .ended rest
      else (c :: ·) <$> value? textOf .plain rest

end AlertDetail.Environment
