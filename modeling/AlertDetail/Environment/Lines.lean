import AlertDetail.Text.Blank

/-!
# Lines of an environment file

An environment file is read in lines. A line goes on over a line break inside quotes or after a
backslash, and it ends before a comment, which a number sign after a blank opens. Where the last
line is left open, there is nothing to be read.
-/

namespace AlertDetail.Environment

/-- What the characters so far leave open. -/
inductive LineState where
  /-- Nothing. -/
  | plain
  /-- A blank was last. -/
  | blank
  /-- A backslash was last. -/
  | escaped
  /-- Double quotes. -/
  | double
  /-- Double quotes, with a backslash last. -/
  | doubleEscaped
  /-- Single quotes. -/
  | single
  /-- Single quotes, with a backslash last. -/
  | singleEscaped
  deriving DecidableEq, Repr, Inhabited

/-- What a character opens outside quotes. -/
def LineState.opened : Char → LineState
  | '\\' => escaped
  | '"' => double
  | '\'' => single
  | _ => plain

/-- What is open after a character, none where a comment begins. -/
def LineState.next? (c : Char) : LineState → Option LineState
  | plain => some (if Text.isBlank c ∧ c ≠ '\n' ∧ c ≠ '\r' then blank else opened c)
  | blank => if c = '#' then none else some (opened c)
  | escaped => some plain
  | double => some (if c = '\\' then doubleEscaped else if c = '"' then plain else double)
  | doubleEscaped => some double
  | single => some (if c = '\\' then singleEscaped else if c = '\'' then plain else single)
  | singleEscaped => some single

/-- What stands before a comment, and what is open after it; none is open where a comment
follows. -/
def scan (state : LineState) : List Char → List Char × Option LineState
  | [] => ([], some state)
  | c :: rest =>
    match state.next? c with
    | none => ([], none)
    | some state =>
      let (before, last) := scan state rest
      (c :: before, last)

/-- The pieces of a text, each with the line break that ends it. -/
def physicalLines : List Char → List (List Char)
  | [] => []
  | c :: rest =>
    if c = '\n' then [c] :: physicalLines rest
    else match physicalLines rest with
      | [] => [[c]]
      | line :: lines => (c :: line) :: lines

/-- A line without the line break at its end. -/
def withoutBreak (line : List Char) : List Char :=
  match line.reverse with
  | '\n' :: '\r' :: rest => rest.reverse
  | '\n' :: rest => rest.reverse
  | _ => line

/-- Put pieces together to lines. `state` and `begun` are what the pieces before left open. A line
that is never finished is none. -/
def gather (state : LineState) (begun : List Char) : List (List Char) → List (Option (List Char))
  | [] => if state = .plain then [] else [none]
  | piece :: pieces =>
    let line := begun ++ piece
    if (line.dropWhile Text.isBlank).head? = some '#' then some [] :: gather .plain [] pieces
    else match scan state piece with
      | (before, none) => some (begun ++ before) :: gather .plain [] pieces
      | (_, some .plain) => some (withoutBreak line) :: gather .plain [] pieces
      | (_, some state) => gather state line pieces

/-- The lines of a file. A mark of the byte order in front does not count. -/
def lines (text : String) : List (Option (List Char)) :=
  let text := match text.toList with
    | '\uFEFF' :: rest => rest
    | text => text
  gather .plain [] (physicalLines text)

end AlertDetail.Environment
