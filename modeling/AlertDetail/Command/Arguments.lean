import AlertDetail.Text.Blank
import AlertDetail.Text.Whole

/-!
# Arguments of the command

The words after the command's name. Every argument has a long name; some are given by their name
alone, others take a text, either in the same word after an equals sign or as the next word. A word
that begins with a minus sign is a name, unless it is the minus sign alone. Words are read in order;
what is wrong with an argument shows when the next one begins, but a word that means nothing ends
the reading at once.
-/

namespace AlertDetail

/-- An argument. -/
inductive ArgumentName where
  /-- The alert; it must be given. -/
  | alertId
  /-- Evaluate a configuration. -/
  | preview
  /-- Evaluate changes to an alert. -/
  | edit
  /-- The file of the configuration. -/
  | yaml
  /-- The file of the saved configuration. -/
  | savedYaml
  /-- The granularity. -/
  | granularity
  /-- Explore dimensions. -/
  | dimensionExploration
  /-- The start of the range. -/
  | start
  /-- The end of the range. -/
  | stop
  /-- The name of a range, shown after the first load. -/
  | preset
  /-- The baseline. -/
  | baseline
  /-- Print over several lines. -/
  | pretty
  deriving DecidableEq, Repr, Inhabited

namespace ArgumentName

/-- Every argument. -/
def all : List ArgumentName :=
  [alertId, preview, edit, yaml, savedYaml, granularity, dimensionExploration, start, stop, preset,
    baseline, pretty]

/-- How an argument is named. -/
def text : ArgumentName → String
  | alertId => "alert-id"
  | preview => "preview"
  | edit => "edit"
  | yaml => "yaml"
  | savedYaml => "original-yaml"
  | granularity => "granularity"
  | dimensionExploration => "dimension-exploration"
  | start => "start"
  | stop => "end"
  | preset => "preset"
  | baseline => "baseline"
  | pretty => "pretty"

/-- The argument of a name. -/
def ofText? (text : String) : Option ArgumentName := all.find? (·.text = text)

/-- Whether an argument is given by its name alone. -/
def isSwitch : ArgumentName → Bool
  | preview | edit | dimensionExploration | pretty => true
  | _ => false

/-- Whether the text of an argument is a whole number. -/
def isNumber : ArgumentName → Bool
  | alertId | start | stop => true
  | _ => false

/-- Whether the text of an argument names a file. -/
def isFile : ArgumentName → Bool
  | yaml | savedYaml => true
  | _ => false

end ArgumentName

/-- Why the command does not begin. -/
inductive ArgumentStop where
  /-- Its help is asked for. -/
  | help
  /-- Its version is asked for. -/
  | version
  /-- A word means nothing. -/
  | unknown (word : String)
  /-- A text is given to an argument that takes none. -/
  | surplusText (name : String)
  /-- An argument lacks its text. -/
  | missingText (name : ArgumentName)
  /-- The text of an argument is no number. -/
  | badNumber (name : ArgumentName) (text : String)
  /-- An argument is given twice. -/
  | repeated (name : ArgumentName)
  /-- Two arguments exclude each other. -/
  | conflict (first second : ArgumentName)
  /-- Arguments are missing. -/
  | required (names : List ArgumentName)
  deriving DecidableEq, Repr, Inhabited

/-- Arguments with their texts, in the order in which they were given; switches have empty texts. -/
abbrev GivenArguments := List (ArgumentName × String)

namespace GivenArguments

/-- Whether an argument is given. -/
def has (given : GivenArguments) (name : ArgumentName) : Bool := (given.lookup name).isSome

/-- The number of an argument. -/
def number? (given : GivenArguments) (name : ArgumentName) : Option Int :=
  (given.lookup name).bind Text.integer?

/-- Add an argument, with the text that was found for it. -/
def add (given : GivenArguments) (name : ArgumentName) (text : Option String) :
    Except ArgumentStop GivenArguments :=
  match text with
  | none =>
    if !name.isSwitch then .error (.missingText name)
    else if given.has name then .error (.repeated name)
    else .ok (given ++ [(name, "")])
  | some text =>
    if given.has name then .error (.repeated name)
    else if name.isNumber ∧ (Text.integer? text).isNone then .error (.badNumber name text)
    else if name.isFile ∧ text = "" then .error (.missingText name)
    else .ok (given ++ [(name, text)])

end GivenArguments

/-- What was read of the words so far. -/
structure ArgumentReader where
  /-- Arguments that are complete. -/
  given : GivenArguments := []
  /-- The last argument with the text found for it, if it may still lack something. -/
  pending : Option (ArgumentName × Option String) := none
  deriving Inhabited

namespace ArgumentReader

/-- All arguments so far. -/
def settled (reader : ArgumentReader) : Except ArgumentStop GivenArguments :=
  match reader.pending with
  | none => .ok reader.given
  | some (name, text) => reader.given.add name text

/-- Read a name with the text in the same word. -/
def takeLong (reader : ArgumentReader) (word : String) (name : String) (text : Option String) :
    Except ArgumentStop ArgumentReader :=
  if name = "help" ∨ name = "version" then
    if text.isSome then .error (.surplusText name)
    else do
      let _ ← reader.settled
      throw (if name = "help" then .help else .version)
  else
    match ArgumentName.ofText? name with
    | none => .error (.unknown word)
    | some argument => do
      if argument.isSwitch ∧ text.isSome then throw (.surplusText name)
      let given ← reader.settled
      if argument.isSwitch ∨ text.isSome then return { given := ← given.add argument text }
      else return { given := given, pending := some (argument, none) }

/-- Read letters after one minus sign. Only those that ask for help or the version mean
something. -/
def takeShort (reader : ArgumentReader) (word : String) (letters : List Char) :
    Except ArgumentStop ArgumentReader :=
  match letters.head? with
  | some 'h' => do
    let _ ← reader.settled
    throw .help
  | some 'V' => do
    let _ ← reader.settled
    throw .version
  | _ => .error (.unknown word)

/-- Read a word that is no name. -/
def takeText (reader : ArgumentReader) (word : String) : Except ArgumentStop ArgumentReader :=
  match reader.pending with
  | some (name, none) => .ok { reader with pending := some (name, some word) }
  | _ => .error (.unknown word)

/-- Read words. Nothing may follow two minus signs. -/
def read (reader : ArgumentReader) : List String → Except ArgumentStop GivenArguments
  | [] => reader.settled
  | word :: rest =>
    match word.toList with
    | ['-', '-'] =>
      match rest with
      | [] => reader.settled
      | word :: _ => .error (.unknown word)
    | '-' :: '-' :: text => do
      let name : String := .ofList (text.takeWhile (· ≠ '='))
      let value := (text.dropWhile (· ≠ '=')).tail?
      (← reader.takeLong word name (value.map .ofList)).read rest
    | '-' :: c :: letters => do
      (← reader.takeShort word (c :: letters)).read rest
    | _ => do (← reader.takeText word).read rest

end ArgumentReader

/-- What the command is to do. -/
structure Arguments where
  /-- The alert. -/
  alertId : Int
  /-- Evaluate a configuration. -/
  preview : Bool := false
  /-- Evaluate changes to an alert. -/
  edit : Bool := false
  /-- The file of the configuration. -/
  yaml : Option String := none
  /-- The file of the saved configuration. -/
  savedYaml : Option String := none
  /-- The granularity. -/
  granularity : Option String := none
  /-- Explore dimensions. -/
  dimensionExploration : Bool := false
  /-- The start of the range. -/
  start : Option Int := none
  /-- The end of the range. -/
  stop : Option Int := none
  /-- The name of a range. -/
  preset : Option String := none
  /-- The baseline. -/
  baseline : Option String := none
  /-- Print over several lines. -/
  pretty : Bool := false
  deriving DecidableEq, Repr, Inhabited

namespace Arguments

/-- What is missing. Start and end need each other; an end needs no start beside a preset, which
excludes one. -/
def missing (given : GivenArguments) : List ArgumentName :=
  (if given.has .alertId then [] else [.alertId]) ++
    (if given.has .edit && !given.has .preview then [.preview] else []) ++
    (if given.has .stop && !given.has .start && !given.has .preset then [.start] else []) ++
    (if given.has .start && !given.has .stop then [.stop] else [])

/-- What given arguments ask for. -/
def ofGiven (given : GivenArguments) : Except ArgumentStop Arguments :=
  if given.has .preset && given.has .start then .error (.conflict .preset .start)
  else
    match missing given, given.number? .alertId with
    | [], some alertId => .ok {
        alertId := alertId
        preview := given.has .preview
        edit := given.has .edit
        yaml := given.lookup .yaml
        savedYaml := given.lookup .savedYaml
        granularity := given.lookup .granularity
        dimensionExploration := given.has .dimensionExploration
        start := given.number? .start
        stop := given.number? .stop
        preset := given.lookup .preset
        baseline := given.lookup .baseline
        pretty := given.has .pretty }
    | names, _ => .error (.required names)

/-- What words ask for. -/
def parse (words : List String) : Except ArgumentStop Arguments := do
  ofGiven (← ({} : ArgumentReader).read words)

end Arguments

end AlertDetail
