import AlertDetail.Domain.Basic
import AlertDetail.Text.Percent

/-!
# Hosts of web addresses

A host is a name, an address of four bytes, or an address of eight 16-bit groups in brackets. Names
are taken in the form in which they are looked up, and only then it shows whether they are
addresses. Where the scheme of an address does not prescribe a form of hosts, any text without
separators is one.
-/

namespace AlertDetail

/-- What makes a text no web address. -/
inductive UrlError where
  /-- There is no scheme. -/
  | relative
  /-- There is no host. -/
  | emptyHost
  /-- What follows the host after a colon is no number or too large. -/
  | invalidService
  /-- The host in brackets is no address. -/
  | invalidGroups
  /-- The host ends in a number but is no address. -/
  | invalidBytes
  /-- The host is no name that could be looked up. -/
  | invalidName
  /-- The host holds a character that no host without prescribed form holds. -/
  | invalidCharacter
  deriving DecidableEq, Repr, Inhabited

/-- The text shown for a fault. -/
def UrlError.message : UrlError → String
  | relative => "relative URL without a base"
  | emptyHost => "empty host"
  | invalidService => "invalid port number"
  | invalidGroups => "invalid IPv6 address"
  | invalidBytes => "invalid IPv4 address"
  | invalidName => "invalid international domain name"
  | invalidCharacter => "invalid domain character"

/-- A host. -/
inductive Host where
  /-- A name. -/
  | name (label : String)
  /-- An address of four bytes, as one number. -/
  | bytes (address : Nat)
  /-- An address of eight groups. -/
  | groups (values : List Nat)
  deriving DecidableEq, Repr, Inhabited

namespace Host

/-- Value of a digit in a base up to sixteen. -/
def digit? (base : Nat) (c : Char) : Option Nat :=
  ((Text.Percent.digit? (UInt8.ofNat c.toNat)).map (·.toNat)).filter
    fun value => c.toNat < 0x80 && value < base

/-- The number that digits of a base write, zero for none. -/
def number? (base : Nat) (digits : List Char) : Option Nat :=
  digits.foldlM (fun n c => (n * base + ·) <$> digit? base c) 0

/-- A part of an address of bytes: hexadecimal after `0x`, octal after a zero, otherwise decimal. -/
def part? : List Char → Option Nat
  | [] => none
  | '0' :: 'x' :: digits => number? 16 digits
  | '0' :: 'X' :: digits => number? 16 digits
  | '0' :: d :: digits => number? 8 (d :: digits)
  | digits => number? 10 digits

/-- The parts between the dots; a dot at the end does not count. -/
def parts (text : List Char) : List (List Char) :=
  let parts := Text.pieces '.' text
  if parts.getLast? = some [] then parts.dropLast else parts

/-- Whether a name must be an address because its last part is a number. -/
def endsInNumber (text : List Char) : Bool :=
  match (parts text).getLast? with
  | none => false
  | some last => (!last.isEmpty && last.all Char.isDigit) || (part? last).isSome

/-- An address of bytes: at most four parts, of which the last fills all bytes that are left. -/
def bytes? (text : List Char) : Option Nat := do
  let numbers ← (parts text).mapM part?
  let last ← numbers.getLast?
  let first := numbers.dropLast
  if numbers.length ≤ 4 ∧ first.all (· < 256) ∧ last < Nat.pow 256 (4 - first.length) then
    some (first.zipIdx.foldl (fun sum (n, place) => sum + n * Nat.pow 256 (3 - place)) last)
  else none

/-- A group of an address: one to four hexadecimal digits. -/
def group? (text : List Char) : Option Nat :=
  if text.isEmpty ∨ 4 < text.length then none else number? 16 text

/-- A byte in decimal digits, without zeros in front. -/
def byte? (text : List Char) : Option Nat :=
  if text.isEmpty ∨ (text.head? = some '0' ∧ text.length ≠ 1) then none
  else (number? 10 text).filter (· < 256)

/-- The last two groups written as four bytes. -/
def dotted? (text : List Char) : Option (List Nat) :=
  match (Text.pieces '.' text).mapM byte? with
  | some [a, b, c, d] => some [a * 256 + b, c * 256 + d]
  | _ => none

/-- Groups between colons; the last may be written as bytes if `final`. -/
def someGroups? (final : Bool) (text : List Char) : Option (List Nat) :=
  if text.isEmpty then some []
  else do
    let pieces := Text.pieces ':' text
    let last ← pieces.getLast?
    let first ← pieces.dropLast.mapM group?
    let rest ← if final && last.contains '.' then dotted? last else (group? last).map ([·])
    return first ++ rest

/-- The text before and after the first two colons in a row, if there are any. -/
def splitDouble? : List Char → Option (List Char × List Char)
  | ':' :: ':' :: rest => some ([], rest)
  | c :: rest => (splitDouble? rest).map fun (before, after) => (c :: before, after)
  | [] => none

/-- An address of groups. Two colons in a row stand for one or more groups that are zero. -/
def groups? (text : List Char) : Option (List Nat) :=
  match splitDouble? text with
  | none => (someGroups? true text).filter (·.length = 8)
  | some (before, after) => do
    let front ← someGroups? false before
    let back ← someGroups? true after
    if front.length + back.length ≤ 7 then
      some (front ++ List.replicate (8 - front.length - back.length) 0 ++ back)
    else none

/-- The host of a text in brackets. -/
def bracketed? (text : List Char) : Option (Except UrlError Host) :=
  match text with
  | '[' :: rest =>
    some <| match rest.reverse with
      | ']' :: inner =>
        match groups? inner.reverse with
        | some values => .ok (.groups values)
        | none => .error .invalidGroups
      | _ => .error .invalidGroups
  | _ => none

/-- The host of an address whose scheme prescribes hosts. -/
def parse (text : List Char) : Except UrlError Host :=
  match bracketed? text with
  | some host => host
  | none =>
    match (Text.Percent.decode? text).bind Domain.ascii? with
    | none => .error .invalidName
    | some label =>
      if label.isEmpty then .error .emptyHost
      else if endsInNumber label then
        match bytes? label with
        | some address => .ok (.bytes address)
        | none => .error .invalidBytes
      else .ok (.name (.ofList label))

/-- Bytes of a host without prescribed form that are kept as they are. -/
def keepsOpaque (byte : UInt8) : Bool := 0x20 ≤ byte && byte < 0x7F

/-- The host of an address whose scheme prescribes none. -/
def parseOpaque (text : List Char) : Except UrlError Host :=
  match bracketed? text with
  | some host => host
  | none =>
    if text.any fun c => c.toNat = 0 || Domain.separators.contains c then
      .error .invalidCharacter
    else .ok (.name (.ofList (Text.Percent.encode keepsOpaque text)))

/-- The longest run of zeros in a list, the first of several: where it begins and how long it is.
`here` is the run that ends before the rest of the list. -/
def longestZeros (place here : Nat) : List Nat → Nat × Nat
  | [] => (place - here, here)
  | 0 :: rest => longestZeros (place + 1) (here + 1) rest
  | _ :: rest =>
    let later := longestZeros (place + 1) 0 rest
    if here < later.2 then later else (place - here, here)

/-- A number in small hexadecimal digits. -/
def hexText (n : Nat) : String := .ofList (Nat.toDigits 16 n)

/-- The text of an address of groups: the longest run of at least two zeros is left out. -/
def groupsText (values : List Nat) : String :=
  let (start, length) := longestZeros 0 0 values
  let texts := values.map hexText
  if length < 2 then Text.joined ":" texts
  else Text.joined ":" (texts.take start) ++ "::" ++ Text.joined ":" (texts.drop (start + length))

/-- The text of a host. -/
def text : Host → String
  | name label => label
  | bytes address =>
    Text.joined "." ([3, 2, 1, 0].map fun place => toString (address / Nat.pow 256 place % 256))
  | groups values => "[" ++ groupsText values ++ "]"

end Host

end AlertDetail
