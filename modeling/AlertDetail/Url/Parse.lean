import AlertDetail.Url.Path

/-!
# Reading web addresses

How a text is taken apart: blanks around it and line breaks inside are dropped, the scheme decides
whether a host is prescribed, and what stands in path, query and fragment is percent-encoded where
necessary. Only whole addresses are read.
-/

namespace AlertDetail.Url

/-- Drop what counts for nothing: control characters and spaces at the ends, tabs and line breaks
everywhere. -/
def cleaned (text : List Char) : List Char :=
  let isEdge (c : Char) : Bool := c.toNat ≤ 0x20
  let trimmed := ((text.dropWhile isEdge).reverse.dropWhile isEdge).reverse
  trimmed.filter fun c => c ≠ '\t' && c ≠ '\n' && c ≠ '\r'

/-- Whether a character may stand in a scheme. -/
def isSchemeChar (c : Char) : Bool := c.isAlphanum || c == '+' || c == '-' || c == '.'

/-- The scheme and what follows its colon. -/
def scheme? (text : List Char) : Option (String × List Char) :=
  if text.head?.any Char.isAlpha then
    match text.dropWhile isSchemeChar with
    | ':' :: rest => some (.ofList ((text.takeWhile isSchemeChar).map Char.toLower), rest)
    | _ => none
  else none

/-- Everything before the query and the fragment, the query and the fragment. -/
def splitTail (text : List Char) : List Char × Option (List Char) × Option (List Char) :=
  let body := text.takeWhile (· ≠ '#')
  let path := body.takeWhile (· ≠ '?')
  (path, (body.drop path.length).tail?, (text.drop body.length).tail?)

/-- User and password, and what follows the last at sign. -/
def splitUser? (text : List Char) : Option (List Char × List Char) :=
  let host := (text.reverse.takeWhile (· ≠ '@')).reverse
  if host.length = text.length then none
  else some (text.take (text.length - host.length - 1), host)

/-- The host, and what follows the colon after it; colons in brackets belong to the host. -/
def splitService : (inBrackets : Bool) → List Char → List Char × Option (List Char)
  | _, [] => ([], none)
  | inBrackets, c :: rest =>
    if c = ':' ∧ !inBrackets then ([], some rest)
    else
      let inside := if c = '[' then true else if c = ']' then false else inBrackets
      let (host, service) := splitService inside rest
      (c :: host, service)

/-- The service that digits number; none if there are none or it is the usual one. -/
def serviceOf (scheme : String) (digits : List Char) : Except UrlError (Option Nat) :=
  match Host.number? 10 digits with
  | some service =>
    if 65535 < service then .error .invalidService
    else .ok (if digits.isEmpty ∨ usualService? scheme = some service then none else some service)
  | none => .error .invalidService

/-- The host of a text, none if it is empty. -/
def hostOf (scheme : String) (text : List Char) : Except UrlError Host :=
  if isSpecial scheme then
    if text.isEmpty then .error .emptyHost else Host.parse text
  else Host.parseOpaque text

/-- An address between its scheme and its query, after the two slashes. `last` tells whether nothing
follows. Where no host is prescribed, a backslash after the service begins the path. -/
def afterSlashes (scheme : String) (text : List Char) (last : Bool) : Except UrlError Url := do
  let special := isSpecial scheme
  let authority := text.takeWhile (!isSlash special ·)
  let path := text.drop authority.length
  let (user, hostAndService) := (splitUser? authority).getD ([], authority)
  let (hostText, serviceText) := splitService false hostAndService
  let digits := (serviceText.getD []).takeWhile Char.isDigit
  let rest := (serviceText.getD []).drop digits.length
  let url : Url := {
    scheme := scheme
    user := escapedText userReserved (user.takeWhile (· ≠ ':'))
    password := escapedText userReserved ((user.dropWhile (· ≠ ':')).drop 1)
    path := .segments (
      if rest.isEmpty then
        if path.isEmpty ∧ !special then [] else segmentsOf special (path.drop 1)
      else segmentsOf special (rest ++ path)) }
  if authority = ['@'] ∧ !(path.isEmpty ∧ last) then throw .emptyHost
  let host ← hostOf scheme hostText
  if hostText.isEmpty ∧ serviceText.isSome then throw .emptyHost
  let service ← serviceOf scheme digits
  if !rest.isEmpty ∧ rest.head? ≠ some '\\' then throw .invalidService
  if hostText.isEmpty ∧ url.credentialsText ≠ "" then throw .emptyHost
  return { url with host := some host, service := service }

/-- The address of a file on a host. A drive belongs to no host. -/
def fileOn (host : Host) (text : List Char) : Url :=
  let segments := segmentsOf true text
  match onDrive? segments with
  | some segments => { scheme := "file", host := some (.name ""), path := .segments segments }
  | none =>
    { scheme := "file", host := some host, path := .segments (withoutLeadingEmpty segments) }

/-- The address of a file between its scheme and its query. The machine itself is no host, and a
drive is none either. -/
def file (text : List Char) : Except UrlError Url :=
  let slash := isSlash true
  match text with
  | a :: b :: rest =>
    if slash a && slash b then do
      let hostText := rest.takeWhile (!slash ·)
      if isDrive hostText then return fileOn (.name "") rest
      let path := rest.drop hostText.length
      let host ← if hostText.isEmpty then pure (Host.name "") else Host.parse hostText
      if host = .name "" ∨ host = .name "localhost" then return fileOn (.name "") path
      else return fileOn host (path.drop 1)
    else return fileHere text
  | text => return fileHere text
where
  /-- The address of a file on the machine itself. -/
  fileHere (text : List Char) : Url :=
    fileOn (.name "") (if text.head?.any (isSlash true) then text.drop 1 else text)

/-- An address between its scheme and its query. `last` tells whether nothing follows. -/
def body (scheme : String) (text : List Char) (last : Bool) : Except UrlError Url :=
  if scheme = "file" then file text
  else if isSpecial scheme then afterSlashes scheme (text.dropWhile (isSlash true)) last
  else match text with
    | '/' :: '/' :: rest => afterSlashes scheme rest last
    | '/' :: rest => .ok { scheme := scheme, path := .segments (segmentsOf false rest) }
    | text => .ok { scheme := scheme, path := .opaqueText (escapedText [] text) }

/-- An address after its scheme. -/
def afterScheme (scheme : String) (text : List Char) : Except UrlError Url := do
  let (text, query, fragment) := splitTail text
  let url ← body scheme text (query.isNone && fragment.isNone)
  return { url with
    query := query.map (escapedText (queryReserved (isSpecial scheme)))
    fragment := fragment.map (escapedText fragmentReserved) }

/-- The address of a text. -/
def parse (text : String) : Except UrlError Url :=
  match scheme? (cleaned text.toList) with
  | some (scheme, rest) => afterScheme scheme rest
  | none => .error .relative

end AlertDetail.Url
