import AlertDetail.Text.Form
import AlertDetail.Url.Host

/-!
# Web addresses

The parts of a web address, and its text. The parts hold the text as it is written, percent-encoded
where it has to be. A query can be extended by pairs of texts in form encoding, which leaves all
other parts alone.
-/

namespace AlertDetail

/-- The path of an address. -/
inductive UrlPath where
  /-- Segments, each after a slash. -/
  | segments (parts : List String)
  /-- A text without structure. -/
  | opaqueText (text : String)
  deriving DecidableEq, Repr, Inhabited

/-- The text of a path. -/
def UrlPath.text : UrlPath → String
  | segments parts => .join (parts.map ("/" ++ ·))
  | opaqueText text => text

/-- A web address. -/
structure Url where
  /-- The scheme, in lower case. -/
  scheme : String
  /-- The user, empty if none is named. -/
  user : String := ""
  /-- The password, empty if there is none. -/
  password : String := ""
  /-- The host. -/
  host : Option Host := none
  /-- The number of the service on the host, unless it is the usual one of the scheme. -/
  service : Option Nat := none
  /-- The path. -/
  path : UrlPath
  /-- What stands after the question mark. -/
  query : Option String := none
  /-- What stands after the number sign. -/
  fragment : Option String := none
  deriving DecidableEq, Repr, Inhabited

namespace Url

/-- The usual service of each scheme that prescribes hosts, if it has one. -/
def specialSchemes : List (String × Option Nat) :=
  [("http", some 80), ("https", some 443), ("ws", some 80), ("wss", some 443), ("ftp", some 21),
    ("file", none)]

/-- Whether a scheme prescribes hosts. -/
def isSpecial (scheme : String) : Bool := (specialSchemes.lookup scheme).isSome

/-- The usual service of a scheme. -/
def usualService? (scheme : String) : Option Nat := (specialSchemes.lookup scheme).join

/-- The path as text. -/
def pathText (url : Url) : String := url.path.text

/-- User and password before the host. -/
def credentialsText (url : Url) : String :=
  if url.user = "" ∧ url.password = "" then ""
  else url.user ++ (if url.password = "" then "" else ":" ++ url.password) ++ "@"

/-- Host and service. -/
def authorityText (url : Url) (host : Host) : String :=
  host.text ++ url.service.elim "" fun service => ":" ++ toString service

/-- What stands between scheme and path. A path that begins with two slashes is kept apart from a
host. -/
def leadText (url : Url) : String :=
  match url.host with
  | some host => "//" ++ url.credentialsText ++ url.authorityText host
  | none => if "//".isPrefixOf url.pathText then "/." else ""

/-- The query with its question mark. -/
def queryText (url : Url) : String := url.query.elim "" ("?" ++ ·)

/-- The whole address. -/
def text (url : Url) : String :=
  url.scheme ++ ":" ++ url.leadText ++ url.pathText ++ url.queryText ++
    url.fragment.elim "" ("#" ++ ·)

/-- What a request names of an address that it was sent to: path and query. -/
def target (url : Url) : String := url.pathText ++ url.queryText

/-- Whether user and password can be told as texts, and there is one to be told. -/
def hasCredentials (url : Url) : Bool :=
  match Text.Percent.decode? url.user.toList with
  | none => false
  | some user => !user.isEmpty ||
    (url.password != "" && (Text.Percent.decode? url.password.toList).isSome)

/-- The address without user and password. What is no text stays in the address. -/
def withoutCredentials (url : Url) : Url :=
  if url.hasCredentials then { url with user := "", password := "" } else url

/-- Scheme, host and service. -/
def origin (url : Url) : String :=
  url.scheme ++ "://" ++ url.host.elim "" url.authorityText

/-- Extend the query by pairs. -/
def extendQuery (query : Option String) (pairs : List (String × String)) : Option String :=
  match pairs with
  | [] => query
  | pairs =>
    let added : String := .ofList (Text.Form.encode pairs)
    match query with
    | none => some added
    | some query => some (if query = "" then added else query ++ "&" ++ added)

/-- The address with its query extended by pairs. -/
def withPairs (url : Url) (pairs : List (String × String)) : Url :=
  { url with query := extendQuery url.query pairs }

end Url

end AlertDetail
