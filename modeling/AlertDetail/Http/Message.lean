import AlertDetail.Text.Blank
import AlertDetail.Url.Basic

/-!
# Requests and replies over the web

What is sent to a web address, and what comes back. A reply has a status, which is shown with the
reason that goes with it, and a text.
-/

namespace AlertDetail.Http

/-- What is to be done at an address. -/
inductive Method where
  /-- Look something up. -/
  | get
  /-- Hand something in. -/
  | post
  deriving DecidableEq, Repr, Inhabited

/-- The name of a method. -/
def Method.name : Method → String
  | get => "GET"
  | post => "POST"

/-- A request. -/
structure Request where
  /-- What is to be done. -/
  method : Method
  /-- Where. -/
  url : Url
  /-- The kind of text that is handed in, if any is. -/
  contentType : Option String := none
  /-- The text that is handed in. -/
  body : String := ""
  deriving DecidableEq, Repr, Inhabited

/-- Characters that a host may hold but no request may name. -/
def unnamable : List Char := ['"', '\x60', '\x7b', '\x7d']

/-- The most bytes of an address that a request can be sent to. -/
def longestAddress : Nat := 65534

/-- Whether a request can be sent: its address names a scheme of the web and a host, in a way that
requests can hold. -/
def Request.sendable (request : Request) : Bool :=
  (request.url.scheme == "http" || request.url.scheme == "https") &&
    request.url.host.any (fun host => !host.text.toList.any unnamable.contains) &&
    request.url.text.utf8ByteSize ≤ longestAddress

/-- A reply. -/
structure Reply where
  /-- The status. -/
  status : Nat
  /-- The text. -/
  body : String
  deriving DecidableEq, Repr, Inhabited

namespace Reply

/-- Whether the request succeeded. -/
def isSuccess (reply : Reply) : Bool := 200 ≤ reply.status && reply.status < 300

/-- Statuses that come without a text. -/
def bare : List Nat := [101, 204, 304]

/-- Whether a status only announces another one. -/
def isInterim (status : Nat) : Bool := 100 ≤ status && status < 200 && status != 101

/-- The reply with a status, if it can be one: statuses have three digits, and one that announces
another is no reply on its own. -/
def ofStatus? (status : Int) (body : String) : Option Reply :=
  if 100 ≤ status ∧ status ≤ 999 ∧ !isInterim status.toNat then some ⟨status.toNat, body⟩ else none

/-- The text that comes with a status. -/
def content (reply : Reply) : String := if bare.contains reply.status then "" else reply.body

/-- The reasons that go with statuses. -/
def reasons : List (Nat × String) := [
  (100, "Continue"), (101, "Switching Protocols"), (102, "Processing"), (103, "Early Hints"),
  (200, "OK"), (201, "Created"), (202, "Accepted"), (203, "Non Authoritative Information"),
  (204, "No Content"), (205, "Reset Content"), (206, "Partial Content"), (207, "Multi-Status"),
  (208, "Already Reported"), (226, "IM Used"),
  (300, "Multiple Choices"), (301, "Moved Permanently"), (302, "Found"), (303, "See Other"),
  (304, "Not Modified"), (305, "Use Proxy"), (307, "Temporary Redirect"),
  (308, "Permanent Redirect"),
  (400, "Bad Request"), (401, "Unauthorized"), (402, "Payment Required"), (403, "Forbidden"),
  (404, "Not Found"), (405, "Method Not Allowed"), (406, "Not Acceptable"),
  (407, "Proxy Authentication Required"), (408, "Request Timeout"), (409, "Conflict"),
  (410, "Gone"), (411, "Length Required"), (412, "Precondition Failed"),
  (413, "Payload Too Large"), (414, "URI Too Long"), (415, "Unsupported Media Type"),
  (416, "Range Not Satisfiable"), (417, "Expectation Failed"), (418, "I'm a teapot"),
  (421, "Misdirected Request"), (422, "Unprocessable Entity"), (423, "Locked"),
  (424, "Failed Dependency"), (425, "Too Early"), (426, "Upgrade Required"),
  (428, "Precondition Required"), (429, "Too Many Requests"),
  (431, "Request Header Fields Too Large"), (451, "Unavailable For Legal Reasons"),
  (500, "Internal Server Error"), (501, "Not Implemented"), (502, "Bad Gateway"),
  (503, "Service Unavailable"), (504, "Gateway Timeout"), (505, "HTTP Version Not Supported"),
  (506, "Variant Also Negotiates"), (507, "Insufficient Storage"), (508, "Loop Detected"),
  (510, "Not Extended"), (511, "Network Authentication Required")]

/-- The reason of a status. -/
def reason (reply : Reply) : String :=
  (reasons.lookup reply.status).getD "<unknown status code>"

/-- The status with its reason. -/
def statusText (reply : Reply) : String := toString reply.status ++ " " ++ reply.reason

end Reply

end AlertDetail.Http
