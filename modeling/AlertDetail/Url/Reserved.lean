import AlertDetail.Text.Percent

/-!
# Reserved characters

Which characters are written out as bytes in the parts of a web address. What is not printable ASCII
is written out everywhere.
-/

namespace AlertDetail.Url

/-- Bytes that stay as they are where the listed characters are reserved. -/
def keeps (reserved : List Char) (byte : UInt8) : Bool :=
  0x20 ≤ byte && byte < 0x7F && !reserved.contains (Char.ofNat byte.toNat)

/-- Reserved in a fragment. -/
def fragmentReserved : List Char := [' ', '"', '<', '>', '\x60']

/-- Reserved in a path. -/
def pathReserved : List Char := fragmentReserved ++ ['#', '?', '\x7b', '\x7d']

/-- Reserved in user and password. -/
def userReserved : List Char :=
  pathReserved ++ ['/', ':', ';', '=', '@', '[', '\\', ']', '^', '|']

/-- Reserved in a query; where hosts are prescribed, the apostrophe is as well. -/
def queryReserved (special : Bool) : List Char :=
  [' ', '"', '#', '<', '>'] ++ if special then ['\''] else []

/-- A text with everything reserved written out. -/
def escapedText (reserved : List Char) (text : List Char) : String :=
  .ofList (Text.Percent.encode (keeps reserved) text)

end AlertDetail.Url
