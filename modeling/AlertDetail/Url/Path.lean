import AlertDetail.Url.Basic
import AlertDetail.Url.Reserved

/-!
# Paths of web addresses

How the text of a path becomes segments. One dot stands for the segment it is in, and two dots leave
the segment before, unless that one begins with the letter of a drive. In the path of a file, a
drive at the beginning is written with a colon, and empty segments at the beginning do not count.
-/

namespace AlertDetail.Url

/-- Whether a segment stands for the one it is in. -/
def isSingleDot (segment : String) : Bool :=
  [".", "%2e", "%2E"].contains segment

/-- Whether a segment stands for the one before. -/
def isDoubleDot (segment : String) : Bool :=
  ["..", ".%2e", ".%2E", "%2e.", "%2E.", "%2e%2e", "%2e%2E", "%2E%2e", "%2E%2E"].contains segment

/-- What follows the letter of a drive and the colon or bar after it. -/
def afterDrive? : List Char → Option (List Char)
  | letter :: mark :: rest =>
    if letter.isAlpha ∧ (mark = ':' ∨ mark = '|') then some rest else none
  | _ => none

/-- Whether a text names a drive. -/
def isDrive (text : List Char) : Bool := afterDrive? text == some []

/-- Whether two dots do not leave a segment: it names a drive, or goes on with a backslash
after it. -/
def isHeld (segment : String) : Bool :=
  (afterDrive? segment.toList).any fun rest => rest.head?.all (· = '\\')

/-- What two dots leave of segments, of which the last stands first. -/
def leave (before : List String) : List String :=
  if before.head?.any isHeld then before else before.tail

/-- Put segments after those before them, of which the last stands first. A dot segment at the end
leaves an empty segment there. -/
def resolve (before : List String) : List String → List String
  | [] => before.reverse
  | segment :: rest =>
    let last := rest.isEmpty
    if isDoubleDot segment then resolve (if last then "" :: leave before else leave before) rest
    else if isSingleDot segment then resolve (if last then "" :: before else before) rest
    else resolve (segment :: before) rest

/-- Whether a character ends a part of the path. -/
def isSlash (special : Bool) (c : Char) : Bool := c == '/' || (special && c == '\\')

/-- The segments of a text after its first slash. -/
def segmentsOf (special : Bool) (text : List Char) : List String :=
  let slashed := if special then text.map fun c => if c = '\\' then '/' else c else text
  resolve [] ((Text.pieces '/' slashed).map (escapedText pathReserved))

/-- Segments that begin with a drive, which is written with a colon. -/
def onDrive? : List String → Option (List String)
  | drive :: rest =>
    if isDrive drive.toList then some (.ofList (drive.toList.take 1 ++ [':']) :: rest) else none
  | [] => none

/-- Segments without the empty ones at the beginning. One segment is left at least. -/
def withoutLeadingEmpty (segments : List String) : List String :=
  let rest := segments.dropWhile (· = "")
  if rest.isEmpty then [""] else rest

end AlertDetail.Url
