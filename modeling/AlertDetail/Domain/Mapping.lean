import AlertDetail.Domain.MappingTable
import AlertDetail.Text.Ranges

/-!
# Characters of domain names

What becomes of each character of a domain name before it is looked up: capitals become small
letters, variants of a character become that character, some are dropped and some must not occur.
-/

namespace AlertDetail.Domain

/-- The character that one of a span stands for. -/
def MappingTable.Span.target? (span : Span) (point : Nat) : Option Char :=
  if span.first ≤ point ∧ (point - span.first) % span.stride = 0 then
    span.targets.toList[(point - span.first) / span.stride]?
  else none

/-- The text that a code point stands for, given those of it and its neighbours from the first one
on. -/
def textAt? (point : Nat) : Nat × List String → Option String
  | (first, texts) => if first ≤ point then texts[point - first]? else none

/-- The characters that one becomes, none if it must not occur. -/
def mapped? (c : Char) : Option (List Char) :=
  let point := c.toNat
  if point < 0x80 then some [c.toLower]
  else if Text.isAmong MappingTable.dropped c then some []
  else if Text.isAmong MappingTable.refused c then none
  else
    match MappingTable.spans.findSome? (·.target? point) with
    | some target => some [target]
    | none =>
      some (((MappingTable.texts.findSome? (textAt? point)).map (·.toList)).getD [c])

/-- Whether a character stands for itself. -/
def standsForItself (c : Char) : Bool := mapped? c == some [c]

/-- Characters that set parts of an address apart. -/
def separators : List Char :=
  [' ', '#', '/', ':', '<', '>', '?', '@', '[', '\\', ']', '^', '|']

/-- Whether a character of the ASCII range may stand in a domain name. -/
def isPlain (c : Char) : Bool :=
  0x20 < c.toNat && c.toNat < 0x7F && c != '%' && !separators.contains c

/-- Whether a character may stand in a domain name after all have become what they become. -/
def isAllowed (c : Char) : Bool := 0x80 ≤ c.toNat || isPlain c

end AlertDetail.Domain
