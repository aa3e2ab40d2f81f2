/-!
# JSON values

Values as they stand in a text: members keep their order and may repeat a key, and a whole number is
kept apart from a number written with a point or an exponent. Text that is well formed but has no
value (a number beyond the doubles, a string with half a surrogate pair) is `unreadable`; whoever
skips a value may skip it, whoever reads it fails.
-/

namespace AlertDetail

/-- A JSON value. -/
inductive Json where
  /-- The word `null`. -/
  | null
  /-- One of the two truth values. -/
  | bool (value : Bool)
  /-- A number written without point and exponent that fits in 64 bits. -/
  | int (value : Int)
  /-- Any other number in the range of the doubles. -/
  | float (value : Float)
  /-- A string. -/
  | str (value : String)
  /-- A list of values. -/
  | arr (items : List Json)
  /-- Members in the order of the text, repeated keys included. -/
  | obj (members : List (String × Json))
  /-- Well-formed text without a value. -/
  | unreadable

namespace Json

mutual

/-- The number of containers around the innermost value. -/
def depth : Json → Nat
  | .arr items => depthItems items + 1
  | .obj members => depthMembers members + 1
  | _ => 0

/-- The largest depth among the items. -/
def depthItems : List Json → Nat
  | [] => 0
  | item :: rest => max item.depth (depthItems rest)

/-- The largest depth among the values of the members. -/
def depthMembers : List (String × Json) → Nat
  | [] => 0
  | (_, value) :: rest => max value.depth (depthMembers rest)

end

mutual

/-- Whether every part of the value has a value. -/
def readable : Json → Bool
  | .unreadable => false
  | .arr items => readableItems items
  | .obj members => readableMembers members
  | _ => true

/-- Whether all items are readable. -/
def readableItems : List Json → Bool
  | [] => true
  | item :: rest => item.readable && readableItems rest

/-- Whether the values of all members are readable. -/
def readableMembers : List (String × Json) → Bool
  | [] => true
  | (_, value) :: rest => value.readable && readableMembers rest

end

/-- Set the value of a key: in place if the key is there, at the end otherwise. -/
def putMember (key : String) (value : Json) : List (String × Json) → List (String × Json)
  | [] => [(key, value)]
  | member :: rest =>
    if member.1 = key then (key, value) :: rest else member :: putMember key value rest

/-- Members with every key once: at its first place, with its last value. -/
def onceEach (members : List (String × Json)) : List (String × Json) :=
  members.foldl (fun done member => putMember member.1 member.2 done) []

mutual

/-- The value with every key of every object once. -/
def merged : Json → Json
  | .arr items => .arr (mergedItems items)
  | .obj members => .obj (onceEach (mergedMembers members))
  | value => value

/-- Each item merged. -/
def mergedItems : List Json → List Json
  | [] => []
  | item :: rest => item.merged :: mergedItems rest

/-- The value of each member merged. -/
def mergedMembers : List (String × Json) → List (String × Json)
  | [] => []
  | (key, value) :: rest => (key, value.merged) :: mergedMembers rest

end

/-- The last value of a key. -/
def member? (key : String) : Json → Option Json
  | .obj members => members.reverse.lookup key
  | _ => none

end Json

end AlertDetail
