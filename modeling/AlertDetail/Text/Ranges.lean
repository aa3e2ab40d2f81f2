/-!
# Ranges of characters

Classes of characters as lists of inclusive ranges of code points. The lists themselves stand in the
modules of tables.
-/

namespace AlertDetail.Text

/-- Whether a code point lies in one of some inclusive ranges. -/
def inRanges (ranges : List (Nat × Nat)) (point : Nat) : Bool :=
  ranges.any fun (first, last) => first ≤ point && point ≤ last

/-- Whether a character belongs to a class. -/
def isAmong (ranges : List (Nat × Nat)) (c : Char) : Bool := inRanges ranges c.toNat

theorem inRanges_iff {ranges : List (Nat × Nat)} {point : Nat} :
    inRanges ranges point = true ↔ ∃ range ∈ ranges, range.1 ≤ point ∧ point ≤ range.2 := by
  simp [inRanges]

end AlertDetail.Text
