import AlertDetail.Text.Ranges
import AlertDetail.Text.WordTable

/-!
# Letters and digits

Which characters count as letters or digits, in any script. Marks that letters are written with
count as well, and so do numbers that are no decimal digits.
-/

namespace AlertDetail.Text

/-- Whether a character is a letter or a number. -/
def isAlphanumeric (c : Char) : Bool := isAmong WordTable.alphanumeric c

/-- Every letter and digit of the ASCII range counts. -/
theorem isAlphanumeric_of_isAlphanum {c : Char} (h : c.isAlphanum = true) :
    isAlphanumeric c = true := by
  have cases : ((decide (0x41 ≤ c.toNat ∧ c.toNat ≤ 0x5A) || (0x61 ≤ c.toNat && c.toNat ≤ 0x7A)) ||
      (0x30 ≤ c.toNat && c.toNat ≤ 0x39)) = true := h
  simp only [Bool.or_eq_true, Bool.and_eq_true, decide_eq_true_eq] at cases
  refine inRanges_iff.mpr ?_
  rcases cases with (⟨low, high⟩ | ⟨low, high⟩) | ⟨low, high⟩
  · exact ⟨(0x41, 0x5A), .tail _ (.head _), low, high⟩
  · exact ⟨(0x61, 0x7A), .tail _ (.tail _ (.head _)), low, high⟩
  · exact ⟨(0x30, 0x39), .head _, low, high⟩

end AlertDetail.Text
