import AlertDetail.Error
import AlertDetail.Text.Blank
import AlertDetail.Text.Case

/-!
# Baseline offsets

What a metric is compared with: itself some weeks ago, an aggregate of the last four weeks, the
prediction of a detector, or nothing.
-/

namespace AlertDetail

/-- What a series is taken from. -/
inductive Offset where
  | current
  | wo1w
  | wo2w
  | wo3w
  | wo4w
  | mean4w
  | median4w
  | min4w
  | max4w
  | predicted
  | none
  deriving DecidableEq, Repr, Inhabited

namespace Offset

/-- The name of an offset in requests and answers. -/
def name : Offset → String
  | current => "current"
  | wo1w => "wo1w"
  | wo2w => "wo2w"
  | wo3w => "wo3w"
  | wo4w => "wo4w"
  | mean4w => "mean4w"
  | median4w => "median4w"
  | min4w => "min4w"
  | max4w => "max4w"
  | predicted => "predicted"
  | none => "none"

/-- Every offset. -/
def all : List Offset :=
  [current, wo1w, wo2w, wo3w, wo4w, mean4w, median4w, min4w, max4w, predicted, none]

/-- Offsets offered for comparison, in the order shown. -/
def comparisons : List Offset :=
  [wo1w, wo2w, wo3w, wo4w, mean4w, median4w, min4w, max4w, none]

/-- The offset with a name. -/
def ofName? (name : String) : Option Offset := all.find? (·.name = name)

/-- The offset that a user typed: blanks around it and case do not matter. -/
def parse (typed : String) : Except ChartError Offset :=
  let name := Text.lower (Text.trim typed)
  match ofName? name with
  | some offset => .ok offset
  | .none => .error (.validation ("unknown offset " ++ name))

theorem mem_all (offset : Offset) : offset ∈ all := by
  cases offset <;> decide

theorem name_injective {a b : Offset} (h : a.name = b.name) : a = b := by
  cases a <;> cases b <;> first | rfl | exact absurd h (by decide)

end Offset

end AlertDetail
