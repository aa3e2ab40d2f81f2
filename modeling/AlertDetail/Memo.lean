/-!
# Remembered values

A value that is kept together with the key that it was computed for, and computed again only when it
is asked for under another key. Only the last key is remembered. Computing a value may do more than
give it, and whatever it does is done exactly when it is computed.
-/

namespace AlertDetail

/-- A remembered value. -/
structure Memo (κ α : Type) where
  /-- The last key with its value. -/
  entry : Option (κ × α) := none
  /-- How often a value was computed. -/
  computations : Nat := 0
  deriving Inhabited

namespace Memo

variable {κ α : Type} {memo : Memo κ α} {key : κ} {value : α}

/-- The memo after a value was computed: it takes the place of the last one. -/
def remember (memo : Memo κ α) (key : κ) (value : α) : Memo κ α :=
  ⟨some (key, value), memo.computations + 1⟩

@[simp] theorem computations_remember (memo : Memo κ α) (key : κ) (value : α) :
    (memo.remember key value).computations = memo.computations + 1 := rfl

variable [BEq κ]

/-- The remembered value of a key. -/
def held? (memo : Memo κ α) (key : κ) : Option α :=
  match memo.entry with
  | some (last, value) => if last == key then some value else none
  | none => none

theorem held?_eq_some :
    memo.held? key = some value ↔ ∃ last, memo.entry = some (last, value) ∧ last == key := by
  unfold held?
  cases memo.entry with
  | none => simp
  | some entry =>
    obtain ⟨last, remembered⟩ := entry
    simp only [Option.ite_none_right_eq_some, Option.some.injEq, Prod.mk.injEq]
    constructor
    · rintro ⟨hsame, rfl⟩
      exact ⟨last, ⟨rfl, rfl⟩, hsame⟩
    · rintro ⟨_, ⟨rfl, rfl⟩, hsame⟩
      exact ⟨hsame, rfl⟩

theorem held?_remember (memo : Memo κ α) (key next : κ) (value : α) :
    (memo.remember key value).held? next = if key == next then some value else none := rfl

section

variable {m : Type → Type} [Monad m]

/-- The value of a key, and the memo after it was asked for. What computes the value is carried out
only if none is remembered. -/
def getM (memo : Memo κ α) (key : κ) (compute : Unit → m α) : m (α × Memo κ α) :=
  match memo.held? key with
  | some value => pure (value, memo)
  | none => do
    let value ← compute ()
    return (value, memo.remember key value)

theorem getM_of_held (h : memo.held? key = some value) (compute : Unit → m α) :
    memo.getM key compute = pure (value, memo) := by
  simp only [getM, h]

theorem getM_of_not_held (h : memo.held? key = none) (compute : Unit → m α) :
    memo.getM key compute = do
      let value ← compute ()
      return (value, memo.remember key value) := by
  simp only [getM, h]

end

/-- The value of a key, and the memo after it was asked for, where computing does nothing else. -/
def get (memo : Memo κ α) (key : κ) (compute : Unit → α) : α × Memo κ α :=
  Id.run (memo.getM key fun _ => pure (compute ()))

theorem get_of_held (h : memo.held? key = some value) (compute : Unit → α) :
    memo.get key compute = (value, memo) := by
  rw [get, getM_of_held h, Id.run_pure]

theorem get_of_not_held (h : memo.held? key = none) (compute : Unit → α) :
    memo.get key compute = (compute (), memo.remember key (compute ())) := by
  rw [get, getM_of_not_held h, pure_bind, Id.run_pure]

end Memo

end AlertDetail
