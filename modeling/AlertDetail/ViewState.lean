/-!
# View states

Which of the two sets of anomalies a fetched result goes to. The state is never stored: it follows
from the mode of the view and from what the two sets hold.
-/

namespace AlertDetail

/-- What happens to a fetched set of anomalies. -/
inductive ViewState where
  /-- It becomes the old set. -/
  | baseline
  /-- It becomes the new set. -/
  | replace
  /-- The new set becomes the old one, and the fetched set becomes the new one. -/
  | shuffle
  /-- It becomes the old set as the reference of a draft, whose evaluation comes next. -/
  | bootstrap
  /-- Nothing: the last fetch failed. -/
  | errored
  deriving DecidableEq, Repr, Inhabited

namespace ViewState

/-- The name of a state. -/
def name : ViewState → String
  | baseline => "baseline"
  | replace => "replace"
  | shuffle => "shuffle"
  | bootstrap => "bootstrap"
  | errored => "errored"

/-- Every state. -/
def all : List ViewState := [baseline, replace, shuffle, bootstrap, errored]

/-- The state with a name. -/
def ofName? (name : String) : Option ViewState := all.find? (·.name = name)

theorem mem_all (state : ViewState) : state ∈ all := by
  cases state <;> decide

/-- What the view state follows from. -/
structure Inputs where
  /-- The view evaluates a draft. -/
  preview : Bool
  /-- The draft changes an alert that exists. -/
  edit : Bool
  /-- The old set is not empty. -/
  hasOld : Bool
  /-- The new set is not empty. -/
  hasNew : Bool
  /-- The last fetch failed. -/
  errored : Bool
  deriving DecidableEq, Repr, Inhabited

/-- The view state. A draft of a new alert fills the old set first. -/
def resolve (inputs : Inputs) : ViewState :=
  if inputs.errored then .errored
  else if !inputs.preview then .baseline
  else if inputs.hasOld then
    if inputs.edit || !inputs.hasNew then .replace else .shuffle
  else if inputs.edit then .bootstrap
  else .baseline

end ViewState

end AlertDetail
