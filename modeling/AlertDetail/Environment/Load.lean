import AlertDetail.Environment.Assignment
import AlertDetail.Environment.Basic

/-!
# Loading an environment file

The names that a file gives texts to are added to an environment, except those that have one. Of two
lines for one name the first counts. A line that cannot be read ends the loading; the lines before
it are kept.
-/

namespace AlertDetail.Environment

/-- The text that a line gives, where names stand for their texts in the environment. A number sign
in front leaves it empty. -/
def assigned? (environment : Environment) (written : List Char) : Option String :=
  if written.head? = some '#' then some ""
  else .ofList <$>
    value? (fun name => (environment.text (.ofList name)).toList) .plain written

/-- Load lines. -/
def loadLines (environment : Environment) : List (Option (List Char)) → Environment
  | [] => environment
  | line :: rest =>
    match line.bind Line.parse? with
    | none => environment
    | some .empty => environment.loadLines rest
    | some (.assignment name written) =>
      match environment.assigned? written with
      | none => environment
      | some text => (environment.supply name text).loadLines rest

/-- Load a file. -/
def load (environment : Environment) (file : String) : Environment :=
  environment.loadLines (lines file)

end AlertDetail.Environment
