import AlertDetail.Text.Blank

/-!
# Environments

Named texts that a process is started with. A name has at most one text; a text may be empty, and it
counts as a setting only if something is left of it without the blanks around it. A name itself
holds no equals sign, since one stands between name and text.
-/

namespace AlertDetail

/-- Texts by name; of two with one name the first counts. -/
abbrev Environment := List (String × String)

namespace Environment

/-- The text of a name. Where an equals sign is asked for, the text before it is the name and its
text must go on as asked; what follows there after another equals sign is found. -/
def get? (environment : Environment) (name : String) : Option String :=
  match name.toList.dropWhile (· ≠ '=') with
  | [] => environment.lookup name
  | _ :: asked => do
    let text ← environment.lookup (.ofList (name.toList.takeWhile (· ≠ '=')))
    if (asked ++ ['=']).isPrefixOf text.toList then
      some (.ofList (text.toList.drop (asked.length + 1)))
    else none

/-- The text of a name, empty if it has none. -/
def text (environment : Environment) (name : String) : String := (environment.get? name).getD ""

/-- The setting of a name: its text without blanks around it, unless nothing is left. -/
def setting? (environment : Environment) (name : String) : Option String :=
  ((environment.get? name).map Text.trim).filter (· ≠ "")

/-- Give a name a text unless it has one. -/
def supply (environment : Environment) (name text : String) : Environment :=
  if (environment.get? name).isSome then environment else environment ++ [(name, text)]

theorem get?_eq_lookup {name : String} (plain : '=' ∉ name.toList) (environment : Environment) :
    environment.get? name = environment.lookup name := by
  have none_left : ∀ text : List Char, '=' ∉ text → text.dropWhile (· ≠ '=') = [] := by
    intro text absent
    induction text with
    | nil => rfl
    | cons c rest ih =>
      simp only [List.mem_cons, not_or] at absent
      simpa [Ne.symm absent.1] using ih absent.2
  unfold get?
  rw [none_left _ plain]

theorem get?_supply_of_isSome {environment : Environment} {name : String}
    (given : (environment.get? name).isSome) (text : String) :
    environment.supply name text = environment := by
  simp [supply, given]

end Environment

end AlertDetail
