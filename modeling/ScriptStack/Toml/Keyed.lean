/-!
Lists of named things, in the order in which the names were first used.
-/

namespace ScriptStack.Toml

/-- Changes the first thing with a name, or adds one at the end.  `change` is given the thing if
there is one, and may refuse. -/
def updateKey? {α : Type} (key : String) (change : Option α → Option α) :
    List (String × α) → Option (List (String × α))
  | [] => (change none).map fun new => [(key, new)]
  | (name, old) :: rest =>
      if name = key then (change (some old)).map fun new => (name, new) :: rest
      else (updateKey? key change rest).map fun rest => (name, old) :: rest

end ScriptStack.Toml
