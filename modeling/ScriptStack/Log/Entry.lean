import ScriptStack.Log.Level
/-!
Log messages and the lines that show them.
-/

namespace ScriptStack.Log

/-- A message and how urgent it is. -/
structure Entry where
  level : Level
  text : String
  deriving DecidableEq, Repr

/-- Whether a message is urgent enough to be shown at a level. -/
def Entry.shownAt (threshold : Level) (entry : Entry) : Bool :=
  entry.level.rank ≤ threshold.rank

/-- The messages that are shown at a level. -/
def shown (threshold : Level) (entries : List Entry) : List Entry :=
  entries.filter (Entry.shownAt threshold)

/-- The line for a message: the level in five columns, the source in brackets, the text. -/
def Entry.line (entry : Entry) : String :=
  String.ofList (entry.level.name.toList.rightpad 5 ' ') ++ " [bitcrust_script] " ++ entry.text

end ScriptStack.Log
