import ScriptStack.Log.Level
/-!
The settings of the tool.
-/

namespace ScriptStack

structure Settings where
  /-- The least urgent level that is shown. -/
  logLevel : Log.Level
  /-- Whether a number that is not in its shortest form is warned of. -/
  warnNonMinimal : Bool
  deriving DecidableEq, Repr

namespace Settings

/-- The settings where nothing is set. -/
def default : Settings := ⟨.warn, true⟩

def describe (settings : Settings) : String :=
  "Config \x7b log_level: " ++ settings.logLevel.title ++ ", warn_non_minimal: " ++
    (if settings.warnNonMinimal then "true" else "false") ++ " \x7d"

/-- The settings with the level lowered in urgency by a number of steps. -/
def moreVerbose (settings : Settings) (steps : Nat) : Settings :=
  { settings with logLevel := settings.logLevel.raise steps }

end Settings

end ScriptStack
