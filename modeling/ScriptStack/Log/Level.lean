/-!
Levels of log messages, from the most to the least urgent.
-/

namespace ScriptStack.Log

/-- How urgent a message is. -/
inductive Level where
  | error
  | warn
  | info
  | debug
  | trace
  deriving DecidableEq, Repr

namespace Level

/-- The levels, the most urgent first. -/
def all : List Level := [.error, .warn, .info, .debug, .trace]

/-- The place of a level in the order, from 1 for `error` to 5 for `trace`. -/
def rank : Level → Nat
  | .error => 1
  | .warn => 2
  | .info => 3
  | .debug => 4
  | .trace => 5

/-- The name of a level in capitals. -/
def name : Level → String
  | .error => "ERROR"
  | .warn => "WARN"
  | .info => "INFO"
  | .debug => "DEBUG"
  | .trace => "TRACE"

/-- The name of a level with one capital. -/
def title : Level → String
  | .error => "Error"
  | .warn => "Warn"
  | .info => "Info"
  | .debug => "Debug"
  | .trace => "Trace"

/-- The level with a name in any mix of ASCII capitals and small letters. -/
def ofName? (text : String) : Option Level :=
  all.find? fun level => level.name.toList == text.toList.map Char.toUpper

/-- The next less urgent level; nothing lies below `trace`. -/
def moreVerbose : Level → Level
  | .error => .warn
  | .warn => .info
  | .info => .debug
  | .debug => .trace
  | .trace => .trace

/-- The level reached from this one in a number of steps. -/
def raise (level : Level) : Nat → Level
  | 0 => level
  | steps + 1 => (level.raise steps).moreVerbose

end Level

end ScriptStack.Log
