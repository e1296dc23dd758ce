import ScriptStack.Files.Error
import ScriptStack.Settings.Basic
import ScriptStack.Text.Quoted
import ScriptStack.Toml.Layout
/-!
What a settings file sets.  Both settings may be left out; the level is a name that is looked up
only when the overrides are applied.
-/

namespace ScriptStack.Settings

/-- The settings that a file may hold. -/
structure Overrides where
  logLevel : Option String
  warnNonMinimal : Option Bool
  deriving DecidableEq, Repr

/-- Where settings are taken from. -/
structure Source where
  reader : Files.Reader
  /-- What is wrong with a text that holds no settings, in the words of the reader of its format. -/
  explain : String → String

/-- Why there are no settings. -/
inductive Error where
  /-- The file cannot be read. -/
  | unreadable (reason : Files.Error)
  /-- The file is not TOML, or a setting has the wrong type, as the reader of the format tells. -/
  | invalidFile (reason : String)
  /-- No level has this name. -/
  | unknownLevel (name : String)
  deriving DecidableEq, Repr

/-- The wording of a name that no level has, for any choice of the characters that are hidden in
quotes. -/
def unknownLevelHiding (hidden : Char → Bool) (name : String) : String :=
  "Invalid log level " ++ Text.quotedHiding hidden name

def Error.message : Error → String
  | .unreadable reason => "Can't read config file: " ++ reason.message
  | .invalidFile reason => "Invalid config file: " ++ reason
  | .unknownLevel name => unknownLevelHiding Text.isHidden name

namespace Overrides

def none : Overrides := ⟨.none, .none⟩

def levelKey : String := "log_level"

def warnKey : String := "warn_non_minimal"

/-- An optional value in words. -/
def describeOption {α : Type} (render : α → String) : Option α → String
  | .none => "None"
  | .some a => "Some(" ++ render a ++ ")"

def describe (overrides : Overrides) : String :=
  "ConfigFile \x7b log_level: " ++ describeOption Text.quoted overrides.logLevel ++
    ", warn_non_minimal: " ++
    describeOption (fun b => if b then "true" else "false") overrides.warnNonMinimal ++ " \x7d"

/-- The value of a setting that must not repeat and must be of one type. -/
def field? {α : Type} (key : String) (read : Toml.Value → Option α) (table : Toml.Table) :
    Option (Option α) :=
  match table.filter fun entry => entry.1 == key with
  | [] => some .none
  | [(_, value)] => (read value).map some
  | _ => .none

/-- The overrides that a document holds.  Settings stand before all headers; names of no setting
are passed over. -/
def ofDocument? (document : Toml.Document) : Option Overrides := do
  let isSetting := fun name => name == some levelKey || name == some warnKey
  if !document.isLaidOut || document.sections.any fun s => isSetting s.header.path.head? then
    .none
  else
    let level ← field? levelKey (fun value =>
      match value with
      | .text s => some s
      | _ => .none) document.root
    let warn ← field? warnKey (fun value =>
      match value with
      | .boolean b => some b
      | _ => .none) document.root
    return ⟨level, warn⟩

def ofToml? (text : String) : Option Overrides := do ofDocument? (← Toml.Document.ofText? text)

/-- One line for a setting, if it is set. -/
def writeLine {α : Type} (key : String) (write : α → List Char) : Option α → List Char
  | .none => []
  | .some a => key.toList ++ [' ', '=', ' '] ++ write a ++ ['\n']

/-- The overrides in the form of a file, the level first. -/
def toToml (overrides : Overrides) : String :=
  String.ofList <|
    writeLine levelKey (fun name => Toml.writeText name.toList) overrides.logLevel ++
      writeLine warnKey (fun b => (if b then "true" else "false").toList) overrides.warnNonMinimal

/-- The overrides in the file at a path. -/
def load (source : Source) (path : String) : Except Error Overrides :=
  match Files.readText source.reader path with
  | .error reason => .error (.unreadable reason)
  | .ok text =>
      match ofToml? text with
      | .none => .error (.invalidFile (source.explain text))
      | .some overrides => .ok overrides

/-- The default settings with the overrides applied to them. -/
def settings (overrides : Overrides) : Except Error Settings := do
  let level ← match overrides.logLevel with
    | .none => .ok Settings.default.logLevel
    | .some name =>
        match Log.Level.ofName? name with
        | .none => .error (.unknownLevel name)
        | .some level => .ok level
  return ⟨level, overrides.warnNonMinimal.getD Settings.default.warnNonMinimal⟩

end Overrides

/-- The settings for an optional file and a number of steps towards more messages. -/
def resolve (source : Source) (path : Option String) (steps : Nat) : Except Error Settings := do
  let settings ← match path with
    | none => .ok Settings.default
    | some path => (← Overrides.load source path).settings
  return settings.moreVerbose steps

end ScriptStack.Settings
