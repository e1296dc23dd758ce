import ScriptStack.Command.Invocation
import ScriptStack.Integer.Decimal
import ScriptStack.Item.Order
import ScriptStack.Log.Entry
import ScriptStack.Settings.Overrides
/-!
What an invocation does.  The operands are read from left to right; the settings decide which
messages are shown and never what is answered.
-/

namespace ScriptStack.Command

/-- Why an invocation has no answer. -/
inductive Failure where
  | settings (reason : Settings.Error)
  | hex (reason : Hex.Error)
  | decimal (reason : Decimal.Error)
  deriving DecidableEq, Repr

def Failure.message : Failure → String
  | .settings reason => reason.message
  | .hex reason => reason.message
  | .decimal reason => reason.message

/-- Messages in order, and the answer in lines or the failure that came after them. -/
structure Outcome where
  messages : List Log.Entry
  answer : Except Failure (List String)

def answering (lines : List String) : Outcome := ⟨[], .ok lines⟩

def saying (messages : List Log.Entry) (outcome : Outcome) : Outcome :=
  ⟨messages ++ outcome.messages, outcome.answer⟩

/-- The message that shows an operand as an item. -/
def operandEntry (name : String) (item : Item) : Log.Entry :=
  ⟨.debug, name ++ " = " ++ item.describe⟩

/-- The message that an item is longer than its number needs. -/
def nonMinimalEntry (item : Item) : Log.Entry :=
  ⟨.warn, item.toHex ++ " is not minimally encoded; minimal is " ++
    (Item.ofInt item.toInt).toHex⟩

/-- Reads an operand as an item and goes on with it. -/
def withItem (name text : String) (next : Item → Outcome) : Outcome :=
  match Item.ofHex text with
  | .error reason => ⟨[], .error (.hex reason)⟩
  | .ok item => saying [operandEntry name item] (next item)

def orderWord : Ordering → String
  | .lt => "less"
  | .eq => "equal"
  | .gt => "greater"

/-- The number of an item, with a warning if the item could be shorter. -/
def decode (settings : Settings) (hex : String) : Outcome :=
  withItem "hex" hex fun item =>
    let warnings :=
      if settings.warnNonMinimal && !item.isMinimal then [nonMinimalEntry item] else []
    saying warnings (answering [Decimal.render item.toInt])

def encode (number : String) : Outcome :=
  match Decimal.parse number with
  | .error reason => ⟨[], .error (.decimal reason)⟩
  | .ok n => answering [(Item.ofInt n).toHex]

def truth (hex : String) : Outcome :=
  withItem "hex" hex fun item => answering [if item.isTrue then "true" else "false"]

def cmp (left right : String) : Outcome :=
  withItem "left" left fun a =>
    withItem "right" right fun b =>
      answering [
        orderWord (a.compareNumbers b),
        "bytes " ++ (if a = b then "equal" else "differ")]

def Request.perform (settings : Settings) : Request → Outcome
  | .decode hex => Command.decode settings hex
  | .encode number => Command.encode number
  | .truth hex => Command.truth hex
  | .cmp left right => Command.cmp left right

/-- All that a run of the tool shows. -/
structure Report where
  exitCode : Nat
  /-- The lines of the answer. -/
  output : List String
  /-- The messages that the settings let through. -/
  log : List Log.Entry
  errorText : String
  deriving DecidableEq, Repr

def Failure.report (log : List Log.Entry) (failure : Failure) : Report :=
  ⟨1, [], log, failure.message ++ "\n"⟩

/-- The report of an outcome under some settings. -/
def Outcome.report (settings : Settings) (outcome : Outcome) : Report :=
  let log := Log.shown settings.logLevel outcome.messages
  match outcome.answer with
  | .error failure => failure.report log
  | .ok lines => ⟨0, lines, log, ""⟩

/-- Runs an invocation.  Nothing is said before the settings are known. -/
def Invocation.run (source : Settings.Source) (invocation : Invocation) : Report :=
  match Settings.resolve source invocation.settingsPath invocation.verbosity with
  | .error reason => (Failure.settings reason).report []
  | .ok settings => (invocation.request.perform settings).report settings

/-- Runs the tool on the words of a command line. -/
def run (source : Settings.Source) (words : List String) : Except Usage Report :=
  (Invocation.ofWords words).map (Invocation.run source)

/-- The exit code of a call that does not run. -/
def Usage.exitCode : Usage → Nat
  | .help | .version _ => 0
  | _ => 1

/-- The line that names the tool and its version.  Subcommands have no version of their own. -/
def versionLine : Option Subcommand → String
  | none => "bitcrust-script 0.1.0"
  | some subcommand => "bitcrust-script-" ++ subcommand.name ++ " "

end ScriptStack.Command
