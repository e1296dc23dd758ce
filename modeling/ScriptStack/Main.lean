import ScriptStack.Command.Run
/-!
The command line tool: reads the words and the settings file, and prints the report.
-/

namespace ScriptStack.Command

/-- The number of a fault, which some calls give with its sign turned. -/
def faultNumber (code : UInt32) : UInt32 := if code < 0x80000000 then code else 0 - code

/-- The cause of a fault of the file system. -/
def faultCause (fault : IO.Error) : Files.Error :=
  match fault with
  | .noFileOrDirectory .. => .notFound
  | .permissionDenied .. => .permissionDenied
  | .inappropriateType _ code _ =>
      if faultNumber code = 21 then .isDirectory
      else if faultNumber code = 20 then .notDirectory
      else .other (toString fault)
  | .invalidArgument _ code _ =>
      if faultNumber code = 36 then .nameTooLong else .other (toString fault)
  | fault => .other (toString fault)

def readFile (path : String) : IO (Except Files.Error ByteArray) := do
  if path.toList.contains '\x00' then return .error .nulInPath
  try
    return .ok (← IO.FS.readBinFile path)
  catch fault => return .error (faultCause fault)

/-- A reader of the one file that an invocation names. -/
def readerFor (invocation : Invocation) : IO Files.Reader := do
  match invocation.settingsPath with
  | none => return fun _ => .error .notFound
  | some path =>
      let content ← readFile path
      return fun _ => content

/-- What is said of a text that holds no settings. -/
def refusal (text : String) : String :=
  if (Toml.Document.ofText? text).isNone then "not TOML"
  else "a setting of the wrong type, or names that clash"

/-- What is written for a call that does not run. -/
def Usage.text : Usage → String
  | .help =>
      "usage: bitcrust-script [-d]... [-c FILE] (decode HEX | encode NUMBER | truth HEX | " ++
        "cmp LEFT RIGHT)"
  | .version subcommand => versionLine subcommand
  | .unknownTopic => "error: no such subcommand"
  | .unknownWord => "error: unexpected argument"
  | .missingSubcommand => "error: a subcommand is required"
  | .missingOperand => "error: an operand is missing"
  | .missingValue => "error: --config needs a file"
  | .repeatedOption => "error: --config was given more than once"

def Report.print (report : Report) : IO Unit := do
  for entry in report.log do
    IO.println entry.line
  for line in report.output do
    IO.println line
  IO.eprint report.errorText

end ScriptStack.Command

open ScriptStack.Command in
def main (words : List String) : IO UInt32 := do
  match Invocation.ofWords words with
  | .error usage =>
      if usage.exitCode = 0 then IO.println usage.text else IO.eprintln usage.text
      return usage.exitCode.toUInt32
  | .ok invocation =>
      let report := invocation.run ⟨← readerFor invocation, refusal⟩
      report.print
      return report.exitCode.toUInt32
