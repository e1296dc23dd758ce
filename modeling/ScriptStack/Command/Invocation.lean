import ScriptStack.Command.NumberWord
/-!
Invocations of the tool: options, a subcommand and its operands, read from the words of the command
line.
-/

namespace ScriptStack.Command

inductive Subcommand where
  | decode
  | encode
  | truth
  | cmp
  deriving DecidableEq, Repr

namespace Subcommand

def all : List Subcommand := [.decode, .encode, .truth, .cmp]

def name : Subcommand → String
  | .decode => "decode"
  | .encode => "encode"
  | .truth => "truth"
  | .cmp => "cmp"

/-- The names of the operands, in order. -/
def operandNames : Subcommand → List String
  | .decode => ["hex"]
  | .encode => ["number"]
  | .truth => ["hex"]
  | .cmp => ["left", "right"]

def ofName? (word : String) : Option Subcommand :=
  all.find? fun subcommand => subcommand.name == word

/-- Whether an operand may be a negative number. -/
def takesNumbers : Subcommand → Bool
  | .encode => true
  | _ => false

end Subcommand

/-- A subcommand with its operands. -/
inductive Request where
  | decode (hex : String)
  | encode (number : String)
  | truth (hex : String)
  | cmp (left right : String)
  deriving DecidableEq, Repr

namespace Request

/-- The request for a subcommand with some operands, if it takes that many. -/
def ofOperands? : Subcommand → List String → Option Request
  | .decode, [hex] => some (.decode hex)
  | .encode, [number] => some (.encode number)
  | .truth, [hex] => some (.truth hex)
  | .cmp, [left, right] => some (.cmp left right)
  | _, _ => none

def subcommand : Request → Subcommand
  | .decode _ => .decode
  | .encode _ => .encode
  | .truth _ => .truth
  | .cmp _ _ => .cmp

def operands : Request → List String
  | .decode hex => [hex]
  | .encode number => [number]
  | .truth hex => [hex]
  | .cmp left right => [left, right]

/-- The operands with their names. -/
def parameters (request : Request) : List (String × String) :=
  request.subcommand.operandNames.zip request.operands

end Request

/-- Why the tool does not run as it was called. -/
inductive Usage where
  | help
  /-- The version was asked for, of the tool or of a subcommand. -/
  | version (subcommand : Option Subcommand)
  /-- Help was asked for on something unknown. -/
  | unknownTopic
  /-- Some word has no meaning where it stands. -/
  | unknownWord
  | missingSubcommand
  | missingOperand
  /-- An option that takes a value has none. -/
  | missingValue
  /-- An option that takes a value was given twice. -/
  | repeatedOption
  deriving DecidableEq, Repr

/-- The options before a subcommand. -/
structure Options where
  /-- How many times more messages were asked for. -/
  verbosity : Nat
  /-- How many times the option for a settings file was given. -/
  pathOptions : Nat
  /-- The values that it was given. -/
  settingsPaths : List String
  deriving DecidableEq, Repr

namespace Options

def none : Options := ⟨0, 0, []⟩

/-- One more step towards more messages. -/
def raise (options : Options) : Options := { options with verbosity := options.verbosity + 1 }

/-- The option for a settings file once more, without its value. -/
def openPath (options : Options) : Options :=
  { options with pathOptions := options.pathOptions + 1 }

/-- The value of the option for a settings file. -/
def addPath (options : Options) (path : String) : Options :=
  { options with settingsPaths := options.settingsPaths ++ [path] }

end Options

/-- A call of the tool. -/
structure Invocation where
  request : Request
  verbosity : Nat
  settingsPath : Option String
  deriving DecidableEq, Repr

/-- Whether a word is a long option: two hyphens and something after them. -/
def isLong (word : String) : Bool :=
  match word.toList with
  | '-' :: '-' :: _ :: _ => true
  | _ => false

/-- Whether a word is a cluster of short options: one hyphen and letters after it. -/
def isCluster (word : String) : Bool :=
  match word.toList with
  | '-' :: c :: _ => c != '-'
  | _ => false

/-- Whether a word begins an option or ends them, and so is no value: a hyphen and something after
it. -/
def startsOption (word : String) : Bool :=
  match word.toList with
  | '-' :: _ :: _ => true
  | _ => false

/-- The name of a long option and the value after its equals sign. -/
def splitLong (word : String) : List Char × Option (List Char) :=
  let chars := word.toList.dropWhile (· == '-')
  match chars.dropWhile (· != '=') with
  | [] => (chars, none)
  | _ :: value => (chars.takeWhile (· != '='), some value)

/-- A value as it follows an option, less its equals signs. -/
def valueOf (chars : List Char) : String := String.ofList (chars.dropWhile (· == '='))

/-- Reads a long option.  Says whether it still takes a value. -/
def readLong (options : Options) (word : String) : Except Usage (Options × Bool) :=
  let (name, value) := splitLong word
  if name = "config".toList then
    match value with
    | none => .ok (options.openPath, true)
    | some value => .ok (options.openPath.addPath (valueOf value), false)
  else if name = "debug".toList then .ok (options.raise, false)
  else if name = "help".toList then .error .help
  else if name = "version".toList then .error (.version none)
  else .error .unknownWord

/-- Reads the letters of a cluster.  Says whether the last one still takes a value. -/
def readCluster (options : Options) : List Char → Except Usage (Options × Bool)
  | [] => .ok (options, false)
  | c :: rest =>
      if c = 'd' then readCluster options.raise rest
      else if c = 'c' then
        if rest.isEmpty then .ok (options.openPath, true)
        else .ok (options.openPath.addPath (valueOf rest), false)
      else if c = 'h' then .error .help
      else if c = 'V' then .error (.version none)
      else .error .unknownWord

/-- What asking for help on some words gives: one topic at most, and a known one. -/
def helpOn : List String → Usage
  | [] => .help
  | [topic] =>
      if topic = "help" ∨ (Subcommand.ofName? topic).isSome then .help else .unknownTopic
  | _ => .unknownTopic

/-- Reads a long option after a subcommand. -/
def refuseLong (subcommand : Subcommand) (word : String) : Usage :=
  let (name, _) := splitLong word
  if name = "help".toList then .help
  else if name = "version".toList then .version (some subcommand)
  else .unknownWord

/-- Reads a cluster after a subcommand, of which the first letter decides. -/
def refuseCluster (subcommand : Subcommand) (word : String) : Usage :=
  match word.toList.drop 1 with
  | 'h' :: _ => .help
  | 'V' :: _ => .version (some subcommand)
  | _ => .unknownWord

/-- Adds an operand as long as the subcommand takes more. -/
def addOperand (subcommand : Subcommand) (taken : List String) (word : String) :
    Except Usage (List String) :=
  if taken.length < subcommand.operandNames.length then .ok (taken ++ [word])
  else .error .unknownWord

/-- The request once all operands are taken, if none is missing. -/
def finish (subcommand : Subcommand) (taken : List String) : Except Usage Request :=
  match Request.ofOperands? subcommand taken with
  | some request => .ok request
  | none => .error .missingOperand

/-- Reads the words after a subcommand, of which `taken` are the operands so far. -/
def readOperands (subcommand : Subcommand) (taken : List String) :
    List String → Except Usage Request
  | [] => finish subcommand taken
  | word :: rest =>
      if word = "--" then do finish subcommand (← rest.foldlM (addOperand subcommand) taken)
      else if isLong word then .error (refuseLong subcommand word)
      else if isCluster word && !(subcommand.takesNumbers && isNumberWord word) then
        .error (refuseCluster subcommand word)
      else do readOperands subcommand (← addOperand subcommand taken word) rest

/-- The call with some options.  The option for a settings file has a value and is given once, if it
is given at all. -/
def Options.call (options : Options) (request : Request) : Except Usage Invocation :=
  match options.settingsPaths with
  | [] =>
      if options.pathOptions = 0 then .ok ⟨request, options.verbosity, .none⟩
      else .error .missingValue
  | path :: _ =>
      if options.pathOptions ≤ 1 then .ok ⟨request, options.verbosity, some path⟩
      else .error .repeatedOption

/-- Reads the words before and after the subcommand.  `awaiting` says that an option takes the next
word as its value, unless that begins an option itself. -/
def readWords (options : Options) (awaiting : Bool) : List String → Except Usage Invocation
  | [] => .error .missingSubcommand
  | word :: rest =>
      if awaiting && !startsOption word then readWords (options.addPath word) false rest
      else if word = "help" then .error (helpOn rest)
      else
        match Subcommand.ofName? word with
        | some subcommand => do options.call (← readOperands subcommand [] rest)
        | none =>
            if word = "--" then
              .error (if rest.isEmpty then .missingSubcommand else .unknownWord)
            else if isLong word then
              match readLong options word with
              | .error usage => .error usage
              | .ok (options, awaiting) => readWords options awaiting rest
            else if isCluster word then
              match readCluster options (word.toList.drop 1) with
              | .error usage => .error usage
              | .ok (options, awaiting) => readWords options awaiting rest
            else .error .unknownWord

/-- The call that the words of a command line spell. -/
def Invocation.ofWords (words : List String) : Except Usage Invocation :=
  readWords Options.none false words

example : (Invocation.ofWords ["-dc", "x", "--debug", "encode", "-259"]).toOption =
    some ⟨.encode "-259", 2, some "x"⟩ := by decide +kernel

example : (Invocation.ofWords ["cmp", "01", "--", "--"]).toOption =
    some ⟨.cmp "01" "--", 0, none⟩ := by decide +kernel

end ScriptStack.Command
