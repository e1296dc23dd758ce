import ScriptStack.Toml.Value
/-!
Documents of TOML: entries, then sections that each begin with a header.
-/

namespace ScriptStack.Toml

/-- The line that begins a section. -/
structure Header where
  path : List String
  /-- Whether the section is one more element of a list of tables. -/
  isElement : Bool
  deriving DecidableEq, Repr

/-- A line that is not blank. -/
inductive Line where
  | header (header : Header)
  | entry (path : List String) (value : Value)
  deriving Repr

structure Section where
  header : Header
  entries : Table
  deriving Repr

structure Document where
  /-- The entries before the first header. -/
  root : Table
  sections : List Section
  deriving Repr

/-- Accepts the end of a line or of the document. -/
def readLineEnd (tokens : List Token) : Option (List Token) :=
  match skipBlank tokens with
  | [] => some []
  | .newline :: rest => some rest
  | _ => none

/-- A header after its first bracket. -/
def readHeader (tokens : List Token) : Option (Header × List Token) := do
  let (isElement, rest) := match tokens with
    | .openBracket :: rest => (true, rest)
    | tokens => (false, tokens)
  let (path, rest) ← readKey true rest
  let rest ← expect .closeBracket rest
  let rest ← if isElement then expect .closeBracket rest else some rest
  return (⟨path, isElement⟩, ← readLineEnd rest)

/-- A key, an equals sign and a value. -/
def readEntry (tokens : List Token) : Option (Line × List Token) := do
  let (path, rest) ← readKey true tokens
  let rest ← expect .equals rest
  let (value, rest) ← readValue (skipBlank rest)
  return (.entry path value, ← readLineEnd rest)

/-- The lines of a document.  Each unit of `fuel` allows one line. -/
def readLinesWith : Nat → List Token → Option (List Line)
  | 0, _ => none
  | fuel + 1, tokens =>
      match skipLines tokens with
      | [] => some []
      | .openBracket :: rest => do
          let (header, rest) ← readHeader rest
          return .header header :: (← readLinesWith fuel rest)
      | tokens => do
          let (entry, rest) ← readEntry tokens
          return entry :: (← readLinesWith fuel rest)

/-- The lines of a document.  A line has at least one token. -/
def readLines (tokens : List Token) : Option (List Line) :=
  readLinesWith (tokens.length + 1) tokens

/-- Gathers lines under their headers.  `entries` are those since the last header. -/
def gather (entries : Table) : List Line → Option (Table × List Section)
  | [] => some (entries, [])
  | .entry path value :: rest => do gather (← Table.insert? value path entries) rest
  | .header header :: rest => do
      let (own, later) ← gather [] rest
      return (entries, ⟨header, own⟩ :: later)

def Document.ofText? (text : String) : Option Document := do
  let (root, sections) ← gather [] (← readLines (← scan text))
  return ⟨root, sections⟩

end ScriptStack.Toml
