import ScriptStack.ErrorObject.Basic
import ScriptStack.Json.Skip
/-!
Error objects as JSON.  They are written as an object with `code` before `message` and no blanks.
They are read from an object with these members in any order among others, or from a list of
the two values.
-/

namespace ScriptStack.ErrorObject

open ScriptStack.Json

def toJsonChars (e : ErrorObject) : List Char :=
  "\x7b\"code\":".toList ++ e.code.toInt.repr.toList ++ ",\"message\":".toList ++
    writeText e.message.toList ++ ['\x7d']

def toJson (e : ErrorObject) : String := String.ofList e.toJsonChars

/-- The value that starts here, for a message that says it is of the wrong type.  Containers are
not looked into. -/
def readFound : List Char → Except Error Found
  | [] => .error .truncated
  | c :: rest =>
      if c = 'n' then (readWord ['u', 'l', 'l'] rest).map fun _ => .null
      else if c = 't' then (readWord ['r', 'u', 'e'] rest).map fun _ => .boolean true
      else if c = 'f' then (readWord ['a', 'l', 's', 'e'] rest).map fun _ => .boolean false
      else if c = '"' then (readText rest).map fun (chars, _) => .text (String.ofList chars)
      else if c = '-' ∨ c.isDigit then do
        let (literal, _) ← NumberLiteral.read .truncated (c :: rest)
        literal.found
      else if c = '[' then .ok .sequence
      else if c = '\x7b' then .ok .map
      else .error .malformed

/-- The fault of a value that is not of the expected type, unless it has one of its own. -/
def wrongType (expected : String) (chars : List Char) : Error :=
  match readFound chars with
  | .error e => e
  | .ok found => .mismatch (.wrongType found expected)

def code? (n : Int) : Option Int32 :=
  if Int32.minValue.toInt ≤ n ∧ n ≤ Int32.maxValue.toInt then some (Int32.ofInt n) else none

/-- A code: an integer in the range of 32 bits. -/
def readCode (chars : List Char) : Except Error (Int32 × List Char) :=
  let chars := skipSpace chars
  match chars with
  | [] => .error .truncated
  | c :: _ =>
      if c = '-' ∨ c.isDigit then do
        let (literal, rest) ← NumberLiteral.read .truncated chars
        match ← literal.found with
        | .integer n =>
            match code? n with
            | some code => .ok (code, rest)
            | none => .error (.mismatch (.outOfRange n "i32"))
        | found => .error (.mismatch (.wrongType found "i32"))
      else .error (wrongType "i32" chars)

def readMessage (chars : List Char) : Except Error (String × List Char) :=
  let chars := skipSpace chars
  match chars with
  | [] => .error .truncated
  | c :: rest =>
      if c = '"' then (readText rest).map fun (text, rest) => (String.ofList text, rest)
      else .error (wrongType "a string" chars)

structure Fields where
  code : Option Int32
  message : Option String
  deriving DecidableEq, Repr

/-- The error object, if no field is missing.  A missing code is reported first. -/
def Fields.finish : Fields → Except Error ErrorObject
  | ⟨none, _⟩ => .error (.mismatch (.missingField "code"))
  | ⟨some _, none⟩ => .error (.mismatch (.missingField "message"))
  | ⟨some code, some message⟩ => .ok ⟨code, message⟩

/-- Reads what comes after a key.  A field that was read before is refused at once. -/
def Fields.readMember (fields : Fields) (key : List Char) (chars : List Char) :
    Except Error (Fields × List Char) :=
  if key = "code".toList then
    if fields.code.isSome then .error (.mismatch (.duplicateField "code"))
    else do
      let (code, rest) ← readCode (← readMark ':' chars)
      return ({ fields with code := some code }, rest)
  else if key = "message".toList then
    if fields.message.isSome then .error (.mismatch (.duplicateField "message"))
    else do
      let (message, rest) ← readMessage (← readMark ':' chars)
      return ({ fields with message := some message }, rest)
  else do
    let rest ← skipValue (← readMark ':' chars)
    return (fields, rest)

/-- Reads members from the quote of a key to the closing brace.  Each unit of `fuel` allows one
member. -/
def readMembersWith : Nat → Fields → List Char → Except Error (Fields × List Char)
  | 0, _, _ => .error .truncated
  | fuel + 1, fields, chars => do
      let (key, rest) ← readText (← readMark '"' chars)
      let (fields, rest) ← fields.readMember key rest
      match skipSpace rest with
      | [] => .error .truncated
      | c :: rest =>
          if c = ',' then readMembersWith fuel fields rest
          else if c = '\x7d' then .ok (fields, rest)
          else .error .malformed

def readObject (chars : List Char) : Except Error (ErrorObject × List Char) := do
  let (fields, rest) ← match skipSpace chars with
    | '\x7d' :: rest => .ok (⟨none, none⟩, rest)
    | chars => readMembersWith (chars.length + 1) ⟨none, none⟩ chars
  return (← fields.finish, rest)

/-- Refuses a list that ends after `length` elements. -/
def refuseEnd (length : Nat) (chars : List Char) : Except Error Unit :=
  match skipSpace chars with
  | ']' :: _ =>
      .error (.mismatch (.wrongLength length "struct RequestError with 2 elements"))
  | _ => .ok ()

/-- A list after its opening bracket: a code and a message. -/
def readList (chars : List Char) : Except Error (ErrorObject × List Char) := do
  refuseEnd 0 chars
  let (code, rest) ← readCode chars
  refuseEnd 1 rest
  let rest ← readMark ',' rest
  let (message, rest) ← match skipSpace rest with
    | ']' :: _ => .error .malformed
    | rest => readMessage rest
  return (⟨code, message⟩, ← readMark ']' rest)

def read (chars : List Char) : Except Error (ErrorObject × List Char) :=
  match skipSpace chars with
  | [] => .error .truncated
  | c :: rest =>
      if c = '\x7b' then readObject rest
      else if c = '[' then readList rest
      else .error (wrongType "struct RequestError" (c :: rest))

def ofJson (text : String) : Except Error ErrorObject := do
  let (e, rest) ← read text.toList
  readEnd rest
  return e

example : toJson ⟨-1, "a\"b"⟩ = "\x7b\"code\":-1,\"message\":\"a\\\"b\"\x7d" := by
  decide +kernel

example : (ofJson "[1, \"x\"]").toOption = some ⟨1, "x"⟩ := by decide +kernel

end ScriptStack.ErrorObject
