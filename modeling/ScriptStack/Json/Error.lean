import ScriptStack.Text.Quoted
/-!
What can be wrong with a JSON text: its form, its end, or its content.
-/

namespace ScriptStack.Json

/-- A value that was found where another kind of value was wanted. -/
inductive Found where
  | null
  | boolean (b : Bool)
  | integer (n : Int)
  /-- A number that no 64-bit integer holds, in its shortest decimal text. -/
  | float (decimal : String)
  | text (s : String)
  | sequence
  | map
  deriving DecidableEq, Repr

/-- A value in the words of a message. -/
def Found.describe : Found → String
  | .null => "null"
  | .boolean b => "boolean \x60" ++ (if b then "true" else "false") ++ "\x60"
  | .integer n => "integer \x60" ++ n.repr ++ "\x60"
  | .float decimal => "floating point \x60" ++ decimal ++ "\x60"
  | .text s => "string " ++ Text.quoted s
  | .sequence => "sequence"
  | .map => "map"

/-- Why a well-formed text does not have the wanted content. -/
inductive Mismatch where
  | wrongType (found : Found) (expected : String)
  | outOfRange (n : Int) (expected : String)
  | wrongLength (length : Nat) (expected : String)
  | missingField (name : String)
  | duplicateField (name : String)
  deriving DecidableEq, Repr

def Mismatch.message : Mismatch → String
  | .wrongType found expected =>
      "invalid type: " ++ found.describe ++ ", expected " ++ expected
  | .outOfRange n expected =>
      "invalid value: " ++ (Found.integer n).describe ++ ", expected " ++ expected
  | .wrongLength length expected =>
      "invalid length " ++ length.repr ++ ", expected " ++ expected
  | .missingField name => "missing field \x60" ++ name ++ "\x60"
  | .duplicateField name => "duplicate field \x60" ++ name ++ "\x60"

/-- Why a text was refused.  The reader goes from left to right and stops at the first fault. -/
inductive Error where
  | malformed
  | truncated
  /-- The text is fine so far, but it does not say what was wanted. -/
  | mismatch (reason : Mismatch)
  deriving DecidableEq, Repr

end ScriptStack.Json
