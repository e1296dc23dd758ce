import ScriptStack.Json.Error
/-!
Blanks, words and punctuation of JSON.  A reader takes the characters that are left and gives
its value with the characters after it.
-/

namespace ScriptStack.Json

/-- A value and the characters after it, or the first fault. -/
abbrev Reading (α : Type) := Except Error (α × List Char)

/-- Whether a character may stand between tokens. -/
def isSpace (c : Char) : Bool := c == ' ' || c == '\n' || c == '\t' || c == '\r'

/-- The characters from the next token on. -/
def skipSpace (chars : List Char) : List Char := chars.dropWhile isSpace

/-- Takes the given characters off the front. -/
def readWord : List Char → List Char → Except Error (List Char)
  | [], chars => .ok chars
  | _ :: _, [] => .error .truncated
  | expected :: more, c :: rest =>
      if c = expected then readWord more rest else .error .malformed

/-- Takes one punctuation mark, which may stand after blanks. -/
def readMark (mark : Char) (chars : List Char) : Except Error (List Char) :=
  match skipSpace chars with
  | [] => .error .truncated
  | c :: rest => if c = mark then .ok rest else .error .malformed

/-- Accepts blanks and nothing else. -/
def readEnd (chars : List Char) : Except Error Unit :=
  match skipSpace chars with
  | [] => .ok ()
  | _ :: _ => .error .malformed

end ScriptStack.Json
