import ScriptStack.Json.Number
import ScriptStack.Json.Text
/-!
Passing over a JSON value of any kind and depth.  Only the form is checked: numbers may be of
any size and keys may repeat.
-/

namespace ScriptStack.Json

mutual

/-- Passes over one value.  Each unit of `fuel` allows one more value or container on the way
down. -/
def skipValueWith : Nat → List Char → Except Error (List Char)
  | 0, _ => .error .truncated
  | fuel + 1, chars =>
      match skipSpace chars with
      | [] => .error .truncated
      | c :: rest =>
          if c = 'n' then readWord ['u', 'l', 'l'] rest
          else if c = 't' then readWord ['r', 'u', 'e'] rest
          else if c = 'f' then readWord ['a', 'l', 's', 'e'] rest
          else if c = '"' then skipText rest
          else if c = '-' ∨ c.isDigit then
            (NumberLiteral.read .malformed (c :: rest)).map Prod.snd
          else if c = '[' then
            match skipSpace rest with
            | ']' :: rest => .ok rest
            | rest => skipElementsWith fuel rest
          else if c = '\x7b' then
            match skipSpace rest with
            | '\x7d' :: rest => .ok rest
            | rest => skipMembersWith fuel rest
          else .error .malformed

/-- Passes over the elements of a list and its closing bracket. -/
def skipElementsWith : Nat → List Char → Except Error (List Char)
  | 0, _ => .error .truncated
  | fuel + 1, chars => do
      match skipSpace (← skipValueWith fuel chars) with
      | [] => .error .truncated
      | c :: rest =>
          if c = ',' then skipElementsWith fuel rest
          else if c = ']' then .ok rest
          else .error .malformed

/-- Passes over the members of an object and its closing brace. -/
def skipMembersWith : Nat → List Char → Except Error (List Char)
  | 0, _ => .error .truncated
  | fuel + 1, chars => do
      let afterKey ← skipText (← readMark '"' chars)
      match skipSpace (← skipValueWith fuel (← readMark ':' afterKey)) with
      | [] => .error .truncated
      | c :: rest =>
          if c = ',' then skipMembersWith fuel rest
          else if c = '\x7d' then .ok rest
          else .error .malformed

end

/-- The characters after the next value.  A value takes no more steps than twice its length. -/
def skipValue (chars : List Char) : Except Error (List Char) :=
  skipValueWith (2 * chars.length + 2) chars

end ScriptStack.Json
