import ScriptStack.Hex
import ScriptStack.Json.Token
/-!
Strings of JSON.  Characters above the basic plane may be written as two escapes, one for each
surrogate; a surrogate that stands alone is no character.
-/

namespace ScriptStack.Json

/-- The character that a short escape stands for. -/
def shortEscape? (c : Char) : Option Char :=
  if c = '"' ∨ c = '\\' ∨ c = '/' then some c
  else if c = 'b' then some '\x08'
  else if c = 'f' then some '\x0c'
  else if c = 'n' then some '\n'
  else if c = 'r' then some '\r'
  else if c = 't' then some '\t'
  else none

/-- The number that four hexadecimal digits stand for. -/
def unit? (a b c d : Char) : Option Nat := do
  let a ← Hex.digit? a
  let b ← Hex.digit? b
  let c ← Hex.digit? c
  let d ← Hex.digit? d
  return ((a.toNat * 16 + b.toNat) * 16 + c.toNat) * 16 + d.toNat

/-- The fault when fewer than four characters follow `\u`: the text is too short if they take fewer
than four bytes in UTF-8, and some of them is no digit otherwise. -/
def shortUnit (chars : List Char) : Error :=
  if (String.ofList chars).utf8ByteSize < 4 then .truncated else .malformed

/-- Whether a number is the first half of a surrogate pair. -/
def isHighSurrogate (n : Nat) : Bool := 0xd800 ≤ n && n ≤ 0xdbff

/-- Whether a number is the second half of a surrogate pair. -/
def isLowSurrogate (n : Nat) : Bool := 0xdc00 ≤ n && n ≤ 0xdfff

/-- The character that a surrogate pair stands for. -/
def pair (high low : Nat) : Char :=
  Char.ofNat (0x10000 + (high - 0xd800) * 0x400 + (low - 0xdc00))

/-- Puts a character in front of what was read. -/
def consText (c : Char) : Reading (List Char) → Reading (List Char)
  | .ok (chars, rest) => .ok (c :: chars, rest)
  | .error e => .error e

/-- The characters of a string up to its closing quote. -/
def readText : List Char → Reading (List Char)
  | [] => .error .truncated
  | '"' :: rest => .ok ([], rest)
  | '\\' :: [] => .error .truncated
  | '\\' :: 'u' :: a :: b :: c :: d :: rest =>
      match unit? a b c d with
      | none => .error .malformed
      | some n =>
          if isLowSurrogate n then .error .malformed
          else if isHighSurrogate n then
            match rest with
            | [] => .error .truncated
            | ['\\'] => .error .truncated
            | '\\' :: 'u' :: a :: b :: c :: d :: rest =>
                match unit? a b c d with
                | none => .error .malformed
                | some low =>
                    if isLowSurrogate low then consText (pair n low) (readText rest)
                    else .error .malformed
            | '\\' :: 'u' :: rest => .error (shortUnit rest)
            | _ => .error .malformed
          else consText (Char.ofNat n) (readText rest)
  | '\\' :: 'u' :: rest => .error (shortUnit rest)
  | '\\' :: e :: rest =>
      match shortEscape? e with
      | none => .error .malformed
      | some c => consText c (readText rest)
  | c :: rest => if c.toNat < 0x20 then .error .malformed else consText c (readText rest)

/-- The characters after a string whose content does not matter.  Surrogates may stand alone. -/
def skipText : List Char → Except Error (List Char)
  | [] => .error .truncated
  | '"' :: rest => .ok rest
  | '\\' :: [] => .error .truncated
  | '\\' :: 'u' :: a :: b :: c :: d :: rest =>
      match unit? a b c d with
      | none => .error .malformed
      | some _ => skipText rest
  | '\\' :: 'u' :: rest => .error (shortUnit rest)
  | '\\' :: e :: rest =>
      match shortEscape? e with
      | none => .error .malformed
      | some _ => skipText rest
  | c :: rest => if c.toNat < 0x20 then .error .malformed else skipText rest

/-- How a character is written in a string. -/
def escape (c : Char) : List Char :=
  if c = '"' ∨ c = '\\' then ['\\', c]
  else if c = '\x08' then ['\\', 'b']
  else if c = '\x0c' then ['\\', 'f']
  else if c = '\n' then ['\\', 'n']
  else if c = '\r' then ['\\', 'r']
  else if c = '\t' then ['\\', 't']
  else if c.toNat < 0x20 then ['\\', 'u', '0', '0'] ++ Hex.byteDigits c.toNat.toUInt8
  else [c]

def writeText (chars : List Char) : List Char :=
  ['"'] ++ chars.flatMap escape ++ ['"']

end ScriptStack.Json
