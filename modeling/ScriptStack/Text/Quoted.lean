import ScriptStack.Text.Combining
import ScriptStack.Text.Unprintable
/-!
Quoted text for messages.  The quote itself and the backslash get a backslash, four controls have a
letter, and every other character that is hidden is written as its code point in hexadecimal.  Which
characters are hidden is an argument; for messages they are those that could not be seen on their
own.
-/

namespace ScriptStack.Text

/-- A code point in braces, in lowercase hexadecimal without leading zeros. -/
def codePoint (c : Char) : List Char :=
  ['\\', 'u', '{'] ++ Nat.toDigits 16 c.toNat ++ ['}']

/-- One character between two quotes of the given kind. -/
def escapeHiding (hidden : Char → Bool) (quote c : Char) : List Char :=
  if c = '\x00' then ['\\', '0']
  else if c = '\t' then ['\\', 't']
  else if c = '\r' then ['\\', 'r']
  else if c = '\n' then ['\\', 'n']
  else if c = quote ∨ c = '\\' then ['\\', c]
  else if hidden c then codePoint c
  else [c]

/-- A text in double quotes. -/
def quotedHiding (hidden : Char → Bool) (text : String) : String :=
  String.ofList (['"'] ++ text.toList.flatMap (escapeHiding hidden '"') ++ ['"'])

/-- A character in single quotes. -/
def quotedCharHiding (hidden : Char → Bool) (c : Char) : String :=
  String.ofList (['\''] ++ escapeHiding hidden '\'' c ++ ['\''])

/-- Whether a character could not be seen on its own. -/
def isHidden (c : Char) : Bool := isCombining c || isUnprintable c

/-- A text in double quotes, as messages have it. -/
def quoted : String → String := quotedHiding isHidden

/-- A character in single quotes, as messages have it. -/
def quotedChar : Char → String := quotedCharHiding isHidden

example : quoted "a\"\n\u200b" = "\"a\\\"\\n\\u\x7b200b\x7d\"" := by decide +kernel

-- a blank letter is escaped, and a mark with a place of its own is not
example : quotedChar '\u115f' = "'\\u\x7b115f\x7d'" ∧ quotedChar '\uff9e' = "'\uff9e'" := by
  decide +kernel

end ScriptStack.Text
