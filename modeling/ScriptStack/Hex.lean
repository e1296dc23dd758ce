import ScriptStack.Text.Blank
import ScriptStack.Text.Quoted
/-!
Bytes as hexadecimal text, two digits a byte, first byte first.  Writing uses lowercase digits and
nothing else; reading trims blanks, takes one `0x` in front and skips gaps between digits.
-/

namespace ScriptStack.Hex

inductive Error where
  /-- The first character that is neither a digit nor a gap. -/
  | invalidChar (c : Char)
  /-- The last byte has one digit only. -/
  | oddLength
  deriving DecidableEq, Repr

/-- The wording of an error, for any choice of the characters that are hidden in quotes. -/
def Error.messageHiding (hidden : Char → Bool) : Error → String
  | .invalidChar c => "Invalid hex char " ++ Text.quotedCharHiding hidden c
  | .oddLength => "Odd number of hex digits"

def Error.message : Error → String := Error.messageHiding Text.isHidden

/-- The value of a hexadecimal digit of either case. -/
def digit? (c : Char) : Option UInt8 :=
  if '0' ≤ c ∧ c ≤ '9' then some (c.toNat - '0'.toNat).toUInt8
  else if 'a' ≤ c ∧ c ≤ 'f' then some (c.toNat - 'a'.toNat + 10).toUInt8
  else if 'A' ≤ c ∧ c ≤ 'F' then some (c.toNat - 'A'.toNat + 10).toUInt8
  else none

/-- The two digits of a byte, the high one first. -/
def byteDigits (byte : UInt8) : List Char :=
  [Nat.digitChar (byte.toNat / 16), Nat.digitChar (byte.toNat % 16)]

def render (bytes : List UInt8) : String :=
  String.ofList (bytes.flatMap byteDigits)

/-- Whether a character between digits is skipped. -/
def isGap (c : Char) : Bool := c == ' ' || c == '\t' || c == '\r' || c == '\n'

/-- Takes one `0x` or `0X` off the front. -/
def dropMark : List Char → List Char
  | '0' :: 'x' :: rest => rest
  | '0' :: 'X' :: rest => rest
  | chars => chars

/-- Reads digits through a shift register of one byte.  Every character moves the register left by
one digit, and a gap moves it back; `half` says whether the byte under way has its high digit.
Digits of earlier bytes are pushed out at the top before the next byte is taken. -/
def scan (register : UInt8) (half : Bool) : List Char → Except Error (List UInt8)
  | [] => if half then .error .oddLength else .ok []
  | c :: rest =>
      let shifted := register <<< 4
      if isGap c then scan (shifted >>> 4) half rest
      else
        match digit? c with
        | none => .error (.invalidChar c)
        | some d =>
            let filled := shifted ||| d
            if half then (scan filled false rest).map (filled :: ·)
            else scan filled true rest

def parse (text : String) : Except Error (List UInt8) :=
  scan 0 false (dropMark (Text.trim text.toList))

example : render [0x00, 0xff] = "00ff" := by decide +kernel

example : (parse " 0x03 8\t1").toOption = some [0x03, 0x81] := by decide +kernel

end ScriptStack.Hex
