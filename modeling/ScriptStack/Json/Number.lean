import ScriptStack.Binary64.Shortest
import ScriptStack.Json.Token
/-!
Numbers of JSON.  A literal is read by the grammar; its value is an integer if it is written as one
and fits in 64 bits, and a binary float otherwise.
-/

namespace ScriptStack.Json

/-- A number as it is written, in ASCII digits. -/
structure NumberLiteral where
  negative : Bool
  whole : List Char
  fraction : Option (List Char)
  /-- Whether the exponent is negative, and its digits. -/
  exponent : Option (Bool × List Char)
  deriving DecidableEq, Repr

namespace NumberLiteral

/-- One digit or more.  `atEnd` is the fault when the text ends instead. -/
def readDigits (atEnd : Error) (chars : List Char) : Reading (List Char) :=
  match chars with
  | [] => .error atEnd
  | c :: _ =>
      if c.isDigit then .ok (chars.takeWhile Char.isDigit, chars.dropWhile Char.isDigit)
      else .error .malformed

/-- The digits before the point, without leading zeros. -/
def readWhole (atEnd : Error) (chars : List Char) : Reading (List Char) :=
  match readDigits atEnd chars with
  | .error e => .error e
  | .ok (digits, rest) =>
      if digits.head? = some '0' ∧ 1 < digits.length then .error .malformed
      else .ok (digits, rest)

/-- A point and the digits after it, if there is a point. -/
def readFraction (atEnd : Error) : List Char → Reading (Option (List Char))
  | '.' :: rest => (readDigits atEnd rest).map fun (digits, rest) => (some digits, rest)
  | chars => .ok (none, chars)

/-- The sign of an exponent, which may be left out. -/
def readExponentSign : List Char → Bool × List Char
  | '-' :: rest => (true, rest)
  | '+' :: rest => (false, rest)
  | chars => (false, chars)

/-- The letter, the sign and the digits of an exponent, if there is one. -/
def readExponent (atEnd : Error) (chars : List Char) : Reading (Option (Bool × List Char)) :=
  match chars with
  | c :: rest =>
      if c = 'e' ∨ c = 'E' then
        let (negative, rest) := readExponentSign rest
        (readDigits atEnd rest).map fun (digits, rest) => (some (negative, digits), rest)
      else .ok (none, chars)
  | [] => .ok (none, [])

/-- A literal after its sign. -/
def readUnsigned (atEnd : Error) (negative : Bool) (chars : List Char) :
    Except Error (NumberLiteral × List Char) := do
  let (whole, rest) ← readWhole atEnd chars
  let (fraction, rest) ← readFraction atEnd rest
  let (exponent, rest) ← readExponent atEnd rest
  return (⟨negative, whole, fraction, exponent⟩, rest)

/-- A literal, which begins with a minus sign or a digit. -/
def read (atEnd : Error) : List Char → Reading NumberLiteral
  | '-' :: rest => readUnsigned atEnd true rest
  | chars => readUnsigned atEnd false chars

/-- Whether a literal is written as an integer. -/
def isWhole (literal : NumberLiteral) : Bool :=
  literal.fraction.isNone && literal.exponent.isNone

/-- The number before the point, without the sign. -/
def wholeValue (literal : NumberLiteral) : Nat := Nat.ofDigitChars 10 literal.whole 0

/-- The integer that a literal stands for: one written as an integer that a 64-bit word holds,
unsigned if it has no sign.  Minus zero is no integer. -/
def integer? (literal : NumberLiteral) : Option Int :=
  if !literal.isWhole then none
  else
    let n := literal.wholeValue
    if literal.negative then
      if 0 < n ∧ Int64.minValue.toInt ≤ -(n : Int) then some (-(n : Int)) else none
    else if n < UInt64.size then some n
    else none

/-- Appends digits to a significand for as long as it fits in 64 bits.  Gives the significand
and how many digits were left over. -/
def fill (significand : Nat) : List Char → Nat × Nat
  | [] => (significand, 0)
  | c :: rest =>
      let next := 10 * significand + (c.toNat - '0'.toNat)
      if next < UInt64.size then fill next rest else (significand, rest.length + 1)

/-- The digits that count, and the power of ten that they are multiplied with. -/
def parts (literal : NumberLiteral) : Nat × Int :=
  let (significand, tooLong) := fill 0 literal.whole
  let places := literal.fraction.getD []
  let (significand, unused) := fill significand places
  let shift : Int := match literal.exponent with
    | none => 0
    | some (negative, digits) =>
        let n : Int := Nat.ofDigitChars 10 digits 0
        if negative then -n else n
  (significand, tooLong - (places.length - unused : Nat) + shift)

/-- Divides by a power of ten, at most `10 ^ 308` at a time, until nothing is left. -/
def divide (f : Float) (places : Nat) : Float :=
  if h : 308 < places then
    if f == 0.0 then f else divide (f / Float.ofScientific 1 false 308) (places - 308)
  else f / Float.ofScientific 1 false places
termination_by places
decreasing_by omega

/-- A significand times a power of ten as a float, if it is not too large for one. -/
def scale? (significand : Nat) (exponent : Int) : Option Float :=
  let f := significand.toUInt64.toFloat
  if exponent < 0 then some (divide f (-exponent).toNat)
  else if 308 < exponent then
    if significand = 0 then some f else none
  else
    let product := f * Float.ofScientific 1 false exponent.toNat
    if product.isInf then none else some product

/-- What a literal stands for.  One that is too large for a float is no number. -/
def found (literal : NumberLiteral) : Except Error Found :=
  match literal.integer? with
  | some n => .ok (.integer n)
  | none =>
      let (significand, exponent) := literal.parts
      match scale? significand exponent with
      | none => .error .malformed
      | some f => .ok (.float (Binary64.render (if literal.negative then -f else f)))

end NumberLiteral

end ScriptStack.Json
