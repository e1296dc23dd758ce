import ScriptStack.Binary64.Range
import ScriptStack.Hex
/-!
The digits of TOML numbers.  Underscores may stand between two digits, and a decimal number has no
leading zeros.
-/

namespace ScriptStack.Toml

/-- The value of a digit in some radix. -/
def digit? (radix : Nat) (c : Char) : Option Nat :=
  (Hex.digit? c).bind fun d => if d.toNat < radix then some d.toNat else none

/-- Whether a character is a digit in some radix. -/
def isDigit (radix : Nat) (c : Char) : Bool := (digit? radix c).isSome

/-- The number that some digits stand for. -/
def valueOf (radix : Nat) (digits : List Char) : Nat :=
  digits.foldl (fun acc c => acc * radix + (digit? radix c).getD 0) 0

/-- The longest run of digits at the front without its underscores, and what follows.  A run is
not empty, and an underscore has a digit on each side. -/
def takeDigits? (radix : Nat) : List Char → Option (List Char × List Char)
  | [] => none
  | [c] => if isDigit radix c then some ([c], []) else none
  | c :: d :: rest =>
      if !isDigit radix c then none
      else if d = '_' then
        (takeDigits? radix rest).map fun (digits, rest) => (c :: digits, rest)
      else if isDigit radix d then
        (takeDigits? radix (d :: rest)).map fun (digits, rest) => (c :: digits, rest)
      else some ([c], d :: rest)

/-- Whether digits begin with a zero that adds nothing. -/
def hasLeadingZero (digits : List Char) : Bool := digits.head? == some '0' && 1 < digits.length

/-- Takes the sign off a word and says whether it is a minus. -/
def takeSign : List Char → Bool × List Char
  | '-' :: rest => (true, rest)
  | '+' :: rest => (false, rest)
  | chars => (false, chars)

/-- A sign that may be left out and decimal digits without leading zeros, and what follows. -/
def takeSigned? (word : List Char) : Option (Bool × List Char × List Char) :=
  let (negative, rest) := takeSign word
  (takeDigits? 10 rest).bind fun (digits, rest) =>
    if hasLeadingZero digits then none else some (negative, digits, rest)

/-- An integer, if a signed 64-bit word holds it. -/
def inWord? (n : Int) : Option Int :=
  if Int64.minValue.toInt ≤ n ∧ n ≤ Int64.maxValue.toInt then some n else none

def decimal? (word : List Char) : Option Int := do
  let (negative, digits, rest) ← takeSigned? word
  let n : Int := valueOf 10 digits
  if rest.isEmpty then inWord? (if negative then -n else n) else none

/-- An integer in another radix, which has no sign and may have leading zeros. -/
def inRadix? (radix : Nat) (word : List Char) : Option Int := do
  let (digits, rest) ← takeDigits? radix word
  if rest.isEmpty then inWord? (valueOf radix digits) else none

/-- An exponent: its digits may have leading zeros. -/
def exponent? (signed : Bool) (word : List Char) : Option Int := do
  let (negative, digits) := if signed then takeSign word else (false, word)
  let (digits, rest) ← takeDigits? 10 digits
  let n : Int := valueOf 10 digits
  if rest.isEmpty then some (if negative then -n else n) else none

/-- Accepts a float that is finite. -/
def finite? (whole fraction : List Char) (exponent : Int) : Option Unit :=
  if Binary64.isFinite (valueOf 10 (whole ++ fraction)) (exponent - fraction.length) then some ()
  else none

end ScriptStack.Toml
