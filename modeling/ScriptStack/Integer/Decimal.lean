/-!
Integers of any size as decimal text.  Writing uses a minus sign and digits alone; reading also
takes one plus sign and underscores between the digits.
-/

namespace ScriptStack.Decimal

inductive Error where
  /-- Nothing is left after the sign. -/
  | empty
  | invalidDigit
  deriving DecidableEq, Repr

def Error.message : Error → String
  | .empty => "cannot parse integer from empty string"
  | .invalidDigit => "invalid digit found in string"

/-- The value of an ASCII digit. -/
def digit? (c : Char) : Option Nat :=
  if '0' ≤ c ∧ c ≤ '9' then some (c.toNat - '0'.toNat) else none

/-- Continues a number whose digits so far have the value `acc`; underscores count for nothing. -/
def digitsFrom (acc : Nat) : List Char → Except Error Nat
  | [] => .ok acc
  | c :: rest =>
      if c = '_' then digitsFrom acc rest
      else
        match digit? c with
        | some d => digitsFrom (10 * acc + d) rest
        | none => .error .invalidDigit

/-- The number after the sign: at least one digit, the first character no underscore. -/
def magnitude : List Char → Except Error Nat
  | [] => .error .empty
  | c :: rest => if c = '_' then .error .invalidDigit else digitsFrom 0 (c :: rest)

def parse (text : String) : Except Error Int :=
  match text.toList with
  | '-' :: rest => (magnitude rest).map fun n => -(n : Int)
  | '+' :: rest => (magnitude rest).map fun n => (n : Int)
  | chars => (magnitude chars).map fun n => (n : Int)

/-- The canonical text of an integer: a minus sign if it is negative, then its digits without
leading zeros. -/
def render (n : Int) : String := n.repr

example : (parse "-1_000").toOption = some (-1000) := by decide +kernel

example : (parse "-+1").toOption = none ∧ (parse "_1").toOption = none := by decide +kernel

end ScriptStack.Decimal
