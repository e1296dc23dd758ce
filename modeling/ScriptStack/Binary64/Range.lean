/-!
The range of 64-bit binary floats.
-/

namespace ScriptStack.Binary64

/-- The smallest integer that rounds to infinity: half a step above the greatest float. -/
def overflow : Nat := Nat.pow 2 1024 - Nat.pow 2 970

/-- Whether `digits * 10 ^ exponent` rounds to a finite float.  Powers of ten are computed only
where they can decide. -/
def isFinite (digits : Nat) (exponent : Int) : Bool :=
  if digits = 0 then true
  else if 0 ≤ exponent then exponent < 400 && digits * Nat.pow 10 exponent.toNat < overflow
  else
    let places := (-exponent).toNat
    (Nat.toDigits 10 digits).length ≤ places || digits < overflow * Nat.pow 10 places

end ScriptStack.Binary64
