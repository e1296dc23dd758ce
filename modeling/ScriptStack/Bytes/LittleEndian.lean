/-!
Numbers as lists of bytes, least significant byte first.  `value` reads a list of any length,
`digits` writes a number without bytes of zero at the end; reading what was written gives the
number back (`value_digits`).
-/

namespace ScriptStack.LittleEndian

/-- The number that the bytes stand for, each byte weighing 256 times the one before it. -/
def value : List UInt8 → Nat
  | [] => 0
  | byte :: rest => byte.toNat + 256 * value rest

/-- The base 256 digits of a number, none for zero. -/
def digits (n : Nat) : List UInt8 :=
  if n = 0 then [] else n.toUInt8 :: digits (n / 256)
termination_by n
decreasing_by omega

@[simp] theorem value_nil : value [] = 0 := rfl

@[simp] theorem value_cons (byte : UInt8) (rest : List UInt8) :
    value (byte :: rest) = byte.toNat + 256 * value rest := rfl

@[simp] theorem digits_zero : digits 0 = [] := by
  rw [digits]; rfl

theorem digits_of_pos {n : Nat} (hn : 0 < n) :
    digits n = n.toUInt8 :: digits (n / 256) := by
  rw [digits]; simp [Nat.pos_iff_ne_zero.mp hn]

theorem value_digits (n : Nat) : value (digits n) = n := by
  induction n using Nat.strongRecOn with
  | _ n ih =>
      by_cases hn : n = 0
      · simp [hn]
      · rw [digits_of_pos (Nat.pos_of_ne_zero hn), value_cons, ih (n / 256) (by omega)]
        simp only [Nat.toUInt8_eq, UInt8.toNat_ofNat']
        omega

end ScriptStack.LittleEndian
