import Mathlib.Data.List.Induction
import Mathlib.Data.Nat.Bitwise
import ScriptStack.SignMagnitude.Basic
/-!
The sign bit of a byte.  Every byte is seven bits with a sign on top in one way
(`withSign_hasSignBit`, `hasSignBit_withSign`, `withSign_and_magnitudeBits`),
so bytes that are not empty end in such a byte (`eq_nil_or_concat_withSign`).
The codec is read through this form.
-/

namespace ScriptStack.SignMagnitude

theorem toNat_and_magnitudeBits (byte : UInt8) :
    (byte &&& magnitudeBits).toNat = byte.toNat % 128 := by
  rw [UInt8.toNat_and]
  exact Nat.and_two_pow_sub_one_eq_mod byte.toNat 7

theorem toNat_or_signBit {byte : UInt8} (hlow : byte.toNat < 128) :
    (byte ||| signBit).toNat = byte.toNat + 128 := by
  rw [UInt8.toNat_or]
  exact Nat.or_two_pow_eq_add_of_lt (n := 7) hlow

theorem hasSignBit_iff (byte : UInt8) :
    hasSignBit byte = true ↔ 128 ≤ byte.toNat := by
  have hbyte := byte.toNat_lt
  have hand : (byte &&& signBit).toNat =
      (byte.toNat.testBit 7).toNat * 128 := by
    rw [UInt8.toNat_and]
    exact Nat.and_two_pow byte.toNat 7
  rw [hasSignBit, bne_iff_ne, ne_eq, ← UInt8.toNat_inj, hand,
    Nat.toNat_testBit, UInt8.toNat_zero]
  omega

theorem hasSignBit_eq_false_iff (byte : UInt8) :
    hasSignBit byte = false ↔ byte.toNat < 128 := by
  rw [← Bool.not_eq_true, hasSignBit_iff]
  omega

theorem hasSignBit_and_magnitudeBits (byte : UInt8) :
    hasSignBit (byte &&& magnitudeBits) = false := by
  rw [hasSignBit_eq_false_iff, toNat_and_magnitudeBits]
  exact Nat.mod_lt _ (by decide)

/-- A byte of seven bits with a sign on top. -/
def withSign (negative : Bool) (low : UInt8) : UInt8 :=
  if negative then low ||| signBit else low

/-- The sign adds half of the range of a byte. -/
theorem toNat_withSign (negative : Bool) {low : UInt8}
    (hlow : hasSignBit low = false) :
    (withSign negative low).toNat =
      low.toNat + if negative then 128 else 0 := by
  cases negative with
  | false => rfl
  | true => exact toNat_or_signBit ((hasSignBit_eq_false_iff low).mp hlow)

theorem hasSignBit_withSign (negative : Bool) {low : UInt8}
    (hlow : hasSignBit low = false) :
    hasSignBit (withSign negative low) = negative := by
  have hlt := (hasSignBit_eq_false_iff low).mp hlow
  rw [Bool.eq_iff_iff, hasSignBit_iff, toNat_withSign negative hlow]
  cases negative with
  | false => simpa using hlt
  | true => simp

theorem withSign_and_magnitudeBits (negative : Bool) {low : UInt8}
    (hlow : hasSignBit low = false) :
    withSign negative low &&& magnitudeBits = low := by
  have hlt := (hasSignBit_eq_false_iff low).mp hlow
  rw [← UInt8.toNat_inj, toNat_and_magnitudeBits,
    toNat_withSign negative hlow]
  split <;> omega

/-- A byte is its sign and the seven bits below it. -/
theorem withSign_hasSignBit (byte : UInt8) :
    withSign (hasSignBit byte) (byte &&& magnitudeBits) = byte := by
  have hbyte := byte.toNat_lt
  have hlow := hasSignBit_and_magnitudeBits byte
  rw [← UInt8.toNat_inj, toNat_withSign _ hlow, toNat_and_magnitudeBits]
  simp only [hasSignBit_iff]
  split <;> omega

/-- A bit above all others is set by turning it over. -/
theorem xor_two_pow_of_lt {magnitude bit : Nat} (hlt : magnitude < 2 ^ bit) :
    magnitude ^^^ 2 ^ bit = magnitude + 2 ^ bit := by
  rw [← Nat.div_add_mod (magnitude ^^^ 2 ^ bit) (2 ^ bit),
    Nat.xor_div_two_pow, Nat.xor_mod_two_pow, Nat.div_eq_of_lt hlt,
    Nat.mod_eq_of_lt hlt, Nat.div_self (Nat.two_pow_pos bit), Nat.mod_self,
    Nat.zero_xor, Nat.xor_zero]
  omega

theorem xor_signBit_of_low {low : UInt8} (hlow : hasSignBit low = false) :
    low ^^^ signBit = low ||| signBit := by
  have hlt : low.toNat < 2 ^ 7 := (hasSignBit_eq_false_iff low).mp hlow
  rw [← UInt8.toNat_inj, toNat_or_signBit hlt, UInt8.toNat_xor]
  exact xor_two_pow_of_lt hlt

/-- The sign is turned by one exclusive or. -/
theorem withSign_xor_signBit (negative : Bool) {low : UInt8}
    (hlow : hasSignBit low = false) :
    withSign negative low ^^^ signBit = withSign (!negative) low := by
  cases negative with
  | false => exact xor_signBit_of_low hlow
  | true =>
      change (low ||| signBit) ^^^ signBit = low
      rw [← xor_signBit_of_low hlow, UInt8.xor_assoc, UInt8.xor_self,
        UInt8.xor_zero]

/-- Bytes that are not empty end in seven bits with a sign on top. -/
theorem eq_nil_or_concat_withSign (bytes : List UInt8) :
    bytes = [] ∨ ∃ rest negative low,
      hasSignBit low = false ∧ bytes = rest ++ [withSign negative low] := by
  cases bytes using List.reverseRecOn with
  | nil => exact Or.inl rfl
  | append_singleton rest last _ =>
      refine Or.inr ⟨rest, hasSignBit last, last &&& magnitudeBits,
        hasSignBit_and_magnitudeBits last, ?_⟩
      rw [withSign_hasSignBit]

end ScriptStack.SignMagnitude
