import Mathlib.Data.Nat.Digits.Lemmas
import ScriptStack.Bytes.LittleEndian
/-!
The theory of numbers as bytes.  `value` and `digits` are the base 256 digits
of the library (`value_eq_ofDigits`, `map_toNat_digits`), so that bytes which
do not end in zero are the digits of their value (`digits_value`).
-/

namespace ScriptStack.LittleEndian

theorem value_eq_ofDigits (bytes : List UInt8) :
    value bytes = Nat.ofDigits 256 (bytes.map UInt8.toNat) := by
  induction bytes with
  | nil => rfl
  | cons byte rest ih =>
      rw [value_cons, List.map_cons, Nat.ofDigits_cons, ih]

theorem map_toNat_digits (n : Nat) :
    (digits n).map UInt8.toNat = Nat.digits 256 n := by
  induction n using Nat.strongRecOn with
  | _ n ih =>
      rcases Nat.eq_zero_or_pos n with rfl | hpos
      · simp
      · rw [digits_of_pos hpos, List.map_cons, ih (n / 256) (by omega),
          Nat.digits_of_two_le_of_pos (by decide) hpos]
        simp

theorem pow_256_eq_two_pow (size : Nat) : 256 ^ size = 2 ^ (8 * size) := by
  rw [Nat.pow_mul]

/-- Higher bytes count by as many places as there are bytes below them. -/
theorem value_append (low high : List UInt8) :
    value (low ++ high) = value low + 256 ^ low.length * value high := by
  simp only [value_eq_ofDigits, List.map_append, Nat.ofDigits_append,
    List.length_map]

private theorem digit_lt (bytes : List UInt8) :
    ∀ digit ∈ bytes.map UInt8.toNat, digit < 256 := by
  intro digit hmem
  obtain ⟨byte, _, rfl⟩ := List.mem_map.mp hmem
  exact byte.toNat_lt

/-- So many bytes hold no larger numbers. -/
theorem value_lt (bytes : List UInt8) : value bytes < 256 ^ bytes.length := by
  have hbound := Nat.ofDigits_lt_base_pow_length (by decide) (digit_lt bytes)
  rwa [← value_eq_ofDigits, List.length_map] at hbound

theorem value_eq_zero_iff (bytes : List UInt8) :
    value bytes = 0 ↔ ∀ byte ∈ bytes, byte = 0 := by
  induction bytes with
  | nil => simp
  | cons byte rest ih =>
      rw [value_cons, List.forall_mem_cons, ← ih, ← UInt8.toNat_inj]
      simp

theorem value_concat_zero (bytes : List UInt8) :
    value (bytes ++ [0]) = value bytes := by
  simp [value_append]

theorem value_zeros (count : Nat) : value (List.replicate count 0) = 0 := by
  rw [value_eq_zero_iff]
  intro byte hbyte
  exact List.eq_of_mem_replicate hbyte

theorem value_append_zeros (bytes : List UInt8) (count : Nat) :
    value (bytes ++ List.replicate count 0) = value bytes := by
  rw [value_append, value_zeros, Nat.mul_zero, Nat.add_zero]

theorem value_concat_ne_zero (rest : List UInt8) {top : UInt8}
    (htop : top ≠ 0) : value (rest ++ [top]) ≠ 0 := by
  rw [ne_eq, value_eq_zero_iff]
  intro hzero
  exact htop (hzero top (by simp))

/-- The last byte is not zero, as in the digits of a number. -/
def Trimmed (bytes : List UInt8) : Prop := bytes.getLast? ≠ some 0

/-- The digits of a number have no zero on top. -/
theorem digits_trimmed (n : Nat) : Trimmed (digits n) := by
  intro hlast
  have hzero : (Nat.digits 256 n).getLast? = some 0 := by
    rw [← map_toNat_digits, List.getLast?_map, hlast]
    rfl
  by_cases hn : n = 0
  · simp [hn] at hzero
  · apply Nat.getLast_digit_ne_zero 256 hn
    exact List.getLast_of_getLast?_eq_some hzero

/-- Trimmed bytes are determined by their value. -/
theorem digits_value {bytes : List UInt8} (htrimmed : Trimmed bytes) :
    digits (value bytes) = bytes := by
  have hinj : Function.Injective (List.map UInt8.toNat) :=
    List.map_injective_iff.mpr fun _ _ => UInt8.toNat_inj.mp
  apply hinj
  rw [map_toNat_digits, value_eq_ofDigits]
  apply Nat.digits_ofDigits 256 (by decide) _ (digit_lt bytes)
  intro hne hlast
  have hbytes : bytes ≠ [] := by simpa using hne
  apply htrimmed
  rw [List.getLast_map] at hlast
  rw [List.getLast?_eq_some_getLast hbytes]
  exact congrArg some (UInt8.toNat_inj.mp hlast)

theorem digits_value_concat (rest : List UInt8) {top : UInt8}
    (htop : top ≠ 0) : digits (value (rest ++ [top])) = rest ++ [top] := by
  apply digits_value
  simpa [Trimmed] using htop

/-- A number is zero, or its digits end in one that is not zero. -/
theorem eq_zero_or_value_concat (n : Nat) :
    n = 0 ∨ ∃ rest top, top ≠ 0 ∧ n = value (rest ++ [top]) := by
  have hvalue := value_digits n
  have htrimmed := digits_trimmed n
  cases hdigits : digits n using List.reverseRecOn with
  | nil =>
      rw [hdigits] at hvalue
      exact Or.inl hvalue.symm
  | append_singleton rest top _ =>
      rw [hdigits] at hvalue htrimmed
      refine Or.inr ⟨rest, top, ?_, hvalue.symm⟩
      simpa [Trimmed] using htrimmed

end ScriptStack.LittleEndian
