import ScriptStack.Proofs.SignMagnitude.Codec
/-!
The format of numbers.  Bytes are one little-endian number whose top bit is the
sign (`decode_eq_of_ne_nil`, `value_encode`), so `size` bytes hold exactly the
numbers with a magnitude below the weight of that bit (`natAbs_decode_lt`,
`length_encode_le_iff`).
-/

namespace ScriptStack.SignMagnitude

open LittleEndian

/-- The place of the top bit of bytes, counted from the bottom. -/
theorem signBit_place (rest : List UInt8) (last : UInt8) :
    8 * (rest ++ [last]).length - 1 = 8 * rest.length + 7 := by
  rw [List.length_append, List.length_singleton]
  omega

/-- Bytes with a clear top bit are their value, and others the negative of what
is left without that bit. -/
theorem decode_eq_of_ne_nil {bytes : List UInt8} (hne : bytes ≠ []) :
    decode bytes =
      if value bytes < 2 ^ (8 * bytes.length - 1) then (value bytes : Int)
      else -((value bytes : Int) - 2 ^ (8 * bytes.length - 1)) := by
  obtain ⟨rest, negative, low, hlow, rfl⟩ :=
    (eq_nil_or_concat_withSign bytes).resolve_left hne
  have hlt := value_concat_lt rest hlow
  rw [decode_concat_withSign rest negative hlow,
    value_concat_withSign rest negative hlow, signBit_place]
  cases negative with
  | false => rw [if_neg Bool.false_ne_true, Nat.add_zero, if_pos hlt]; rfl
  | true =>
      rw [if_pos rfl, if_neg (Nat.not_lt.mpr (Nat.le_add_left _ _))]
      simp [signed]

theorem encode_eq_nil_iff (n : Int) : encode n = [] ↔ n = 0 := by
  rw [← encode_zero, encode_injective.eq_iff]

/-- The bytes of a number hold its magnitude, and the bit above it if the
number is negative. -/
theorem value_encode {n : Int} (hne : n ≠ 0) :
    value (encode n) = n.natAbs +
      if n < 0 then 2 ^ (8 * (encode n).length - 1) else 0 := by
  have hdecode := decode_eq_of_ne_nil (mt (encode_eq_nil_iff n).mp hne)
  have hweight : ((2 ^ (8 * (encode n).length - 1) : Nat) : Int) =
      2 ^ (8 * (encode n).length - 1) := by push_cast; rfl
  rw [decode_encode, ← hweight] at hdecode
  generalize 2 ^ (8 * (encode n).length - 1) = weight at hdecode ⊢
  split at hdecode <;> split <;> omega

/-- Numbers are stored as a little-endian magnitude with the sign in the top
bit of the last byte. -/
theorem bytes_hold_sign_and_magnitude :
    (∀ bytes : List UInt8, bytes ≠ [] → decode bytes =
      if value bytes < 2 ^ (8 * bytes.length - 1) then (value bytes : Int)
      else -((value bytes : Int) - 2 ^ (8 * bytes.length - 1))) ∧
    ∀ n : Int,
      (0 < n → value (encode n) = n.natAbs) ∧
      (n < 0 → value (encode n) =
        n.natAbs + 2 ^ (8 * (encode n).length - 1)) := by
  refine ⟨fun bytes => decode_eq_of_ne_nil, fun n => ⟨?_, ?_⟩⟩
  · intro hpos
    rw [value_encode hpos.ne', if_neg hpos.not_gt, Nat.add_zero]
  · intro hneg
    rw [value_encode hneg.ne, if_pos hneg]

/-- A number whose sign needs a byte of its own. -/
theorem bytes_hold_sign_and_magnitude_carry :
    decode [0x80, 0x80] = -128 ∧
      value (encode (-128)) = 128 + 2 ^ 15 ∧ value (encode 128) = 128 := by
  have hneg := (bytes_hold_sign_and_magnitude.2 (-128)).2 (by decide)
  have hpos := (bytes_hold_sign_and_magnitude.2 128).1 (by decide)
  have hlength : (encode (-128)).length = 2 := by decide +kernel
  rw [hlength] at hneg
  refine ⟨?_, hneg, hpos⟩
  rw [bytes_hold_sign_and_magnitude.1 _ (by decide)]
  decide

/-- Bytes hold no number with a magnitude from the weight of the sign bit on. -/
theorem natAbs_decode_lt {bytes : List UInt8} (hne : bytes ≠ []) :
    (decode bytes).natAbs < 2 ^ (8 * bytes.length - 1) := by
  obtain ⟨rest, negative, low, hlow, rfl⟩ :=
    (eq_nil_or_concat_withSign bytes).resolve_left hne
  rw [decode_concat_withSign rest negative hlow, natAbs_signed, signBit_place]
  exact value_concat_lt rest hlow

theorem two_pow_le_value_concat (rest : List UInt8) {top : UInt8} {bit : Nat}
    (htop : 2 ^ bit ≤ top.toNat) :
    2 ^ (8 * rest.length + bit) ≤ value (rest ++ [top]) := by
  have hplace : 256 ^ rest.length * 2 ^ bit ≤ 256 ^ rest.length * top.toNat :=
    Nat.mul_le_mul_left _ htop
  rw [Nat.pow_add, ← pow_256_eq_two_pow, value_append, value_cons, value_nil,
    Nat.mul_zero, Nat.add_zero]
  exact hplace.trans (Nat.le_add_left _ _)

/-- A number takes one byte more only if its magnitude needs the bit that held
the sign. -/
theorem two_pow_le_natAbs {n : Int} {size : Nat} (hpos : 0 < size)
    (hsize : size < (encode n).length) : 2 ^ (8 * size - 1) ≤ n.natAbs := by
  rcases eq_zero_or_signed n with rfl | ⟨negative, rest, top, htop, rfl⟩
  · simp at hsize
  · rw [natAbs_signed]
    cases htopBit : hasSignBit top with
    | false =>
        rw [encode_signed_of_low negative rest htopBit htop] at hsize
        have hone : 2 ^ 0 ≤ top.toNat :=
          Nat.pos_of_ne_zero fun hzero => htop (UInt8.toNat_inj.mp hzero)
        calc 2 ^ (8 * size - 1)
            ≤ 2 ^ (8 * rest.length + 0) := by
              apply Nat.pow_le_pow_right (by decide)
              simp at hsize
              omega
          _ ≤ value (rest ++ [top]) := two_pow_le_value_concat rest hone
    | true =>
        rw [encode_signed_of_high negative rest htopBit] at hsize
        have hhigh : 2 ^ 7 ≤ top.toNat := (hasSignBit_iff top).mp htopBit
        calc 2 ^ (8 * size - 1)
            ≤ 2 ^ (8 * rest.length + 7) := by
              apply Nat.pow_le_pow_right (by decide)
              simp at hsize
              omega
          _ ≤ value (rest ++ [top]) := two_pow_le_value_concat rest hhigh

theorem length_encode_le_iff (n : Int) {size : Nat} (hpos : 0 < size) :
    (encode n).length ≤ size ↔ n.natAbs < 2 ^ (8 * size - 1) := by
  constructor
  · intro hsize
    rcases eq_or_ne n 0 with rfl | hne
    · exact Nat.two_pow_pos _
    · have hlt := natAbs_decode_lt (mt (encode_eq_nil_iff n).mp hne)
      rw [decode_encode] at hlt
      exact hlt.trans_le (Nat.pow_le_pow_right (by decide) (by omega))
  · intro hlt
    by_contra hsize
    exact hlt.not_ge (two_pow_le_natAbs hpos (Nat.lt_of_not_le hsize))

theorem length_encode_mono {m n : Int} (hle : m.natAbs ≤ n.natAbs) :
    (encode m).length ≤ (encode n).length := by
  rcases eq_or_ne n 0 with rfl | hne
  · obtain rfl : m = 0 := by omega
    exact Nat.le_refl _
  · have hpos := List.length_pos_iff.mpr (mt (encode_eq_nil_iff n).mp hne)
    have hlt := (length_encode_le_iff n hpos).mp (Nat.le_refl _)
    exact (length_encode_le_iff m hpos).mpr (hle.trans_lt hlt)

theorem eight_lt_length_encode_iff (word : Int64) :
    8 < (encode word.toInt).length ↔ word = Int64.minValue := by
  have hmin := word.minValue_le_toInt
  have hmax := word.toInt_le
  rw [← Nat.not_le, length_encode_le_iff _ (by decide), ← Int64.toInt_inj]
  rw [show Int64.minValue.toInt = -2 ^ 63 by decide] at hmin ⊢
  rw [show Int64.maxValue.toInt = 2 ^ 63 - 1 by decide] at hmax
  omega

/-- How many bytes numbers take: `size` bytes suffice for the magnitudes below
the weight of their top bit and no others, no bytes for zero alone.  So larger
magnitudes never take fewer bytes, and eight bytes are enough for every signed
64-bit word but the least. -/
theorem size_fixes_range :
    (∀ (n : Int) (size : Nat), 1 ≤ size →
      ((encode n).length ≤ size ↔ n.natAbs ≤ 2 ^ (8 * size - 1) - 1)) ∧
    (∀ n : Int, (encode n).length = 0 ↔ n = 0) ∧
    (∀ bytes : List UInt8, 1 ≤ bytes.length →
      (decode bytes).natAbs ≤ 2 ^ (8 * bytes.length - 1) - 1) ∧
    (∀ m n : Int, m.natAbs ≤ n.natAbs →
      (encode m).length ≤ (encode n).length) ∧
    ∀ word : Int64,
      8 < (encode word.toInt).length ↔ word = Int64.minValue := by
  refine ⟨?_, ?_, ?_, fun m n => length_encode_mono,
    eight_lt_length_encode_iff⟩
  · intro n size hpos
    rw [length_encode_le_iff n hpos, Nat.le_sub_one_iff_lt (Nat.two_pow_pos _)]
  · intro n
    rw [List.length_eq_zero_iff, encode_eq_nil_iff]
  · intro bytes hpos
    exact Nat.le_sub_one_of_lt (natAbs_decode_lt (List.length_pos_iff.mp hpos))

/-- The largest magnitude in two bytes, and a number that is one larger. -/
theorem size_fixes_range_two_bytes :
    (encode 32767).length ≤ 2 ∧ ¬ (encode (-32768)).length ≤ 2 ∧
      (decode [0xff, 0xff]).natAbs ≤ 32767 ∧
      (encode 32767).length ≤ (encode (-32768)).length := by
  refine ⟨?_, ?_, ?_, ?_⟩
  · exact (size_fixes_range.1 32767 2 (by decide)).mpr (by decide)
  · exact mt (size_fixes_range.1 (-32768) 2 (by decide)).mp (by decide)
  · exact size_fixes_range.2.2.1 [0xff, 0xff] (by decide)
  · exact size_fixes_range.2.2.2.1 32767 (-32768) (by decide)

end ScriptStack.SignMagnitude
