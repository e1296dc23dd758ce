import ScriptStack.Proofs.SignMagnitude.Codec
import ScriptStack.SignMagnitude.Word
/-!
Reading into a machine word.  Packing up to eight bytes with shifts gives their
value (`toNat_pack`), taking the sign out of the word gives the magnitude
(`toNat_magnitudeWord`), and so the packed reading and the general one are the
same function (`decodeWord?_eq`).
-/

namespace ScriptStack.SignMagnitude

open LittleEndian

theorem toNat_shiftOf {index : Nat} (hindex : index < 8) :
    (shiftOf index).toNat = 8 * index := by
  rw [shiftOf, UInt64.toNat_ofNat']
  exact Nat.mod_eq_of_lt (by omega)

/-- A shifted byte keeps all its bits. -/
theorem toNat_shiftLeft_shiftOf (byte : UInt8) {index : Nat}
    (hindex : index < 8) :
    (byte.toUInt64 <<< shiftOf index).toNat = 256 ^ index * byte.toNat := by
  have hshift : 8 * index < 64 := by omega
  have hfits : byte.toNat * 2 ^ (8 * index) < 2 ^ 64 :=
    calc byte.toNat * 2 ^ (8 * index)
        < 2 ^ 8 * 2 ^ (8 * index) :=
          Nat.mul_lt_mul_of_pos_right byte.toNat_lt (Nat.two_pow_pos _)
      _ = 2 ^ (8 + 8 * index) := (Nat.pow_add 2 8 _).symm
      _ ≤ 2 ^ 64 := Nat.pow_le_pow_right (by decide) (by omega)
  rw [UInt64.toNat_shiftLeft, toNat_shiftOf hindex, UInt8.toNat_toUInt64,
    Nat.mod_eq_of_lt hshift, Nat.shiftLeft_eq, Nat.mod_eq_of_lt hfits,
    pow_256_eq_two_pow, Nat.mul_comm]

/-- Below its place a word is free to hold the bytes before. -/
theorem toNat_place {word : UInt64} (byte : UInt8) {index : Nat}
    (hword : word.toNat < 256 ^ index) (hindex : index < 8) :
    (place word byte index).toNat =
      word.toNat + 256 ^ index * byte.toNat := by
  rw [pow_256_eq_two_pow] at hword
  rw [place, UInt64.toNat_or, toNat_shiftLeft_shiftOf byte hindex,
    Nat.or_comm, pow_256_eq_two_pow, ← Nat.two_pow_add_eq_or_of_lt hword,
    Nat.add_comm]

private theorem toNat_foldl_place (bytes : List UInt8) (word : UInt64)
    (start : Nat) (hword : word.toNat < 256 ^ start)
    (hlength : start + bytes.length ≤ 8) :
    ((bytes.zipIdx start).foldl
      (fun word (byte, index) => place word byte index) word).toNat =
      word.toNat + 256 ^ start * value bytes := by
  induction bytes generalizing word start with
  | nil => simp
  | cons byte rest ih =>
      rw [List.length_cons] at hlength
      have hplace := toNat_place byte hword (by omega)
      have hnext : (place word byte start).toNat < 256 ^ (start + 1) := by
        have hbyte := byte.toNat_lt
        have hle : 256 ^ start * byte.toNat ≤ 256 ^ start * 255 :=
          Nat.mul_le_mul_left _ (by omega)
        rw [hplace, Nat.pow_succ]
        omega
      rw [List.zipIdx_cons, List.foldl_cons, ih _ _ hnext (by omega), hplace,
        value_cons, Nat.pow_succ]
      ring

/-- Up to eight bytes fit in a word side by side. -/
theorem toNat_pack {bytes : List UInt8} (hlength : bytes.length ≤ 8) :
    (pack bytes).toNat = value bytes := by
  have hfold := toNat_foldl_place bytes 0 0 (by decide) (by omega)
  simpa [pack] using hfold

theorem add_two_pow_xor {magnitude bit : Nat} (hlt : magnitude < 2 ^ bit) :
    (magnitude + 2 ^ bit) ^^^ 2 ^ bit = magnitude := by
  rw [← xor_two_pow_of_lt hlt, Nat.xor_assoc, Nat.xor_self, Nat.xor_zero]

theorem toNat_signMask {size : Nat} (hsize : size < 8) :
    (signMask (size + 1)).toNat = 2 ^ (8 * size + 7) := by
  rw [signMask, Nat.add_sub_cancel, toNat_shiftLeft_shiftOf signBit hsize,
    pow_256_eq_two_pow, Nat.pow_add]
  rfl

theorem toNat_magnitudeWord (rest : List UInt8) (negative : Bool)
    {low : UInt8} (hlow : hasSignBit low = false) (hlength : rest.length < 8) :
    (magnitudeWord (rest ++ [withSign negative low]) negative).toNat =
      value (rest ++ [low]) := by
  have hsize : (rest ++ [withSign negative low]).length = rest.length + 1 :=
    List.length_append
  have hpack := toNat_pack (hsize.trans_le hlength)
  cases negative with
  | false => exact hpack
  | true =>
      rw [magnitudeWord, if_pos rfl, UInt64.toNat_xor, hpack,
        value_concat_withSign rest true hlow, if_pos rfl, hsize,
        toNat_signMask hlength, add_two_pow_xor (value_concat_lt rest hlow)]

/-- Eight bytes hold 63 bits of magnitude. -/
theorem toNat_magnitudeWord_lt (rest : List UInt8) (negative : Bool)
    {low : UInt8} (hlow : hasSignBit low = false) (hlength : rest.length < 8) :
    (magnitudeWord (rest ++ [withSign negative low]) negative).toNat <
      2 ^ 63 := by
  rw [toNat_magnitudeWord rest negative hlow hlength]
  exact Nat.lt_of_lt_of_le (value_concat_lt rest hlow)
    (Nat.pow_le_pow_right (by decide) (by omega))

theorem toInt64_eq_ofNat (word : UInt64) :
    word.toInt64 = Int64.ofNat word.toNat := by
  rw [← UInt64.toInt64_ofNat', UInt64.ofNat_toNat]

/-- What keeps the packed reading of `bytes` exact in 64 bits: every shift
amount is below the width, the word that is taken for a signed one keeps its
value, and so does its negation. -/
structure WordExact (bytes : List UInt8) (negative : Bool) : Prop where
  shift : ∀ index < bytes.length,
    8 * index < 64 ∧ (shiftOf index).toNat = 8 * index
  cast : (magnitudeWord bytes negative).toInt64.toInt =
    (magnitudeWord bytes negative).toNat
  negation : (-(magnitudeWord bytes negative).toInt64).toInt =
    -(magnitudeWord bytes negative).toInt64.toInt

theorem wordExact_concat_withSign (rest : List UInt8) (negative : Bool)
    {low : UInt8} (hlow : hasSignBit low = false) (hlength : rest.length < 8) :
    WordExact (rest ++ [withSign negative low]) negative := by
  have hword := toNat_magnitudeWord_lt rest negative hlow hlength
  have hcast := Int64.toInt_ofNat_of_lt hword
  refine ⟨?_, ?_, ?_⟩
  · intro index hindex
    rw [List.length_append, List.length_singleton] at hindex
    exact ⟨by omega, toNat_shiftOf (by omega)⟩
  · rw [toInt64_eq_ofNat, hcast]
  · rw [toInt64_eq_ofNat, hcast]
    exact Int64.toInt_neg_ofNat_of_le (Nat.le_of_lt hword)

theorem wordExact_of_length_le {bytes : List UInt8} {last : UInt8}
    (hlast : bytes.getLast? = some last) (hlength : bytes.length ≤ 8) :
    WordExact bytes (hasSignBit last) := by
  rcases eq_nil_or_concat_withSign bytes with
    rfl | ⟨rest, negative, low, hlow, rfl⟩
  · simp at hlast
  · rw [List.getLast?_concat] at hlast
    obtain rfl := Option.some.inj hlast
    rw [hasSignBit_withSign negative hlow]
    exact wordExact_concat_withSign rest negative hlow (by simpa using hlength)

theorem Word.ofInt?_toInt (word : Int64) :
    Word.ofInt? word.toInt = some word := by
  rw [Word.ofInt?, if_pos ⟨word.minValue_le_toInt, word.toInt_le⟩,
    Int64.ofInt_toInt]

theorem Word.ofInt?_eq_some_iff (n : Int) (word : Int64) :
    Word.ofInt? n = some word ↔ word.toInt = n := by
  constructor
  · intro hword
    unfold Word.ofInt? at hword
    split at hword
    · next hrange =>
        obtain rfl := Option.some.inj hword
        apply Int64.toInt_ofInt_of_le hrange.1
        exact Int.lt_of_le_of_lt hrange.2 (by decide)
    · contradiction
  · rintro rfl
    exact Word.ofInt?_toInt word

theorem Word.ofInt?_eq_none_iff (n : Int) :
    Word.ofInt? n = none ↔ ¬ (-2 ^ 63 ≤ n ∧ n ≤ 2 ^ 63 - 1) := by
  have hmin : Int64.minValue.toInt = -2 ^ 63 := by decide
  have hmax : Int64.maxValue.toInt = 2 ^ 63 - 1 := by decide
  rw [Word.ofInt?, hmin, hmax, ite_eq_right_iff]
  exact forall_congr' fun _ => iff_of_false (Option.some_ne_none _) id

/-- Both paths read the number that the general reader reads. -/
theorem decodeWord?_eq (bytes : List UInt8) :
    decodeWord? bytes = Word.ofInt? (decode bytes) := by
  by_cases hlong : bytes.length > 8
  · rw [decodeWord?, if_pos hlong]
  · rcases eq_nil_or_concat_withSign bytes with
      rfl | ⟨rest, negative, low, hlow, rfl⟩
    · rfl
    · have hlength : rest.length < 8 := by simpa using hlong
      have hexact := wordExact_concat_withSign rest negative hlow hlength
      rw [decodeWord?, if_neg hlong, List.getLast?_concat,
        decode_concat_withSign rest negative hlow,
        ← toNat_magnitudeWord rest negative hlow hlength]
      simp only [hasSignBit_withSign negative hlow]
      symm
      rw [Word.ofInt?_eq_some_iff]
      cases negative with
      | false => exact hexact.cast
      | true =>
          rw [if_pos rfl, hexact.negation, hexact.cast]
          rfl

/-- The machine reading gives exactly the number that the bytes stand for, and
refuses it exactly when no word holds it.  The packed path computes it without
loss, and every word survives being written, the least one by the long path. -/
theorem decodeWord?_agrees :
    (∀ bytes word,
        decodeWord? bytes = some word ↔ word.toInt = decode bytes) ∧
      (∀ bytes, decodeWord? bytes = none ↔
        ¬ (-2 ^ 63 ≤ decode bytes ∧ decode bytes ≤ 2 ^ 63 - 1)) ∧
      (∀ bytes last, bytes.getLast? = some last → bytes.length ≤ 8 →
        WordExact bytes (hasSignBit last)) ∧
      (∀ word : Int64, (Item.ofInt word.toInt).toWord? = some word) ∧
      (encode Int64.minValue.toInt).length = 9 := by
  refine ⟨?_, ?_, ?_, ?_, by decide +kernel⟩
  · intro bytes word
    rw [decodeWord?_eq, Word.ofInt?_eq_some_iff]
  · intro bytes
    rw [decodeWord?_eq, Word.ofInt?_eq_none_iff]
  · intro bytes last hlast hlength
    exact wordExact_of_length_le hlast hlength
  · intro word
    rw [Item.toWord?, decodeWord?_eq, Item.ofInt, decode_encode,
      Word.ofInt?_toInt]

/-- All eight bytes in use, read as the least number that they can hold. -/
theorem decodeWord?_agrees_full_width :
    decodeWord? (List.replicate 8 0xff) = some (-Int64.maxValue) ∧
      WordExact (List.replicate 8 0xff) true :=
  ⟨(decodeWord?_agrees.1 _ _).mpr (by decide +kernel),
    decodeWord?_agrees.2.2.1 (List.replicate 8 0xff) 0xff rfl (by decide)⟩

end ScriptStack.SignMagnitude
