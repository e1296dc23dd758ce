import ScriptStack.Item.Basic
import ScriptStack.Proofs.Bytes.LittleEndian
import ScriptStack.Proofs.SignMagnitude.SignBit
/-!
Writing and reading numbers.  Reading undoes writing (`decode_encode`), and the
bytes that are written are the minimal ones (`isMinimal_iff`).
-/

namespace ScriptStack.SignMagnitude

open LittleEndian

/-- A magnitude with a sign. -/
def signed (negative : Bool) (magnitude : Nat) : Int :=
  if negative then -magnitude else magnitude

@[simp] theorem signed_zero (negative : Bool) : signed negative 0 = 0 := by
  cases negative <;> rfl

@[simp] theorem natAbs_signed (negative : Bool) (magnitude : Nat) :
    (signed negative magnitude).natAbs = magnitude := by
  cases negative <;> simp [signed]

theorem signed_natAbs (n : Int) : signed (decide (n < 0)) n.natAbs = n := by
  simp only [signed, decide_eq_true_eq]
  split <;> omega

theorem signed_eq_zero_iff (negative : Bool) (magnitude : Nat) :
    signed negative magnitude = 0 ↔ magnitude = 0 := by
  rw [← Int.natAbs_eq_zero, natAbs_signed]

theorem signed_lt_zero_iff (negative : Bool) {magnitude : Nat}
    (hne : magnitude ≠ 0) :
    signed negative magnitude < 0 ↔ negative = true := by
  cases negative with
  | false => simp [signed]
  | true => simp [signed, Nat.pos_of_ne_zero hne]

/-- A number is zero, or its digits end in one that is not zero. -/
theorem eq_zero_or_signed (n : Int) :
    n = 0 ∨ ∃ negative rest top,
      top ≠ 0 ∧ n = signed negative (value (rest ++ [top])) := by
  rcases eq_zero_or_value_concat n.natAbs with hzero | ⟨rest, top, htop, hn⟩
  · exact Or.inl (Int.natAbs_eq_zero.mp hzero)
  · refine Or.inr ⟨decide (n < 0), rest, top, htop, ?_⟩
    rw [← hn, signed_natAbs]

theorem decode_concat_withSign (rest : List UInt8) (negative : Bool)
    {low : UInt8} (hlow : hasSignBit low = false) :
    decode (rest ++ [withSign negative low]) =
      signed negative (value (rest ++ [low])) := by
  simp only [decode, signed, List.getLast?_concat, List.dropLast_concat,
    withSign_and_magnitudeBits negative hlow,
    hasSignBit_withSign negative hlow]

/-- The top bit of the last byte is never part of a magnitude. -/
theorem value_concat_lt (rest : List UInt8) {low : UInt8}
    (hlow : hasSignBit low = false) :
    value (rest ++ [low]) < 2 ^ (8 * rest.length + 7) := by
  have hlt := (hasSignBit_eq_false_iff low).mp hlow
  have hrest := value_lt rest
  have htop : 256 ^ rest.length * low.toNat ≤ 256 ^ rest.length * 127 :=
    Nat.mul_le_mul_left _ (by omega)
  rw [Nat.pow_add, ← pow_256_eq_two_pow]
  simp only [value_append, value_cons, value_nil, Nat.mul_zero, Nat.add_zero]
  omega

/-- A sign on the last byte adds the weight of its bit. -/
theorem value_concat_withSign (rest : List UInt8) (negative : Bool)
    {low : UInt8} (hlow : hasSignBit low = false) :
    value (rest ++ [withSign negative low]) =
      value (rest ++ [low]) +
        if negative then 2 ^ (8 * rest.length + 7) else 0 := by
  cases negative with
  | false => rfl
  | true =>
      simp only [value_append, value_cons, value_nil,
        toNat_withSign true hlow, if_true, Nat.pow_add, ← pow_256_eq_two_pow]
      ring

theorem decode_zeros_concat (count : Nat) (negative : Bool) :
    decode (List.replicate count 0 ++ [withSign negative 0]) = 0 := by
  rw [decode_concat_withSign _ negative (by decide), value_concat_zero,
    value_zeros, signed_zero]

/-- Zero is read from zero bytes, with or without a sign on the last one. -/
theorem decode_eq_zero_iff (bytes : List UInt8) :
    decode bytes = 0 ↔ ∃ count, bytes = List.replicate count 0 ∨
      bytes = List.replicate count 0 ++ [signBit] := by
  constructor
  · intro hdecode
    rcases eq_nil_or_concat_withSign bytes with
      rfl | ⟨rest, negative, low, hlow, rfl⟩
    · exact ⟨0, Or.inl rfl⟩
    · rw [decode_concat_withSign rest negative hlow, signed_eq_zero_iff,
        value_eq_zero_iff] at hdecode
      obtain rfl : low = 0 := hdecode low (by simp)
      have hrest : rest = List.replicate rest.length 0 :=
        List.eq_replicate_of_mem fun byte hbyte =>
          hdecode byte (List.mem_append_left _ hbyte)
      rw [hrest]
      cases negative with
      | false => exact ⟨rest.length + 1, Or.inl List.replicate_succ'.symm⟩
      | true => exact ⟨rest.length, Or.inr rfl⟩
  · rintro ⟨count, rfl | rfl⟩
    · cases count with
      | zero => rfl
      | succ count =>
          rw [List.replicate_succ']
          exact decode_zeros_concat count false
    · exact decode_zeros_concat count true

@[simp] theorem encode_zero : encode 0 = [] := by
  simp [encode]

/-- The sign goes on top of a last digit that leaves room for it. -/
theorem encode_signed_of_low (negative : Bool) (rest : List UInt8)
    {top : UInt8} (hlow : hasSignBit top = false) (htop : top ≠ 0) :
    encode (signed negative (value (rest ++ [top]))) =
      rest ++ [withSign negative top] := by
  have hne := value_concat_ne_zero rest htop
  simp only [encode, natAbs_signed, digits_value_concat rest htop,
    List.getLast?_concat, List.dropLast_concat, hlow,
    signed_lt_zero_iff negative hne]
  cases negative <;> rfl

/-- The sign takes a byte of its own after a last digit that leaves no room. -/
theorem encode_signed_of_high (negative : Bool) (rest : List UInt8)
    {top : UInt8} (hhigh : hasSignBit top = true) :
    encode (signed negative (value (rest ++ [top]))) =
      rest ++ [top] ++ [withSign negative 0] := by
  have htop : top ≠ 0 := by
    rintro rfl
    exact absurd hhigh (by decide)
  have hne := value_concat_ne_zero rest htop
  simp only [encode, natAbs_signed, digits_value_concat rest htop,
    List.getLast?_concat, hhigh, signed_lt_zero_iff negative hne]
  cases negative <;> rfl

theorem decode_encode (n : Int) : decode (encode n) = n := by
  rcases eq_zero_or_signed n with rfl | ⟨negative, rest, top, htop, rfl⟩
  · simp [decode]
  · cases htopBit : hasSignBit top with
    | false =>
        rw [encode_signed_of_low negative rest htopBit htop,
          decode_concat_withSign rest negative htopBit]
    | true =>
        rw [encode_signed_of_high negative rest htopBit,
          decode_concat_withSign (rest ++ [top]) negative (by decide),
          value_concat_zero]

theorem encode_injective : Function.Injective encode :=
  Function.LeftInverse.injective decode_encode

/-- Numbers of any size survive being written, as bytes and as items. -/
theorem encode_lossless :
    (∀ n : Int, decode (encode n) = n) ∧ Function.Injective encode ∧
      ∀ n : Int, (Item.ofInt n).toInt = n :=
  ⟨decode_encode, encode_injective, decode_encode⟩

theorem isMinimal_concat_withSign (rest : List UInt8) (negative : Bool)
    {low : UInt8} (hlow : hasSignBit low = false) :
    isMinimal (rest ++ [withSign negative low]) =
      (low != 0 || rest.getLast?.any hasSignBit) := by
  simp only [isMinimal, List.getLast?_concat, List.dropLast_concat,
    withSign_and_magnitudeBits negative hlow]
  cases low != 0 with
  | true => rfl
  | false => cases rest.getLast? <;> rfl

theorem isMinimal_encode (n : Int) : isMinimal (encode n) = true := by
  rcases eq_zero_or_signed n with rfl | ⟨negative, rest, top, htop, rfl⟩
  · simp [isMinimal]
  · cases htopBit : hasSignBit top with
    | false =>
        rw [encode_signed_of_low negative rest htopBit htop,
          isMinimal_concat_withSign rest negative htopBit]
        simp [htop]
    | true =>
        rw [encode_signed_of_high negative rest htopBit,
          isMinimal_concat_withSign (rest ++ [top]) negative (by decide)]
        simp [htopBit]

/-- Minimal bytes are written for the number that they are read as. -/
theorem encode_decode_of_isMinimal {bytes : List UInt8}
    (hminimal : isMinimal bytes = true) : encode (decode bytes) = bytes := by
  rcases eq_nil_or_concat_withSign bytes with
    rfl | ⟨rest, negative, low, hlow, rfl⟩
  · simp [decode]
  · rw [decode_concat_withSign rest negative hlow]
    rw [isMinimal_concat_withSign rest negative hlow] at hminimal
    by_cases hzero : low = 0
    · -- the last byte is the sign alone: the byte before it is the top digit
      subst hzero
      cases rest using List.reverseRecOn with
      | nil => simp at hminimal
      | append_singleton front before _ =>
          have hhigh : hasSignBit before = true := by simpa using hminimal
          rw [value_concat_zero, encode_signed_of_high negative front hhigh]
    · exact encode_signed_of_low negative rest hlow hzero

theorem isMinimal_iff (bytes : List UInt8) :
    isMinimal bytes = true ↔ encode (decode bytes) = bytes := by
  constructor
  · exact encode_decode_of_isMinimal
  · intro hencode
    rw [← hencode]
    exact isMinimal_encode (decode bytes)

/-- Looking at the last two bytes decides whether bytes are what is written for
their number, which is whether they are written for any number. -/
theorem isMinimal_decides_image (bytes : List UInt8) :
    (isMinimal bytes = true ↔ encode (decode bytes) = bytes) ∧
      (encode (decode bytes) = bytes ↔ ∃ n : Int, encode n = bytes) := by
  refine ⟨isMinimal_iff bytes, fun hencode => ⟨decode bytes, hencode⟩, ?_⟩
  rintro ⟨n, rfl⟩
  rw [decode_encode]

end ScriptStack.SignMagnitude
