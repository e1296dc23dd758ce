import ScriptStack.Item.Basic
import ScriptStack.Proofs.SignMagnitude.Codec
/-!
Items as truth values.  The scan of the bytes comes to the same as reading the
number and comparing it with zero (`isTrue_eq_decide`).
-/

namespace ScriptStack.Item

open LittleEndian SignMagnitude

theorem toInt_ofInt (n : Int) : (ofInt n).toInt = n := decode_encode n

theorem toInt_ofBool (b : Bool) : (ofBool b).toInt = if b then 1 else 0 := by
  cases b <;> decide

/-- In the last byte the sign bit is not looked at. -/
theorem countsAsTrue_last (byte : UInt8) :
    countsAsTrue byte true = (byte &&& magnitudeBits != 0) := by
  have hbyte := byte.toNat_lt
  rw [Bool.eq_iff_iff]
  simp only [countsAsTrue, Bool.and_true, Bool.and_eq_true,
    Bool.not_eq_true', bne_iff_ne, beq_eq_false_iff_ne, ne_eq,
    ← UInt8.toNat_inj, toNat_and_magnitudeBits]
  change ¬ byte.toNat = 0 ∧ ¬ byte.toNat = 128 ↔ ¬ byte.toNat % 128 = 0
  omega

theorem any_countsAsTrue_of_before_last (bytes : List UInt8)
    (start size : Nat) (hsize : start + bytes.length < size) :
    ((bytes.zipIdx start).any fun (byte, index) =>
      countsAsTrue byte (index + 1 == size)) = bytes.any (· != 0) := by
  induction bytes generalizing start with
  | nil => rfl
  | cons byte rest ih =>
      rw [List.length_cons] at hsize
      have hbefore : start + 1 ≠ size := by omega
      have hbyte : countsAsTrue byte (start + 1 == size) = (byte != 0) := by
        simp [countsAsTrue, hbefore]
      rw [List.zipIdx_cons, List.any_cons, List.any_cons,
        ih (start + 1) (by omega)]
      exact congrArg (· || rest.any (· != 0)) hbyte

theorem isTrue_concat (rest : List UInt8) (last : UInt8) :
    isTrue ⟨rest ++ [last]⟩ =
      (rest.any (· != 0) || last &&& magnitudeBits != 0) := by
  have hrest :=
    any_countsAsTrue_of_before_last rest 0 (rest.length + 1) (by omega)
  rw [← countsAsTrue_last]
  simp only [isTrue, List.length_append, List.length_singleton,
    List.zipIdx_append, List.any_append, hrest]
  simp

theorem isTrue_eq_false_iff (item : Item) :
    item.isTrue = false ↔ item.toInt = 0 := by
  obtain ⟨bytes⟩ := item
  rcases eq_nil_or_concat_withSign bytes with
    rfl | ⟨rest, negative, low, hlow, rfl⟩
  · decide
  · rw [isTrue_concat, withSign_and_magnitudeBits negative hlow, toInt,
      decode_concat_withSign rest negative hlow, signed_eq_zero_iff,
      value_eq_zero_iff, List.forall_mem_append]
    simp

theorem isTrue_eq_decide (item : Item) :
    item.isTrue = decide (item.toInt ≠ 0) := by
  rw [Bool.eq_iff_iff, decide_eq_true_eq, ← Bool.not_eq_false, ne_eq,
    isTrue_eq_false_iff]

/-- An item is true exactly when its number is not zero: the false items are
zero bytes, the last of which may carry a sign, and items with the same number
have the same truth value. -/
theorem isTrue_reads_number :
    (∀ item : Item, item.isTrue = true ↔ item.toInt ≠ 0) ∧
      (∀ item : Item, item.isTrue = false ↔ ∃ count,
        item.bytes = List.replicate count 0 ∨
          item.bytes = List.replicate count 0 ++ [0x80]) ∧
      ∀ a b : Item, a.toInt = b.toInt → a.isTrue = b.isTrue := by
  refine ⟨?_, ?_, ?_⟩
  · intro item
    rw [isTrue_eq_decide, decide_eq_true_eq]
  · intro item
    rw [isTrue_eq_false_iff]
    exact decode_eq_zero_iff item.bytes
  · intro a b hnumber
    rw [isTrue_eq_decide, isTrue_eq_decide, hnumber]

/-- The shortest zero and a padded negative one. -/
theorem isTrue_reads_number_zeros :
    toInt ⟨[]⟩ = toInt ⟨[0x00, 0x80]⟩ ∧
      isTrue ⟨[]⟩ = isTrue ⟨[0x00, 0x80]⟩ :=
  ⟨by decide,
    isTrue_reads_number.2.2 ⟨[]⟩ ⟨[0x00, 0x80]⟩ (by decide)⟩

end ScriptStack.Item
