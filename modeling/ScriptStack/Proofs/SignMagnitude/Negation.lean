import Mathlib.Order.Compare
import ScriptStack.Proofs.Item.Order
/-!
Negation.  Turning over the sign bit of the last byte negates the number, in
bytes that are padded too (`decode_flipSign`), and leaves minimal bytes minimal
(`isMinimal_flipSign`), so the minimal bytes of a number and of its negative
differ in that bit alone (`encode_neg`).
-/

namespace ScriptStack.SignMagnitude

open LittleEndian

/-- The bytes with the sign bit of the last one turned over. -/
def flipSign (bytes : List UInt8) : List UInt8 :=
  match bytes.getLast? with
  | none => []
  | some last => bytes.dropLast ++ [last ^^^ signBit]

theorem signed_not (negative : Bool) (magnitude : Nat) :
    signed (!negative) magnitude = -signed negative magnitude := by
  cases negative <;> simp [signed]

/-- Only the sign of the last byte changes. -/
theorem flipSign_concat_withSign (rest : List UInt8) (negative : Bool)
    {low : UInt8} (hlow : hasSignBit low = false) :
    flipSign (rest ++ [withSign negative low]) =
      rest ++ [withSign (!negative) low] := by
  simp only [flipSign, List.getLast?_concat, List.dropLast_concat,
    withSign_xor_signBit negative hlow]

/-- The other sign makes a number negative, and of zero it makes zero. -/
theorem decode_flipSign (bytes : List UInt8) :
    decode (flipSign bytes) = -decode bytes := by
  rcases eq_nil_or_concat_withSign bytes with
    rfl | ⟨rest, negative, low, hlow, rfl⟩
  · rfl
  · rw [flipSign_concat_withSign rest negative hlow,
      decode_concat_withSign rest negative hlow,
      decode_concat_withSign rest (!negative) hlow, signed_not]

theorem isMinimal_flipSign (bytes : List UInt8) :
    isMinimal (flipSign bytes) = isMinimal bytes := by
  rcases eq_nil_or_concat_withSign bytes with
    rfl | ⟨rest, negative, low, hlow, rfl⟩
  · rfl
  · rw [flipSign_concat_withSign rest negative hlow,
      isMinimal_concat_withSign rest negative hlow,
      isMinimal_concat_withSign rest (!negative) hlow]

/-- A number and its negative are written alike but for the sign.  Zero has no
bytes, and so no sign to change. -/
theorem encode_neg (n : Int) : encode (-n) = flipSign (encode n) := by
  have hminimal : isMinimal (flipSign (encode n)) = true := by
    rw [isMinimal_flipSign, isMinimal_encode]
  rw [← encode_decode_of_isMinimal hminimal, decode_flipSign, decode_encode]

theorem toInt_flipSign (bytes : List UInt8) :
    Item.toInt ⟨flipSign bytes⟩ = -Item.toInt ⟨bytes⟩ :=
  decode_flipSign bytes

theorem isTrue_flipSign (bytes : List UInt8) :
    Item.isTrue ⟨flipSign bytes⟩ = Item.isTrue ⟨bytes⟩ := by
  simp only [Item.isTrue_eq_decide, toInt_flipSign, ne_eq, Int.neg_eq_zero]

theorem compareNumbers_flipSign (a b : List UInt8) :
    Item.compareNumbers ⟨flipSign a⟩ ⟨flipSign b⟩ =
      (Item.compareNumbers ⟨a⟩ ⟨b⟩).swap := by
  have hanti : StrictAnti fun n : Int => -n := fun _ _ => Int.neg_lt_neg
  have hnegated := hanti.cmp_map_eq (Item.toInt ⟨a⟩) (Item.toInt ⟨b⟩)
  rw [cmp_eq_compare, cmp_eq_compare] at hnegated
  rw [Item.compareNumbers_eq, Item.compareNumbers_eq, toInt_flipSign,
    toInt_flipSign, hnegated]
  exact Std.OrientedCmp.eq_swap

/-- A number and its negative differ in the sign bit alone, however they are
padded.  Turning it over keeps the truth value and whether the bytes are
minimal, and reverses the order of two numbers.  No bytes have no such bit, and
zero is its own negative. -/
theorem sign_bit_alone_negates :
    (∀ bytes : List UInt8,
      decode (flipSign bytes) = -decode bytes ∧
        Item.isTrue ⟨flipSign bytes⟩ = Item.isTrue ⟨bytes⟩ ∧
        isMinimal (flipSign bytes) = isMinimal bytes) ∧
      (∀ n : Int, encode (-n) = flipSign (encode n)) ∧
      ∀ a b : List UInt8,
        Item.compareNumbers ⟨flipSign a⟩ ⟨flipSign b⟩ =
          (Item.compareNumbers ⟨a⟩ ⟨b⟩).swap := by
  refine ⟨?_, encode_neg, compareNumbers_flipSign⟩
  intro bytes
  exact ⟨decode_flipSign bytes, isTrue_flipSign bytes,
    isMinimal_flipSign bytes⟩

end ScriptStack.SignMagnitude
