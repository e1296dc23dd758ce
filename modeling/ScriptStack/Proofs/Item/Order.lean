import ScriptStack.Item.Order
import ScriptStack.Proofs.Item.Truth
/-!
Items in the order of their numbers.  Comparing items comes to comparing their
numbers (`compareNumbers_eq_compareOn`), also where equal bytes cut it short.
Of the items with one number the written one alone is minimal
(`isMinimal_and_sameNumber_iff`).
-/

namespace ScriptStack.Item

theorem compareNumbers_eq (a b : Item) :
    a.compareNumbers b = compare a.toInt b.toInt := by
  unfold compareNumbers
  split
  · next hbytes =>
      have hnumber : a.toInt = b.toInt :=
        congrArg SignMagnitude.decode hbytes
      rw [hnumber, Std.compare_self]
  · rfl

theorem compareNumbers_eq_compareOn : compareNumbers = compareOn toInt := by
  funext a b
  exact compareNumbers_eq a b

instance : Std.TransCmp compareNumbers := by
  rw [compareNumbers_eq_compareOn]
  infer_instance

theorem sameNumber_iff (a b : Item) :
    a.sameNumber b = true ↔ a.toInt = b.toInt := by
  rw [sameNumber, beq_iff_eq, compareNumbers_eq, Std.compare_eq_iff_eq]

theorem sameNumber_equivalence :
    Equivalence fun a b : Item => a.sameNumber b = true := by
  simp only [sameNumber_iff]
  exact ⟨fun _ => rfl, Eq.symm, Eq.trans⟩

theorem isMinimal_iff_eq_ofInt (item : Item) :
    item.isMinimal = true ↔ item = ofInt item.toInt := by
  rw [isMinimal, SignMagnitude.isMinimal_iff, eq_comm]
  exact ⟨congrArg mk, congrArg bytes⟩

/-- The written item is the one minimal item with its number. -/
theorem isMinimal_and_sameNumber_iff (item minimal : Item) :
    minimal.isMinimal = true ∧ item.sameNumber minimal = true ↔
      minimal = ofInt item.toInt := by
  rw [isMinimal_iff_eq_ofInt, sameNumber_iff]
  constructor
  · rintro ⟨hminimal, hnumber⟩
    rw [hminimal, hnumber]
  · rintro rfl
    rw [toInt_ofInt]
    exact ⟨rfl, rfl⟩

theorem eq_iff_sameNumber {a b : Item} (ha : a.isMinimal = true)
    (hb : b.isMinimal = true) : a = b ↔ a.sameNumber b = true := by
  rw [sameNumber_iff]
  constructor
  · exact congrArg toInt
  · intro hnumber
    rw [(isMinimal_iff_eq_ofInt a).mp ha, (isMinimal_iff_eq_ofInt b).mp hb,
      hnumber]

/-- Items stand in the order of their numbers, which is total and coarser than
equality.  Each item has the number of exactly one minimal item, the one that
is written for its number, so minimal items are equal when their numbers are. -/
theorem compareNumbers_orders_numbers :
    (∀ a b : Item, a.compareNumbers b = compare a.toInt b.toInt) ∧
      (∀ a b : Item, b.compareNumbers a = (a.compareNumbers b).swap) ∧
      (∀ a b c : Item, (a.compareNumbers b).isLE = true →
        (b.compareNumbers c).isLE = true →
          (a.compareNumbers c).isLE = true) ∧
      (Equivalence fun a b : Item => a.sameNumber b = true) ∧
      (∀ a b : Item, a = b → a.sameNumber b = true) ∧
      (∀ item minimal : Item,
        minimal.isMinimal = true ∧ item.sameNumber minimal = true ↔
          minimal = ofInt item.toInt) ∧
      ∀ a b : Item, a.isMinimal = true → b.isMinimal = true →
        (a = b ↔ a.sameNumber b = true) := by
  refine ⟨compareNumbers_eq, ?_, ?_, sameNumber_equivalence, ?_,
    isMinimal_and_sameNumber_iff, ?_⟩
  · intro a b
    exact Std.OrientedCmp.eq_swap
  · intro a b c hab hbc
    exact Std.TransCmp.isLE_trans hab hbc
  · rintro a b rfl
    exact sameNumber_equivalence.refl a
  · intro a b ha hb
    exact eq_iff_sameNumber ha hb

/-- Minus one, a negative zero and a padded one in ascending order, and 128 and
minus 128, which are both minimal. -/
theorem compareNumbers_orders_numbers_padded :
    (compareNumbers ⟨[0x81]⟩ ⟨[0x00, 0x80]⟩).isLE = true ∧
      (compareNumbers ⟨[0x00, 0x80]⟩ ⟨[0x01, 0x00]⟩).isLE = true ∧
      (compareNumbers ⟨[0x81]⟩ ⟨[0x01, 0x00]⟩).isLE = true ∧
      isMinimal ⟨[0x80, 0x00]⟩ = true ∧ isMinimal ⟨[0x80, 0x80]⟩ = true ∧
      (Item.mk [0x80, 0x00] = ⟨[0x80, 0x80]⟩ ↔
        sameNumber ⟨[0x80, 0x00]⟩ ⟨[0x80, 0x80]⟩ = true) := by
  obtain ⟨-, -, htrans, -, -, -, hminimal⟩ := compareNumbers_orders_numbers
  exact ⟨by decide, by decide,
    htrans ⟨[0x81]⟩ ⟨[0x00, 0x80]⟩ ⟨[0x01, 0x00]⟩ (by decide) (by decide),
    by decide, by decide,
    hminimal ⟨[0x80, 0x00]⟩ ⟨[0x80, 0x80]⟩ (by decide) (by decide)⟩

end ScriptStack.Item
