import Mathlib.Data.List.Perm.Basic
import ScriptStack.Proofs.Item.Order
/-!
Sorting items by their numbers.  The sorted items are the same items
(`sortByNumber_perm`) in the order of their numbers (`ordered_sortByNumber`),
and those with one number stand as they did before (`filter_sortByNumber`).
Two orders of the same items agree on the numbers (`map_toInt_eq_of_perm`), and
on the items if these are minimal (`eq_of_perm_of_isMinimal`).
-/

namespace ScriptStack.Item

/-- Items whose numbers never fall from one to a later one. -/
def Ordered (items : List Item) : Prop :=
  items.Pairwise fun a b => a.toInt ≤ b.toInt

theorem compareNumbers_ne_gt_iff (a b : Item) :
    (a.compareNumbers b != .gt) = decide (a.toInt ≤ b.toInt) := by
  rw [Bool.eq_iff_iff, bne_iff_ne, decide_eq_true_eq, compareNumbers_eq,
    ne_eq, compare_gt_iff_gt, not_lt]

theorem sortByNumber_eq (items : List Item) :
    sortByNumber items =
      items.mergeSort fun a b => decide (a.toInt ≤ b.toInt) := by
  simp only [sortByNumber, compareNumbers_ne_gt_iff]

theorem sortByNumber_perm (items : List Item) :
    (sortByNumber items).Perm items :=
  List.mergeSort_perm items _

private theorem decide_toInt_le_trans (a b c : Item)
    (hab : decide (a.toInt ≤ b.toInt) = true)
    (hbc : decide (b.toInt ≤ c.toInt) = true) :
    decide (a.toInt ≤ c.toInt) = true :=
  decide_eq_true ((of_decide_eq_true hab).trans (of_decide_eq_true hbc))

private theorem decide_toInt_le_total (a b : Item) :
    (decide (a.toInt ≤ b.toInt) || decide (b.toInt ≤ a.toInt)) = true := by
  simpa using le_total a.toInt b.toInt

theorem ordered_sortByNumber (items : List Item) :
    Ordered (sortByNumber items) := by
  rw [sortByNumber_eq]
  have hpairwise := List.pairwise_mergeSort decide_toInt_le_trans
    decide_toInt_le_total items
  exact hpairwise.imp of_decide_eq_true

theorem sortByNumber_of_ordered {items : List Item} (hordered : Ordered items) :
    sortByNumber items = items := by
  rw [sortByNumber_eq]
  exact List.mergeSort_of_pairwise (hordered.imp decide_eq_true)

theorem map_toInt_sortByNumber (items : List Item) :
    (sortByNumber items).map toInt = (items.map toInt).mergeSort := by
  rw [sortByNumber_eq]
  exact List.map_mergeSort fun _ _ _ _ => rfl

theorem ordered_filter_toInt (items : List Item) (n : Int) :
    Ordered (items.filter (·.toInt = n)) := by
  apply List.pairwise_of_forall_mem_list
  intro a ha b hb
  have hnumber : a.toInt = n := by simpa using (List.mem_filter.mp ha).2
  have hsame : b.toInt = n := by simpa using (List.mem_filter.mp hb).2
  rw [hnumber, hsame]

/-- The items with one number are an ordered part of the list, and sorting
keeps every such part. -/
theorem filter_sortByNumber (items : List Item) (n : Int) :
    (sortByNumber items).filter (·.toInt = n) =
      items.filter (·.toInt = n) := by
  have hkept : (items.filter (·.toInt = n)).Sublist (sortByNumber items) := by
    rw [sortByNumber_eq]
    exact List.sublist_mergeSort decide_toInt_le_trans decide_toInt_le_total
      ((ordered_filter_toInt items n).imp decide_eq_true) List.filter_sublist
  have hpart := hkept.filter (·.toInt = n)
  simp only [List.filter_filter, Bool.and_self] at hpart
  have hlength := ((sortByNumber_perm items).filter (·.toInt = n)).length_eq
  exact (hpart.eq_of_length hlength.symm).symm

/-- The order of the same items fixes the numbers. -/
theorem map_toInt_eq_of_perm {items items' : List Item}
    (hordered : Ordered items) (hordered' : Ordered items')
    (hperm : items.Perm items') : items.map toInt = items'.map toInt :=
  List.Perm.eq_of_pairwise (fun _ _ _ _ => le_antisymm)
    (List.pairwise_map.mpr hordered) (List.pairwise_map.mpr hordered')
    (hperm.map toInt)

/-- The order of the same minimal items fixes the items. -/
theorem eq_of_perm_of_isMinimal {items items' : List Item}
    (hordered : Ordered items) (hordered' : Ordered items')
    (hperm : items.Perm items')
    (hminimal : ∀ item ∈ items, item.isMinimal = true) : items = items' := by
  apply List.Perm.eq_of_pairwise _ hordered hordered' hperm
  intro a b ha hb hab hba
  have hnumber : a.sameNumber b = true :=
    (sameNumber_iff a b).mpr (le_antisymm hab hba)
  have hmem : b ∈ items := hperm.mem_iff.mpr hb
  exact (eq_iff_sameNumber (hminimal a ha) (hminimal b hmem)).mpr hnumber

/-- Sorting by number.  The items stay the same and their numbers come in
ascending order, items with one number in the order that they had, whatever
their bytes.  Sorting once is enough, and where the items stood before changes
none of the numbers and, if all items are minimal, none of the items. -/
theorem sortByNumber_stable_sort (items : List Item) :
    (sortByNumber items).Perm items ∧
      ((sortByNumber items).map toInt).Pairwise (· ≤ ·) ∧
      (sortByNumber items).map toInt = (items.map toInt).mergeSort ∧
      (∀ n : Int, (sortByNumber items).filter (·.toInt = n) =
        items.filter (·.toInt = n)) ∧
      sortByNumber (sortByNumber items) = sortByNumber items ∧
      ∀ items' : List Item, items'.Perm items →
        (sortByNumber items').map toInt = (sortByNumber items).map toInt ∧
          ((∀ item ∈ items, item.isMinimal = true) →
            sortByNumber items' = sortByNumber items) := by
  have hordered := ordered_sortByNumber items
  refine ⟨sortByNumber_perm items, List.pairwise_map.mpr hordered,
    map_toInt_sortByNumber items, filter_sortByNumber items,
    sortByNumber_of_ordered hordered, ?_⟩
  intro items' hperm
  have hordered' := ordered_sortByNumber items'
  have hsorted : (sortByNumber items').Perm (sortByNumber items) :=
    (sortByNumber_perm items').trans
      (hperm.trans (sortByNumber_perm items).symm)
  refine ⟨map_toInt_eq_of_perm hordered' hordered hsorted, ?_⟩
  intro hminimal
  apply eq_of_perm_of_isMinimal hordered' hordered hsorted
  intro item hitem
  exact hminimal item
    (hperm.mem_iff.mp ((sortByNumber_perm items').mem_iff.mp hitem))

/-- Two items that change places, both minimal. -/
theorem sortByNumber_stable_sort_swapped :
    [Item.mk [0x81], ⟨[0x80, 0x00]⟩].Perm [⟨[0x80, 0x00]⟩, ⟨[0x81]⟩] ∧
      (∀ item ∈ [Item.mk [0x80, 0x00], ⟨[0x81]⟩], item.isMinimal = true) ∧
      sortByNumber [⟨[0x81]⟩, ⟨[0x80, 0x00]⟩] =
        sortByNumber [⟨[0x80, 0x00]⟩, ⟨[0x81]⟩] := by
  have hperm : [Item.mk [0x81], ⟨[0x80, 0x00]⟩].Perm
      [⟨[0x80, 0x00]⟩, ⟨[0x81]⟩] := List.Perm.swap _ _ _
  have hminimal : ∀ item ∈ [Item.mk [0x80, 0x00], ⟨[0x81]⟩],
      item.isMinimal = true := by decide
  obtain ⟨-, -, -, -, -, hmoved⟩ :=
    sortByNumber_stable_sort [⟨[0x80, 0x00]⟩, ⟨[0x81]⟩]
  exact ⟨hperm, hminimal, (hmoved _ hperm).2 hminimal⟩

end ScriptStack.Item
