import Mathlib.Data.Finset.Card
import Mathlib.Order.Bounds.Basic
import ScriptStack.Item.Index
import ScriptStack.Proofs.Item.Order
import Std.Data.HashMap.Lemmas
import Std.Data.HashSet.Lemmas
/-!
Items in hashed collections.  A set of items has one entry for each different
item (`countDistinct_eq`), and a map from items to positions keeps the greatest
position of each (`getElem?_lastPositions_iff`).  Both go by the bytes, so a
reading of the items, as that of their numbers, has as many results as the set
has entries only where it tells the items apart (`card_map_eq_iff`).
-/

namespace ScriptStack.Item

/-- The positions at which an item stands in a list. -/
def positionsOf (items : List Item) (item : Item) : Set Nat :=
  {i | items[i]? = some item}

theorem mem_positionsOf (items : List Item) (item : Item) (i : Nat) :
    i ∈ positionsOf items item ↔ items[i]? = some item :=
  Iff.rfl

theorem mem_concat_iff (items : List Item) (item last : Item) :
    item ∈ items ++ [last] ↔ (last == item) = true ∨ item ∈ items := by
  rw [List.mem_append, List.mem_singleton, beq_iff_eq, or_comm, eq_comm]

theorem distinct_concat (items : List Item) (item : Item) :
    distinct (items ++ [item]) = (distinct items).insert item := by
  simp [distinct]

theorem mem_distinct (items : List Item) (item : Item) :
    item ∈ distinct items ↔ item ∈ items := by
  induction items using List.reverseRecOn with
  | nil => simp [distinct]
  | append_singleton items last ih =>
      rw [distinct_concat, Std.HashSet.mem_insert, ih, mem_concat_iff]

/-- The set grows by the items that are new to it. -/
theorem countDistinct_eq (items : List Item) :
    countDistinct items = items.toFinset.card := by
  induction items using List.reverseRecOn with
  | nil => simp [countDistinct, distinct]
  | append_singleton items last ih =>
      have hinsert :
          (items ++ [last]).toFinset = insert last items.toFinset := by
        ext item
        simp
      rw [countDistinct] at ih
      rw [countDistinct, distinct_concat, Std.HashSet.size_insert, ih, hinsert,
        Finset.card_insert_eq_ite]
      simp only [mem_distinct, List.mem_toFinset]

/-- An item at the end replaces the position that its bytes had before. -/
theorem lastPositions_concat (items : List Item) (item : Item) :
    lastPositions (items ++ [item]) =
      (lastPositions items).insert item items.length := by
  simp [lastPositions, List.zipIdx_append]

theorem isGreatest_positionsOf_concat_self (items : List Item) (item : Item) :
    IsGreatest (positionsOf (items ++ [item]) item) items.length := by
  refine ⟨List.getElem?_concat_length, ?_⟩
  intro i hi
  obtain ⟨hlt, -⟩ := List.getElem?_eq_some_iff.mp hi
  rw [List.length_append, List.length_singleton] at hlt
  exact Nat.le_of_lt_succ hlt

theorem positionsOf_concat_of_ne (items : List Item) {item last : Item}
    (hne : last ≠ item) :
    positionsOf (items ++ [last]) item = positionsOf items item := by
  ext i
  rw [mem_positionsOf, mem_positionsOf, List.getElem?_append]
  split
  · rfl
  · next hend =>
      have hout : items[i]? = none :=
        List.getElem?_eq_none (Nat.le_of_not_lt hend)
      simp [hout, List.getElem?_singleton, hne]

/-- The position that the map holds for an item is the last one. -/
theorem getElem?_lastPositions_iff (items : List Item) (item : Item)
    (i : Nat) : (lastPositions items)[item]? = some i ↔
      IsGreatest (positionsOf items item) i := by
  induction items using List.reverseRecOn with
  | nil => simp [lastPositions, IsGreatest, mem_positionsOf]
  | append_singleton items last ih =>
      rw [lastPositions_concat, Std.HashMap.getElem?_insert]
      by_cases hsame : last = item
      · subst hsame
        have hlast := isGreatest_positionsOf_concat_self items last
        rw [beq_self_eq_true, if_pos rfl, Option.some.injEq]
        exact ⟨fun hi => hi ▸ hlast, hlast.unique⟩
      · rw [beq_false_of_ne hsame, if_neg Bool.false_ne_true,
          positionsOf_concat_of_ne items hsame, ih]

theorem mem_lastPositions (items : List Item) (item : Item) :
    item ∈ lastPositions items ↔ item ∈ items := by
  induction items using List.reverseRecOn with
  | nil => simp [lastPositions]
  | append_singleton items last ih =>
      rw [lastPositions_concat, Std.HashMap.mem_insert, ih, mem_concat_iff]

/-- The position that the map holds for an item of the list. -/
def lastPosition (items : List Item) (item : Item) : Nat :=
  (lastPositions items).getD item 0

theorem lastPositionOfEach_eq (items : List Item) :
    lastPositionOfEach items = items.map (lastPosition items) := rfl

theorem getElem?_lastPositions {items : List Item} {item : Item}
    (hitem : item ∈ items) :
    (lastPositions items)[item]? = some (lastPosition items item) :=
  Std.HashMap.getElem?_eq_some_getD ((mem_lastPositions items item).mpr hitem)

/-- The position that is found for an item is its last one. -/
theorem isGreatest_lastPosition {items : List Item} {item : Item}
    (hitem : item ∈ items) :
    IsGreatest (positionsOf items item) (lastPosition items item) :=
  (getElem?_lastPositions_iff items item _).mp (getElem?_lastPositions hitem)

theorem getElem?_lastPosition {items : List Item} {item : Item}
    (hitem : item ∈ items) : items[lastPosition items item]? = some item :=
  (isGreatest_lastPosition hitem).1

/-- The last position tells which item it is. -/
theorem eq_of_lastPosition_eq {items : List Item} {a b : Item} (ha : a ∈ items)
    (hb : b ∈ items) (hsame : lastPosition items a = lastPosition items b) :
    a = b := by
  have hplace := getElem?_lastPosition ha
  rw [hsame, getElem?_lastPosition hb] at hplace
  exact (Option.some.inj hplace).symm

theorem getElem?_lastPositionOfEach_inj (items : List Item) (i j : Nat) :
    (lastPositionOfEach items)[i]? = (lastPositionOfEach items)[j]? ↔
      items[i]? = items[j]? := by
  rw [lastPositionOfEach_eq, List.getElem?_map, List.getElem?_map]
  constructor
  · intro hsame
    cases hi : items[i]? with
    | none =>
        rw [hi, Option.map_none] at hsame
        exact (Option.map_eq_none_iff.mp hsame.symm).symm
    | some a =>
        rw [hi, Option.map_some] at hsame
        obtain ⟨b, hj, hposition⟩ := Option.map_eq_some_iff.mp hsame.symm
        rw [hj, eq_of_lastPosition_eq (List.mem_of_getElem? hi)
          (List.mem_of_getElem? hj) hposition.symm]
  · exact congrArg (Option.map (lastPosition items))

section Reading

variable {α : Type} [DecidableEq α]

theorem toFinset_map (items : List Item) (f : Item → α) :
    (items.map f).toFinset = items.toFinset.image f := by
  ext
  simp

/-- Nothing tells more items apart than their bytes do. -/
theorem card_map_le (items : List Item) (f : Item → α) :
    (items.map f).toFinset.card ≤ countDistinct items := by
  rw [toFinset_map, countDistinct_eq]
  exact Finset.card_image_le

/-- A reading has as many results as there are items in the set exactly when it
tells the items of the list apart. -/
theorem card_map_eq_iff (items : List Item) (f : Item → α) :
    (items.map f).toFinset.card = countDistinct items ↔
      ∀ a ∈ items, ∀ b ∈ items, f a = f b → a = b := by
  rw [toFinset_map, countDistinct_eq, Finset.card_image_iff]
  simp only [Set.InjOn, Finset.mem_coe, List.mem_toFinset]

end Reading

theorem card_lastPositionOfEach (items : List Item) :
    (lastPositionOfEach items).toFinset.card = countDistinct items := by
  rw [lastPositionOfEach_eq, card_map_eq_iff]
  intro a ha b hb
  exact eq_of_lastPosition_eq ha hb

theorem card_numbers_eq_iff (items : List Item) :
    (items.map toInt).toFinset.card = countDistinct items ↔
      ∀ a ∈ items, ∀ b ∈ items, a.sameNumber b = true → a = b := by
  simp only [card_map_eq_iff, sameNumber_iff]

theorem card_numbers_of_isMinimal {items : List Item}
    (hminimal : ∀ item ∈ items, item.isMinimal = true) :
    (items.map toInt).toFinset.card = countDistinct items := by
  rw [card_numbers_eq_iff]
  intro a ha b hb
  exact (eq_iff_sameNumber (hminimal a ha) (hminimal b hb)).mpr

/-- Hashed collections go by the bytes.  The map holds for each item of a list
the last position at which it stands, two items have the same one exactly when
they are equal, and there are as many of these positions as entries in the set.
Different numbers are never more than that, and as many exactly when no two
items spell one number, which minimal items never do. -/
theorem hashed_by_bytes (items : List Item) :
    (∀ (i : Nat) (item : Item), items[i]? = some item → ∃ last,
      (lastPositions items)[item]? = some last ∧
        (lastPositionOfEach items)[i]? = some last ∧
        i ≤ last ∧ items[last]? = some item) ∧
    (∀ i j : Nat,
      (lastPositionOfEach items)[i]? = (lastPositionOfEach items)[j]? ↔
        items[i]? = items[j]?) ∧
    countDistinct items = (lastPositionOfEach items).toFinset.card ∧
    (items.map toInt).toFinset.card ≤ countDistinct items ∧
    ((items.map toInt).toFinset.card = countDistinct items ↔
      ∀ a ∈ items, ∀ b ∈ items, a.sameNumber b = true → a = b) ∧
    ((∀ item ∈ items, item.isMinimal = true) →
      (items.map toInt).toFinset.card = countDistinct items) := by
  refine ⟨?_, getElem?_lastPositionOfEach_inj items,
    (card_lastPositionOfEach items).symm, card_map_le items toInt,
    card_numbers_eq_iff items, card_numbers_of_isMinimal⟩
  intro i item hi
  have hitem : item ∈ items := List.mem_of_getElem? hi
  refine ⟨lastPosition items item, getElem?_lastPositions hitem, ?_,
    (isGreatest_lastPosition hitem).2 hi, getElem?_lastPosition hitem⟩
  rw [lastPositionOfEach_eq, List.getElem?_map, hi, Option.map_some]

/-- A minimal item twice with another one between, and an item beside its own
number in a longer spelling. -/
theorem hashed_by_bytes_repeated :
    (∃ last, (lastPositionOfEach [⟨[0x01]⟩, ⟨[0x81]⟩, ⟨[0x01]⟩])[0]? =
      some last ∧ [Item.mk [0x01], ⟨[0x81]⟩, ⟨[0x01]⟩][last]? =
        some ⟨[0x01]⟩) ∧
    ([Item.mk [0x01], ⟨[0x81]⟩, ⟨[0x01]⟩].map toInt).toFinset.card =
      countDistinct [⟨[0x01]⟩, ⟨[0x81]⟩, ⟨[0x01]⟩] ∧
    ([Item.mk [0x01], ⟨[0x01, 0x00]⟩].map toInt).toFinset.card ≠
      countDistinct [⟨[0x01]⟩, ⟨[0x01, 0x00]⟩] := by
  obtain ⟨hlast, -, -, -, -, hminimal⟩ :=
    hashed_by_bytes [⟨[0x01]⟩, ⟨[0x81]⟩, ⟨[0x01]⟩]
  obtain ⟨-, -, -, -, hspelled, -⟩ :=
    hashed_by_bytes [⟨[0x01]⟩, ⟨[0x01, 0x00]⟩]
  obtain ⟨last, -, heach, -, hplace⟩ := hlast 0 ⟨[0x01]⟩ rfl
  exact ⟨⟨last, heach, hplace⟩, hminimal (by decide),
    mt hspelled.mp (by decide)⟩

end ScriptStack.Item
