import ScriptStack.Item.Basic
/-!
Items in the order of their numbers.  The order is coarser than equality: two items with different
bytes can stand for one number.
-/

namespace ScriptStack.Item

/-- Compares two items as numbers.  Equal bytes need no reading. -/
def compareNumbers (a b : Item) : Ordering :=
  if a.bytes = b.bytes then .eq else compare a.toInt b.toInt

/-- Whether two items stand for the same number. -/
def sameNumber (a b : Item) : Bool := a.compareNumbers b == .eq

/-- The items in ascending order of their numbers; items with equal numbers keep their places. -/
def sortByNumber (items : List Item) : List Item :=
  items.mergeSort fun a b => a.compareNumbers b != .gt

end ScriptStack.Item
