import ScriptStack.Item.Basic
import Std.Data.HashMap
import Std.Data.HashSet
/-!
Items in hashed collections, where two items are the same key exactly when their bytes are equal.
-/

namespace ScriptStack.Item

def distinct (items : List Item) : Std.HashSet Item :=
  items.foldl (fun seen item => seen.insert item) ∅

def countDistinct (items : List Item) : Nat := (distinct items).size

/-- For each item the last position at which it stands. -/
def lastPositions (items : List Item) : Std.HashMap Item Nat :=
  items.zipIdx.foldl (fun positions (item, index) => positions.insert item index) ∅

/-- The last position of each item of a list, in the order of the list. -/
def lastPositionOfEach (items : List Item) : List Nat :=
  let positions := lastPositions items
  items.map fun item => positions.getD item 0

end ScriptStack.Item
