import ScriptStack.Item.Basic
import ScriptStack.Log.Entry
/-!
The stack of items and the journal of its changes.  Nothing bounds the depth.
-/

namespace ScriptStack

structure Stack where
  /-- The items, the top one first. -/
  items : List Item
  deriving DecidableEq, Repr, Inhabited

namespace Stack

inductive Error where
  | underflow
  deriving DecidableEq, Repr

def Error.message : Error → String
  | .underflow => "Pop from empty stack"

def empty : Stack := ⟨[]⟩

def size (stack : Stack) : Nat := stack.items.length

def isEmpty (stack : Stack) : Bool := stack.items.isEmpty

def peek? (stack : Stack) : Option Item := stack.items.head?

def push (stack : Stack) (item : Item) : Stack := ⟨item :: stack.items⟩

def pop? (stack : Stack) : Option (Item × Stack) :=
  match stack.items with
  | [] => none
  | top :: below => some (top, ⟨below⟩)

/-- The items in brackets, the top one last. -/
def describe (stack : Stack) : String :=
  "Stack([" ++ ", ".intercalate (stack.items.reverse.map Item.describe) ++ "])"

/-- A change of a stack, with the depth after it. -/
inductive Event where
  | pushed (item : Item) (depth : Nat)
  | popped (item : Item) (depth : Nat)
  deriving DecidableEq, Repr

/-- The text of an event in the journal. -/
def Event.text : Event → String
  | .pushed item depth => "push " ++ item.describe ++ ", depth " ++ depth.repr
  | .popped item depth => "pop " ++ item.describe ++ ", depth " ++ depth.repr

def Event.entry (event : Event) : Log.Entry := ⟨.trace, event.text⟩

end Stack

end ScriptStack
