import ScriptStack.Hex
import ScriptStack.SignMagnitude.Word
/-!
The items of a script stack.  An item is a sequence of bytes and nothing more: equality and hashing
go by the bytes.  It can be read as a number or as a truth value, and neither reading minds how the
number is padded.
-/

namespace ScriptStack

structure Item where
  /-- The bytes in stored order. -/
  bytes : List UInt8
  deriving DecidableEq, Hashable, Repr, Inhabited

namespace Item

def empty : Item := ⟨[]⟩

def ofInt (n : Int) : Item := ⟨SignMagnitude.encode n⟩

/-- One byte, `01` for true and `00` for false. -/
def ofBool (b : Bool) : Item := ⟨[if b then 1 else 0]⟩

/-- The item that a hexadecimal text spells. -/
def ofHex (text : String) : Except Hex.Error Item := (Hex.parse text).map Item.mk

def size (item : Item) : Nat := item.bytes.length

def isEmpty (item : Item) : Bool := item.bytes.isEmpty

def toInt (item : Item) : Int := SignMagnitude.decode item.bytes

/-- The item as a signed 64-bit word, if its number is in range. -/
def toWord? (item : Item) : Option Int64 := SignMagnitude.decodeWord? item.bytes

/-- Whether the item is the shortest one for its number. -/
def isMinimal (item : Item) : Bool := SignMagnitude.isMinimal item.bytes

/-- Whether a byte makes an item true: any set bit does, except for a sign bit that stands alone
in the last byte. -/
def countsAsTrue (byte : UInt8) (isLast : Bool) : Bool :=
  byte != 0 && !(byte == SignMagnitude.signBit && isLast)

def isTrue (item : Item) : Bool :=
  item.bytes.zipIdx.any fun (byte, index) => countsAsTrue byte (index + 1 == item.bytes.length)

def toHex (item : Item) : String := Hex.render item.bytes

/-- The bytes in hexadecimal with the kind of value around them. -/
def describe (item : Item) : String := "StackValue(" ++ item.toHex ++ ")"

end Item

end ScriptStack
