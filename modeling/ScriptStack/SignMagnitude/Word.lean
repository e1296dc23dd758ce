import ScriptStack.SignMagnitude.Basic
/-!
Reading a number into a signed 64-bit word.  Up to eight bytes are packed with shifts in a machine
word; longer inputs can still be in range when they are padded, so they take the general reader.
-/

namespace ScriptStack.SignMagnitude

/-- How far byte number `index` is shifted in a word. -/
def shiftOf (index : Nat) : UInt64 := UInt64.ofNat (8 * index)

/-- A word with byte number `index` put in its place. -/
def place (word : UInt64) (byte : UInt8) (index : Nat) : UInt64 :=
  word ||| (byte.toUInt64 <<< shiftOf index)

/-- The bytes side by side in one word, the first one lowest. -/
def pack (bytes : List UInt8) : UInt64 :=
  bytes.zipIdx.foldl (fun word (byte, index) => place word byte index) 0

/-- The sign bit of the last of `size` packed bytes. -/
def signMask (size : Nat) : UInt64 := signBit.toUInt64 <<< shiftOf (size - 1)

/-- The packed bytes without their sign. -/
def magnitudeWord (bytes : List UInt8) (negative : Bool) : UInt64 :=
  if negative then pack bytes ^^^ signMask bytes.length else pack bytes

/-- The number as a signed word, if it is in the range of one. -/
def Word.ofInt? (n : Int) : Option Int64 :=
  if Int64.minValue.toInt ≤ n ∧ n ≤ Int64.maxValue.toInt then some (Int64.ofInt n) else none

/-- The number that the bytes stand for, if a signed 64-bit word holds it. -/
def decodeWord? (bytes : List UInt8) : Option Int64 :=
  if bytes.length > 8 then Word.ofInt? (decode bytes)
  else
    match bytes.getLast? with
    | none => some 0
    | some last =>
        let word := magnitudeWord bytes (hasSignBit last)
        some (if hasSignBit last then -word.toInt64 else word.toInt64)

example : decodeWord? [0x03, 0x81] = some (-259) := by decide

example : decodeWord? [0, 0, 0, 0, 0, 0, 0, 0x80, 0x80] = some Int64.minValue := by decide

example : decodeWord? [0, 0, 0, 0, 0, 0, 0, 0, 0x01] = none := by decide

end ScriptStack.SignMagnitude
