import ScriptStack.Bytes.LittleEndian
/-!
Integers of any size as bytes: little endian sign and magnitude.  The top bit of the last byte is
the sign, all other bits are the magnitude.  Zero is written as no bytes; its other spellings
(`00`, `80`, `0080`, …) are read as zero but never written.
-/

namespace ScriptStack.SignMagnitude

/-- The bit of the last byte that marks a negative number. -/
def signBit : UInt8 := 0x80

/-- The bits of the last byte that belong to the magnitude. -/
def magnitudeBits : UInt8 := 0x7f

/-- Whether the top bit of a byte is set. -/
def hasSignBit (byte : UInt8) : Bool := byte &&& signBit != 0

/-- The number that the bytes stand for.  A negative zero is zero. -/
def decode (bytes : List UInt8) : Int :=
  match bytes.getLast? with
  | none => 0
  | some last =>
      let magnitude := LittleEndian.value (bytes.dropLast ++ [last &&& magnitudeBits])
      if hasSignBit last then -(magnitude : Int) else magnitude

/-- The shortest bytes that stand for a number.  The sign takes the top bit of the last byte when
that bit is free, and a byte of its own otherwise. -/
def encode (n : Int) : List UInt8 :=
  let magnitude := LittleEndian.digits n.natAbs
  match magnitude.getLast? with
  | none => []
  | some top =>
      if hasSignBit top then magnitude ++ [if n < 0 then signBit else 0]
      else if n < 0 then magnitude.dropLast ++ [top ||| signBit]
      else magnitude

/-- Whether the bytes are the shortest for their number.  A last byte that holds nothing but the
sign is needed only when the byte before it uses its top bit. -/
def isMinimal (bytes : List UInt8) : Bool :=
  match bytes.getLast? with
  | none => true
  | some last =>
      if last &&& magnitudeBits != 0 then true
      else
        match bytes.dropLast.getLast? with
        | none => false
        | some before => hasSignBit before

example : encode (-259) = [0x03, 0x81] := by decide +kernel

example : encode (-128) = [0x80, 0x80] ∧ encode 127 = [0x7f] := by decide +kernel

example : decode [0x00, 0x80] = 0 ∧ decode [0x01, 0x00, 0x80] = -1 := by decide

example : isMinimal [0x80, 0x00] = true ∧ isMinimal [0x7f, 0x00] = false := by decide

end ScriptStack.SignMagnitude
