/-!
The shortest decimal that reads back as a given 64-bit binary float.  A float stands for all reals
that round to it; among the decimals in that interval the ones with the fewest digits are
taken, and of those the nearest.  Very large and very small values are written with an exponent.
-/

namespace ScriptStack.Binary64

/-- A positive rational interval around a value, all three over one denominator. -/
structure Interval where
  low : Nat
  value : Nat
  high : Nat
  denominator : Nat
  /-- Whether both ends round to the value. -/
  closed : Bool
  deriving Repr

/-- The reals that round to a finite positive float with these bits. -/
def interval (bits : UInt64) : Interval :=
  let fraction := (bits &&& 0xfffffffffffff).toNat
  let biased := ((bits >>> 52) &&& 0x7ff).toNat
  let mantissa := if biased = 0 then fraction else fraction + Nat.pow 2 52
  let exponent : Int := (if biased = 0 then 1 else (biased : Int)) - 1075
  let narrowBelow := fraction = 0 ∧ 1 < biased
  let quarter : Int := exponent - 2
  let scale := Nat.pow 2 quarter.toNat
  { low := (4 * mantissa - (if narrowBelow then 1 else 2)) * scale
    value := 4 * mantissa * scale
    high := (4 * mantissa + 2) * scale
    denominator := Nat.pow 2 (-quarter).toNat
    closed := mantissa % 2 = 0 }

/-- The exponent of the leading decimal digit of `num / den`, for `num` above zero; `fuel` bounds
the search below one. -/
def leadingExponent (num den : Nat) : Int :=
  if den ≤ num then (Nat.toDigits 10 (num / den)).length - 1
  else below 400 1 (num * 10)
where
  /-- Multiplies by ten until the value reaches one. -/
  below : Nat → Nat → Nat → Int
    | 0, places, _ => -(places : Int)
    | fuel + 1, places, scaled =>
        if den ≤ scaled then -(places : Int) else below fuel (places + 1) (scaled * 10)

/-- A decimal `digits * 10 ^ exponent`. -/
structure Decimal where
  digits : Nat
  exponent : Int
  deriving DecidableEq, Repr

/-- The same decimal without zeros at the end of its digits. -/
def Decimal.reduce (d : Decimal) : Decimal :=
  if 0 < d.digits ∧ d.digits % 10 = 0 then Decimal.reduce ⟨d.digits / 10, d.exponent + 1⟩ else d
termination_by d.digits
decreasing_by omega

/-- The multiple of `10 ^ exponent` that is in the interval and nearest to its value, if there is
one.  Of two that are equally near the even one is taken. -/
def Interval.nearest? (i : Interval) (exponent : Int) : Option Decimal :=
  let unit := i.denominator * Nat.pow 10 exponent.toNat
  let spread := Nat.pow 10 (-exponent).toNat
  let holds := fun digits : Nat =>
    let point := digits * unit
    if i.closed then i.low * spread ≤ point && point ≤ i.high * spread
    else i.low * spread < point && point < i.high * spread
  let point := i.value * spread
  let floor := point / unit
  let ceil := floor + 1
  let above := ceil * unit - point
  let below := point - floor * unit
  let ceilIsNearer := above < below || above = below && ceil % 2 = 0
  if holds floor && !(holds ceil && ceilIsNearer) then some ⟨floor, exponent⟩
  else if holds ceil then some ⟨ceil, exponent⟩
  else none

/-- The first decimal found with one digit, two digits, and so on.  Seventeen digits always
suffice. -/
def shortest (bits : UInt64) : Decimal :=
  let i := interval bits
  let lead := leadingExponent i.value i.denominator
  let found := (List.range 17).findSome? fun more : Nat => i.nearest? (lead - more)
  (found.getD ⟨0, 0⟩).reduce

/-- A decimal without exponent, with at least one digit on each side of the point. -/
def Decimal.positional (d : Decimal) : String :=
  let digits := Nat.toDigits 10 d.digits
  if 0 ≤ d.exponent then
    String.ofList (digits ++ List.replicate d.exponent.toNat '0' ++ ['.', '0'])
  else
    let places := (-d.exponent).toNat
    let padded := List.replicate (places + 1 - digits.length) '0' ++ digits
    let whole := padded.take (padded.length - places)
    String.ofList (whole ++ ['.'] ++ padded.drop (padded.length - places))

def Decimal.magnitude (d : Decimal) : Int := d.exponent + (Nat.toDigits 10 d.digits).length - 1

/-- A decimal with one digit before the point and a signed exponent.  The point is left out if no
digit follows it. -/
def Decimal.exponential (d : Decimal) : String :=
  let digits := Nat.toDigits 10 d.digits
  let places := if digits.length = 1 then [] else '.' :: digits.drop 1
  let sign := if d.magnitude < 0 then '-' else '+'
  String.ofList (digits.take 1 ++ places ++ ['e', sign] ++ Nat.toDigits 10 d.magnitude.natAbs)

/-- A decimal without exponent if its first digit is at most five places after the point and at
most sixteen before it, and else with one. -/
def Decimal.render (d : Decimal) : String :=
  if -5 ≤ d.magnitude ∧ d.magnitude < 16 then d.positional else d.exponential

def render (f : Float) : String :=
  let bits := f.toBits
  let sign := if bits >>> 63 = 0 then "" else "-"
  let unsigned := bits &&& 0x7fffffffffffffff
  sign ++ (if unsigned = 0 then "0.0" else (shortest unsigned).render)

end ScriptStack.Binary64
