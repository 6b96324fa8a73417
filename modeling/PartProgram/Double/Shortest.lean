/-
  The shortest decimal of a double.

  A decimal reads back as `m · 2 ^ e` if it lies between the midpoints to the two neighbouring
  doubles; the midpoints themselves read back iff `m` is even.  Among the decimals with that
  property the shortest is wanted, and of the shortest the nearest.

  All comparisons are made on integers: the number, its lower and its upper midpoint are
  `value / unit`, `low / unit` and `high / unit` for one common `unit`.  For 1, 2, … 17 digits the
  two decimals next to the number on that grid are tried; seventeen digits always suffice.
-/
import PartProgram.Double.Basic

namespace PartProgram.Double

/-- A positive number and the bounds of the decimals that read back as it, over a common unit. -/
structure Interval where
  low : Nat
  value : Nat
  high : Nat
  unit : Nat
  /-- Do the bounds themselves read back? -/
  closed : Bool

/-- The interval of `mantissa · 2 ^ exponent`.  At a power of two the lower neighbour is nearer. -/
def Interval.of (mantissa : Nat) (exponent : Int) : Interval :=
  let scale := Nat.pow 2 exponent.toNat
  let below := if mantissa = Nat.pow 2 (precision - 1) ∧ minExponent < exponent then 1 else 2
  { low := (4 * mantissa - below) * scale
    value := 4 * mantissa * scale
    high := (4 * mantissa + 2) * scale
    unit := 4 * Nat.pow 2 (-exponent).toNat
    closed := mantissa % 2 == 0 }

/-- Does `digits · 10 ^ power` read back? -/
def Interval.contains (i : Interval) (digits : Nat) (power : Int) : Bool :=
  let point := digits * Nat.pow 10 power.toNat * i.unit
  let low := i.low * Nat.pow 10 (-power).toNat
  let high := i.high * Nat.pow 10 (-power).toNat
  if i.closed then low ≤ point && point ≤ high else low < point && point < high

/-- The decimal exponent of the value: it is at least `10 ^ order` and below `10 ^ (order + 1)`. -/
def Interval.order (i : Interval) : Int :=
  if i.unit ≤ i.value then ((Nat.toDigits 10 (i.value / i.unit)).length : Int) - 1
  else -((Nat.toDigits 10 ((i.unit + i.value - 1) / i.value - 1)).length : Int)

/-- The decimal on the grid of the given power that reads back, if one of the value's two neighbours
    there does: the nearer one if both do, and halfway the even one. -/
def Interval.onGrid (i : Interval) (power : Int) : Option Nat :=
  let num := i.value * Nat.pow 10 (-power).toNat
  let den := i.unit * Nat.pow 10 power.toNat
  let down := num / den
  match i.contains down power, i.contains (down + 1) power with
  | true, true => some (roundHalfEven num den)
  | true, false => some down
  | false, true => some (down + 1)
  | false, false => none

/-- The digits without trailing zeros, and the power of ten that makes up for them.  At most `fuel`
    zeros are taken. -/
def dropZeros : (fuel : Nat) → (digits : Nat) → (power : Int) → Nat × Int
  | fuel + 1, digits, power =>
    if digits % 10 = 0 then dropZeros fuel (digits / 10) (power + 1) else (digits, power)
  | 0, digits, power => (digits, power)

/-- The most digits that a shortest decimal has. -/
def maxDigits : Nat := 17

/-- The shortest decimal `digits · 10 ^ power` that reads back as `mantissa · 2 ^ exponent`, and the
    nearest of the shortest.  The mantissa is not zero. -/
def shortest (mantissa : Nat) (exponent : Int) : Nat × Int :=
  let i := Interval.of mantissa exponent
  let found := (List.range maxDigits).findSome? fun (more : Nat) =>
    (i.onGrid (i.order - more)).map fun digits => (digits, i.order - more)
  match found with
  | some (digits, power) => dropZeros maxDigits digits power
  | none => (0, 0)

end PartProgram.Double
