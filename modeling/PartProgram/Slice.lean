/-
  Slices.

  Positions of a list may be counted from its end: position -1 is the last one.  A slice goes from a
  start to a stop in equal steps, forwards or backwards; bounds that lie outside are moved to the
  nearest end, and the stop itself is left out.
-/
import PartProgram.Fault

namespace PartProgram.Slice

/-- A position counted from the front: the length is added to a negative one. -/
def fromFront (length : Nat) (position : Int) : Int :=
  if position < 0 then position + length else position

/-- Is the position one that some list could have?  Positions have 64 bits with a sign. -/
def isPosition (position : Int) : Bool :=
  Int64.minValue.toInt ≤ position && position ≤ Int64.maxValue.toInt

/-- The element at a position. -/
def get {α : Type} (xs : List α) (position : Int) : Except Fault α :=
  let i := fromFront xs.length position
  if !isPosition position then throw .positionTooBig
  else if i < 0 then throw .outOfRange
  else match xs[i.toNat]? with
    | some x => pure x
    | none => throw .outOfRange

/-- A bound of a slice between the given limits. -/
def bound (length : Nat) (least most : Int) (position : Int) : Int :=
  max least (min most (fromFront length position))

/-- The positions `i`, `i + step`, … that come before `stop` in the direction of the step. -/
def positions (stop step : Int) : (fuel : Nat) → (i : Int) → List Nat
  | 0, _ => []
  | fuel + 1, i =>
    if (0 < step ∧ i < stop) ∨ (step < 0 ∧ stop < i) then
      i.toNat :: positions stop step fuel (i + step)
    else []

/-- The positions of a slice of a list of the given length. -/
def indices (length : Nat) (start stop step : Option Int) : Except Fault (List Nat) :=
  let step := step.getD 1
  if step = 0 then throw .zeroStep
  else if 0 < step then
    let start := (start.map (bound length 0 length)).getD 0
    let stop := (stop.map (bound length 0 length)).getD length
    pure (positions stop step length start)
  else
    let start := (start.map (bound length (-1) (length - 1))).getD (length - 1)
    let stop := (stop.map (bound length (-1) (length - 1))).getD (-1)
    pure (positions stop step length start)

/-- The elements of a slice. -/
def slice {α : Type} (xs : List α) (start stop step : Option Int) : Except Fault (List α) :=
  return (← indices xs.length start stop step).filterMap (xs[·]?)

/-- The elements from a start up to a stop, or to the end. -/
def window {α : Type} (xs : List α) (start : Int) (stop : Option Int) : List α :=
  let start := bound xs.length 0 xs.length start
  let stop := (stop.map (bound xs.length 0 xs.length)).getD xs.length
  (xs.take stop.toNat).drop start.toNat

end PartProgram.Slice
