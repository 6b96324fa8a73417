/-
  Number literals.

  A literal is an optional sign and then either digits only (an integer) or digits with exactly one
  point among them, in front or behind (a decimal).  Digits are the ten ASCII ones; there are no
  exponents, separators or blanks.  Integers are exact, decimals are doubles.  An integer literal of
  more than 4300 digits, leading zeros counted, is refused, and no integer of more digits is
  written.
-/
import PartProgram.Fault
import PartProgram.Double.Basic

namespace PartProgram

namespace Numeral

/-- What a text is as a literal. -/
inductive Kind where
  | integer
  | decimal
  | other
deriving DecidableEq, Repr

/-- The literal without its sign, if it has one. -/
def unsigned : Text → Text
  | '+' :: rest => rest
  | '-' :: rest => rest
  | t => t

/-- Does the literal begin with a minus sign? -/
def isNegative (t : Text) : Bool := t.head? == some ('-' : CodePoint)

/-- One or more digits, after an optional sign? -/
def isInteger (t : Text) : Bool :=
  !(unsigned t).isEmpty && (unsigned t).all CodePoint.isDigit

/-- The digits before and behind the point of an unsigned decimal. -/
def decimalParts (body : Text) : Option (Text × Text) :=
  match body.dropWhile CodePoint.isDigit with
  | '.' :: fraction => some (body.takeWhile CodePoint.isDigit, fraction)
  | _ => none

/-- Digits and one point, with at least one digit, after an optional sign? -/
def isDecimal (t : Text) : Bool :=
  match decimalParts (unsigned t) with
  | some (whole, fraction) => fraction.all CodePoint.isDigit && !(whole.isEmpty && fraction.isEmpty)
  | none => false

/-- The kind of a literal. -/
def classify (t : Text) : Kind :=
  if isInteger t then .integer else if isDecimal t then .decimal else .other

/-- The most digits of an integer that is read or written. -/
def digitLimit : Nat := 4300

/-- The value of an integer literal. -/
def integerValue (t : Text) : Except Fault Int :=
  let digits := unsigned t
  if digitLimit < digits.length then throw (.tooManyDigits digits.length)
  else if isNegative t then pure (-(Text.digitsValue digits : Int))
  else pure (Text.digitsValue digits)

/-- The value of a decimal literal. -/
def decimalValue (t : Text) : Double :=
  match decimalParts (unsigned t) with
  | some (whole, fraction) =>
    Double.ofDecimal (isNegative t) (Text.digitsValue (whole ++ fraction)) (-(fraction.length : Int))
  | none => Double.finite false 0 Double.minExponent

/-- The integer that a text denotes, if it is an integer literal. -/
def integer? (t : Text) : Except Fault (Option Int) :=
  match classify t with
  | .integer => some <$> integerValue t
  | _ => pure none

/-- Would writing the integer take more digits than are written? -/
def isTooLong (n : Int) : Bool := Nat.pow 10 digitLimit ≤ n.natAbs

end Numeral

/-- A number as a literal denotes it. -/
inductive Number where
  | integer (value : Int)
  | double (value : Double)
deriving BEq, Repr

namespace Numeral

/-- The number that a text denotes, if it is a literal. -/
def number? (t : Text) : Except Fault (Option Number) :=
  match classify t with
  | .integer => (some ∘ Number.integer) <$> integerValue t
  | .decimal => pure (some (.double (decimalValue t)))
  | .other => pure none

end Numeral

end PartProgram
