/-
  Doubles as text.

  The digits are those of the shortest decimal that reads back.  A number from a ten-thousandth up
  to 10 ^ 16 is written with a decimal point and at least one digit on each side of it; any other
  number in scientific form, with a signed exponent of at least two digits.
-/
import PartProgram.Text.Basic
import PartProgram.Double.Shortest

namespace PartProgram.Double

/-- The choices that a way of writing doubles makes. -/
structure Style where
  /-- The least decimal exponent that is written with a decimal point. -/
  leastPlain : Int
  /-- The decimal exponents from here on are written in scientific form. -/
  firstScientific : Int
  /-- The fewest digits of an exponent. -/
  exponentWidth : Nat
  /-- The name of infinity. -/
  infinity : Text

/-- `digits · 10 ^ power` with a decimal point and at least one digit on each side of it. -/
def plain (digits : Text) (power : Int) : Text :=
  let places := (-power).toNat
  if 0 ≤ power then digits ++ List.replicate power.toNat ('0' : CodePoint) ++ (['.', '0'] : Text)
  else
    let padded := List.replicate (places + 1 - digits.length) ('0' : CodePoint) ++ digits
    padded.take (padded.length - places) ++ ('.' : CodePoint) :: padded.drop (padded.length - places)

/-- One digit, the others behind a point if there are any, and the exponent. -/
def scientific (width : Nat) (digits : Text) (order : Int) : Text :=
  let exponent := Text.ofNat order.natAbs
  let fraction : Text := if digits.length ≤ 1 then [] else '.' :: digits.drop 1
  digits.take 1 ++ fraction ++ ('e' : CodePoint) :: (if order < 0 then '-' else '+')
    :: (List.replicate (width - exponent.length) ('0' : CodePoint) ++ exponent)

/-- The text of a double in a style. -/
def render (style : Style) : Double → Text
  | infinite negative => if negative then '-' :: style.infinity else style.infinity
  | finite negative mantissa exponent =>
    let (digits, power) := if mantissa = 0 then (0, 0) else shortest mantissa exponent
    let text := Text.ofNat digits
    let order := power + text.length - 1
    let body :=
      if style.leastPlain ≤ order ∧ order < style.firstScientific then plain text power
      else scientific style.exponentWidth text order
    if negative then '-' :: body else body

/-- The style of messages and listings. -/
def listingStyle : Style :=
  { leastPlain := -4, firstScientific := 16, exponentWidth := 2, infinity := "inf".toText }

/-- The style of JSON documents: infinities are spelled out. -/
def jsonStyle : Style := { listingStyle with infinity := "Infinity".toText }

/-- The text of a double in messages and listings. -/
def written (d : Double) : Text := d.render listingStyle

end PartProgram.Double
