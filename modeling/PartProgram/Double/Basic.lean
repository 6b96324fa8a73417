/-
  Numbers of double precision.

  The value of a decimal literal is kept as the binary64 number next to it: a sign, a mantissa of at
  most 53 bits and an exponent, or an infinity if the literal is beyond the range.  A decimal
  literal is never "not a number", so there is no such case.  `ofRatio` does the rounding on exact
  integers: the nearest number, and of two equally near the one with the even mantissa.
-/

namespace PartProgram

/-- `finite negative mantissa exponent` is `±mantissa · 2 ^ exponent`. -/
inductive Double where
  | finite (negative : Bool) (mantissa : Nat) (exponent : Int)
  | infinite (negative : Bool)
deriving Repr

namespace Double

/-- Numbers of one value are equal; in particular the two zeros are. -/
def equal : Double → Double → Bool
  | finite s m e, finite s' m' e' => (m == 0 && m' == 0) || (s == s' && m == m' && e == e')
  | infinite s, infinite s' => s == s'
  | _, _ => false

instance : BEq Double := ⟨equal⟩

/-- The natural number nearest to `num / den`; halfway, the even one. -/
def roundHalfEven (num den : Nat) : Nat :=
  let quotient := num / den
  let rest := num % den
  if 2 * rest < den then quotient
  else if den < 2 * rest then quotient + 1
  else quotient + quotient % 2

/-- The mantissa is below two to this power. -/
def precision : Nat := 53

/-- The least exponent, that of the smallest positive number. -/
def minExponent : Int := -1074

/-- The greatest exponent of a finite number. -/
def maxExponent : Int := 971

/-- The pair of numerator and denominator of `(num / den) / 2 ^ exponent`. -/
def scaled (num den : Nat) (exponent : Int) : Nat × Nat :=
  (num * Nat.pow 2 (-exponent).toNat, den * Nat.pow 2 exponent.toNat)

/-- The exponent at which `num / den` has its 53 leading bits before the point, or the least one. -/
def exponentOf (num den : Nat) : Int :=
  let guess := max ((num.log2 : Int) - den.log2 - precision) minExponent
  let (n, d) := scaled num den guess
  if n / d < Nat.pow 2 precision then guess else guess + 1

/-- The number nearest to `± num / den`, infinite beyond the greatest finite one. -/
def ofRatio (negative : Bool) (num den : Nat) : Double :=
  if num = 0 then finite negative 0 minExponent
  else
    let exponent := exponentOf num den
    let (n, d) := scaled num den exponent
    let mantissa := roundHalfEven n d
    let (mantissa, exponent) :=
      if mantissa < Nat.pow 2 precision then (mantissa, exponent) else (mantissa / 2, exponent + 1)
    if maxExponent < exponent then infinite negative else finite negative mantissa exponent

/-- The number nearest to `± digits · 10 ^ exponent`. -/
def ofDecimal (negative : Bool) (digits : Nat) (exponent : Int) : Double :=
  ofRatio negative (digits * Nat.pow 10 exponent.toNat) (Nat.pow 10 (-exponent).toNat)

/-- Is the number an ordinary one, and not an infinity? -/
def isFinite : Double → Bool
  | finite .. => true
  | infinite _ => false

end Double

end PartProgram
