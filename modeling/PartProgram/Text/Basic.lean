/-
  Texts as lists of code points.

  Every length, position and column of this library counts code points, so a text is kept as
  the list of its code points.  This file holds the few text operations that are not already
  list operations: padding to a column, numerals in decimal and hexadecimal, joining and cutting.

  Most code points are characters.  The others are the surrogates, which stand for nothing by
  themselves: there are none in a text that was decoded from UTF-8, but a text that was put together
  from the numbers of its code points may hold them.
-/

namespace PartProgram

/-- A code point. -/
inductive CodePoint where
  | char (c : Char)
  /-- The surrogate that comes so many places after the first one. -/
  | surrogate (offset : Fin 0x800)
deriving DecidableEq, Repr

namespace CodePoint

instance : Coe Char CodePoint := ⟨char⟩

/-- The number of the first surrogate. -/
def firstSurrogate : Nat := 0xd800

/-- The number of a code point. -/
def toNat : CodePoint → Nat
  | char c => c.toNat
  | surrogate offset => firstSurrogate + offset

/-- The code point of a number. -/
def ofNat (n : Nat) : CodePoint :=
  if h : firstSurrogate ≤ n ∧ n < firstSurrogate + 0x800 then
    surrogate ⟨n - firstSurrogate, by omega⟩
  else char (Char.ofNat n)

/-- Is the code point one of the ten ASCII digits? -/
def isDigit : CodePoint → Bool
  | char c => c.isDigit
  | surrogate _ => false

@[simp]
theorem toNat_char (c : Char) : (char c).toNat = c.toNat := rfl

@[simp]
theorem isDigit_char (c : Char) : (char c).isDigit = c.isDigit := rfl

/-- Is the code point an ASCII letter or digit? -/
def isAlphanum : CodePoint → Bool
  | char c => c.isAlphanum
  | surrogate _ => false

/-- The code point with an ASCII capital made small. -/
def toLower : CodePoint → CodePoint
  | char c => c.toLower
  | surrogate offset => surrogate offset

end CodePoint

/-- A text, as the list of its code points. -/
abbrev Text := List CodePoint

end PartProgram

/-- The characters of a string as a text. -/
def String.toText (s : String) : PartProgram.Text := s.toList.map .char

namespace PartProgram

/-- The word for a value that is not there. -/
def absent : Text := "None".toText

namespace Text

/-- `t` moved to the right edge of a column of the given width; a wider text is left alone. -/
def padLeft (width : Nat) (t : Text) : Text :=
  List.replicate (width - t.length) (' ' : CodePoint) ++ t

/-- `t` at the left edge of a column of the given width; a wider text is left alone. -/
def padRight (width : Nat) (t : Text) : Text :=
  t ++ List.replicate (width - t.length) (' ' : CodePoint)

/-- The decimal numeral of a natural number, without leading zeros. -/
def ofNat (n : Nat) : Text := (Nat.toDigits 10 n).map .char

/-- The decimal numeral of an integer: a minus sign in front of a negative one. -/
def ofInt : Int → Text
  | .ofNat n => ofNat n
  | .negSucc n => '-' :: ofNat (n + 1)

/-- The value of a decimal numeral. -/
def digitsValue (digits : Text) : Nat :=
  digits.foldl (fun value digit => 10 * value + (digit.toNat - '0'.toNat)) 0

/-- The lower-case hexadecimal numeral of `n`, with leading zeros up to the given width. -/
def ofNatHex (width n : Nat) : Text :=
  let digits : Text := (Nat.toDigits 16 n).map .char
  List.replicate (width - digits.length) ('0' : CodePoint) ++ digits

/-- The parts one after another, with `separator` between neighbours. -/
def joined (separator : Text) (parts : List Text) : Text := separator.intercalate parts

/-- The part of `t` before the first `c`, and the part after it (empty if there is no `c`). -/
def cut (c : CodePoint) (t : Text) : Text × Text :=
  (t.takeWhile (· != c), (t.dropWhile (· != c)).drop 1)

end Text

end PartProgram
