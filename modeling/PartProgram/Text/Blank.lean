/-
  Blanks and words.

  A blank is a character that separates words: the whitespace of Unicode, that is the characters
  of bidirectional class B, S or WS or of category Zs.  A word is a maximal run of characters
  that are not blank.  Besides `words` there are the three ways to trim blanks off a text.
-/
import PartProgram.Text.Basic

namespace PartProgram.Text

/-- The code points that are blank, as inclusive ranges in increasing order. -/
def blankRanges : List (Nat × Nat) :=
  [(0x09, 0x0d), (0x1c, 0x20), (0x85, 0x85), (0xa0, 0xa0), (0x1680, 0x1680), (0x2000, 0x200a),
   (0x2028, 0x2029), (0x202f, 0x202f), (0x205f, 0x205f), (0x3000, 0x3000)]

/-- Does `n` lie in one of the inclusive ranges? -/
def inRanges (ranges : List (Nat × Nat)) (n : Nat) : Bool :=
  ranges.any fun range => range.1 ≤ n && n ≤ range.2

/-- Is the character a blank? -/
def isBlank (c : CodePoint) : Bool := inRanges blankRanges c.toNat

/-- The words of a text: its maximal runs of characters that are not blank, in order. -/
def words (t : Text) : List Text := (t.splitOnP isBlank).filter fun word => !word.isEmpty

/-- `t` without its leading blanks. -/
def trimLeft (t : Text) : Text := t.dropWhile isBlank

/-- `t` without its trailing blanks. -/
def trimRight (t : Text) : Text := (t.reverse.dropWhile isBlank).reverse

/-- `t` without its leading and trailing blanks. -/
def trim (t : Text) : Text := trimRight (trimLeft t)

end PartProgram.Text
