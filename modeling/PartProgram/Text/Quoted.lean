/-
  Quoted texts.

  A text is quoted for messages so that it can be read off without doubt: between single quotes, or
  between double quotes if it holds a single quote and no double quote.  The quote in use and the
  backslash get a backslash in front; line feed, carriage return and tab have short forms; any other
  character that is not printable is written by its code in two, four or eight hexadecimal digits.
-/
import PartProgram.Text.Printable

namespace PartProgram.Text

/-- The quote mark for a text: double only if that saves escaping a single one. -/
def quoteMark (t : Text) : CodePoint :=
  if t.contains '\x27' && !t.contains '\x22' then '\x22' else '\x27'

/-- A character by its code, in two, four or eight hexadecimal digits. -/
def codeEscape (c : CodePoint) : Text :=
  if c.toNat < 0x100 then '\\' :: 'x' :: ofNatHex 2 c.toNat
  else if c.toNat < 0x10000 then '\\' :: 'u' :: ofNatHex 4 c.toNat
  else '\\' :: 'U' :: ofNatHex 8 c.toNat

/-- One character of a text between quote marks `mark`. -/
def quoteChar (mark c : CodePoint) : Text :=
  if c = mark ∨ c = '\\' then ['\\', c]
  else if c = '\n' then ['\\', 'n']
  else if c = '\r' then ['\\', 'r']
  else if c = '\t' then ['\\', 't']
  else if isPrintable c then [c]
  else codeEscape c

/-- The text between quote marks. -/
def quoted (t : Text) : Text :=
  let mark := quoteMark t
  mark :: t.flatMap (quoteChar mark) ++ [mark]

/-- The text with all characters beyond ASCII written by their codes. -/
def inAscii (t : Text) : Text := t.flatMap fun c => if c.toNat < 0x80 then [c] else codeEscape c

end PartProgram.Text
