/-
  Encodings by name.

  Case does not count in the name of an encoding, nor does the punctuation: any run of it, inside
  the name, stands for an underscore, and at its ends for nothing.  Points are not punctuation.
  Each encoding has a proper name, which has no point, and other names, in some of which there is a
  point; where there is none in a name, it may still be written for an underscore.

  These are the encodings that the library brings along; a host may know others.
-/
import PartProgram.Encoding.Escaped
import PartProgram.Encoding.Utf8
import PartProgram.Encoding.Utf16

namespace PartProgram

/-- The encodings of files. -/
inductive Encoding where
  | ascii
  | latin1
  | windows1252
  | utf8
  | utf8Marked
  | utf16
  | utf16Little
  | utf16Big
  | escaped
deriving DecidableEq, Repr

namespace Encoding

/-- All encodings. -/
def all : List Encoding :=
  [ascii, latin1, windows1252, utf8, utf8Marked, utf16, utf16Little, utf16Big, escaped]

/-- The proper name of an encoding. -/
def properName : Encoding → String
  | ascii => "ascii"
  | latin1 => "latin_1"
  | windows1252 => "cp1252"
  | utf8 => "utf_8"
  | utf8Marked => "utf_8_sig"
  | utf16 => "utf_16"
  | utf16Little => "utf_16_le"
  | utf16Big => "utf_16_be"
  | escaped => "raw_unicode_escape"

/-- The other names of an encoding. -/
def otherNames : Encoding → List String
  | ascii =>
    ["646", "ansi_x3.4_1968", "ansi_x3_4_1968", "ansi_x3.4_1986", "cp367", "csascii", "ibm367",
     "iso646_us", "iso_646.irv_1991", "iso_ir_6", "us", "us_ascii"]
  | latin1 =>
    ["8859", "cp819", "csisolatin1", "ibm819", "iso8859", "iso8859_1", "iso_8859_1",
     "iso_8859_1_1987", "iso_ir_100", "l1", "latin", "latin1"]
  | windows1252 => ["1252", "windows_1252"]
  | utf8 => ["u8", "utf", "utf8", "utf8_ucs2", "utf8_ucs4", "cp65001"]
  | utf8Marked => []
  | utf16 => ["u16", "utf16"]
  | utf16Little => ["unicodelittleunmarked", "utf_16le"]
  | utf16Big => ["unicodebigunmarked", "utf_16be"]
  | escaped => []

/-- Is the character kept in names, and not punctuation? -/
def isKept (c : CodePoint) : Bool := c.isAlphanum || c == '.'

/-- A name in its normal form. -/
def normalName (name : Text) : Text :=
  let parts := (name.splitOnP (!isKept ·)).filter fun part => !part.isEmpty
  (Text.joined ['_'] parts).map CodePoint.toLower

/-- Does a name in its normal form mean the encoding? -/
def isNamed (encoding : Encoding) (name : Text) : Bool :=
  let withoutPoints : Text := name.map fun (c : CodePoint) => if c = '.' then '_' else c
  encoding.properName.toText == name ||
    encoding.otherNames.any fun other => other.toText == name || other.toText == withoutPoints

/-- The encoding of a name. -/
def ofName (name : Text) : Except Fault Encoding :=
  match all.find? (·.isNamed (normalName name)) with
  | some encoding => pure encoding
  | none => throw (.unknownEncoding name)

/-- The characters of Windows-1252 from `80` to `9f`; zero where there is none. -/
def windowsBlock : List Nat :=
  [0x20ac, 0, 0x201a, 0x0192, 0x201e, 0x2026, 0x2020, 0x2021, 0x02c6, 0x2030, 0x0160, 0x2039,
   0x0152, 0, 0x017d, 0, 0, 0x2018, 0x2019, 0x201c, 0x201d, 0x2022, 0x2013, 0x2014, 0x02dc, 0x2122,
   0x0161, 0x203a, 0x0153, 0, 0x017e, 0x0178]

/-- One byte of Windows-1252. -/
def windowsStep (first : UInt8) (_ : List UInt8) : Step :=
  if first < 0x80 || 0x9f < first then .text [CodePoint.ofNat first.toNat] 0
  else match windowsBlock[first.toNat - 0x80]? with
    | some 0 | none => .bad 1 "character maps to <undefined>"
    | some code => .text [CodePoint.ofNat code] 0

/-- One byte of ASCII. -/
def asciiStep (first : UInt8) (_ : List UInt8) : Step :=
  if first < 0x80 then .text [CodePoint.ofNat first.toNat] 0 else .bad 1 "ordinal not in range(128)"

/-- The text of bytes in an encoding. -/
def decode (encoding : Encoding) (bytes : List UInt8) : Except Fault Decoded :=
  match encoding with
  | ascii => (decodeWith "ascii" asciiStep 0 bytes).mapError .decode
  | latin1 => pure { text := bytes.map fun b => CodePoint.ofNat b.toNat }
  | windows1252 => (decodeWith "charmap" windowsStep 0 bytes).mapError .decode
  | utf8 => (Utf8.decode bytes).mapError .decode
  | utf8Marked => (Utf8.decodeMarked bytes).mapError .decode
  | utf16 => Utf16.decodeMarked bytes
  | utf16Little => (Utf16.decode .little bytes).mapError .decode
  | utf16Big => (Utf16.decode .big bytes).mapError .decode
  | escaped => (Escaped.decode bytes).mapError .decode

end Encoding

end PartProgram
