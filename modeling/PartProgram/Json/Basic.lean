/-
  JSON documents.

  The values of JSON, with integers apart from doubles and with the members of an object in a fixed
  order, and their text: two blanks of indentation for each level, one item or member to a line,
  nothing but printable ASCII in strings.  Characters beyond the first 65536 are written as a pair
  of surrogates.
-/
import PartProgram.Double.Written

namespace PartProgram

/-- A JSON value. -/
inductive Json where
  | null
  | integer (value : Int)
  | double (value : Double)
  | string (value : Text)
  | array (items : List Json)
  | object (members : List (Text × Json))

namespace Json

/-- A code unit by its number. -/
def escapedUnit (unit : Nat) : Text := '\\' :: 'u' :: Text.ofNatHex 4 unit

/-- One character of a string. -/
def escapedChar (c : CodePoint) : Text :=
  if c = '\x22' ∨ c = '\\' then ['\\', c]
  else if c = '\n' then ['\\', 'n']
  else if c = '\r' then ['\\', 'r']
  else if c = '\t' then ['\\', 't']
  else if c = '\x08' then ['\\', 'b']
  else if c = '\x0c' then ['\\', 'f']
  else if 0x20 ≤ c.toNat ∧ c.toNat ≤ 0x7e then [c]
  else if c.toNat < 0x10000 then escapedUnit c.toNat
  else
    let offset := c.toNat - 0x10000
    escapedUnit (0xd800 + offset / 0x400) ++ escapedUnit (0xdc00 + offset % 0x400)

/-- A string between its quotes. -/
def renderString (t : Text) : Text := ('\x22' : CodePoint) :: t.flatMap escapedChar ++ (['\x22'] : Text)

/-- The start of a new line at the given level. -/
def newLine (level : Nat) : Text := '\n' :: List.replicate (2 * level) (' ' : CodePoint)

mutual

/-- The text of a value that stands at the given level. -/
def renderAt (level : Nat) : Json → Text
  | null => "null".toText
  | integer n => Text.ofInt n
  | double d => d.render Double.jsonStyle
  | string t => renderString t
  | array [] => "[]".toText
  | array (first :: rest) =>
    ('[' : CodePoint) :: newLine (level + 1) ++ renderAt (level + 1) first ++ renderItems level rest ++
      newLine level ++ ([']'] : Text)
  | object [] => ['\x7b', '\x7d']
  | object ((key, first) :: rest) =>
    ('\x7b' : CodePoint) :: newLine (level + 1) ++ renderString key ++ ": ".toText ++
      renderAt (level + 1) first ++ renderMembers level rest ++ newLine level ++ (['\x7d'] : Text)

/-- The items of an array after the first one. -/
def renderItems (level : Nat) : List Json → Text
  | [] => []
  | item :: rest =>
    (',' : CodePoint) :: newLine (level + 1) ++ renderAt (level + 1) item ++ renderItems level rest

/-- The members of an object after the first one. -/
def renderMembers (level : Nat) : List (Text × Json) → Text
  | [] => []
  | (key, value) :: rest =>
    (',' : CodePoint) :: newLine (level + 1) ++ renderString key ++ ": ".toText ++
      renderAt (level + 1) value ++ renderMembers level rest

end

/-- The text of a document. -/
def render (document : Json) : Text := document.renderAt 0

end Json

end PartProgram
