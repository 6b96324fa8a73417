/-
  Descriptions of records.

  The description of a record names every field with its value, texts quoted, so that it can be read
  off a message in full.
-/
import PartProgram.Line

namespace PartProgram

/-- A member of an enumeration: the enumeration, the member and its tag. -/
def describeMember (enumeration name tag : String) : Text :=
  ('<' : CodePoint) :: enumeration.toText ++ ('.' : CodePoint) :: name.toText ++ ": ".toText ++
    Text.quoted tag.toText ++ (['>'] : Text)

/-- A record by its name and fields. -/
def describeRecord (name : String) (fields : List (String × Text)) : Text :=
  name.toText ++ ('(' : CodePoint) ::
    Text.joined ", ".toText
      (fields.map fun (field, value) => field.toText ++ ('=' : CodePoint) :: value) ++ ([')'] : Text)

/-- A sequence between parentheses; a single item has a comma behind it. -/
def describeSequence : List Text → Text
  | [item] => ('(' : CodePoint) :: item ++ ([',', ')'] : Text)
  | items => ('(' : CodePoint) :: Text.joined ", ".toText items ++ ([')'] : Text)

/-- The description of a parameter. -/
def Param.description (p : Param) : Text :=
  describeRecord "GcodeParam"
    [("param_type", describeMember "ParamType" p.kind.name p.kind.tag),
      ("identifier", p.identifier.quoted),
      ("int_value", p.intValue.elim absent Text.ofInt),
      ("double_value", p.doubleValue.elim absent Double.written),
      ("text_value", p.textValue.elim absent Text.quoted)]

/-- The description of a line. -/
def Line.description (line : Line) : Text :=
  describeRecord "GcodeLine"
    [("index", Text.ofInt line.index),
      ("line_type", describeMember "LineType" line.kind.name line.kind.tag),
      ("raw", line.raw.quoted),
      ("n", line.n.elim absent Text.ofInt),
      ("code", line.code.elim absent Text.ofInt),
      ("parameters", describeSequence (line.parameters.map Param.description)),
      ("comment", line.comment.elim absent Text.quoted)]

end PartProgram
