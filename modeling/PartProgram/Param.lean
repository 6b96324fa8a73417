/-
  Parameters of a line.

  A parameter is one token of a code or control line: a code such as `M104`, a key with a value
  such as `X=5`, or a word with neither.  A record has room for a value of each type, and its kind
  tells which one counts; the parameters that the standard dialect builds fill at most that one.
-/
import PartProgram.Numeral
import PartProgram.Double.Written

namespace PartProgram

/-- The kind of a parameter. -/
inductive ParamKind where
  | code
  | integer
  | double
  | text
  | unknown
deriving DecidableEq, Repr

namespace ParamKind

/-- All kinds, in the order in which they are listed. -/
def all : List ParamKind := [code, integer, double, text, unknown]

/-- The name of a kind in descriptions. -/
def name : ParamKind → String
  | code => "CODE"
  | integer => "INTEGER_VALUE"
  | double => "DOUBLE_VALUE"
  | text => "TEXT_VALUE"
  | unknown => "UNKNOWN"

/-- The tag of a kind in records. -/
def tag : ParamKind → String
  | code => "code"
  | integer => "integer"
  | double => "double"
  | text => "text"
  | unknown => "unknown"

/-- The kind with a given tag. -/
def ofTag (t : Text) : Except Fault ParamKind :=
  match all.find? (·.tag.toText == t) with
  | some kind => pure kind
  | none => throw (.unknownParamKind t)

end ParamKind

/-- The value that a parameter carries. -/
inductive Value where
  | integer (value : Int)
  | double (value : Double)
  | text (value : Text)
deriving BEq, Repr

/-- The text of a value. -/
def Value.written : Value → Text
  | integer n => Text.ofInt n
  | double d => d.written
  | text t => t

/-- A parameter token. -/
structure Param where
  kind : ParamKind
  identifier : Text
  intValue : Option Int := none
  doubleValue : Option Double := none
  textValue : Option Text := none
deriving BEq, Repr

namespace Param

/-- A code, with its number if that is an integer. -/
def code (identifier : Text) (value : Option Int) : Param :=
  { kind := .code, identifier, intValue := value }

/-- A key with an integer. -/
def integer (identifier : Text) (value : Int) : Param :=
  { kind := .integer, identifier, intValue := some value }

/-- A key with a decimal. -/
def double (identifier : Text) (value : Double) : Param :=
  { kind := .double, identifier, doubleValue := some value }

/-- A key with any other text. -/
def text (identifier value : Text) : Param :=
  { kind := .text, identifier, textValue := some value }

/-- A word that is neither a code nor a key with a value. -/
def unknown (identifier : Text) : Param := { kind := .unknown, identifier }

/-- The value that counts for the kind of the parameter, if it is there. -/
def value (p : Param) : Option Value :=
  match p.kind with
  | .double => p.doubleValue.map .double
  | .text => p.textValue.map .text
  | _ => p.intValue.map .integer

/-- The parameter as a token: its identifier, with the value behind an equals sign unless it is a
    code or an unknown word. -/
def written (p : Param) : Text :=
  match p.kind with
  | .code | .unknown => p.identifier
  | _ => p.identifier ++ ('=' : CodePoint) :: (p.value.elim absent Value.written)

end Param

end PartProgram
