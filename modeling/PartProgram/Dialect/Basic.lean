/-
  Dialects.

  How lines are turned into records is laid down in a table of nine entries: one that classifies a
  line, five that build the record of a kind of line, one that goes through the parameter tokens and
  two that build a parameter.  Entries hand work to each other through the table, so that replacing
  one of them changes the others' work too.

  1. `Builders` is such a table in use: nine functions, ready to be called.
  2. `Dialect` is a table before use: each entry is also given the table that is in use.
  3. `Dialect.builders` closes a dialect over itself.  Entries that call each other for ever would
     have no result; past `nestingLimit` calls deep they fail.
-/
import PartProgram.Attempt

namespace PartProgram

/-- The nine functions that make records of lines. -/
structure Builders where
  /-- The record of a line of any kind. -/
  classify : (raw : Text) → (index : Int) → Attempt Line
  /-- The record of a blank line. -/
  blank : (raw : Text) → (index : Int) → Attempt Line
  /-- The record of a comment. -/
  comment : (raw : Text) → (index : Int) → Attempt Line
  /-- The record of a numbered line, given its tokens. -/
  codeLine : (raw : Text) → (tokens : List Text) → (index : Int) → Attempt Line
  /-- The record of a control line, given its tokens. -/
  controlLine : (raw : Text) → (tokens : List Text) → (index : Int) → Attempt Line
  /-- The record of any other line. -/
  textLine : (raw : Text) → (index : Int) → Attempt Line
  /-- The parameters of the tokens from `start` up to `stop`, or to the end. -/
  parameters : (tokens : List Text) → (start : Int) → (stop : Option Int) → Attempt (List Param)
  /-- The parameter of a token that begins with the letter of a code. -/
  codeParam : (token : Text) → Attempt Param
  /-- The parameter of a token with an equals sign. -/
  valueParam : (token : Text) → Attempt Param

/-- Nine entries for a table of builders, each given the table in use. -/
structure Dialect where
  classify : Builders → (raw : Text) → (index : Int) → Attempt Line
  blank : Builders → (raw : Text) → (index : Int) → Attempt Line
  comment : Builders → (raw : Text) → (index : Int) → Attempt Line
  codeLine : Builders → (raw : Text) → (tokens : List Text) → (index : Int) → Attempt Line
  controlLine : Builders → (raw : Text) → (tokens : List Text) → (index : Int) → Attempt Line
  textLine : Builders → (raw : Text) → (index : Int) → Attempt Line
  parameters : Builders → (tokens : List Text) → (start : Int) → (stop : Option Int) →
    Attempt (List Param)
  codeParam : Builders → (token : Text) → Attempt Param
  valueParam : Builders → (token : Text) → Attempt Param

/-- The table all of whose entries fail because the calls are nested too deep. -/
def Builders.tooDeep : Builders where
  classify _ _ := .fail .nestingTooDeep
  blank _ _ := .fail .nestingTooDeep
  comment _ _ := .fail .nestingTooDeep
  codeLine _ _ _ := .fail .nestingTooDeep
  controlLine _ _ _ := .fail .nestingTooDeep
  textLine _ _ := .fail .nestingTooDeep
  parameters _ _ _ := .fail .nestingTooDeep
  codeParam _ := .fail .nestingTooDeep
  valueParam _ := .fail .nestingTooDeep

namespace Dialect

/-- The table whose entries use the table `inner`. -/
def instantiate (d : Dialect) (inner : Builders) : Builders where
  classify := d.classify inner
  blank := d.blank inner
  comment := d.comment inner
  codeLine := d.codeLine inner
  controlLine := d.controlLine inner
  textLine := d.textLine inner
  parameters := d.parameters inner
  codeParam := d.codeParam inner
  valueParam := d.valueParam inner

/-- The table in which entries may call each other up to the given depth. -/
def buildersTo (d : Dialect) : (depth : Nat) → Builders
  | 0 => .tooDeep
  | depth + 1 => d.instantiate (d.buildersTo depth)

/-- How deep entries may call each other. -/
def nestingLimit : Nat := 1000

/-- The table of a dialect, in use. -/
def builders (d : Dialect) : Builders := d.buildersTo nestingLimit

end Dialect

/-- The names of the entries of a table, in its order. -/
def Dialect.entryNames : List String :=
  ["classify", "make_blank", "make_comment", "make_code_line", "make_control_line",
   "make_string_line", "parse_parameters", "parse_code_parameter", "parse_value_parameter"]

/-- The name that stands for the table itself where its entries are named. -/
def Dialect.ownName : String := "self"

/-- The entries that a replacement by name touches, in the order of the table.  The name of the
    table itself is refused wherever it stands, and otherwise the first name that is not an
    entry. -/
def Dialect.replaced (names : List Text) : Except Fault (List Text) :=
  let entries := Dialect.entryNames.map String.toText
  if names.contains Dialect.ownName.toText then throw .tableAsEntry
  else match names.find? (!entries.contains ·) with
    | some name => throw (.unknownEntry name)
    | none => pure (entries.filter (names.contains ·))

end PartProgram
