/-
  Lines of a part program.

  A line is blank, a comment, a numbered code line, a control line or plain text.  Its record keeps
  the position and the raw text of the line whatever its kind; the other fields depend on the kind.
-/
import PartProgram.Param

namespace PartProgram

/-- The kind of a line. -/
inductive LineKind where
  /-- Nothing but blanks. -/
  | blank
  /-- A semicolon and what follows it. -/
  | comment
  /-- Text that is none of the others. -/
  | text
  /-- A numbered line with a G code. -/
  | gCode
  /-- A numbered line with an M code. -/
  | mCode
  /-- A numbered line with neither. -/
  | otherCode
  /-- A control line that opens a branch. -/
  | branch
  /-- A control line that opens the alternative of a branch. -/
  | alternative
  /-- A control line that closes a branch. -/
  | branchEnd
  /-- A control line with another keyword. -/
  | otherControl
deriving DecidableEq, Repr

namespace LineKind

/-- All kinds, in the order in which they are listed. -/
def all : List LineKind :=
  [blank, comment, text, gCode, mCode, otherCode, branch, alternative, branchEnd, otherControl]

/-- The name of a kind in listings and logs. -/
def name : LineKind → String
  | blank => "BLANK"
  | comment => "COMMENT"
  | text => "UNKNOWN_STRING"
  | gCode => "GCODE"
  | mCode => "MCODE"
  | otherCode => "UNKNOWN_CODE"
  | branch => "IF"
  | alternative => "ELSE"
  | branchEnd => "ENDIF"
  | otherControl => "UNKNOWN_CONTROL"

/-- The tag of a kind in records. -/
def tag : LineKind → String
  | blank => "blank"
  | comment => "comment"
  | text => "unknown_string"
  | gCode => "gcode"
  | mCode => "mcode"
  | otherCode => "unknown_code"
  | branch => "if"
  | alternative => "else"
  | branchEnd => "endif"
  | otherControl => "unknown_control"

/-- The kind with a given tag. -/
def ofTag (t : Text) : Except Fault LineKind :=
  match all.find? (·.tag.toText == t) with
  | some kind => pure kind
  | none => throw (.unknownLineKind t)

/-- Is it a kind of numbered line? -/
def isCode : LineKind → Bool
  | gCode | mCode | otherCode => true
  | _ => false

/-- Is it a kind of control line? -/
def isControl : LineKind → Bool
  | branch | alternative | branchEnd | otherControl => true
  | _ => false

end LineKind

/-- The record of one line. -/
structure Line where
  /-- The position of the line in its program, counted from zero. -/
  index : Int
  kind : LineKind
  /-- The line as it was read, without its line end. -/
  raw : Text := []
  /-- The line number of a numbered line. -/
  n : Option Int := none
  /-- The number of its G or M code. -/
  code : Option Int := none
  parameters : List Param := []
  /-- The text of a comment, from its semicolon on. -/
  comment : Option Text := none
deriving BEq, Repr

namespace Line

/-- The first parameter with the identifier. -/
def param? (line : Line) (identifier : Text) : Option Param :=
  line.parameters.find? (·.identifier == identifier)

/-- The number of the first parameter with the identifier; none if that one carries a text. -/
def number? (line : Line) (identifier : Text) : Option Value :=
  match line.param? identifier with
  | some p => if p.kind = .text then none else p.value
  | none => none

end Line

end PartProgram
