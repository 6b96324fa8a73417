/-
  Part programs.

  A program is the list of the records of its lines.  It can be indexed and sliced like a list, with
  positions that count from the end; searched for a record; and filtered by the kind of line.
-/
import PartProgram.Line
import PartProgram.Slice

namespace PartProgram

/-- The records of the lines of a program, in order. -/
structure Program where
  lines : List Line
deriving BEq, Repr

namespace Program

/-- The number of lines. -/
def size (p : Program) : Nat := p.lines.length

/-- The line at a position, which may count from the end. -/
def get (p : Program) (position : Int) : Except Fault Line := Slice.get p.lines position

/-- The lines of a slice. -/
def slice (p : Program) (start stop step : Option Int) : Except Fault (List Line) :=
  Slice.slice p.lines start stop step

/-- The lines of the given kinds, in program order. -/
def ofKinds (p : Program) (kinds : List LineKind) : List Line :=
  p.lines.filter (kinds.contains ·.kind)

/-- The numbered lines, in program order. -/
def codeLines (p : Program) : List Line := p.lines.filter (·.kind.isCode)

/-- Is the record in the program? -/
def contains (p : Program) (line : Line) : Bool := p.lines.any (· == line)

/-- How often the record is in the program. -/
def count (p : Program) (line : Line) : Nat := p.lines.countP (· == line)

/-- The first position from `start` on, and before `stop` if that is given, at which the record
    stands.  Bounds may count from the end. -/
def index (p : Program) (line : Line) (start : Int) (stop : Option Int) : Except Fault Nat :=
  let start := (max 0 (Slice.fromFront p.size start)).toNat
  let candidates := match stop with
    | some stop => p.lines.take (Slice.fromFront p.size stop).toNat
    | none => p.lines
  match (candidates.drop start).findIdx? (· == line) with
  | some i => pure (start + i)
  | none => throw .absentLine

/-- The program in a word. -/
def summaryWord (p : Program) : Text :=
  "GcodeProgram(".toText ++ Text.ofNat p.size ++ " lines)".toText

end Program

end PartProgram
