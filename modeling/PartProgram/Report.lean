/-
  Reports on a program.

  A program is shown in one of three styles: a row for each line, a JSON document, or a count for
  each kind of line.  No integer of more than 4300 digits is written: a report that would have to
  show one breaks off there, in the first style after the rows before it.
-/
import PartProgram.Json.Record

namespace PartProgram

/-- The width of the column with the index of a line. -/
def indexWidth : Nat := 5

/-- The width of the column with the name of a kind. -/
def kindWidth : Nat := 15

namespace Line

/-- The parameters as tokens, with single blanks between them. -/
def parameterText (line : Line) : Text := Text.joined [' '] (line.parameters.map Param.written)

/-- The columns in front: index and kind. -/
def rowHead (line : Line) : Text :=
  Text.padLeft indexWidth (Text.ofInt line.index) ++ (' ' : CodePoint) ::
    Text.padRight kindWidth line.kind.name.toText

/-- The row of a line, without trailing blanks unless they are part of a comment or a text. -/
def row (line : Line) : Text :=
  if line.kind = .comment then line.rowHead ++ (' ' : CodePoint) :: line.comment.getD absent
  else if line.kind = .text then line.rowHead ++ (' ' : CodePoint) :: line.raw
  else if line.kind.isCode then
    let code := match line.code with
      | some code => " code=".toText ++ Text.ofInt code
      | none => []
    Text.trimRight (line.rowHead ++ " N=".toText ++ (line.n.elim absent Text.ofInt) ++ code ++
      (' ' : CodePoint) :: line.parameterText)
  else if line.kind.isControl then Text.trimRight (line.rowHead ++ (' ' : CodePoint) :: line.parameterText)
  else Text.trimRight line.rowHead

/-- The integers that the row of a line shows. -/
def rowIntegers (line : Line) : List Int :=
  line.index ::
    (if line.kind.isCode then line.n.toList ++ line.code.toList else []) ++
    (if line.kind.isCode || line.kind.isControl then
      line.parameters.flatMap fun p => if p.kind = .integer then p.intValue.toList else []
      else [])

/-- The integers that the JSON object of a line shows. -/
def jsonIntegers (line : Line) : List Int :=
  line.index ::
    (if line.kind.isCode then line.n.toList ++ line.code.toList else []) ++
    (if line.kind.isCode || line.kind.isControl then
      line.parameters.flatMap fun p =>
        if p.kind = .double ∨ p.kind = .text then [] else p.intValue.toList
      else [])

end Line

namespace Program

/-- One row of a count: a label in the column of the kinds, and the count. -/
def countRow (label : String) (count : Nat) : Text :=
  Text.padRight kindWidth label.toText ++ (' ' : CodePoint) :: Text.ofNat count

/-- The counts of the kinds that occur, in the order of the kinds, and of all lines. -/
def summary (p : Program) : Text :=
  let counts := LineKind.all.map fun kind => (kind, p.lines.countP (·.kind = kind))
  let rows := (counts.filter (·.2 ≠ 0)).map fun (kind, count) => countRow kind.name count
  Text.joined ['\n'] (rows ++ [countRow "TOTAL" p.size])

end Program

/-- The ways to show a program. -/
inductive ReportStyle where
  | rows
  | json
  | summary
deriving DecidableEq, Repr

/-- What is shown, and the fault that broke it off, if one did. -/
structure Report where
  /-- What is printed, one text for each time. -/
  prints : List Text
  fault : Option Fault := none
deriving DecidableEq, Repr

namespace Report

/-- All that is printed. -/
def text (r : Report) : Text := r.prints.flatten

/-- The rows of lines, each with a line feed, up to the first one that cannot be written. -/
def rows : List Line → Report
  | [] => { prints := [] }
  | line :: lines =>
    if line.rowIntegers.any Numeral.isTooLong then { prints := [], fault := some .tooLongToWrite }
    else
      let rest := rows lines
      { rest with prints := (line.row ++ (['\n'] : Text)) :: rest.prints }

/-- The report on a program. -/
def of (p : Program) : ReportStyle → Report
  | .rows => rows p.lines
  | .json =>
    if p.lines.any (·.jsonIntegers.any Numeral.isTooLong) then
      { prints := [], fault := some .tooLongToWrite }
    else { prints := [p.toJson.render ++ (['\n'] : Text)] }
  | .summary => { prints := [p.summary ++ (['\n'] : Text)] }

end Report

end PartProgram
