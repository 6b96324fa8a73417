/-
  Reading programs.

  A reader turns lines into records with a table of builders.  A strict reader stops at the first
  malformed line; a permissive one takes such a line as plain text, and tells so.  Any other fault
  stops both.  Each line is read by itself, so that a reader has no state.

  `Reader.parse` reads a whole source: either all of its lines or none of them.
-/
import PartProgram.Dialect.Basic
import PartProgram.Program
import PartProgram.Source

namespace PartProgram

/-- A table of builders, and what to do about malformed lines. -/
structure Reader where
  builders : Builders
  strict : Bool

namespace Reader

/-- The record of a line without its line end. -/
def build (r : Reader) (raw : Text) (index : Int) : Attempt Line := do
  let line ← (r.builders.classify raw index).orOnFormatError fun e =>
    if r.strict then .fail (.format e)
    else do
      Attempt.report (.demoted index e.detail)
      r.builders.textLine raw index
  Attempt.report (.lineParsed index line.kind)
  return line

/-- The record of a line, which may carry its line end. -/
def parseLine (r : Reader) (line : Text) (index : Int) : Attempt Line :=
  r.build line.chomp index

/-- The records of lines that are numbered from `index` on. -/
def buildAll (r : Reader) : (index : Nat) → (raws : List Text) → Attempt (List Line)
  | _, [] => pure []
  | index, raw :: raws => do
    let line ← r.build raw index
    (line :: ·) <$> r.buildAll (index + 1) raws

/-- The program of a source. -/
def parse (r : Reader) (source : Source) : Attempt Program := do
  let lines ← r.buildAll 0 source.rawLines
  match source.ending with
  | some fault => .fail fault
  | none =>
    Attempt.report (.parsed lines.length)
    return { lines }

/-- How many of the lines are taken before reading stops: all, or those up to and including the
    first one that fails. -/
def consumed (r : Reader) : (index : Nat) → (raws : List Text) → Nat
  | _, [] => 0
  | index, raw :: raws =>
    match (r.build raw index).result with
    | .ok _ => r.consumed (index + 1) raws + 1
    | .error _ => 1

/-- What is left of a feed when a program has been read from it, successfully or not. -/
def leftover (r : Reader) (supply : Feed) : Feed :=
  { supply with items := supply.items.drop (r.consumed 0 (supply.items.map Text.chomp)) }

end Reader

end PartProgram
