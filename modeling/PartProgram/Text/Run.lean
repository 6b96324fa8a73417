/-
  Runs.

  A text can be given as a list of runs, in which a character that comes many times over is only
  counted.  A column of any width is laid out in this form at once, and takes room only when its
  characters are asked for (`Run.expand`).
-/
import PartProgram.Text.Basic

namespace PartProgram

/-- A part of a text. -/
inductive Run where
  | text (t : Text)
  /-- So many copies of a character. -/
  | copies (c : CodePoint) (count : Nat)
deriving DecidableEq, Repr

namespace Run

/-- The characters of a run. -/
def chars : Run → Text
  | text t => t
  | copies c count => List.replicate count c

/-- The text of runs. -/
def expand (runs : List Run) : Text := runs.flatMap chars

/-- The number of characters of a run. -/
def size : Run → Nat
  | text t => t.length
  | copies _ count => count

/-- The number of characters of runs. -/
def total (runs : List Run) : Nat := runs.foldr (fun run count => run.size + count) 0

@[simp]
theorem expand_cons (run : Run) (runs : List Run) :
    expand (run :: runs) = run.chars ++ expand runs := by
  simp [expand]

end Run

end PartProgram
