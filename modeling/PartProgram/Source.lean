/-
  Sources of lines.

  Lines come from the text of a program, from a list of lines, or from a feed: a supply that hands
  out each item once, to whoever asks first.  Texts and lists can be gone through any number of
  times.  The items of lists and feeds may carry their line end, of which one is taken off.
-/
import PartProgram.Fault
import PartProgram.Text.LineEnd

namespace PartProgram

/-- A supply of items that are handed out once. -/
structure Feed where
  /-- The items that are still there. -/
  items : List Text
  /-- What befalls whoever asks for an item after the last one, if it is not just the end. -/
  ending : Option Fault := none
deriving DecidableEq, Repr

namespace Feed

/-- A stream of text: its items end after each line feed. -/
def ofStream (t : Text) : Feed := { items := t.records }

/-- A stream of text in which all line ends are line feeds already. -/
def universal (t : Text) : Feed := ofStream t.unify

end Feed

/-- Where the lines of a program come from. -/
inductive Source where
  | text (t : Text)
  | list (items : List Text)
  | feed (supply : Feed)
deriving DecidableEq, Repr

namespace Source

/-- The lines of a source, without their line ends. -/
def rawLines : Source → List Text
  | text t => t.lines
  | list items => items.map Text.chomp
  | feed supply => supply.items.map Text.chomp

/-- The fault that follows the last line, if any. -/
def ending : Source → Option Fault
  | feed supply => supply.ending
  | _ => none

end Source

end PartProgram
