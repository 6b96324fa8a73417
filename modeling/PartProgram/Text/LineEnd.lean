/-
  Line ends.

  A line ends with a line feed, a carriage return, or a carriage return and a line feed, and with
  nothing else: form feeds and the other Unicode separators belong to the line they stand in.
  There are two ways to get the lines of a text.

  1. `lines` takes the whole text: all line ends are turned into line feeds (`unify`), and the
     text is split there.  A final line end does not open another, empty line.
  2. `records` is what reading a stream gives: pieces that end after each line feed and keep it.
     `chomp` then takes one line end off each piece.
-/
import PartProgram.Text.Basic

namespace PartProgram.Text

/-- Every line end turned into one line feed. -/
def unify : Text → Text
  | '\r' :: '\n' :: rest => '\n' :: unify rest
  | '\r' :: rest => '\n' :: unify rest
  | c :: rest => c :: unify rest
  | [] => []

/-- The pieces without the last one, if that one is empty. -/
def dropLastIfEmpty (pieces : List Text) : List Text :=
  if pieces.getLast? = some [] then pieces.dropLast else pieces

/-- The lines of a text, without their line ends. -/
def lines (t : Text) : List Text := dropLastIfEmpty ((unify t).splitOn '\n')

/-- The pieces of a text that end after each line feed, which they keep; the last one may lack
    it. -/
def records : Text → List Text
  | [] => []
  | c :: rest =>
    if c = '\n' then [c] :: records rest
    else match records rest with
      | [] => [[c]]
      | first :: others => (c :: first) :: others

/-- `t` without its trailing line end, if it has one; never more than one is taken. -/
def chomp (t : Text) : Text :=
  match t.reverse with
  | '\n' :: '\r' :: rest => rest.reverse
  | '\n' :: rest => rest.reverse
  | '\r' :: rest => rest.reverse
  | _ => t

end PartProgram.Text
