/-
  Reading lazily.

  In a session several cursors read from one source, each producing the record of one line whenever
  it is asked to.  Over a text or a list each cursor makes its own pass.  A feed is shared: a line
  goes to the cursor that asks first, or to whoever pulls it out of the feed directly.

  Each cursor numbers the lines that it has taken itself, from zero.  A cursor is finished when it
  has met the end of its lines or a fault; it never takes a line after that.
-/
import PartProgram.Reader

namespace PartProgram

/-- One lazy pass over the lines of a session. -/
structure Cursor where
  /-- How many lines the cursor has taken. -/
  taken : Nat
  finished : Bool
  /-- The lines that only this cursor reads; none if it reads from the shared feed. -/
  own : Option (List Text)
deriving DecidableEq, Repr

/-- A source, what is left of it if it is a feed, and the cursors over it. -/
structure Session where
  source : Source
  supply : Feed
  cursors : List Cursor

namespace Session

/-- What can be asked of a session. -/
inductive Request where
  /-- Open another cursor. -/
  | openCursor
  /-- The next record of a cursor. -/
  | next (cursor : Nat)
  /-- The next item of the shared feed, as it is. -/
  | pull
deriving DecidableEq, Repr

/-- What a session answers. -/
inductive Answer where
  /-- A cursor is open; there are so many now. -/
  | opened (count : Nat)
  | line (record : Line)
  | stop
  | fault (cause : Fault)
  | pulled (item : Text)

/-- A session in which nothing has been asked yet. -/
def start (source : Source) : Session :=
  { source
    supply := match source with
      | .feed supply => supply
      | _ => { items := [] }
    cursors := [] }

/-- A fresh cursor over a source. -/
def freshCursor : Source → Cursor
  | .feed _ => { taken := 0, finished := false, own := none }
  | source => { taken := 0, finished := false, own := some source.rawLines }

/-- The next line for a cursor, with what is then left for the cursor itself and in the feed.  No
    line means the end, or the fault at the end. -/
def take (supply : Feed) (cursor : Cursor) : Option Text × Cursor × Feed :=
  match cursor.own with
  | some [] => (none, cursor, supply)
  | some (raw :: raws) => (some raw, { cursor with own := some raws }, supply)
  | none =>
    match supply.items with
    | [] => (none, cursor, supply)
    | item :: items => (some item.chomp, cursor, { supply with items })

/-- One step of a cursor: its answer, what it tells, and what becomes of it and the feed. -/
def advance (r : Reader) (supply : Feed) (cursor : Cursor) :
    List Event × Answer × Cursor × Feed :=
  if cursor.finished then ([], .stop, cursor, supply)
  else
    match take supply cursor with
    | (none, cursor, supply) =>
      let answer := match cursor.own, supply.ending with
        | none, some fault => .fault fault
        | _, _ => .stop
      ([], answer, { cursor with finished := true }, supply)
    | (some raw, cursor, supply) =>
      let attempt := r.build raw cursor.taken
      let cursor := { cursor with taken := cursor.taken + 1 }
      match attempt.result with
      | .ok line => (attempt.events, .line line, cursor, supply)
      | .error fault => (attempt.events, .fault fault, { cursor with finished := true }, supply)

/-- The answer to a request, what is told meanwhile, and the session afterwards. -/
def step (r : Reader) (s : Session) : Request → List Event × Answer × Session
  | .openCursor =>
    let cursors := s.cursors ++ [freshCursor s.source]
    ([], .opened cursors.length, { s with cursors })
  | .next k =>
    match s.cursors[k]? with
    | none => ([], .fault .outOfRange, s)
    | some cursor =>
      let (events, answer, cursor, supply) := advance r s.supply cursor
      (events, answer, { s with supply, cursors := s.cursors.set k cursor })
  | .pull =>
    match s.supply.items with
    | [] =>
      let answer := match s.supply.ending with
        | some fault => .fault fault
        | none => .stop
      ([], answer, s)
    | item :: items => ([], .pulled item, { s with supply := { s.supply with items } })

/-- The answers to a series of requests, with what is told at each. -/
def run (r : Reader) : Session → List Request → List (List Event × Answer)
  | _, [] => []
  | s, request :: requests =>
    let (events, answer, s) := step r s request
    (events, answer) :: run r s requests

end Session

end PartProgram
