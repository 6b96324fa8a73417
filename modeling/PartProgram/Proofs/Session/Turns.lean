/-
  Sessions, turn by turn.

  A session answers one request after another, and `Session.run` keeps the answers only.  To speak of
  what happened BETWEEN two answers, this file keeps the whole course: a `Turn` is one request with
  the session before and after it, and `turns` is the list of all turns of a run.  Forgetting the
  sessions gives back the run (`run_eq_map_turns`).

  * `Turn.taken` — the items that a turn took out of the shared feed;
  * `Turn.Advances k` — the turn is a step of cursor `k`, which was open then;
  * `takenBy k past`, `Ended k past` — what cursor `k` took during past turns, and whether it has
    answered its last; both are read off the turns, not off the cursor.

  The last section says what one step of a cursor over a feed does: nothing if it is finished, the
  end if nothing is left, else one item, whatever becomes of it.
-/
import PartProgram.Session

namespace PartProgram.Session

/-! ## Turns -/

/-- A request with its answer, what was told, and the session before and after it. -/
structure Turn where
  before : Session
  request : Request
  events : List Event
  answer : Answer
  after : Session

/-- The turn in which `s` answers a request. -/
def turn (r : Reader) (s : Session) (request : Request) : Turn :=
  { before := s, request
    events := (step r s request).1
    answer := (step r s request).2.1
    after := (step r s request).2.2 }

/-- The turns in which a session answers a series of requests. -/
def turns (r : Reader) : Session → List Request → List Turn
  | _, [] => []
  | s, request :: requests => turn r s request :: turns r (turn r s request).after requests

/-- A run is its turns without the sessions. -/
theorem run_eq_map_turns (r : Reader) (s : Session) (requests : List Request) :
    run r s requests = (turns r s requests).map fun t => (t.events, t.answer) := by
  induction requests generalizing s with
  | nil => rfl
  | cons request requests ih =>
    rw [turns, List.map_cons, ← ih]
    rfl

theorem map_request_turns (r : Reader) (s : Session) (requests : List Request) :
    (turns r s requests).map Turn.request = requests := by
  induction requests generalizing s with
  | nil => rfl
  | cons request requests ih =>
    rw [turns, List.map_cons, ih]
    rfl

/-! ## What a turn took -/

namespace Turn

/-- The items by which the shared feed is shorter after the turn. -/
def taken (t : Turn) : List Text :=
  t.before.supply.items.take (t.before.supply.items.length - t.after.supply.items.length)

theorem taken_of_append {t : Turn} {items : List Text}
    (h : t.before.supply.items = items ++ t.after.supply.items) : t.taken = items := by
  have hlen : t.before.supply.items.length - t.after.supply.items.length = items.length := by
    rw [h, List.length_append]
    omega
  rw [taken, hlen, h, List.take_left]

/-- A turn that leaves the feed alone takes nothing. -/
theorem taken_of_eq {t : Turn} (h : t.after.supply.items = t.before.supply.items) : t.taken = [] :=
  taken_of_append (by rw [h]; rfl)

/-- `t.Advances k` — the turn is a step of cursor `k`, and the cursor was open. -/
def Advances (t : Turn) (k : Nat) : Prop := t.request = .next k ∧ k < t.before.cursors.length

instance (t : Turn) (k : Nat) : Decidable (t.Advances k) :=
  inferInstanceAs (Decidable (t.request = .next k ∧ k < t.before.cursors.length))

end Turn

/-- An answer after which a cursor has no more to give: the end or a fault. -/
def Answer.IsLast : Answer → Prop
  | .stop => True
  | .fault _ => True
  | _ => False

/-- The items that cursor `k` took during some turns. -/
def takenBy (k : Nat) (past : List Turn) : List Text :=
  (past.filter fun t => t.Advances k).flatMap Turn.taken

/-- Has cursor `k` given its last answer during some turns? -/
def Ended (k : Nat) (past : List Turn) : Prop := ∃ t ∈ past, t.Advances k ∧ t.answer.IsLast

theorem takenBy_append (k : Nat) (past : List Turn) (t : Turn) :
    takenBy k (past ++ [t]) = takenBy k past ++ if t.Advances k then t.taken else [] := by
  rw [takenBy, List.filter_append, List.flatMap_append]
  by_cases h : t.Advances k
  · rw [if_pos h, List.filter_cons_of_pos (by simpa using h)]
    simp [takenBy]
  · rw [if_neg h, List.filter_cons_of_neg (by simpa using h)]
    rfl

theorem ended_append (k : Nat) (past : List Turn) (t : Turn) :
    Ended k (past ++ [t]) ↔ Ended k past ∨ (t.Advances k ∧ t.answer.IsLast) := by
  simp only [Ended, List.mem_append, List.mem_singleton, or_and_right, exists_or, exists_eq_left]

/-! ## One step of a cursor over a feed -/

/-- The answer for the outcome of a line. -/
def Answer.ofResult : Except Fault Line → Answer
  | .ok record => .line record
  | .error cause => .fault cause

/-- The answer to whoever asks after the last item. -/
def Answer.ofEnding : Option Fault → Answer
  | some cause => .fault cause
  | none => .stop

theorem Answer.isLast_ofResult {result : Except Fault Line} :
    (Answer.ofResult result).IsLast ↔ result.toOption = none := by
  cases result with
  | ok line => exact ⟨False.elim, fun h => absurd h (by simp [Except.toOption])⟩
  | error fault => exact ⟨fun _ => rfl, fun _ => trivial⟩

theorem Answer.isLast_ofEnding (ending : Option Fault) : (Answer.ofEnding ending).IsLast := by
  cases ending with
  | none => exact trivial
  | some fault => exact trivial

variable {r : Reader} {supply : Feed} {cursor : Cursor}

theorem advance_of_finished (h : cursor.finished = true) :
    advance r supply cursor = ([], .stop, cursor, supply) := by
  rw [advance, if_pos h]

theorem advance_of_nil (h : cursor.finished = false) (hown : cursor.own = none)
    (hitems : supply.items = []) :
    advance r supply cursor =
      ([], .ofEnding supply.ending, { cursor with finished := true }, supply) := by
  have htake : take supply cursor = (none, cursor, supply) := by
    unfold take
    rw [hown, hitems]
  unfold advance
  rw [if_neg (by rw [h]; decide), htake]
  show ([], _, _, _) = _
  rw [hown]
  cases supply.ending <;> rfl

theorem advance_of_cons {item : Text} {items : List Text} (h : cursor.finished = false)
    (hown : cursor.own = none) (hitems : supply.items = item :: items) :
    advance r supply cursor =
      ((r.build item.chomp cursor.taken).events,
        .ofResult (r.build item.chomp cursor.taken).result,
        { cursor with
          taken := cursor.taken + 1
          finished := (r.build item.chomp cursor.taken).result.toOption.isNone },
        { supply with items }) := by
  have htake : take supply cursor = (some item.chomp, cursor, { supply with items }) := by
    unfold take
    rw [hown, hitems]
  unfold advance
  rw [if_neg (by rw [h]; decide), htake]
  dsimp only
  cases (r.build item.chomp cursor.taken).result with
  | ok line => simp [Answer.ofResult, Except.toOption, h]
  | error fault => simp [Answer.ofResult, Except.toOption]

end PartProgram.Session
