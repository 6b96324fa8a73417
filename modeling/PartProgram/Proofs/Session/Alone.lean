/-
  A cursor on its own.

  1. **The machine** — `Outlook` holds all that the answers of a cursor depend on: the lines ahead of
     it, the number of the next one, what follows the last one, and whether the cursor is finished.
     `Outlook.next` is one step of the machine and `Outlook.answers` its answers to some requests.
     Neither knows of a session.

  2. **Simulation (`turn_next_outlook`)** — in whatever session, a step of an open cursor IS a step of
     the machine that the cursor has in view there: same answer, same events, and afterwards the view
     is that of the machine after its step.

  3. **`alone r source n`** — the answers of a session in which one cursor is opened and then asked `n`
     times.  They are those of the machine over the lines of the source (`alone_eq_answers`), for texts,
     lists and feeds alike.
-/
import PartProgram.Proofs.Session.SharedFeed

namespace PartProgram

/-! ## The machine -/

/-- What a cursor has in view. -/
structure Outlook where
  /-- The number of the next line. -/
  index : Nat
  /-- The lines ahead. -/
  ahead : List Text
  /-- What befalls whoever asks after the last line, if it is not just the end. -/
  ending : Option Fault
  finished : Bool

namespace Outlook

open Session (Answer)

/-- One step: the answer with what is told, and the view afterwards. -/
def next (r : Reader) (o : Outlook) : (List Event × Answer) × Outlook :=
  if o.finished then (([], .stop), o)
  else match o.ahead with
    | [] => (([], .ofEnding o.ending), { o with finished := true })
    | raw :: raws =>
      let x := r.build raw o.index
      ((x.events, .ofResult x.result),
        { o with index := o.index + 1, ahead := raws, finished := x.result.toOption.isNone })

/-- The answers to `n` requests. -/
def answers (r : Reader) : (n : Nat) → Outlook → List (List Event × Answer)
  | 0, _ => []
  | n + 1, o => (o.next r).1 :: answers r n (o.next r).2

variable {r : Reader} {o : Outlook}

theorem next_of_finished (h : o.finished = true) : o.next r = (([], .stop), o) := by
  rw [next, if_pos h]

theorem next_of_nil (h : o.finished = false) (hahead : o.ahead = []) :
    o.next r = (([], .ofEnding o.ending), { o with finished := true }) := by
  unfold next
  rw [if_neg (by rw [h]; decide), hahead]

theorem next_of_cons (h : o.finished = false) {raw : Text} {raws : List Text}
    (hahead : o.ahead = raw :: raws) :
    o.next r = (((r.build raw o.index).events, .ofResult (r.build raw o.index).result),
      { o with
        index := o.index + 1
        ahead := raws
        finished := (r.build raw o.index).result.toOption.isNone }) := by
  unfold next
  rw [if_neg (by rw [h]; decide), hahead]

/-- A finished machine only stops. -/
theorem answers_of_finished (h : o.finished = true) (n : Nat) :
    o.answers r n = List.replicate n ([], .stop) := by
  induction n with
  | zero => rfl
  | succ n ih => rw [answers, next_of_finished h, ih, List.replicate_succ]

/-- Fewer requests have the same answers. -/
theorem take_answers (n m : Nat) (o : Outlook) :
    (o.answers r (n + m)).take n = o.answers r n := by
  induction n generalizing o with
  | zero => rfl
  | succ n ih => rw [Nat.add_right_comm, answers, List.take_succ_cons, ih, answers]

end Outlook

/-- What a source has in view for a fresh cursor: all of its lines. -/
def Source.outlook (source : Source) : Outlook :=
  { index := 0, ahead := source.rawLines, ending := source.ending, finished := false }

/-- What a cursor has in view: its own lines, or those of the shared feed. -/
def Cursor.outlook (cursor : Cursor) (supply : Feed) : Outlook :=
  { index := cursor.taken
    ahead := cursor.own.getD (supply.items.map Text.chomp)
    ending := if cursor.own.isSome then none else supply.ending
    finished := cursor.finished }

namespace Session

/-- What cursor `k` has in view, or will have once it is opened. -/
def outlook (s : Session) (k : Nat) : Outlook :=
  (s.cursors[k]?.getD (freshCursor s.source)).outlook s.supply

variable {r : Reader} {s : Session} {k : Nat} {cursor : Cursor} {supply : Feed}

theorem outlook_of_some (hk : s.cursors[k]? = some cursor) : s.outlook k = cursor.outlook s.supply := by
  rw [outlook, hk]
  rfl

theorem outlook_start (source : Source) (k : Nat) : (start source).outlook k = source.outlook := by
  cases source <;> rfl

/-! ## Simulation -/

theorem advance_of_own_nil (h : cursor.finished = false) (hown : cursor.own = some []) :
    advance r supply cursor = ([], .stop, { cursor with finished := true }, supply) := by
  have htake : take supply cursor = (none, cursor, supply) := by
    unfold take
    rw [hown]
  unfold advance
  rw [if_neg (by rw [h]; decide), htake]
  show ([], _, _, _) = _
  rw [hown]

theorem advance_of_own_cons {raw : Text} {raws : List Text} (h : cursor.finished = false)
    (hown : cursor.own = some (raw :: raws)) :
    advance r supply cursor =
      ((r.build raw cursor.taken).events,
        .ofResult (r.build raw cursor.taken).result,
        { taken := cursor.taken + 1
          finished := (r.build raw cursor.taken).result.toOption.isNone
          own := some raws },
        supply) := by
  have htake : take supply cursor = (some raw, { cursor with own := some raws }, supply) := by
    unfold take
    rw [hown]
  unfold advance
  rw [if_neg (by rw [h]; decide), htake]
  dsimp only
  cases (r.build raw cursor.taken).result with
  | ok line => simp [Answer.ofResult, Except.toOption, h]
  | error fault => simp [Answer.ofResult, Except.toOption]

/-- **A step of a cursor is a step of its machine**: its lines are those of the feed or its own, and in
    both cases there may be none left. -/
theorem advance_outlook (r : Reader) (supply : Feed) (cursor : Cursor) :
    ((advance r supply cursor).1, (advance r supply cursor).2.1) = ((cursor.outlook supply).next r).1 ∧
      (advance r supply cursor).2.2.1.outlook (advance r supply cursor).2.2.2 =
        ((cursor.outlook supply).next r).2 := by
  cases hf : cursor.finished with
  | true =>
    rw [advance_of_finished hf, Outlook.next_of_finished hf]
    exact ⟨rfl, rfl⟩
  | false =>
    rcases hown : cursor.own with _ | _ | ⟨raw, raws⟩
    · cases hitems : supply.items with
      | nil =>
        have hahead : (cursor.outlook supply).ahead = [] := by simp [Cursor.outlook, hown, hitems]
        rw [advance_of_nil hf hown hitems, Outlook.next_of_nil hf hahead]
        simp [Cursor.outlook, hown]
      | cons item items =>
        have hahead : (cursor.outlook supply).ahead = item.chomp :: items.map Text.chomp := by
          simp [Cursor.outlook, hown, hitems]
        rw [advance_of_cons hf hown hitems, Outlook.next_of_cons hf hahead]
        simp [Cursor.outlook, hown]
    · have hahead : (cursor.outlook supply).ahead = [] := by simp [Cursor.outlook, hown]
      rw [advance_of_own_nil hf hown, Outlook.next_of_nil hf hahead]
      simp [Cursor.outlook, hown, Answer.ofEnding]
    · have hahead : (cursor.outlook supply).ahead = raw :: raws := by simp [Cursor.outlook, hown]
      rw [advance_of_own_cons hf hown, Outlook.next_of_cons hf hahead]
      simp [Cursor.outlook, hown]

theorem turn_next_of_lt (hk : k < s.cursors.length) :
    turn r s (.next k) =
      ⟨s, .next k, (advance r s.supply s.cursors[k]).1, (advance r s.supply s.cursors[k]).2.1,
        { s with
          supply := (advance r s.supply s.cursors[k]).2.2.2
          cursors := s.cursors.set k (advance r s.supply s.cursors[k]).2.2.1 }⟩ :=
  turn_next_of_some (List.getElem?_eq_getElem hk) rfl

/-- **A turn of an open cursor is a step of its machine**, in whatever session. -/
theorem turn_next_outlook (hk : k < s.cursors.length) :
    ((turn r s (.next k)).events, (turn r s (.next k)).answer) = ((s.outlook k).next r).1 ∧
      (turn r s (.next k)).after.outlook k = ((s.outlook k).next r).2 := by
  obtain ⟨hanswer, houtlook⟩ := advance_outlook r s.supply s.cursors[k]
  rw [turn_next_of_lt hk, outlook_of_some (List.getElem?_eq_getElem hk)]
  refine ⟨hanswer, ?_⟩
  rw [← houtlook]
  exact outlook_of_some (List.getElem?_set_self hk)

/-! ## One cursor -/

/-- The answers of the only cursor over a source to `n` requests, with what is told at each. -/
def alone (r : Reader) (source : Source) (n : Nat) : List (List Event × Answer) :=
  (run r (start source) (.openCursor :: List.replicate n (.next 0))).tail

/-- A session that is asked for nothing but the next line of an open cursor answers as its machine. -/
theorem run_replicate_next (hk : k < s.cursors.length) (n : Nat) :
    run r s (List.replicate n (.next k)) = (s.outlook k).answers r n := by
  induction n generalizing s with
  | zero => rfl
  | succ n ih =>
    obtain ⟨hanswer, hafter⟩ := turn_next_outlook (r := r) hk
    have hlength : k < (turn r s (.next k)).after.cursors.length := by
      rw [turn_next_of_lt hk]
      simpa using hk
    rw [List.replicate_succ, Outlook.answers, ← hanswer, ← hafter, ← ih hlength]
    rfl

/-- **A cursor on its own answers as the machine over the lines of its source.** -/
theorem alone_eq_answers (r : Reader) (source : Source) (n : Nat) :
    alone r source n = source.outlook.answers r n := by
  have hopen : (turn r (start source) .openCursor).after.outlook 0 = source.outlook := by
    cases source <;> rfl
  rw [← hopen, ← run_replicate_next (by simp [turn, step])]
  rfl

end Session

end PartProgram
