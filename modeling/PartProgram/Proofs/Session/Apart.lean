/-
  Cursors over a text or a list do not interfere.

  Any number of cursors go through the same text or list, opened and asked in any order, some of them
  failing or exhausted before others have begun.

  1. **Specification** — `answersOf k past`: the answers that cursor `k` gave to its own requests among
     some turns, with what was told at each.  They are those of a cursor that has the source to itself
     and is asked as often (`alone`).

  2. **The invariant (`Apart`)** — over a source that can be gone through again, every cursor has lines of
     its own.  One turn keeps it (`Apart.turn`).

  3. **The crux (`Apart.outlook_of_other`)** — a turn that is not a step of cursor `k` leaves what that
     cursor has in view as it is.  This is where a feed is different: there, the step of one cursor takes
     a line out of the view of all others.

  4. **The run (`answersOf_turns`)** — by induction on the requests, cursor `k` answers as its machine does.
-/
import PartProgram.Proofs.Session.Drained

namespace PartProgram

/-- Can the source be gone through any number of times? -/
def Source.IsReusable : Source → Prop
  | .feed _ => False
  | _ => True

namespace Session

/-! ## The invariant -/

/-- The answers of cursor `k` during some turns, with what was told at each. -/
def answersOf (k : Nat) (past : List Turn) : List (List Event × Answer) :=
  (past.filter fun t => t.Advances k).map fun t => (t.events, t.answer)

/-- Every cursor has lines of its own. -/
structure Apart (s : Session) : Prop where
  source : s.source.IsReusable
  cursors : ∀ cursor ∈ s.cursors, cursor.own.isSome = true

variable {r : Reader} {s : Session} {k : Nat}

theorem own_freshCursor {source : Source} (h : source.IsReusable) :
    (freshCursor source).own.isSome = true := by
  cases source with
  | feed supply => exact absurd h id
  | text t => rfl
  | list items => rfl

theorem apart_start {source : Source} (h : source.IsReusable) : Apart (start source) where
  source := h
  cursors := fun _ hmem => absurd hmem List.not_mem_nil

/-- What a cursor with lines of its own has in view does not depend on a feed. -/
theorem outlook_of_own {cursor : Cursor} (h : cursor.own.isSome = true) (supply supply' : Feed) :
    cursor.outlook supply = cursor.outlook supply' := by
  obtain ⟨raws, hraws⟩ := Option.isSome_iff_exists.mp h
  simp [Cursor.outlook, hraws]

/-- A cursor with lines of its own keeps to them, and leaves the feed alone. -/
theorem advance_own {cursor : Cursor} (h : cursor.own.isSome = true) (r : Reader) (supply : Feed) :
    (advance r supply cursor).2.2.1.own.isSome = true ∧ (advance r supply cursor).2.2.2 = supply := by
  cases hf : cursor.finished with
  | true =>
    rw [advance_of_finished hf]
    exact ⟨h, rfl⟩
  | false =>
    rcases hown : cursor.own with _ | _ | ⟨raw, raws⟩
    · rw [hown] at h
      exact absurd h (by decide)
    · rw [advance_of_own_nil hf hown]
      exact ⟨h, rfl⟩
    · rw [advance_of_own_cons hf hown]
      exact ⟨rfl, rfl⟩

/-! ## One turn -/

/-- A pull leaves the cursors alone. -/
theorem cursors_turn_pull (r : Reader) (s : Session) :
    (turn r s .pull).after.source = s.source ∧ (turn r s .pull).after.cursors = s.cursors := by
  unfold turn step
  dsimp only
  cases s.supply.items with
  | nil => exact ⟨rfl, rfl⟩
  | cons item items => exact ⟨rfl, rfl⟩

/-- **One turn keeps the invariant.** -/
theorem Apart.turn (h : Apart s) (request : Request) : Apart (turn r s request).after := by
  cases request with
  | openCursor =>
    refine ⟨h.source, ?_⟩
    intro cursor hmem
    rcases List.mem_append.mp hmem with hmem | hmem
    · exact h.cursors cursor hmem
    · rw [List.mem_singleton.mp hmem]
      exact own_freshCursor h.source
  | next k =>
    cases hk : s.cursors[k]? with
    | none =>
      rw [turn_next_of_none hk]
      exact h
    | some cursor =>
      obtain ⟨hlt, rfl⟩ := List.getElem?_eq_some_iff.mp hk
      rw [turn_next_of_lt hlt]
      refine ⟨h.source, ?_⟩
      intro cursor hmem
      rcases List.mem_or_eq_of_mem_set hmem with hmem | rfl
      · exact h.cursors cursor hmem
      · exact (advance_own (h.cursors _ (List.getElem_mem hlt)) r s.supply).1
  | pull =>
    obtain ⟨hsource, hcursors⟩ := cursors_turn_pull r s
    exact ⟨hsource ▸ h.source, hcursors ▸ h.cursors⟩

/-- The cursor that is meant by `k`, open or yet to be opened, has lines of its own. -/
theorem Apart.own (h : Apart s) (k : Nat) :
    (s.cursors[k]?.getD (freshCursor s.source)).own.isSome = true := by
  cases hk : s.cursors[k]? with
  | none => exact own_freshCursor h.source
  | some cursor => exact h.cursors cursor (List.mem_of_getElem? hk)

/-- A view stays as it is if the cursor and the source do. -/
theorem Apart.outlook_eq (h : Apart s) {s' : Session} (hsource : s'.source = s.source)
    (hcursor : s'.cursors[k]? = s.cursors[k]?) : s'.outlook k = s.outlook k := by
  rw [outlook, outlook, hcursor, hsource]
  exact outlook_of_own (h.own k) _ _

/-- **A turn that is not its own leaves the view of a cursor alone**, whatever it does to the others. -/
theorem Apart.outlook_of_other (h : Apart s) {request : Request}
    (hother : ¬ (Session.turn r s request).Advances k) :
    (Session.turn r s request).after.outlook k = s.outlook k := by
  cases request with
  | openCursor =>
    rcases Nat.lt_trichotomy k s.cursors.length with hlt | rfl | hgt
    · exact h.outlook_eq rfl (List.getElem?_append_left hlt)
    · -- the cursor that is opened has in view what it was to have
      rw [outlook_of_some (List.getElem?_concat_length ..), outlook,
        List.getElem?_eq_none (Nat.le_refl _)]
      rfl
    · refine h.outlook_eq rfl ?_
      have hlength : (s.cursors ++ [freshCursor s.source]).length ≤ k := by simp; omega
      rw [List.getElem?_eq_none (Nat.le_of_lt hgt)]
      exact List.getElem?_eq_none hlength
  | next j =>
    cases hj : s.cursors[j]? with
    | none => rw [turn_next_of_none hj]
    | some cursor =>
      obtain ⟨hlt, rfl⟩ := List.getElem?_eq_some_iff.mp hj
      have hne : j ≠ k := by
        rintro rfl
        exact hother ⟨rfl, hlt⟩
      rw [turn_next_of_lt hlt]
      exact h.outlook_eq rfl (List.getElem?_set_ne hne)
  | pull =>
    obtain ⟨hsource, hcursors⟩ := cursors_turn_pull r s
    exact h.outlook_eq hsource (by rw [hcursors])

/-! ## The whole run -/

/-- **Every cursor answers as its machine does**, however the requests are mixed. -/
theorem Apart.answersOf_turns (h : Apart s) (requests : List Request) (k : Nat) :
    answersOf k (turns r s requests) =
      (s.outlook k).answers r ((turns r s requests).countP fun t => t.Advances k) := by
  induction requests generalizing s with
  | nil => rfl
  | cons request requests ih =>
    have hrest := ih (h.turn request (r := r))
    rw [turns]
    by_cases hadv : (Session.turn r s request).Advances k
    · -- a step of its own: the first answer of the machine
      obtain rfl : request = .next k := hadv.1
      obtain ⟨hanswer, hafter⟩ := turn_next_outlook (r := r) (s := s) hadv.2
      rw [answersOf, List.filter_cons_of_pos (by simpa using hadv),
        List.countP_cons_of_pos (by simpa using hadv), List.map_cons, Outlook.answers, hanswer, ← hafter,
        ← hrest]
      rfl
    · rw [answersOf, List.filter_cons_of_neg (by simpa using hadv),
        List.countP_cons_of_neg (by simpa using hadv), ← h.outlook_of_other hadv, ← hrest]
      rfl

/-- A turn opens a cursor if that is what is asked for, and closes none. -/
theorem length_cursors_turn (r : Reader) (s : Session) (request : Request) :
    (turn r s request).after.cursors.length =
      s.cursors.length + if request = .openCursor then 1 else 0 := by
  cases request with
  | openCursor => exact List.length_append
  | next k =>
    cases hk : s.cursors[k]? with
    | none => rw [turn_next_of_none hk]; rfl
    | some cursor =>
      rw [turn_next_of_lt (List.getElem?_eq_some_iff.mp hk).1]
      exact List.length_set
  | pull => rw [(cursors_turn_pull r s).2]; rfl

/-- Before each turn, as many cursors are open as have been asked for. -/
theorem length_cursors_turns {requests : List Request} {past future : List Turn} {t : Turn}
    (h : turns r s requests = past ++ t :: future) :
    t.before.cursors.length =
      s.cursors.length + past.countP fun t' => t'.request = .openCursor := by
  induction requests generalizing s past with
  | nil => exact absurd h (by simp [turns])
  | cons request requests ih =>
    cases past with
    | nil =>
      obtain ⟨rfl, _⟩ := List.cons.inj h
      rfl
    | cons first past =>
      obtain ⟨rfl, hrest⟩ := List.cons.inj h
      rw [ih hrest, length_cursors_turn, List.countP_cons]
      have hrequest : (turn r s request).request = request := rfl
      rw [hrequest]
      by_cases hopen : request = .openCursor
      · simp only [hopen, decide_true, if_true]
        omega
      · simp [hopen]

/-- **Cursors over a text or a list do not interfere.**  For every reader, every such source, and every
    series of requests in any order:
    (1) the turns answer the requests one by one, and before each turn as many cursors are open as have
        been asked for;
    (2) the answers of each cursor to its own requests, and what is told at them, are those of a cursor
        that has the source to itself and is asked as often;
    (3) such a cursor answers with records, one by one, then with its last answer, an error or the end,
        and from then on with nothing but stops. -/
theorem cursors_apart (r : Reader) (source : Source) (hsource : source.IsReusable)
    (requests : List Request) :
    run r (start source) requests =
      (turns r (start source) requests).map (fun t => (t.events, t.answer)) ∧
    (turns r (start source) requests).map Turn.request = requests ∧
    (∀ past t future, turns r (start source) requests = past ++ t :: future →
      t.before.cursors.length = past.countP fun t' => t'.request = .openCursor) ∧
    (∀ k, answersOf k (turns r (start source) requests) =
      alone r source ((turns r (start source) requests).countP fun t => t.Advances k)) ∧
    ∃ (lines : List Line) (last : Answer), last.IsLast ∧ ∀ n,
      (alone r source n).map Prod.snd =
        (lines.map Answer.line ++ last :: List.replicate n .stop).take n := by
  refine ⟨run_eq_map_turns r _ requests, map_request_turns r _ requests, ?_, ?_, ?_⟩
  · intro past t future heq
    rw [length_cursors_turns heq]
    exact Nat.zero_add _
  · intro k
    rw [(apart_start hsource).answersOf_turns, outlook_start, alone_eq_answers]
  · obtain ⟨lines, last, hlast, hyields⟩ := exists_yields r source
    refine ⟨lines, last, hlast, ?_⟩
    intro n
    have hcount : lines.length + (n + 1) = n + (lines.length + 1) := by omega
    rw [← hyields.stops hlast n, ← List.map_take, hcount, take_alone]

/-- The first cursor fails at the second line before the other one is opened; that one gives the first
    record all the same, and then fails at the same line. -/
theorem cursors_apart_after_failure :
    (answersOf 1 (turns Builders.standard.strictReader (start (.text "N1 G0\nNx".toText))
      [.openCursor, .next 0, .next 0, .openCursor, .next 1, .next 0, .next 1])).map Prod.snd =
    [.line { index := 0, kind := .gCode, raw := "N1 G0".toText, n := some 1, code := some 0 },
      .fault (.format (.notInteger ['N'] "Nx".toText "Nx".toText 1))] := by
  obtain ⟨_, _, _, hanswers, _⟩ := cursors_apart Builders.standard.strictReader
    (.text "N1 G0\nNx".toText) trivial
    [.openCursor, .next 0, .next 0, .openCursor, .next 1, .next 0, .next 1]
  rw [hanswers 1]
  rfl

end Session

end PartProgram
