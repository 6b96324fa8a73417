/-
  Sharing a feed: no line is lost, duplicated or reordered.

  Any number of cursors read from one feed, new ones are opened at any time, and items are pulled out
  of the feed directly, all in any order.

  1. **Specification** — everything is read off the turns that went before.  The next item of the
     feed is the one behind all items taken so far; the number that a cursor gives to its line is the
     count of the items which THAT cursor has taken (`takenBy`); a cursor is done once it has answered
     with a fault or the end (`Ended`).  No cursor's own fields are mentioned.

  2. **The invariant (`Tracks`)** — after past turns, the feed holds what they did not take; each
     cursor's count is the number of items that it took; each cursor is finished exactly if it has
     given its last answer; and a cursor that is yet to be opened has had no turn.

  3. **The step (`Tracks.turn`)** — one turn keeps the invariant.  Opening and pulling touch no
     cursor; a step of a cursor touches that one only (`Tracks.next`).

  4. **The run (`tracks_turns`)** — so it holds before every turn, by induction on the requests, and
     there the answer of the turn is what the specification says (`shared_feed`).
-/
import PartProgram.Dialect.Standard
import PartProgram.Proofs.Text.LineEnd
import PartProgram.Proofs.Session.Turns

namespace PartProgram.Session

/-! ## The invariant -/

/-- Cursor `k` is in the state `cursor` after the turns `past`. -/
structure CursorTracks (k : Nat) (past : List Turn) (cursor : Cursor) : Prop where
  shared : cursor.own = none
  /-- It has counted the items that it took. -/
  taken : cursor.taken = (takenBy k past).length
  /-- It is finished exactly if it has given its last answer. -/
  finished : cursor.finished = true ↔ Ended k past

/-- `Tracks supply past s` — over a feed that held `supply` at first, the session is in state `s`
    after the turns `past`. -/
structure Tracks (supply : Feed) (past : List Turn) (s : Session) : Prop where
  source : s.source = .feed supply
  /-- The feed holds what the past turns did not take. -/
  items : past.flatMap Turn.taken ++ s.supply.items = supply.items
  ending : s.supply.ending = supply.ending
  /-- Cursors are opened one by one and never closed. -/
  count : s.cursors.length = past.countP fun t => t.request = .openCursor
  count_le : ∀ t ∈ past, t.before.cursors.length ≤ s.cursors.length
  cursors : ∀ (k : Nat) (cursor : Cursor), s.cursors[k]? = some cursor → CursorTracks k past cursor

theorem tracks_start (supply : Feed) : Tracks supply [] (start (.feed supply)) where
  source := rfl
  items := rfl
  ending := rfl
  count := rfl
  count_le := fun t ht => absurd ht List.not_mem_nil
  cursors := fun k cursor h => absurd h (by simp [start])

variable {r : Reader} {supply : Feed} {past : List Turn} {s : Session} {t : Turn} {k : Nat}
  {cursor : Cursor}

/-- A turn that is not its own leaves a cursor as it is. -/
theorem CursorTracks.skip (h : CursorTracks k past cursor) (ht : ¬ t.Advances k) :
    CursorTracks k (past ++ [t]) cursor where
  shared := h.shared
  taken := by rw [takenBy_append, if_neg ht, List.append_nil, h.taken]
  finished := by
    rw [ended_append, h.finished]
    exact ⟨Or.inl, fun hor => hor.resolve_right fun hlast => ht hlast.1⟩

/-- A step of its own keeps a cursor on track if it counts what the step takes and finishes the
    cursor exactly with its last answer. -/
theorem CursorTracks.own {cursor' : Cursor} (h : CursorTracks k past cursor) (ht : t.Advances k)
    (hown : cursor'.own = none) (htaken : cursor'.taken = cursor.taken + t.taken.length)
    (hfinished : cursor'.finished = true ↔ cursor.finished = true ∨ t.answer.IsLast) :
    CursorTracks k (past ++ [t]) cursor' where
  shared := hown
  taken := by rw [takenBy_append, if_pos ht, List.length_append, htaken, h.taken]
  finished := by
    rw [ended_append, hfinished, h.finished]
    exact or_congr_right ⟨fun hlast => ⟨ht, hlast⟩, fun hlast => hlast.2⟩

/-- A cursor that is yet to be opened has had no turn, so a fresh one is on track. -/
theorem Tracks.fresh (h : Tracks supply past s) :
    CursorTracks s.cursors.length past (freshCursor (.feed supply)) := by
  -- at every past turn fewer cursors were open, so this number was not in use
  have hnone : ∀ t ∈ past, ¬ t.Advances s.cursors.length := by
    intro t ht hadv
    have hle := h.count_le t ht
    have hlt := hadv.2
    omega
  have htaken : takenBy s.cursors.length past = [] := by
    have hfilter : (past.filter fun t => t.Advances s.cursors.length) = [] := by
      rw [List.filter_eq_nil_iff]
      intro t ht
      simpa using hnone t ht
    rw [takenBy, hfilter]
    rfl
  refine ⟨rfl, by rw [htaken]; rfl, fun hf => absurd hf (by simp [freshCursor]), ?_⟩
  rintro ⟨t, ht, hadv, _⟩
  exact absurd hadv (hnone t ht)

/-! ## One turn -/

/-- What a turn has to do to keep the invariant: take items off the front of the feed, count the
    cursor that it opens, and leave every cursor on track. -/
theorem Tracks.extend (h : Tracks supply past s) (hbefore : t.before = s)
    (hsource : t.after.source = s.source)
    (hitems : s.supply.items = t.taken ++ t.after.supply.items)
    (hending : t.after.supply.ending = s.supply.ending)
    (hcount : t.after.cursors.length =
      s.cursors.length + if t.request = .openCursor then 1 else 0)
    (hcursors : ∀ (k : Nat) (cursor : Cursor), t.after.cursors[k]? = some cursor →
      CursorTracks k (past ++ [t]) cursor) : Tracks supply (past ++ [t]) t.after where
  source := by rw [hsource, h.source]
  items := by
    rw [List.flatMap_append, List.append_assoc, ← h.items, hitems]
    simp
  ending := by rw [hending, h.ending]
  count := by
    rw [hcount, h.count, List.countP_append]
    by_cases hopen : t.request = .openCursor <;> simp [hopen]
  count_le := by
    intro t' ht'
    rcases List.mem_append.mp ht' with ht' | ht'
    · have hle := h.count_le t' ht'
      omega
    · rw [List.mem_singleton.mp ht', hbefore]
      omega
  cursors := hcursors

theorem Tracks.openCursor (h : Tracks supply past s) :
    Tracks supply (past ++ [turn r s .openCursor]) (turn r s .openCursor).after := by
  have htaken : (turn r s .openCursor).taken = [] := Turn.taken_of_eq rfl
  refine h.extend rfl rfl (by rw [htaken]; rfl) rfl ?_ fun k cursor hk => ?_
  · show (s.cursors ++ [freshCursor s.source]).length = s.cursors.length + 1
    rw [List.length_append, List.length_singleton]
  · have hother : ¬ (turn r s .openCursor).Advances k := fun hadv => absurd hadv.1 (by simp [turn])
    have hk' : (s.cursors ++ [freshCursor s.source])[k]? = some cursor := hk
    rcases Nat.lt_trichotomy k s.cursors.length with hlt | rfl | hgt
    · rw [List.getElem?_append_left hlt] at hk'
      exact (h.cursors k cursor hk').skip hother
    · rw [List.getElem?_append_right (Nat.le_refl _), Nat.sub_self, h.source] at hk'
      obtain rfl : freshCursor (.feed supply) = cursor := Option.some.inj hk'
      exact h.fresh.skip hother
    · rw [List.getElem?_eq_none (by simp; omega)] at hk'
      exact absurd hk' (by simp)

theorem Tracks.pull (h : Tracks supply past s) :
    Tracks supply (past ++ [turn r s .pull]) (turn r s .pull).after := by
  have hother : ∀ k, ¬ (turn r s .pull).Advances k := fun k hadv => absurd hadv.1 (by simp [turn])
  have hafter : (turn r s .pull).after.source = s.source ∧
      (turn r s .pull).after.cursors = s.cursors ∧
      (turn r s .pull).after.supply.ending = s.supply.ending ∧
      (turn r s .pull).after.supply.items = s.supply.items.drop 1 := by
    unfold turn step
    dsimp only
    cases hitems : s.supply.items with
    | nil => exact ⟨rfl, rfl, rfl, hitems⟩
    | cons item items => exact ⟨rfl, rfl, rfl, rfl⟩
  obtain ⟨hsource, hcursors, hending, hdrop⟩ := hafter
  have hsplit : s.supply.items = s.supply.items.take 1 ++ (turn r s .pull).after.supply.items := by
    rw [hdrop, List.take_append_drop]
  refine h.extend rfl hsource ?_ hending (by rw [hcursors]; rfl) fun k cursor hk => ?_
  · rw [Turn.taken_of_append (t := turn r s .pull) hsplit]
    exact hsplit
  · rw [hcursors] at hk
    exact (h.cursors k cursor hk).skip (hother k)

theorem turn_next_of_none (hk : s.cursors[k]? = none) :
    turn r s (.next k) = ⟨s, .next k, [], .fault .outOfRange, s⟩ := by
  have hstep : step r s (.next k) = ([], .fault .outOfRange, s) := by
    unfold step
    dsimp only
    rw [hk]
  rw [turn, hstep]

theorem turn_next_of_some {events : List Event} {answer : Answer} {cursor' : Cursor} {supply' : Feed}
    (hk : s.cursors[k]? = some cursor)
    (hadvance : advance r s.supply cursor = (events, answer, cursor', supply')) :
    turn r s (.next k) =
      ⟨s, .next k, events, answer,
        { s with supply := supply', cursors := s.cursors.set k cursor' }⟩ := by
  have hstep : step r s (.next k) =
      (events, answer, { s with supply := supply', cursors := s.cursors.set k cursor' }) := by
    unfold step
    dsimp only
    rw [hk]
    dsimp only
    rw [hadvance]
  rw [turn, hstep]

/-- A step of an open cursor keeps the invariant if the step keeps that cursor on track. -/
theorem Tracks.next_of_some {events : List Event} {answer : Answer} {cursor' : Cursor}
    {rest : List Text} (h : Tracks supply past s) (hk : s.cursors[k]? = some cursor)
    (items : List Text) (hitems : s.supply.items = items ++ rest)
    (hadvance : advance r s.supply cursor =
      (events, answer, cursor', { s.supply with items := rest }))
    (hown : cursor'.own = none) (htaken : cursor'.taken = cursor.taken + items.length)
    (hfinished : cursor'.finished = true ↔ cursor.finished = true ∨ answer.IsLast) :
    Tracks supply (past ++ [turn r s (.next k)]) (turn r s (.next k)).after := by
  rw [turn_next_of_some hk hadvance]
  have hlt : k < s.cursors.length := (List.getElem?_eq_some_iff.mp hk).1
  have heq : (Turn.taken ⟨s, .next k, events, answer,
      { s with supply := { s.supply with items := rest }, cursors := s.cursors.set k cursor' }⟩) =
      items := Turn.taken_of_append hitems
  refine h.extend rfl rfl (by rw [heq]; exact hitems) rfl ?_ fun j c hj => ?_
  · show (s.cursors.set k cursor').length = s.cursors.length + 0
    rw [List.length_set, Nat.add_zero]
  · have hj' : (s.cursors.set k cursor')[j]? = some c := hj
    by_cases hjk : j = k
    · subst hjk
      rw [List.getElem?_set_self hlt] at hj'
      obtain rfl : cursor' = c := Option.some.inj hj'
      exact (h.cursors j cursor hk).own ⟨rfl, hlt⟩ hown (by rw [heq, htaken]) hfinished
    · rw [List.getElem?_set_ne (Ne.symm hjk)] at hj'
      refine (h.cursors j c hj').skip fun hadv => hjk ?_
      have hrequest : Request.next k = Request.next j := hadv.1
      injection hrequest with heq
      exact heq.symm

theorem Tracks.next (h : Tracks supply past s) (k : Nat) :
    Tracks supply (past ++ [turn r s (.next k)]) (turn r s (.next k)).after := by
  cases hk : s.cursors[k]? with
  | none =>
    -- There is no such cursor: nothing happens.
    have hge : s.cursors.length ≤ k := List.getElem?_eq_none_iff.mp hk
    rw [turn_next_of_none hk]
    have heq : (Turn.taken ⟨s, .next k, [], .fault .outOfRange, s⟩) = [] := Turn.taken_of_eq rfl
    refine h.extend rfl rfl (by rw [heq]; rfl) rfl rfl fun j c hj => ?_
    refine (h.cursors j c hj).skip fun hadv => ?_
    have hrequest : Request.next k = Request.next j := hadv.1
    have hlt : j < s.cursors.length := hadv.2
    injection hrequest with heq
    omega
  | some cursor =>
    have hcursor := h.cursors k cursor hk
    cases hf : cursor.finished with
    | true =>
      exact h.next_of_some hk [] rfl (advance_of_finished hf) hcursor.shared rfl
        ⟨fun _ => Or.inr trivial, fun _ => hf⟩
    | false =>
      cases hitems : s.supply.items with
      | nil =>
        have hadvance := advance_of_nil (r := r) hf hcursor.shared hitems
        exact h.next_of_some hk [] rfl hadvance hcursor.shared rfl
          ⟨fun _ => Or.inr (Answer.isLast_ofEnding _), fun _ => rfl⟩
      | cons item rest =>
        refine h.next_of_some hk [item] hitems (advance_of_cons hf hcursor.shared hitems)
          hcursor.shared rfl ?_
        rw [hf, Answer.isLast_ofResult]
        simp

/-- **One turn keeps the invariant.** -/
theorem Tracks.turn (h : Tracks supply past s) (request : Request) :
    Tracks supply (past ++ [turn r s request]) (turn r s request).after := by
  cases request with
  | openCursor => exact h.openCursor
  | next k => exact h.next k
  | pull => exact h.pull

/-! ## The whole run -/

/-- **The run keeps the invariant**: it holds before every turn, and at the end. -/
theorem tracks_turns (h : Tracks supply past s) (requests : List Request) :
    (∀ past' t future, turns r s requests = past' ++ t :: future →
      Tracks supply (past ++ past') t.before ∧ t = Session.turn r t.before t.request) ∧
    ∃ last, Tracks supply (past ++ turns r s requests) last := by
  induction requests generalizing past s with
  | nil =>
    refine ⟨fun past' t future heq => ?_, s, ?_⟩
    · exact absurd heq.symm (by simp [turns])
    · rw [turns, List.append_nil]
      exact h
  | cons request requests ih =>
    obtain ⟨hbefore, last, hlast⟩ := ih (h.turn request (r := r))
    rw [List.append_assoc] at hlast
    refine ⟨fun past' t future heq => ?_, last, hlast⟩
    cases past' with
    | nil =>
      rw [turns, List.nil_append, List.cons.injEq] at heq
      obtain ⟨rfl, _⟩ := heq
      rw [List.append_nil]
      exact ⟨h, rfl⟩
    | cons first past' =>
      rw [turns, List.cons_append, List.cons.injEq] at heq
      obtain ⟨rfl, hrest⟩ := heq
      have hstep := hbefore past' t future hrest
      rw [List.append_assoc] at hstep
      exact hstep

/-- The items that are left before a turn are those behind what the past turns took. -/
theorem Tracks.items_eq (h : Tracks supply past s) {rest : List Text}
    (hrest : supply.items = past.flatMap Turn.taken ++ rest) : s.supply.items = rest := by
  have heq := h.items
  rw [hrest] at heq
  exact List.append_cancel_left heq

/-- A turn takes its items off the front of the feed, and leaves the others there. -/
theorem Tracks.before_eq {s' : Session} (h : Tracks supply past s)
    (h' : Tracks supply (past ++ [t]) s') : s.supply.items = t.taken ++ s'.supply.items := by
  refine h.items_eq ?_
  rw [← h'.items, List.flatMap_append, List.append_assoc]
  simp

/-- The step of an open cursor, as the turns that went before determine it. -/
theorem Tracks.next_spec (h : Tracks supply past s) (hk : k < s.cursors.length) :
    (Ended k past → (Session.turn r s (.next k)).answer = .stop ∧
      (Session.turn r s (.next k)).taken = []) ∧
    (¬ Ended k past → ∀ item rest, s.supply.items = item :: rest →
      (Session.turn r s (.next k)).taken = [item] ∧
      (Session.turn r s (.next k)).events = (r.build item.chomp (takenBy k past).length).events ∧
      (Session.turn r s (.next k)).answer =
        .ofResult (r.build item.chomp (takenBy k past).length).result) ∧
    (¬ Ended k past → s.supply.items = [] →
      (Session.turn r s (.next k)).taken = [] ∧
      (Session.turn r s (.next k)).answer = .ofEnding supply.ending) := by
  have hcursor : s.cursors[k]? = some s.cursors[k] := List.getElem?_eq_getElem hk
  have htracks := h.cursors k _ hcursor
  refine ⟨fun hended => ?_, fun hended item rest hitems => ?_, fun hended hitems => ?_⟩
  · have hf : s.cursors[k].finished = true := htracks.finished.mpr hended
    rw [turn_next_of_some hcursor (advance_of_finished hf)]
    exact ⟨rfl, Turn.taken_of_eq rfl⟩
  · have hf : s.cursors[k].finished = false := by
      rw [← Bool.not_eq_true, htracks.finished]
      exact hended
    rw [turn_next_of_some hcursor (advance_of_cons hf htracks.shared hitems), ← htracks.taken]
    exact ⟨Turn.taken_of_append hitems, rfl, rfl⟩
  · have hf : s.cursors[k].finished = false := by
      rw [← Bool.not_eq_true, htracks.finished]
      exact hended
    rw [turn_next_of_some hcursor (advance_of_nil hf htracks.shared hitems), ← h.ending]
    exact ⟨Turn.taken_of_eq rfl, rfl⟩

/-- A pull takes the next item as it is, or meets the end. -/
theorem Tracks.pull_spec (h : Tracks supply past s) :
    (∀ item rest, s.supply.items = item :: rest →
      (Session.turn r s .pull).taken = [item] ∧ (Session.turn r s .pull).answer = .pulled item) ∧
    (s.supply.items = [] → (Session.turn r s .pull).taken = [] ∧
      (Session.turn r s .pull).answer = .ofEnding supply.ending) := by
  constructor
  · intro item rest hitems
    have hstep : step r s .pull =
        ([], .pulled item, { s with supply := { s.supply with items := rest } }) := by
      unfold step
      dsimp only
      rw [hitems]
    rw [Session.turn, hstep]
    exact ⟨Turn.taken_of_append hitems, rfl⟩
  · intro hitems
    have hstep : step r s .pull = ([], .ofEnding s.supply.ending, s) := by
      unfold step
      dsimp only
      rw [hitems]
      cases s.supply.ending <;> rfl
    rw [Session.turn, hstep, ← h.ending]
    exact ⟨Turn.taken_of_eq rfl, rfl⟩

/-- **Sharing a feed loses, duplicates and reorders nothing.**  For every reader, every feed and every
    series of requests, in any order:
    (1) the turns answer the requests one by one, and the items that they take off the front of the
        feed are, in order, the first items of the feed;
    (2) opening a cursor takes nothing;
    (3) a step of an open cursor that has given its last answer stops, and takes nothing;
    (4) any other step of an open cursor takes the next item, if there is one, and answers with the
        record or the fault of that item without its line end, numbered by how many items THIS cursor
        took before;
    (5) with nothing left, it takes nothing and answers with the end;
    (6) a pull takes the next item as it is, or meets the end. -/
theorem shared_feed (r : Reader) (supply : Feed) (requests : List Request) :
    run r (start (.feed supply)) requests =
      (turns r (start (.feed supply)) requests).map (fun t => (t.events, t.answer)) ∧
    (turns r (start (.feed supply)) requests).map Turn.request = requests ∧
    (turns r (start (.feed supply)) requests).flatMap Turn.taken <+: supply.items ∧
    ∀ past t future, turns r (start (.feed supply)) requests = past ++ t :: future →
      t.before.supply.items = t.taken ++ t.after.supply.items ∧
      (t.before.cursors.length = past.countP fun t' => t'.request = .openCursor) ∧
      (t.request = .openCursor → t.taken = []) ∧
      (∀ k, t.Advances k → Ended k past → t.answer = .stop ∧ t.taken = []) ∧
      (∀ k, t.Advances k → ¬ Ended k past → ∀ item rest,
        supply.items = past.flatMap Turn.taken ++ item :: rest →
          t.taken = [item] ∧ ∃ raw, Text.WithoutLineEnd item raw ∧
            t.events = (r.build raw (takenBy k past).length).events ∧
            t.answer = .ofResult (r.build raw (takenBy k past).length).result) ∧
      (∀ k, t.Advances k → ¬ Ended k past → supply.items = past.flatMap Turn.taken →
        t.taken = [] ∧ t.answer = .ofEnding supply.ending) ∧
      (t.request = .pull →
        (∀ item rest, supply.items = past.flatMap Turn.taken ++ item :: rest →
          t.taken = [item] ∧ t.answer = .pulled item) ∧
        (supply.items = past.flatMap Turn.taken →
          t.taken = [] ∧ t.answer = .ofEnding supply.ending)) := by
  obtain ⟨hturns, last, hlast⟩ := tracks_turns (r := r) (tracks_start supply) requests
  refine ⟨run_eq_map_turns r _ requests, map_request_turns r _ requests, ⟨_, hlast.items⟩, ?_⟩
  intro past t future heq
  obtain ⟨htracks, hturn⟩ := hturns past t future heq
  rw [List.nil_append] at htracks
  -- Nothing is left exactly if the past turns took everything.
  have hnil : supply.items = past.flatMap Turn.taken → t.before.supply.items = [] :=
    fun hall => htracks.items_eq (by rw [List.append_nil]; exact hall)
  have hnext : ∀ k, t.Advances k → t = Session.turn r t.before (.next k) := by
    intro k hadv
    rw [← hadv.1]
    exact hturn
  refine ⟨htracks.before_eq (hturn ▸ htracks.turn t.request), htracks.count, fun hopen => ?_,
    fun k hadv hended => ?_, fun k hadv hended item rest hitems => ?_, fun k hadv hended hall => ?_,
    fun hpull => ?_⟩
  · rw [hturn, hopen]
    exact Turn.taken_of_eq rfl
  · rw [hnext k hadv]
    exact (htracks.next_spec hadv.2).1 hended
  · obtain ⟨htaken, hevents, hanswer⟩ :=
      (htracks.next_spec (r := r) hadv.2).2.1 hended item rest (htracks.items_eq hitems)
    rw [hnext k hadv]
    exact ⟨htaken, item.chomp, Text.withoutLineEnd_chomp item, hevents, hanswer⟩
  · rw [hnext k hadv]
    exact (htracks.next_spec hadv.2).2.2 hended (hnil hall)
  · rw [hturn, hpull]
    exact ⟨fun item rest hitems => htracks.pull_spec.1 item rest (htracks.items_eq hitems),
      fun hall => htracks.pull_spec.2 (hnil hall)⟩

-- two cursors and a pull: the second cursor counts from zero, and its fault does not stop the first one
example :
    (run (.mk Dialect.standard.builders true)
      (start (.feed { items := ["N1\n".toText, "x\n".toText, "Ny\n".toText, ";c".toText] }))
      [.openCursor, .openCursor, .next 0, .pull, .next 1, .next 1, .next 0]).map Prod.snd =
    [.opened 1, .opened 2,
      .line { index := 0, kind := .otherCode, raw := "N1".toText, n := some 1 },
      .pulled "x\n".toText,
      .fault (.format (.notInteger "N".toText "Ny".toText "Ny".toText 0)),
      .stop,
      .line { index := 1, kind := .comment, raw := ";c".toText, comment := some ";c".toText }] := rfl

end PartProgram.Session
