/-
  Eager and lazy reading agree.

  1. **Specification** — `Yields r source lines last`: the only cursor over the source, asked again and
     again, answers with the records `lines` one by one and then with `last`.  A whole source is read
     into a program exactly if its cursor yields the records of that program and stops; it fails with a
     fault exactly if its cursor yields some records and then that fault.

  2. **The lines that are read (`answers_of_buildAll`)** — as long as lines have their records, the
     machine of the cursor hands these out, and stands before the next line with the next number.  Behind
     them the source ends or a line fails, and after that there are only stops
     (`alone_of_ok`, `alone_of_stops`).

  3. **What is left** — of a feed, eager reading takes the lines that have their records and the one that
     fails (`consumed_of_ok`, `consumed_of_stops`); a cursor that is asked until it gives its last answer
     leaves the same (`supply_later`).
-/
import PartProgram.Proofs.Recovery
import PartProgram.Proofs.Session.Alone

namespace PartProgram

open Session (Answer)

/-! ## The lines that are read -/

namespace Outlook

variable {r : Reader}

/-- **Lines with a record are handed out**, and then the machine stands before the others. -/
theorem answers_of_buildAll {raws : List Text} {start : Nat} {lines : List Line}
    (h : (r.buildAll start raws).result = .ok lines) (rest : List Text) (ending : Option Fault)
    (n : Nat) :
    ((mk start (raws ++ rest) ending false).answers r (raws.length + n)).map Prod.snd =
      lines.map .line ++ ((mk (start + raws.length) rest ending false).answers r n).map Prod.snd := by
  induction raws generalizing start lines with
  | nil =>
    obtain rfl : [] = lines := Except.ok.inj h
    simp
  | cons raw raws ih =>
    rw [Reader.buildAll_cons, Attempt.result_bind_eq_ok_iff] at h
    obtain ⟨line, hline, hrest⟩ := h
    rw [← Attempt.bind_pure_eq_map, Attempt.result_bind_eq_ok_iff] at hrest
    obtain ⟨lines', hlines', hpure⟩ := hrest
    obtain rfl : line :: lines' = lines := Except.ok.inj hpure
    have hnext : (mk start (raw :: (raws ++ rest)) ending false).next r =
        (((r.build raw start).events, .line line), mk (start + 1) (raws ++ rest) ending false) := by
      rw [next_of_cons rfl rfl]
      simp [hline, Answer.ofResult, Except.toOption]
    rw [List.length_cons, Nat.add_right_comm, List.cons_append, answers, hnext, List.map_cons,
      ih hlines', List.map_cons, List.cons_append, Nat.add_assoc, Nat.add_comm 1]

/-- Behind the last line comes the end, and then there are only stops. -/
theorem answers_of_end (index : Nat) (ending : Option Fault) (n : Nat) :
    ((mk index [] ending false).answers r (n + 1)).map Prod.snd =
      .ofEnding ending :: List.replicate n .stop := by
  rw [answers, next_of_nil rfl rfl, List.map_cons, answers_of_finished rfl, List.map_replicate]

/-- At a line that fails comes its fault, and then there are only stops. -/
theorem answers_of_failing {raw : Text} {index : Nat} {fault : Fault}
    (h : (r.build raw index).result = .error fault) (raws : List Text) (ending : Option Fault)
    (n : Nat) :
    ((mk index (raw :: raws) ending false).answers r (n + 1)).map Prod.snd =
      .fault fault :: List.replicate n .stop := by
  rw [answers, next_of_cons rfl rfl, List.map_cons, answers_of_finished, List.map_replicate, h]
  · rfl
  · rw [h]
    rfl

end Outlook

namespace Session

variable {r : Reader} {source : Source}

theorem alone_of_ok {lines : List Line} (h : (r.buildAll 0 source.rawLines).result = .ok lines)
    (n : Nat) :
    (alone r source (lines.length + (n + 1))).map Prod.snd =
      lines.map .line ++ .ofEnding source.ending :: List.replicate n .stop := by
  have hanswers := Outlook.answers_of_buildAll h [] source.ending (n + 1)
  rw [List.append_nil, Outlook.answers_of_end, ← (Reader.getElem?_of_buildAll_ok h).1] at hanswers
  rw [alone_eq_answers, ← hanswers]
  rfl

theorem alone_of_stops {i : Nat} {raw : Text} {lines : List Line} {fault : Fault}
    (h : r.StopsAt source.rawLines i raw lines fault) (n : Nat) :
    (alone r source (lines.length + (n + 1))).map Prod.snd =
      lines.map .line ++ .fault fault :: List.replicate n .stop := by
  obtain ⟨hlt, hraw⟩ := List.getElem?_eq_some_iff.mp h.position
  have hlength : (source.rawLines.take i).length = i := by rw [List.length_take]; omega
  have hsize : lines.length = i := (Reader.getElem?_of_buildAll_ok h.before).1.trans hlength
  have hanswers := Outlook.answers_of_buildAll h.before (source.rawLines.drop i) source.ending (n + 1)
  rw [hlength, Nat.zero_add, List.take_append_drop, List.drop_eq_getElem_cons hlt, hraw,
    Outlook.answers_of_failing h.fails, ← hsize] at hanswers
  rw [alone_eq_answers, ← hanswers]
  rfl

/-! ## Until the last answer -/

/-- `Yields r source lines last` — the only cursor over the source answers with the records `lines`, one
    by one, and then with `last`. -/
def Yields (r : Reader) (source : Source) (lines : List Line) (last : Answer) : Prop :=
  (alone r source (lines.length + 1)).map Prod.snd = lines.map .line ++ [last]

theorem yields_of_ok {lines : List Line} (h : (r.buildAll 0 source.rawLines).result = .ok lines) :
    Yields r source lines (.ofEnding source.ending) := alone_of_ok h 0

theorem yields_of_stops {i : Nat} {raw : Text} {lines : List Line} {fault : Fault}
    (h : r.StopsAt source.rawLines i raw lines fault) : Yields r source lines (.fault fault) :=
  alone_of_stops h 0

/-- Records and then a last answer can be told apart in one way only. -/
theorem lines_append_inj {lines lines' : List Line} {last last' : Answer} {rest rest' : List Answer}
    (hlast : last.IsLast) (hlast' : last'.IsLast)
    (h : lines.map .line ++ last :: rest = lines'.map .line ++ last' :: rest') :
    lines = lines' ∧ last = last' := by
  induction lines generalizing lines' with
  | nil =>
    cases lines' with
    | nil => exact ⟨rfl, (List.cons.inj h).1⟩
    | cons line' lines' =>
      obtain rfl : last = .line line' := (List.cons.inj h).1
      exact absurd hlast id
  | cons line lines ih =>
    cases lines' with
    | nil =>
      obtain rfl : Answer.line line = last' := (List.cons.inj h).1
      exact absurd hlast' id
    | cons line' lines' =>
      obtain ⟨hline, hrest⟩ := List.cons.inj h
      obtain ⟨rfl, rfl⟩ := ih hrest
      exact ⟨by rw [Answer.line.inj hline], rfl⟩

/-- Asked more often, a cursor begins with the same answers. -/
theorem take_alone (n m : Nat) : (alone r source (n + m)).take n = alone r source n := by
  rw [alone_eq_answers, Outlook.take_answers, ← alone_eq_answers]

/-- **A cursor yields in one way only.**  Asked often enough, it has given both series of answers. -/
theorem Yields.unique {lines lines' : List Line} {last last' : Answer}
    (h : Yields r source lines last) (h' : Yields r source lines' last') (hlast : last.IsLast)
    (hlast' : last'.IsLast) : lines = lines' ∧ last = last' := by
  -- each series is the beginning of every longer one
  have hfront : ∀ {lines : List Line} {last : Answer} (m : Nat), Yields r source lines last →
      ∃ rest, (alone r source (lines.length + 1 + m)).map Prod.snd = lines.map .line ++ last :: rest := by
    intro lines last m hyields
    refine ⟨((alone r source (lines.length + 1 + m)).map Prod.snd).drop (lines.length + 1), ?_⟩
    have htake : ((alone r source (lines.length + 1 + m)).map Prod.snd).take (lines.length + 1) =
        lines.map .line ++ [last] := by
      rw [← List.map_take, take_alone]
      exact hyields
    conv => lhs; rw [← List.take_append_drop (lines.length + 1) (List.map _ _), htake]
    simp
  obtain ⟨rest, hrest⟩ := hfront (lines'.length + 1) h
  obtain ⟨rest', hrest'⟩ := hfront (lines.length + 1) h'
  rw [Nat.add_comm (lines'.length + 1)] at hrest'
  exact lines_append_inj hlast hlast' (hrest.symm.trans hrest')

/-- **How a cursor ends**: it hands out all lines and meets the end, or it stops at a line. -/
theorem Yields.cases {lines : List Line} {last : Answer} (h : Yields r source lines last)
    (hlast : last.IsLast) :
    ((r.buildAll 0 source.rawLines).result = .ok lines ∧ last = .ofEnding source.ending) ∨
      ∃ i raw fault, r.StopsAt source.rawLines i raw lines fault ∧ last = .fault fault := by
  cases hresult : (r.buildAll 0 source.rawLines).result with
  | ok lines' =>
    obtain ⟨rfl, rfl⟩ := h.unique (yields_of_ok hresult) hlast (Answer.isLast_ofEnding _)
    exact Or.inl ⟨rfl, rfl⟩
  | error fault =>
    obtain ⟨i, raw, lines', hstop⟩ := Reader.result_buildAll_eq_error_iff.mp hresult
    obtain ⟨rfl, rfl⟩ := h.unique (yields_of_stops hstop) hlast trivial
    exact Or.inr ⟨i, raw, fault, hstop, rfl⟩

/-- From its last answer on, a cursor only stops. -/
theorem Yields.stops {lines : List Line} {last : Answer} (h : Yields r source lines last)
    (hlast : last.IsLast) (n : Nat) :
    (alone r source (lines.length + (n + 1))).map Prod.snd =
      lines.map .line ++ last :: List.replicate n .stop := by
  rcases h.cases hlast with ⟨hok, rfl⟩ | ⟨i, raw, fault, hstop, rfl⟩
  · exact alone_of_ok hok n
  · exact alone_of_stops hstop n

/-- **Every cursor comes to its last answer.** -/
theorem exists_yields (r : Reader) (source : Source) :
    ∃ lines last, last.IsLast ∧ Yields r source lines last := by
  cases hresult : (r.buildAll 0 source.rawLines).result with
  | ok lines => exact ⟨lines, _, Answer.isLast_ofEnding _, yields_of_ok hresult⟩
  | error fault =>
    obtain ⟨i, raw, lines, hstop⟩ := Reader.result_buildAll_eq_error_iff.mp hresult
    exact ⟨lines, .fault fault, trivial, yields_of_stops hstop⟩

theorem ofEnding_eq_stop_iff {ending : Option Fault} : Answer.ofEnding ending = .stop ↔ ending = none := by
  cases ending <;> simp [Answer.ofEnding]

theorem ofEnding_eq_fault_iff {ending : Option Fault} {fault : Fault} :
    Answer.ofEnding ending = .fault fault ↔ ending = some fault := by
  cases ending <;> simp [Answer.ofEnding]

/-- A source is read exactly if its cursor hands out the records and stops. -/
theorem parse_eq_ok_iff_yields {p : Program} :
    (r.parse source).result = .ok p ↔ Yields r source p.lines .stop := by
  rw [Reader.result_parse_eq_ok_iff]
  constructor
  · rintro ⟨hlines, hending⟩
    have hyields := yields_of_ok hlines
    rw [hending] at hyields
    exact hyields
  · intro h
    rcases h.cases trivial with ⟨hok, hstop⟩ | ⟨i, raw, fault, _, hstop⟩
    · exact ⟨hok, ofEnding_eq_stop_iff.mp hstop.symm⟩
    · exact absurd hstop (by simp)

/-- Where a cursor that yields a fault has stopped: at a line, or behind the last one. -/
theorem Yields.stopsAt {lines : List Line} {fault : Fault} (h : Yields r source lines (.fault fault)) :
    (∃ i raw, r.StopsAt source.rawLines i raw lines fault) ∨
      (r.buildAll 0 source.rawLines).result = .ok lines ∧ source.ending = some fault := by
  rcases h.cases trivial with ⟨hok, hend⟩ | ⟨i, raw, fault', hstop, heq⟩
  · exact Or.inr ⟨hok, ofEnding_eq_fault_iff.mp hend.symm⟩
  · rw [Answer.fault.inj heq]
    exact Or.inl ⟨i, raw, hstop⟩

/-- A source fails exactly as its cursor does. -/
theorem parse_eq_error_iff_yields {fault : Fault} :
    (r.parse source).result = .error fault ↔ ∃ lines, Yields r source lines (.fault fault) := by
  rw [Reader.result_parse_eq_error_iff]
  constructor
  · rintro (⟨i, raw, lines, hstop⟩ | ⟨⟨lines, hlines⟩, hending⟩)
    · exact ⟨lines, yields_of_stops hstop⟩
    · have hyields := yields_of_ok hlines
      rw [hending] at hyields
      exact ⟨lines, hyields⟩
  · rintro ⟨lines, h⟩
    rcases h.stopsAt with ⟨i, raw, hstop⟩ | ⟨hok, hending⟩
    · exact Or.inl ⟨i, raw, lines, hstop⟩
    · exact Or.inr ⟨⟨lines, hok⟩, hending⟩

end Session

/-! ## What is left of a feed -/

namespace Reader

variable {r : Reader}

/-- Lines with a record are all taken, and then those behind them as if they stood alone. -/
theorem consumed_append {raws : List Text} {start : Nat} {lines : List Line}
    (h : (r.buildAll start raws).result = .ok lines) (rest : List Text) :
    r.consumed start (raws ++ rest) = raws.length + r.consumed (start + raws.length) rest := by
  induction raws generalizing start lines with
  | nil => simp
  | cons raw raws ih =>
    rw [buildAll_cons, Attempt.result_bind_eq_ok_iff] at h
    obtain ⟨line, hline, hrest⟩ := h
    rw [← Attempt.bind_pure_eq_map, Attempt.result_bind_eq_ok_iff] at hrest
    obtain ⟨lines', hlines', _⟩ := hrest
    rw [List.cons_append, consumed, hline]
    show r.consumed (start + 1) (raws ++ rest) + 1 = _
    rw [ih hlines', List.length_cons, Nat.add_assoc start, Nat.add_comm 1]
    omega

theorem consumed_of_ok {raws : List Text} {lines : List Line}
    (h : (r.buildAll 0 raws).result = .ok lines) : r.consumed 0 raws = raws.length := by
  have happend := consumed_append h []
  rwa [List.append_nil] at happend

theorem consumed_of_stops {raws : List Text} {i : Nat} {raw : Text} {lines : List Line} {fault : Fault}
    (h : r.StopsAt raws i raw lines fault) : r.consumed 0 raws = i + 1 := by
  obtain ⟨hlt, hraw⟩ := List.getElem?_eq_some_iff.mp h.position
  have hlength : (raws.take i).length = i := by rw [List.length_take]; omega
  have happend := consumed_append h.before (raws.drop i)
  rw [List.take_append_drop, hlength, Nat.zero_add, List.drop_eq_getElem_cons hlt, hraw, consumed,
    h.fails] at happend
  exact happend

/-- Of a feed that is read to its last item nothing is left. -/
theorem leftover_of_ok {supply : Feed} {lines : List Line}
    (h : (r.buildAll 0 (Source.feed supply).rawLines).result = .ok lines) :
    (r.leftover supply).items = [] := by
  show supply.items.drop (r.consumed 0 (Source.feed supply).rawLines) = []
  rw [consumed_of_ok h]
  simp [Source.rawLines]

/-- Of a feed that is read up to a line that fails, what comes behind that line is left. -/
theorem leftover_of_stops {supply : Feed} {i : Nat} {raw : Text} {lines : List Line} {fault : Fault}
    (h : r.StopsAt (Source.feed supply).rawLines i raw lines fault) :
    (r.leftover supply).items = supply.items.drop (i + 1) := by
  show supply.items.drop (r.consumed 0 (Source.feed supply).rawLines) = _
  rw [consumed_of_stops h]

end Reader

namespace Session

variable {r : Reader} {s : Session} {k : Nat} {cursor : Cursor}

/-- The session after some requests. -/
def later (r : Reader) (s : Session) (requests : List Request) : Session :=
  requests.foldl (fun s request => (turn r s request).after) s

theorem later_replicate_succ (k n : Nat) :
    later r s (List.replicate (n + 1) (.next k)) =
      later r (turn r s (.next k)).after (List.replicate n (.next k)) := rfl

theorem later_of_finished (hk : s.cursors[k]? = some cursor) (hf : cursor.finished = true) (n : Nat) :
    later r s (List.replicate n (.next k)) = s := by
  induction n with
  | zero => rfl
  | succ n ih =>
    obtain ⟨hlt, rfl⟩ := List.getElem?_eq_some_iff.mp hk
    have hafter : (turn r s (.next k)).after = s := by
      rw [turn_next_of_some hk (advance_of_finished hf), List.set_getElem_self]
    rw [later_replicate_succ, hafter, ih]

/-- **A cursor takes what eager reading takes**, as far as it is asked. -/
theorem supply_later (hk : s.cursors[k]? = some cursor) (hown : cursor.own = none)
    (hf : cursor.finished = false) (n : Nat) :
    (later r s (List.replicate n (.next k))).supply =
      { s.supply with
        items := s.supply.items.drop
          (min n (r.consumed cursor.taken (s.supply.items.map Text.chomp))) } := by
  induction n generalizing s cursor with
  | zero => simp [later]
  | succ n ih =>
    have hlt : k < s.cursors.length := (List.getElem?_eq_some_iff.mp hk).1
    rw [later_replicate_succ]
    cases hitems : s.supply.items with
    | nil =>
      rw [turn_next_of_some hk (advance_of_nil hf hown hitems),
        later_of_finished (List.getElem?_set_self hlt) rfl]
      show s.supply = ⟨List.drop _ [], s.supply.ending⟩
      rw [List.drop_nil, ← hitems]
    | cons item items =>
      rw [turn_next_of_some hk (advance_of_cons hf hown hitems), List.map_cons, Reader.consumed]
      cases hresult : (r.build item.chomp cursor.taken).result with
      | error fault =>
        rw [later_of_finished (List.getElem?_set_self hlt) rfl]
        simp
      | ok line =>
        rw [ih (List.getElem?_set_self hlt) (by exact hown) (by rfl)]
        simp

/-- Asked until it gives its last answer, a cursor leaves what eager reading leaves. -/
theorem Yields.leftover {supply : Feed} {lines : List Line} {last : Answer}
    (h : Yields r (.feed supply) lines last) (hlast : last.IsLast) :
    (later r (start (.feed supply))
      (.openCursor :: List.replicate (lines.length + 1) (.next 0))).supply = r.leftover supply := by
  have hle : r.consumed 0 (Source.feed supply).rawLines ≤ lines.length + 1 := by
    rcases h.cases hlast with ⟨hok, _⟩ | ⟨i, raw, fault, hstop, _⟩
    · rw [Reader.consumed_of_ok hok, (Reader.getElem?_of_buildAll_ok hok).1]
      omega
    · have hlt := (List.getElem?_eq_some_iff.mp hstop.position).1
      have hlength := (Reader.getElem?_of_buildAll_ok hstop.before).1
      rw [List.length_take] at hlength
      rw [Reader.consumed_of_stops hstop]
      omega
  have hsupply := supply_later (r := r) (s := (turn r (start (.feed supply)) .openCursor).after) (k := 0)
    rfl rfl rfl (lines.length + 1)
  refine hsupply.trans ?_
  show ({ supply with items := supply.items.drop (min (lines.length + 1)
    (r.consumed 0 (Source.feed supply).rawLines)) } : Feed) = r.leftover supply
  rw [Nat.min_eq_right hle]
  rfl

end Session

/-! ## The place of an error -/

/-- A malformed line is told of with its own index and text. -/
theorem place_of_classify {raw : Text} {index : Int} {e : FormatError}
    (h : (Builders.standard.classify raw index).result = .error (.format e)) :
    e.index = index ∧ e.raw = raw := by
  rcases malformed_or_grammar raw with ⟨letter, number, hbad⟩ | ⟨form, tokens, hform⟩
  · rcases Numeral.integer?_cases number with ⟨hno, _⟩ | ⟨v, hv, _⟩ | ⟨n, hn, _⟩
    · rw [classify_of_faulty_text hbad hno index] at h
      obtain rfl : FormatError.notInteger [letter] (letter :: number) raw index = e :=
        Fault.format.inj (Except.error.inj h)
      exact ⟨rfl, rfl⟩
    · exact absurd ⟨v, hv⟩ hbad.not_denotes
    · rw [classify_of_faulty_overlong hbad hn index] at h
      exact absurd h (by simp)
  · obtain ⟨_, _, _, _, heq⟩ := hform.exists_refused h
    exact absurd heq (by simp)

theorem place_of_build {strict : Bool} {raw : Text} {index : Int} {e : FormatError}
    (h : ((Reader.mk .standard strict).build raw index).result = .error (.format e)) :
    e.index = index ∧ e.raw = raw := by
  cases strict with
  | true => exact place_of_classify (build_strict_format_iff.mp h)
  | false =>
    -- a permissive reader fails for other reasons only
    obtain ⟨n, _, heq⟩ := overloaded_of_build_permissive_error h
    exact absurd heq (by simp)

/-! ## Eager and lazy -/

/-- **Eager and lazy reading agree, also on failure.**  For every source, table and strictness:
    (1) the source is read into a program exactly if its cursor yields the records of that program and
        then stops;
    (2) it fails with a fault exactly if its cursor yields some records, perhaps none, and then that
        fault;
    (3) after its last answer the cursor only stops;
    (4) before a fault the records are those of the lines before the first one that fails, or of all
        lines if the source itself fails behind the last one;
    (5) under the standard table, a malformed line is told of with the index and the text of that line;
    (6) of a feed, eager reading that succeeds leaves nothing; if a line fails, it leaves exactly the items
        behind that line, and if the feed itself fails behind the last line, it leaves nothing again;
    (7) a cursor that is asked up to its last answer leaves the same. -/
theorem eager_lazy (r : Reader) (source : Source) :
    (∀ p, (r.parse source).result = .ok p ↔ Session.Yields r source p.lines .stop) ∧
    (∀ fault, (r.parse source).result = .error fault ↔
      ∃ lines, Session.Yields r source lines (.fault fault)) ∧
    (∀ lines last, last.IsLast → Session.Yields r source lines last → ∀ n,
      (Session.alone r source (lines.length + (n + 1))).map Prod.snd =
        lines.map .line ++ last :: List.replicate n .stop) ∧
    (∀ lines fault, Session.Yields r source lines (.fault fault) →
      (∃ i raw, r.StopsAt source.rawLines i raw lines fault) ∨
        (r.buildAll 0 source.rawLines).result = .ok lines ∧ source.ending = some fault) ∧
    (r.builders = .standard → ∀ i raw lines e, r.StopsAt source.rawLines i raw lines (.format e) →
      e.index = i ∧ e.raw = raw) ∧
    (∀ supply, source = .feed supply →
      (∀ p, (r.parse source).result = .ok p → (r.leftover supply).items = []) ∧
      (∀ fault, (r.parse source).result = .error fault →
        (∃ i raw lines, r.StopsAt source.rawLines i raw lines fault ∧
          (r.leftover supply).items = supply.items.drop (i + 1)) ∨
        supply.ending = some fault ∧ (r.leftover supply).items = []) ∧
      ∀ lines last, last.IsLast → Session.Yields r source lines last →
        (Session.later r (Session.start source)
          (.openCursor :: List.replicate (lines.length + 1) (.next 0))).supply = r.leftover supply) := by
  refine ⟨fun p => Session.parse_eq_ok_iff_yields, fun fault => Session.parse_eq_error_iff_yields,
    fun lines last hlast h => h.stops hlast, fun lines fault h => h.stopsAt,
    fun hstandard i raw lines e hstop => ?_, ?_⟩
  · obtain ⟨builders, strict⟩ := r
    obtain rfl : builders = .standard := hstandard
    exact place_of_build hstop.fails
  · rintro supply rfl
    refine ⟨fun p hp => ?_, fun fault hfault => ?_, fun lines last hlast h => h.leftover hlast⟩
    · exact Reader.leftover_of_ok (Reader.result_parse_eq_ok_iff.mp hp).1
    · rcases Reader.result_parse_eq_error_iff.mp hfault with
        ⟨i, raw, lines, hstop⟩ | ⟨⟨lines, hlines⟩, hending⟩
      · exact Or.inl ⟨i, raw, lines, hstop, Reader.leftover_of_stops hstop⟩
      · exact Or.inr ⟨hending, Reader.leftover_of_ok hlines⟩

/-- A line number that is no number stands in the second of three items: the cursor hands out the first
    record and then fails, as eager reading does, and the third item is left. -/
theorem eager_lazy_bad_number :
    (Builders.standard.strictReader.parse
        (.feed { items := ["N1 G0\n".toText, "Nx\n".toText, ";c".toText] })).result =
      .error (.format (.notInteger ['N'] "Nx".toText "Nx".toText 1)) ∧
    (∃ lines, Session.Yields Builders.standard.strictReader
      (.feed { items := ["N1 G0\n".toText, "Nx\n".toText, ";c".toText] }) lines
      (.fault (.format (.notInteger ['N'] "Nx".toText "Nx".toText 1)))) ∧
    (Builders.standard.strictReader.leftover
      { items := ["N1 G0\n".toText, "Nx\n".toText, ";c".toText] }).items = [";c".toText] := by
  have hparse : (Builders.standard.strictReader.parse
      (.feed { items := ["N1 G0\n".toText, "Nx\n".toText, ";c".toText] })).result =
      .error (.format (.notInteger ['N'] "Nx".toText "Nx".toText 1)) := rfl
  obtain ⟨_, hfails, _⟩ := eager_lazy Builders.standard.strictReader
    (.feed { items := ["N1 G0\n".toText, "Nx\n".toText, ";c".toText] })
  exact ⟨hparse, (hfails _).mp hparse, rfl⟩

end PartProgram
