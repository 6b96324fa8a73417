/-
  Reading lines one after another.

  1. **One line** — only for a malformed line does it matter whether the reader is strict
     (`build_strict_of_format`, `build_permissive_of_format`); every other line is read alike by all
     readers of a table (`build_of_ne`).

  2. **All lines** — `buildAll` over lines in two parts is one after the other
     (`buildAll_append`), the second numbered where the first ends.

  3. **Where reading stops** — `StopsAt raws i raw lines fault`: the lines before position `i` have
     the records `lines`, and building the line `raw` at that position fails with `fault`.  Reading
     fails exactly by stopping somewhere (`result_buildAll_eq_error_iff`), and otherwise every line
     has its record (`exists_result_buildAll_eq_ok_iff`).

  4. **A whole source** — `parse` adds nothing but the fault that may follow the last line.
-/
import Mathlib.Data.List.Induction
import PartProgram.Proofs.Attempt
import PartProgram.Reader

namespace PartProgram.Reader

variable {r : Reader}

/-! ## One line -/

/-- What every record goes through: it is told, with its index and kind. -/
def announce (index : Int) (x : Attempt Line) : Attempt Line := do
  let line ← x
  Attempt.report (.lineParsed index line.kind)
  return line

theorem announce_of_ok {x : Attempt Line} {line : Line} (h : x.result = .ok line) (index : Int) :
    announce index x = ⟨x.events ++ [.lineParsed index line.kind], .ok line⟩ := by
  rw [announce, Attempt.bind_of_ok h]
  rfl

theorem announce_of_error {x : Attempt Line} {fault : Fault} (h : x.result = .error fault)
    (index : Int) : announce index x = ⟨x.events, .error fault⟩ := by
  rw [announce, Attempt.bind_of_error h]

@[simp] theorem result_announce (index : Int) (x : Attempt Line) :
    (announce index x).result = x.result := by
  cases h : x.result with
  | ok line => rw [announce_of_ok h]
  | error fault => rw [announce_of_error h]

/-- A line that the table does not call malformed is read alike by all readers of the table. -/
theorem build_of_ne {raw : Text} {index : Int}
    (h : ∀ e, (r.builders.classify raw index).result ≠ .error (.format e)) :
    r.build raw index = announce index (r.builders.classify raw index) := by
  show announce index (Attempt.orOnFormatError _ _) = _
  rw [Attempt.orOnFormatError_of_ne h]

/-- A malformed line fails under a strict reader. -/
theorem build_strict_of_format (hstrict : r.strict = true) {raw : Text} {index : Int}
    {e : FormatError} (h : (r.builders.classify raw index).result = .error (.format e)) :
    r.build raw index = ⟨(r.builders.classify raw index).events, .error (.format e)⟩ := by
  show announce index (Attempt.orOnFormatError _ _) = _
  rw [Attempt.orOnFormatError_of_format h, if_pos hstrict, Attempt.events_fail, List.append_nil]
  rfl

/-- A permissive reader tells of a malformed line, and takes it as plain text. -/
theorem build_permissive_of_format (hstrict : r.strict = false) {raw : Text} {index : Int}
    {e : FormatError} (h : (r.builders.classify raw index).result = .error (.format e)) :
    r.build raw index =
      ⟨(r.builders.classify raw index).events ++ .demoted index e.detail ::
          (announce index (r.builders.textLine raw index)).events,
        (r.builders.textLine raw index).result⟩ := by
  have hnot : ¬ r.strict = true := by rw [hstrict]; decide
  show announce index (Attempt.orOnFormatError _ _) = _
  rw [Attempt.orOnFormatError_of_format h, if_neg hnot]
  -- the warning is told before anything that the text builder tells
  show announce index ⟨_ ++ .demoted index e.detail :: (r.builders.textLine raw index).events,
    (r.builders.textLine raw index).result⟩ = _
  cases htext : (r.builders.textLine raw index).result with
  | ok line =>
    rw [announce_of_ok htext, announce_of_ok rfl]
    simp
  | error fault => rw [announce_of_error htext, announce_of_error rfl]

/-- A record is given by `classify`, or for a malformed line by `textLine`. -/
theorem classify_or_textLine_of_build {raw : Text} {index : Int} {line : Line}
    (h : (r.build raw index).result = .ok line) :
    (r.builders.classify raw index).result = .ok line ∨
      (r.builders.textLine raw index).result = .ok line := by
  by_cases hformat : ∃ e, (r.builders.classify raw index).result = .error (.format e)
  · obtain ⟨e, he⟩ := hformat
    cases hstrict : r.strict with
    | true =>
      rw [build_strict_of_format hstrict he] at h
      exact absurd h (by simp)
    | false =>
      rw [build_permissive_of_format hstrict he] at h
      exact Or.inr h
  · rw [build_of_ne fun e he => hformat ⟨e, he⟩, result_announce] at h
    exact Or.inl h

/-- What the table makes of a line is what every reader gives. -/
theorem result_build_of_classify {raw : Text} {index : Int} {line : Line}
    (h : (r.builders.classify raw index).result = .ok line) : (r.build raw index).result = .ok line := by
  rw [build_of_ne (by rw [h]; exact fun e => nofun), result_announce]
  exact h

/-! ## All lines -/

theorem buildAll_cons (raw : Text) (raws : List Text) (start : Nat) :
    r.buildAll start (raw :: raws) =
      r.build raw start >>= fun line => (line :: ·) <$> r.buildAll (start + 1) raws := rfl

/-- Lines in two parts are read one part after the other. -/
theorem buildAll_append (raws raws' : List Text) (start : Nat) :
    r.buildAll start (raws ++ raws') =
      r.buildAll start raws >>= fun lines =>
        (lines ++ ·) <$> r.buildAll (start + raws.length) raws' := by
  induction raws generalizing start with
  | nil =>
    show r.buildAll start raws' = pure [] >>= _
    rw [pure_bind]
    exact (id_map _).symm
  | cons raw raws ih =>
    -- both sides read `raw` first; behind it stands the same statement, one line further on
    rw [List.cons_append, buildAll_cons, buildAll_cons, Attempt.bind_bind]
    congr 1
    funext line
    rw [ih, ← Attempt.bind_pure_eq_map, ← Attempt.bind_pure_eq_map, Attempt.bind_bind,
      Attempt.bind_bind]
    congr 1
    funext lines
    rw [pure_bind, List.length_cons, ← Attempt.bind_pure_eq_map, ← Attempt.bind_pure_eq_map,
      Attempt.bind_bind, show start + 1 + raws.length = start + (raws.length + 1) by omega]
    rfl

/-- Reading up to a position and then on from it. -/
theorem buildAll_split {raws : List Text} {i : Nat} {raw : Text} (h : raws[i]? = some raw) :
    r.buildAll 0 raws =
      r.buildAll 0 (raws.take i) >>= fun lines =>
        (lines ++ ·) <$> r.buildAll i (raw :: raws.drop (i + 1)) := by
  obtain ⟨hlt, hraw⟩ := List.getElem?_eq_some_iff.mp h
  have hlength : 0 + (raws.take i).length = i := by rw [List.length_take]; omega
  conv => lhs; rw [← List.take_append_drop i raws]
  rw [buildAll_append, hlength, List.drop_eq_getElem_cons hlt, hraw]

/-- There is one record for each line, at the same position. -/
theorem getElem?_of_buildAll_ok {raws : List Text} {start : Nat} {lines : List Line}
    (h : (r.buildAll start raws).result = .ok lines) :
    lines.length = raws.length ∧
      ∀ (j : Nat) (raw : Text), raws[j]? = some raw →
        ∃ line, lines[j]? = some line ∧ (r.build raw (start + j : Nat)).result = .ok line := by
  induction raws generalizing start lines with
  | nil =>
    obtain rfl : [] = lines := Except.ok.inj h
    exact ⟨rfl, fun j raw hraw => absurd hraw (by simp)⟩
  | cons raw raws ih =>
    rw [buildAll_cons, Attempt.result_bind_eq_ok_iff] at h
    obtain ⟨line, hline, hrest⟩ := h
    rw [← Attempt.bind_pure_eq_map, Attempt.result_bind_eq_ok_iff] at hrest
    obtain ⟨lines', hlines', hpure⟩ := hrest
    obtain rfl : line :: lines' = lines := Except.ok.inj hpure
    obtain ⟨hlength, hat⟩ := ih hlines'
    refine ⟨by rw [List.length_cons, List.length_cons, hlength], fun j raw' hraw' => ?_⟩
    cases j with
    | zero =>
      obtain rfl : raw = raw' := Option.some.inj hraw'
      exact ⟨line, rfl, hline⟩
    | succ j =>
      obtain ⟨line', hget, hbuilt⟩ := hat j raw' hraw'
      refine ⟨line', hget, ?_⟩
      rw [show start + (j + 1) = start + 1 + j by omega]
      exact hbuilt

/-- Every record is that of a line at its position. -/
theorem exists_build_of_mem {raws : List Text} {start : Nat} {lines : List Line}
    (h : (r.buildAll start raws).result = .ok lines) {line : Line} (hmem : line ∈ lines) :
    ∃ (j : Nat) (raw : Text), raws[j]? = some raw ∧
      (r.build raw (start + j : Nat)).result = .ok line := by
  obtain ⟨hlength, hat⟩ := getElem?_of_buildAll_ok h
  obtain ⟨j, hj⟩ := List.mem_iff_getElem?.mp hmem
  obtain ⟨hlt, _⟩ := List.getElem?_eq_some_iff.mp hj
  have hraw : raws[j]? = some (raws.get ⟨j, by omega⟩) := List.getElem?_eq_getElem (by omega)
  obtain ⟨line', hget, hline'⟩ := hat j _ hraw
  rw [hj] at hget
  obtain rfl : line = line' := Option.some.inj hget
  exact ⟨j, _, hraw, hline'⟩

/-! ## Where reading stops -/

/-- `r.StopsAt raws i raw lines fault` — the lines before position `i` have the records `lines`, and
    building the line `raw` at that position fails with `fault`. -/
structure StopsAt (r : Reader) (raws : List Text) (i : Nat) (raw : Text) (lines : List Line)
    (fault : Fault) : Prop where
  position : raws[i]? = some raw
  before : (r.buildAll 0 (raws.take i)).result = .ok lines
  fails : (r.build raw i).result = .error fault

theorem StopsAt.buildAll {raws : List Text} {i : Nat} {raw : Text} {lines : List Line}
    {fault : Fault} (h : r.StopsAt raws i raw lines fault) :
    r.buildAll 0 raws =
      ⟨(r.buildAll 0 (raws.take i)).events ++ (r.build raw i).events, .error fault⟩ := by
  rw [buildAll_split h.position, Attempt.bind_of_ok h.before, buildAll_cons,
    Attempt.bind_of_error h.fails]
  rfl

theorem StopsAt.append {raws : List Text} {i : Nat} {raw : Text} {lines : List Line}
    {fault : Fault} (h : r.StopsAt raws i raw lines fault) (raws' : List Text) :
    r.StopsAt (raws ++ raws') i raw lines fault := by
  obtain ⟨hlt, _⟩ := List.getElem?_eq_some_iff.mp h.position
  refine ⟨?_, ?_, h.fails⟩
  · rw [List.getElem?_append_left hlt]
    exact h.position
  · rw [List.take_append_of_le_length (by omega)]
    exact h.before

/-- **Reading fails exactly by stopping somewhere.**  The lines are taken off from behind, so that
    positions need no shift. -/
theorem result_buildAll_eq_error_iff {raws : List Text} {fault : Fault} :
    (r.buildAll 0 raws).result = .error fault ↔
      ∃ i raw lines, r.StopsAt raws i raw lines fault := by
  constructor
  · intro h
    induction raws using List.reverseRecOn with
    | nil => exact absurd h (by simp [Reader.buildAll])
    | append_singleton raws raw ih =>
      rw [buildAll_append, Attempt.result_bind_eq_error_iff] at h
      rcases h with hbefore | ⟨lines, hlines, hlast⟩
      · -- it stops earlier already
        obtain ⟨i, raw', lines, hstop⟩ := ih hbefore
        exact ⟨i, raw', lines, hstop.append [raw]⟩
      · -- all lines but the last one have their records
        refine ⟨raws.length, raw, lines, by simp, by simpa using hlines, ?_⟩
        rw [Nat.zero_add, buildAll_cons] at hlast
        cases hbuild : (r.build raw raws.length).result with
        | ok line =>
          rw [Attempt.bind_of_ok hbuild] at hlast
          exact absurd hlast (by simp [Reader.buildAll, Functor.map, Except.map])
        | error fault' =>
          rw [Attempt.bind_of_error hbuild] at hlast
          rw [show fault' = fault from Except.error.inj hlast]
  · rintro ⟨i, raw, lines, hstop⟩
    rw [hstop.buildAll]

/-- **Reading succeeds exactly if every line has its record.** -/
theorem exists_result_buildAll_eq_ok_iff {raws : List Text} :
    (∃ lines, (r.buildAll 0 raws).result = .ok lines) ↔
      ∀ (i : Nat) (raw : Text), raws[i]? = some raw → ∃ line, (r.build raw i).result = .ok line := by
  constructor
  · rintro ⟨lines, hlines⟩ i raw hraw
    obtain ⟨line, _, hline⟩ := (getElem?_of_buildAll_ok hlines).2 i raw hraw
    rw [Nat.zero_add] at hline
    exact ⟨line, hline⟩
  · intro hall
    cases hresult : (r.buildAll 0 raws).result with
    | ok lines => exact ⟨lines, rfl⟩
    | error fault =>
      obtain ⟨i, raw, lines, hstop⟩ := result_buildAll_eq_error_iff.mp hresult
      obtain ⟨line, hline⟩ := hall i raw hstop.position
      rw [hstop.fails] at hline
      exact absurd hline (by simp)

/-! ## A whole source -/

theorem parse_of_error {source : Source} {fault : Fault}
    (h : (r.buildAll 0 source.rawLines).result = .error fault) :
    r.parse source = ⟨(r.buildAll 0 source.rawLines).events, .error fault⟩ := by
  rw [parse, Attempt.bind_of_error h]

theorem StopsAt.parse {source : Source} {i : Nat} {raw : Text} {lines : List Line} {fault : Fault}
    (h : r.StopsAt source.rawLines i raw lines fault) :
    r.parse source =
      ⟨(r.buildAll 0 (source.rawLines.take i)).events ++ (r.build raw i).events, .error fault⟩ := by
  have hrun := h.buildAll
  rw [parse_of_error (congrArg Attempt.result hrun), hrun]

/-- A source is read exactly if all of its lines are and no fault follows the last one. -/
theorem result_parse_eq_ok_iff {source : Source} {p : Program} :
    (r.parse source).result = .ok p ↔
      (r.buildAll 0 source.rawLines).result = .ok p.lines ∧ source.ending = none := by
  rw [parse, Attempt.result_bind_eq_ok_iff]
  constructor
  · rintro ⟨lines, hlines, hend⟩
    cases hending : source.ending with
    | some fault => rw [hending] at hend; exact absurd hend (by simp)
    | none =>
      rw [hending] at hend
      obtain rfl : Program.mk lines = p := Except.ok.inj hend
      exact ⟨hlines, rfl⟩
  · rintro ⟨hlines, hending⟩
    refine ⟨p.lines, hlines, ?_⟩
    rw [hending]
    rfl

/-- **A source fails** exactly by stopping at one of its lines, or by the fault behind the last. -/
theorem result_parse_eq_error_iff {source : Source} {fault : Fault} :
    (r.parse source).result = .error fault ↔
      (∃ i raw lines, r.StopsAt source.rawLines i raw lines fault) ∨
        (∃ lines, (r.buildAll 0 source.rawLines).result = .ok lines) ∧
          source.ending = some fault := by
  rw [parse, Attempt.result_bind_eq_error_iff, result_buildAll_eq_error_iff, ← exists_and_right]
  refine or_congr_right (exists_congr fun lines => and_congr_right fun _ => ?_)
  cases source.ending with
  | none => simp
  | some fault' => simp

/-- What is told of a source begins with what is told of its lines, and goes on with nothing but
    their number. -/
theorem events_parse (source : Source) :
    (r.parse source).events = (r.buildAll 0 source.rawLines).events ∨
      ∃ count, (r.parse source).events =
        (r.buildAll 0 source.rawLines).events ++ [.parsed count] := by
  cases hresult : (r.buildAll 0 source.rawLines).result with
  | error fault => rw [parse_of_error hresult]; exact Or.inl rfl
  | ok lines =>
    rw [parse, Attempt.bind_of_ok hresult]
    cases source.ending with
    | some fault => exact Or.inl (List.append_nil _)
    | none => exact Or.inr ⟨lines.length, rfl⟩

end PartProgram.Reader
