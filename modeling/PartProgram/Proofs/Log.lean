/-
  The log of a reading.

  1. **Program** — events are told at three depths: by the builder of a parameter, by the reader when it
     takes a malformed line as plain text, and by the reader again for every record and for the whole
     program.  Any of the steps between them may fail.

  2. **Specification** — `line.Logged records`: the log records that belong to the record `line`, in words.
     They are read off the record alone: a warning exactly if it is plain text whose first word begins
     with `N`, then one note for each parameter with a text value, then one for the line itself.
     `CutShort raw records` is what is left in the log of a line that has no record: the notes of the
     parameters before the token at which it broke off, and no more.

  3. **One line (`logged_of_build`, `cutShort_of_build`)** — a malformed line fails before any of its
     parameters is looked at, so a demoted line tells of no parameters; this is where the order of the
     checks matters.

  4. **A run (`logged_of_buildAll`)** — by induction over the lines, the log is that of the records one
     after another.  `log_tells` adds the end of the run: the number of lines, or the line that failed.
-/
import PartProgram.Proofs.Dialect.Parameters
import PartProgram.Proofs.Recovery

namespace PartProgram

open Text (Spaced)

/-! ## Specification -/

/-- The record of a parameter with a text value. -/
def Param.note? (p : Param) : Option Record :=
  match p.kind, p.textValue with
  | .text, some value => some
    { level := .trace, log := "gparse.gcode.builders".toText
      message := "value_param_text identifier=".toText ++ p.identifier ++ " value=".toText ++
        value.quoted }
  | _, _ => none

/-- The log of a line up to its record: its text values in order, then its index and kind. -/
def Line.notes (line : Line) : List Record :=
  line.parameters.filterMap Param.note? ++
    [{ level := .trace, log := "gparse.gcode.parser".toText
       message := "line_parsed index=".toText ++ Text.ofInt line.index ++ " type=".toText ++
        line.kind.name.toText }]

/-- Plain text, although its first word begins with `N`. -/
def Line.IsDemoted (line : Line) : Prop :=
  line.kind = .text ∧ ∃ word others, Spaced line.raw (('N' :: word) :: others)

/-- The warning about a line in which the number of a field is no integer. -/
def demotion (index : Int) (letter : CodePoint) (number : Text) : Record :=
  { level := .warning, log := "gparse.gcode.parser".toText
    message := "Treating line ".toText ++ Text.ofInt index ++ " as text: ".toText ++
      ([letter] ++ " field ".toText ++ Text.quoted (letter :: number) ++
        " is not an integer".toText) }

/-- `line.Logged records` — in a log, the record `line` has left `records`. -/
inductive Line.Logged (line : Line) : List Record → Prop where
  | plain (h : ¬ line.IsDemoted) : line.Logged line.notes
  | demoted {letter : CodePoint} {number : Text} (h : line.IsDemoted)
      (hbad : Faulty line.raw letter number) :
      line.Logged (demotion line.index letter number :: line.notes)

/-- `CutShort raw records` — the line `raw` fails and leaves `records`: nothing if one of its fields
    has no value, else the notes of the parameters BEFORE a token that is refused. -/
inductive CutShort (raw : Text) : List Record → Prop where
  | field (h : Malformed raw) : CutShort raw []
  | parameter {form : Form} {before after : List Text} {token : Text} {n : Nat} {ps : List Param}
      (h : Grammar raw form (before ++ token :: after)) (hn : Refused token n)
      (hps : (before.mapM (Standard.param .standard)).result = .ok ps) :
      CutShort raw (ps.filterMap Param.note?)

/-- The log of a run at level TRACE and above. -/
def Reader.log (r : Reader) (source : Source) : List Record :=
  ((r.parse source).events.map Event.record).filter (·.reaches Level.trace.rank)

/-! ## Parameters -/

/-- A parameter that is built tells its text value and nothing else. -/
theorem records_of_param {token : Text} {p : Param}
    (h : (Standard.param .standard token).result = .ok p) :
    (Standard.param .standard token).events.map Event.record = p.note?.toList := by
  have hgrammar := Standard.param_eq_ok_iff.mp h
  rw [hgrammar.param]
  cases hgrammar <;> rfl

theorem records_of_params {tokens : List Text} {ps : List Param}
    (h : (tokens.mapM (Standard.param .standard)).result = .ok ps) :
    (tokens.mapM (Standard.param .standard)).events.map Event.record =
      ps.filterMap Param.note? := by
  rw [Attempt.events_mapM_of_ok h, List.map_flatMap]
  -- token by token, each with its own parameter
  have hall := Attempt.result_mapM_eq_ok_iff.mp h
  clear h
  induction hall with
  | nil => rfl
  | @cons token p tokens ps hp _ ih =>
    rw [List.flatMap_cons, ih, records_of_param hp, List.filterMap_cons]
    cases p.note? <;> rfl

/-! ## One line -/

/-- The record of a line with a form is not demoted: plain text does not lead with `N`. -/
theorem Grammar.not_isDemoted {raw : Text} {form : Form} {tokens : List Text}
    (h : Grammar raw form tokens) (index : Int) (ps : List Param) :
    ¬ (form.line raw index ps).IsDemoted := by
  rintro ⟨hkind, word, others, hs⟩
  have hraw : (form.line raw index ps).raw = raw := by cases form <;> rfl
  have hlead := h.leads
  rw [hraw] at hs
  rw [lead_of_spaced hs] at hlead
  cases form with
  | text =>
    obtain ⟨c, hc, _, hn, _⟩ := hlead
    exact hn (Option.some.inj hc).symm
  | control =>
    have hcontrol := isControl_controlKind (Text.lower ((raw.words.headD []).drop 1))
    rw [show Standard.controlKind _ = LineKind.text from hkind] at hcontrol
    exact absurd hcontrol (by decide)
  | _ => exact nomatch hkind

/-- A malformed line begins with a word that begins with `N`. -/
theorem Faulty.spaced {raw : Text} {letter : CodePoint} {number : Text} (h : Faulty raw letter number) :
    ∃ word others, Spaced raw (('N' :: word) :: others) := by
  cases h with
  | number hs _ => exact ⟨_, _, hs⟩
  | code hs hn _ _ =>
    obtain ⟨literal, rfl, _⟩ := hn
    exact ⟨_, _, hs⟩

section

variable {strict : Bool} {raw : Text} {index : Int}

/-- A line with a form is read as the table classifies it, by both readers. -/
theorem Grammar.build_eq {form : Form} {tokens : List Text} (h : Grammar raw form tokens) :
    (Reader.mk .standard strict).build raw index =
      Reader.announce index ((fun parameters => form.line raw index parameters) <$>
        tokens.mapM (Standard.param .standard)) := by
  rw [Reader.build_of_ne h.ne_format, classify_of_grammar h index]

/-- **The log of a line that has its record.** -/
theorem logged_of_build {line : Line}
    (h : ((Reader.mk .standard strict).build raw index).result = .ok line) :
    line.Logged (((Reader.mk .standard strict).build raw index).events.map Event.record) := by
  rcases malformed_or_grammar raw with ⟨letter, number, hbad⟩ | ⟨form, tokens, hform⟩
  · by_cases hno : ∃ negative digits, Numeral.IsLiteral number negative digits
    · -- the field is a literal that is refused, and no reader goes on behind that
      exfalso
      rcases Numeral.integer?_cases number with ⟨hnot, _⟩ | ⟨v, hv, _⟩ | ⟨n, hn, _⟩
      · exact hnot hno
      · exact hbad.not_denotes ⟨v, hv⟩
      · have hclassify := classify_of_faulty_overlong hbad hn index
        rw [Reader.build_of_ne (by simp [hclassify]), Reader.result_announce, hclassify] at h
        exact absurd h (by simp)
    · have hclassify := classify_of_faulty_text hbad hno index
      have hresult := congrArg Attempt.result hclassify
      cases strict with
      | true =>
        rw [Reader.build_strict_of_format rfl hresult] at h
        exact absurd h (by simp)
      | false =>
        rw [Reader.build_permissive_of_format rfl hresult, Builders.standard_textLine] at h ⊢
        obtain rfl : { index, kind := .text, raw } = line := Except.ok.inj h
        rw [hclassify]
        exact .demoted ⟨rfl, hbad.spaced⟩ hbad
  · rw [hform.build_eq] at h ⊢
    rw [Reader.result_announce, ← Attempt.bind_pure_eq_map, Attempt.result_bind_eq_ok_iff] at h
    obtain ⟨ps, hps, hpure⟩ := h
    obtain rfl : form.line raw index ps = line := Except.ok.inj hpure
    have hlength := (Attempt.result_mapM_eq_ok_iff.mp hps).length_eq
    have hindex : (form.line raw index ps).index = index := by cases form <;> rfl
    have hbuilt : ((fun parameters => form.line raw index parameters) <$>
        tokens.mapM (Standard.param .standard)).result = .ok (form.line raw index ps) := by
      rw [Attempt.result_map, hps]
      rfl
    have hnotes := Line.Logged.plain (hform.not_isDemoted index ps)
    rw [Line.notes, hindex, hform.parameters_line hlength index] at hnotes
    rw [Reader.announce_of_ok hbuilt, Attempt.events_map, List.map_append, records_of_params hps]
    exact hnotes

/-- **The log of a line that has none.** -/
theorem cutShort_of_build {fault : Fault}
    (h : ((Reader.mk .standard strict).build raw index).result = .error fault) :
    CutShort raw (((Reader.mk .standard strict).build raw index).events.map Event.record) := by
  rcases malformed_or_grammar raw with hbad | ⟨form, tokens, hform⟩
  · obtain ⟨fault', hclassify⟩ := classify_of_malformed hbad index
    have hsilent : ((Reader.mk .standard strict).build raw index).events = [] := by
      by_cases hformat : ∃ e, fault' = .format e
      · obtain ⟨e, rfl⟩ := hformat
        have hresult := congrArg Attempt.result hclassify
        cases strict with
        | true => rw [Reader.build_strict_of_format rfl hresult, hclassify]; rfl
        | false =>
          -- a permissive reader makes plain text of it, so that it does not fail
          rw [build_demoted_standard hresult] at h
          exact absurd h (by simp)
      · have hne : ∀ e, (Builders.standard.classify raw index).result ≠ .error (.format e) := by
          intro e he
          rw [hclassify] at he
          exact hformat ⟨e, Except.error.inj he⟩
        rw [Reader.build_of_ne hne, hclassify]
        rfl
    rw [hsilent]
    exact .field hbad
  · rw [hform.build_eq] at h ⊢
    rw [Reader.result_announce] at h
    have hmapM : (tokens.mapM (Standard.param .standard)).result = .error fault := by
      rw [← Attempt.bind_pure_eq_map, Attempt.result_bind_eq_error_iff] at h
      rcases h with h | ⟨ps, _, hpure⟩
      · exact h
      · exact absurd hpure (by simp)
    obtain ⟨before, token, after, ps, rfl, hps, htoken, hevents⟩ :=
      Attempt.exists_stop_of_result_mapM hmapM
    obtain ⟨n, hn, _⟩ := (Standard.param_eq_error_iff (hform.ne_nil token (by simp))).mp htoken
    rw [Reader.announce_of_error h, Attempt.events_map, hevents,
      Standard.events_param_of_error htoken,
      List.append_nil, records_of_params hps]
    exact .parameter hform hn hps

end

/-! ## A run -/

/-- Every event has a record at level TRACE or above. -/
theorem reaches_trace (event : Event) : event.record.reaches Level.trace.rank = true := by
  cases event <;> rfl

theorem Reader.log_eq (r : Reader) (source : Source) :
    r.log source = (r.parse source).events.map Event.record := by
  refine List.filter_eq_self.mpr fun record hrecord => ?_
  obtain ⟨event, _, rfl⟩ := List.mem_map.mp hrecord
  exact reaches_trace event

section

variable {strict : Bool} {source : Source}

/-- **The log of lines that have their records** is that of the records, one after another. -/
theorem logged_of_buildAll {raws : List Text} {start : Nat} {lines : List Line}
    (h : ((Reader.mk .standard strict).buildAll start raws).result = .ok lines) :
    ∃ logs, List.Forall₂ Line.Logged lines logs ∧
      ((Reader.mk .standard strict).buildAll start raws).events.map Event.record = logs.flatten := by
  induction raws generalizing start lines with
  | nil =>
    obtain rfl : [] = lines := Except.ok.inj h
    exact ⟨[], .nil, rfl⟩
  | cons raw raws ih =>
    rw [Reader.buildAll_cons] at h ⊢
    obtain ⟨line, hline, hrest⟩ := Attempt.result_bind_eq_ok_iff.mp h
    rw [← Attempt.bind_pure_eq_map, Attempt.result_bind_eq_ok_iff] at hrest
    obtain ⟨lines', hlines', hpure⟩ := hrest
    obtain rfl : line :: lines' = lines := Except.ok.inj hpure
    obtain ⟨logs, hlogs, hevents⟩ := ih hlines'
    refine ⟨_ :: logs, .cons (logged_of_build hline) hlogs, ?_⟩
    rw [Attempt.bind_of_ok hline, List.flatten_cons, ← hevents, List.map_append, Attempt.events_map]

/-- **The log of a program** is that of its records, and their number at the end. -/
theorem log_of_parse {p : Program} (h : ((Reader.mk .standard strict).parse source).result = .ok p) :
    ∃ logs, List.Forall₂ Line.Logged p.lines logs ∧
      (Reader.mk .standard strict).log source =
        logs.flatten ++ [(Event.parsed p.lines.length).record] := by
  obtain ⟨hlines, hending⟩ := Reader.result_parse_eq_ok_iff.mp h
  obtain ⟨logs, hlogs, hevents⟩ := logged_of_buildAll hlines
  refine ⟨logs, hlogs, ?_⟩
  rw [Reader.log_eq, Reader.parse, Attempt.bind_of_ok hlines, hending, ← hevents, List.map_append]
  rfl

/-- **The log of a run that fails** ends with what is left of the line that failed, or with the last line
    if it is the source that failed behind it. -/
theorem log_of_parse_error {fault : Fault}
    (h : ((Reader.mk .standard strict).parse source).result = .error fault) :
    ∃ lines logs, List.Forall₂ Line.Logged lines logs ∧
      ((∃ i raw rest, (Reader.mk .standard strict).StopsAt source.rawLines i raw lines fault ∧
          CutShort raw rest ∧ (Reader.mk .standard strict).log source = logs.flatten ++ rest) ∨
        (((Reader.mk .standard strict).buildAll 0 source.rawLines).result = .ok lines ∧
          source.ending = some fault ∧ (Reader.mk .standard strict).log source = logs.flatten)) := by
  rcases Reader.result_parse_eq_error_iff.mp h with ⟨i, raw, lines, hstop⟩ | ⟨⟨lines, hlines⟩, hending⟩
  · obtain ⟨logs, hlogs, hevents⟩ := logged_of_buildAll hstop.before
    refine ⟨lines, logs, hlogs, Or.inl ⟨i, raw, _, hstop, cutShort_of_build hstop.fails, ?_⟩⟩
    rw [Reader.log_eq, hstop.parse, List.map_append, hevents]
  · obtain ⟨logs, hlogs, hevents⟩ := logged_of_buildAll hlines
    refine ⟨lines, logs, hlogs, Or.inr ⟨hlines, hending, ?_⟩⟩
    rw [Reader.log_eq, Reader.parse, Attempt.bind_of_ok hlines, hending, ← hevents]
    exact congrArg (List.map Event.record) (List.append_nil _)

end

/-- **The log tells exactly what was read.**  For every source and readers of the standard table, strict
    or permissive:
    (1) if a program is returned, the log at level TRACE and above is that of its records, one after
        another, and one DEBUG record with the number of lines;
    (2) if reading fails, the log is that of the records before the line which failed, and then of the
        parameters of that line before the token at which it broke off; if it is not a line that
        fails but the source behind its last one, the log is that of all the lines. -/
theorem log_tells (strict : Bool) (source : Source) :
    (∀ p, ((Reader.mk .standard strict).parse source).result = .ok p →
      ∃ logs, List.Forall₂ Line.Logged p.lines logs ∧
        (Reader.mk .standard strict).log source = logs.flatten ++
          [{ level := .debug, log := "gparse.gcode.parser".toText
             message := "Parsed ".toText ++ Text.ofNat p.lines.length ++ " lines".toText }]) ∧
    ∀ fault, ((Reader.mk .standard strict).parse source).result = .error fault →
      ∃ lines logs, List.Forall₂ Line.Logged lines logs ∧
        ((∃ i raw rest, (Reader.mk .standard strict).StopsAt source.rawLines i raw lines fault ∧
            CutShort raw rest ∧ (Reader.mk .standard strict).log source = logs.flatten ++ rest) ∨
          (((Reader.mk .standard strict).buildAll 0 source.rawLines).result = .ok lines ∧
            source.ending = some fault ∧
            (Reader.mk .standard strict).log source = logs.flatten)) := by
  constructor
  · intro p hp
    exact log_of_parse hp
  · intro fault hfault
    exact log_of_parse_error hfault

/-- A text value, then a line whose code is no number: the permissive reader warns of that line and says
    nothing of its parameter, the strict one leaves no trace of it. -/
theorem log_tells_bad_code :
    (∃ p logs, ((Reader.mk .standard false).parse (.text "N1 T=a\nN2 Gx T=b".toText)).result = .ok p ∧
      List.Forall₂ Line.Logged p.lines logs ∧
      (Reader.mk .standard false).log (.text "N1 T=a\nN2 Gx T=b".toText) = logs.flatten ++
        [{ level := .debug, log := "gparse.gcode.parser".toText, message := "Parsed 2 lines".toText }] ∧
      ((Reader.mk .standard false).log (.text "N1 T=a\nN2 Gx T=b".toText)).map Record.message =
        ["value_param_text identifier=T value=\x27a\x27", "line_parsed index=0 type=UNKNOWN_CODE",
          "Treating line 1 as text: G field \x27Gx\x27 is not an integer",
          "line_parsed index=1 type=UNKNOWN_STRING", "Parsed 2 lines"].map String.toText) ∧
    ∃ fault lines logs i raw rest,
      ((Reader.mk .standard true).parse (.text "N1 T=a\nN2 Gx T=b".toText)).result = .error fault ∧
      List.Forall₂ Line.Logged lines logs ∧
      (Reader.mk .standard true).StopsAt (Source.text "N1 T=a\nN2 Gx T=b".toText).rawLines i raw lines
        fault ∧
      CutShort raw rest ∧
      (Reader.mk .standard true).log (.text "N1 T=a\nN2 Gx T=b".toText) = logs.flatten ++ rest ∧
      ((Reader.mk .standard true).log (.text "N1 T=a\nN2 Gx T=b".toText)).map Record.message =
        ["value_param_text identifier=T value=\x27a\x27",
          "line_parsed index=0 type=UNKNOWN_CODE"].map String.toText := by
  constructor
  · have hparse : ((Reader.mk .standard false).parse (.text "N1 T=a\nN2 Gx T=b".toText)).result =
        .ok ⟨[{ index := 0, kind := .otherCode, raw := "N1 T=a".toText, n := some 1,
                parameters := [.text ['T'] ['a']] },
              { index := 1, kind := .text, raw := "N2 Gx T=b".toText }]⟩ := rfl
    obtain ⟨logs, hlogs, hlog⟩ := (log_tells false _).1 _ hparse
    exact ⟨_, logs, hparse, hlogs, hlog, by decide⟩
  · have hparse : ((Reader.mk .standard true).parse (.text "N1 T=a\nN2 Gx T=b".toText)).result =
        .error (.format (.notInteger ['G'] "Gx".toText "N2 Gx T=b".toText 1)) := rfl
    obtain ⟨lines, logs, hlogs, ⟨i, raw, rest, hstop, hrest, hlog⟩ | ⟨_, hending, _⟩⟩ :=
      (log_tells true _).2 _ hparse
    · exact ⟨_, lines, logs, i, raw, rest, hparse, hlogs, hstop, hrest, hlog, by decide⟩
    · exact nomatch hending

end PartProgram
