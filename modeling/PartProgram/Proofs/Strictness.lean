/-
  Strict and permissive readers of the same table.

  1. **Programs** — `b.strictReader` stops at a malformed line; `b.permissiveReader` takes it as plain
     text and warns.  Both go through the same table `b`, whose entries are any functions at all.

  2. **Warnings** — `readerWarnings events`: the messages of the records at level WARNING in the log of
     the reader.  The entries of a table could write there as well; a table that does not is `Quiet`,
     and the standard one is (`Builders.standard_quiet`).

  3. **One line** — unless the strict reader calls the line malformed, the two readers build it alike
     (`build_permissive_eq`).  If it does, the permissive one tells all that the strict one told, then
     the warning, and goes on (`build_permissive_of_strict`).

  4. **A run** — by induction over the lines the two runs are the same up to the first malformed line,
     and from there on the strict run is a prefix of the permissive one
     (`parse_permissive_eq`, `parse_permissive_of_stops`).  `strict_permissive` puts these together.
-/
import PartProgram.Proofs.LineGrammar
import PartProgram.Proofs.Reading

namespace PartProgram

open Reader (StopsAt announce)

/-- The reader of a table that stops at a malformed line. -/
abbrev Builders.strictReader (b : Builders) : Reader := { builders := b, strict := true }

/-- The reader of a table that takes a malformed line as plain text. -/
abbrev Builders.permissiveReader (b : Builders) : Reader := { builders := b, strict := false }

/-! ## Warnings -/

/-- A record at level WARNING in the log of the reader. -/
def Event.IsReaderWarning (event : Event) : Prop :=
  event.record.level = .warning ∧ event.record.log = Event.readerLog

instance (event : Event) : Decidable event.IsReaderWarning :=
  inferInstanceAs (Decidable (event.record.level = .warning ∧ event.record.log = Event.readerLog))

/-- The warnings of the reader among some events, in words and in order. -/
def readerWarnings (events : List Event) : List Text :=
  (events.filter (·.IsReaderWarning)).map (·.record.message)

theorem readerWarnings_eq_nil_iff {events : List Event} :
    readerWarnings events = [] ↔ ∀ event ∈ events, ¬ event.IsReaderWarning := by
  simp [readerWarnings]

theorem readerWarnings_append (events events' : List Event) :
    readerWarnings (events ++ events') = readerWarnings events ++ readerWarnings events' := by
  simp [readerWarnings]

theorem isReaderWarning_demoted (index : Int) (detail : Text) :
    (Event.demoted index detail).IsReaderWarning := ⟨rfl, rfl⟩

/-- `b.Quiet` — classifying a line writes no warning into the log of the reader. -/
def Builders.Quiet (b : Builders) : Prop :=
  ∀ raw index, readerWarnings (b.classify raw index).events = []

/-- The standard table tells nothing but the text values of parameters. -/
theorem Builders.eq_textValue_of_mem_events_classify {raw : Text} {index : Int} {event : Event}
    (h : event ∈ (Builders.standard.classify raw index).events) :
    ∃ key value, event = .textValue key value := by
  rcases malformed_or_grammar raw with hbad | ⟨form, tokens, hform⟩
  · obtain ⟨fault, hfault⟩ := classify_of_malformed hbad index
    rw [hfault] at h
    exact absurd h List.not_mem_nil
  · rw [classify_of_grammar hform index, Attempt.events_map] at h
    obtain ⟨token, _, htoken⟩ := Attempt.exists_of_mem_events_mapM h
    exact Standard.eq_textValue_of_mem_events_param htoken

theorem Builders.standard_quiet : Builders.standard.Quiet := by
  intro raw index
  rw [readerWarnings_eq_nil_iff]
  intro event hevent
  obtain ⟨key, value, rfl⟩ := Builders.eq_textValue_of_mem_events_classify hevent
  rintro ⟨hlevel, _⟩
  exact absurd hlevel (by simp [Event.record])

/-! ## One line -/

section

variable {b : Builders} {raw : Text} {index : Int}

/-- The strict reader fails with a malformed line exactly if the table does. -/
theorem build_strict_format_iff {e : FormatError} :
    (b.strictReader.build raw index).result = .error (.format e) ↔
      (b.classify raw index).result = .error (.format e) := by
  by_cases h : ∃ e', (b.classify raw index).result = .error (.format e')
  · obtain ⟨e', he'⟩ := h
    rw [Reader.build_strict_of_format rfl he', he']
  · have hne : ∀ e', (b.classify raw index).result ≠ .error (.format e') :=
      fun e' he' => h ⟨e', he'⟩
    rw [Reader.build_of_ne hne, Reader.result_announce]

theorem build_permissive_eq
    (h : ∀ e, (b.strictReader.build raw index).result ≠ .error (.format e)) :
    b.permissiveReader.build raw index = b.strictReader.build raw index := by
  have hne : ∀ e, (b.classify raw index).result ≠ .error (.format e) :=
    fun e he => h e (build_strict_format_iff.mpr he)
  rw [Reader.build_of_ne hne, Reader.build_of_ne hne]

/-- What the permissive reader does with a line that stops the strict one. -/
theorem build_permissive_of_strict {e : FormatError}
    (h : (b.strictReader.build raw index).result = .error (.format e)) :
    b.permissiveReader.build raw index =
      ⟨(b.strictReader.build raw index).events ++ .demoted index e.detail ::
          (announce index (b.textLine raw index)).events,
        (b.textLine raw index).result⟩ := by
  have hformat := build_strict_format_iff.mp h
  rw [Reader.build_permissive_of_format rfl hformat, Reader.build_strict_of_format rfl hformat]

/-- The strict reader tells of a line what the table tells, and that it has its record. -/
theorem mem_events_build_strict {event : Event}
    (h : event ∈ (b.strictReader.build raw index).events) :
    event ∈ (b.classify raw index).events ∨ ∃ kind, event = .lineParsed index kind := by
  by_cases hformat : ∃ e, (b.classify raw index).result = .error (.format e)
  · obtain ⟨e, he⟩ := hformat
    rw [Reader.build_strict_of_format rfl he] at h
    exact Or.inl h
  · rw [Reader.build_of_ne fun e he => hformat ⟨e, he⟩] at h
    cases hresult : (b.classify raw index).result with
    | error fault =>
      rw [Reader.announce_of_error hresult] at h
      exact Or.inl h
    | ok line =>
      rw [Reader.announce_of_ok hresult] at h
      rcases List.mem_append.mp h with h | h
      · exact Or.inl h
      · exact Or.inr ⟨line.kind, List.mem_singleton.mp h⟩

end

/-! ## A run -/

section

variable {b : Builders}

/-- **The two runs are the same** as long as the strict one does not come to a malformed line. -/
theorem buildAll_permissive_eq {raws : List Text} {start : Nat}
    (h : ∀ e, (b.strictReader.buildAll start raws).result ≠ .error (.format e)) :
    b.permissiveReader.buildAll start raws = b.strictReader.buildAll start raws := by
  induction raws generalizing start with
  | nil => rfl
  | cons raw raws ih =>
    rw [Reader.buildAll_cons] at h
    -- a malformed line at this place would end the strict run
    have hline : b.permissiveReader.build raw start = b.strictReader.build raw start := by
      refine build_permissive_eq fun e he => h e ?_
      rw [Attempt.bind_of_error he]
    rw [Reader.buildAll_cons, Reader.buildAll_cons, hline]
    cases hresult : (b.strictReader.build raw start).result with
    | error fault => rw [Attempt.bind_of_error hresult, Attempt.bind_of_error hresult]
    | ok line =>
      -- the rest of the strict run does not end with a malformed line either
      have hrest : ∀ e, (b.strictReader.buildAll (start + 1) raws).result ≠ .error (.format e) := by
        intro e he
        apply h e
        rw [Attempt.bind_of_ok hresult, Attempt.result_map, he]
        rfl
      rw [Attempt.bind_of_ok hresult, Attempt.bind_of_ok hresult, ih hrest]

/-- A strict run tells what the table tells of its lines, and which lines have their record. -/
theorem mem_events_buildAll_strict {raws : List Text} {start : Nat} {event : Event}
    (h : event ∈ (b.strictReader.buildAll start raws).events) :
    (∃ raw index, event ∈ (b.classify raw index).events) ∨
      ∃ index kind, event = .lineParsed index kind := by
  induction raws generalizing start with
  | nil => exact absurd h List.not_mem_nil
  | cons raw raws ih =>
    rw [Reader.buildAll_cons, Attempt.mem_events_bind] at h
    rcases h with h | ⟨line, _, h⟩
    · rcases mem_events_build_strict h with h | ⟨kind, rfl⟩
      · exact Or.inl ⟨raw, start, h⟩
      · exact Or.inr ⟨start, kind, rfl⟩
    · exact ih h

theorem mem_events_parse_strict {source : Source} {event : Event}
    (h : event ∈ (b.strictReader.parse source).events) :
    (∃ raw index, event ∈ (b.classify raw index).events) ∨
      (∃ index kind, event = .lineParsed index kind) ∨ ∃ count, event = .parsed count := by
  rcases Reader.events_parse (r := b.strictReader) source with heq | ⟨count, heq⟩
  · rw [heq] at h
    exact (mem_events_buildAll_strict h).imp_right Or.inl
  · rw [heq] at h
    rcases List.mem_append.mp h with h | h
    · exact (mem_events_buildAll_strict h).imp_right Or.inl
    · exact Or.inr (Or.inr ⟨count, List.mem_singleton.mp h⟩)

/-- Under a quiet table a strict reader never warns. -/
theorem readerWarnings_parse_strict (hquiet : b.Quiet) (source : Source) :
    readerWarnings (b.strictReader.parse source).events = [] := by
  rw [readerWarnings_eq_nil_iff]
  intro event hevent
  rcases mem_events_parse_strict hevent with ⟨raw, index, h⟩ | ⟨index, kind, rfl⟩ | ⟨count, rfl⟩
  · exact readerWarnings_eq_nil_iff.mp (hquiet raw index) event h
  · rintro ⟨hlevel, _⟩
    exact absurd hlevel (by simp [Event.record])
  · rintro ⟨hlevel, _⟩
    exact absurd hlevel (by simp [Event.record])

/-- Under the standard table a strict reader tells no warning at all, in whatever log. -/
theorem level_ne_warning_of_mem_events_parse {source : Source} {event : Event}
    (h : event ∈ (Builders.standard.strictReader.parse source).events) :
    event.record.level ≠ .warning := by
  rcases mem_events_parse_strict h with ⟨raw, index, h⟩ | ⟨index, kind, rfl⟩ | ⟨count, rfl⟩
  · obtain ⟨key, value, rfl⟩ := Builders.eq_textValue_of_mem_events_classify h
    simp [Event.record]
  · simp [Event.record]
  · simp [Event.record]

variable {source : Source}

/-- **Where no malformed line stops the strict reader, the permissive one does the same.** -/
theorem parse_permissive_eq
    (h : ∀ i raw lines e, ¬ b.strictReader.StopsAt source.rawLines i raw lines (.format e)) :
    b.permissiveReader.parse source = b.strictReader.parse source := by
  have hrun : b.permissiveReader.buildAll 0 source.rawLines =
      b.strictReader.buildAll 0 source.rawLines := by
    refine buildAll_permissive_eq fun e he => ?_
    obtain ⟨i, raw, lines, hstop⟩ := Reader.result_buildAll_eq_error_iff.mp he
    exact h i raw lines e hstop
  unfold Reader.parse
  rw [hrun]

/-- A strict reader that stops at a malformed line fails with it, so any other outcome is shared. -/
theorem parse_permissive_eq_of_ne (h : ∀ e, (b.strictReader.parse source).result ≠ .error (.format e)) :
    b.permissiveReader.parse source = b.strictReader.parse source := by
  refine parse_permissive_eq fun i raw lines e hstop => h e ?_
  rw [hstop.parse]

variable {i : Nat} {raw : Text} {lines : List Line} {e : FormatError}

/-- The lines before the one that stops the strict reader are read alike. -/
theorem buildAll_take_of_stops {raws : List Text}
    (h : b.strictReader.StopsAt raws i raw lines (.format e)) :
    b.permissiveReader.buildAll 0 (raws.take i) = b.strictReader.buildAll 0 (raws.take i) := by
  refine buildAll_permissive_eq fun e' he' => ?_
  rw [h.before] at he'
  exact absurd he' (by simp)

/-- **Where a malformed line stops the strict reader, the permissive one goes on**: it tells what the
    strict one told up to there, then warns of the line. -/
theorem events_parse_permissive_of_stops
    (h : b.strictReader.StopsAt source.rawLines i raw lines (.format e)) :
    ∃ rest, (b.permissiveReader.parse source).events =
      (b.strictReader.parse source).events ++ .demoted i e.detail :: rest := by
  -- The lines before are read alike, then the line itself is told of; what follows does not matter.
  obtain ⟨rest, hrest⟩ : ∃ rest, (b.permissiveReader.buildAll 0 source.rawLines).events =
      (b.strictReader.parse source).events ++ .demoted i e.detail :: rest := by
    rw [Reader.buildAll_split h.position, buildAll_take_of_stops h, Attempt.bind_of_ok h.before,
      Reader.buildAll_cons, Attempt.events_map, h.parse]
    obtain ⟨rest, hrest⟩ := Attempt.exists_events_bind_eq (b.permissiveReader.build raw i)
      fun line => (line :: ·) <$> b.permissiveReader.buildAll (i + 1) (source.rawLines.drop (i + 1))
    rw [hrest, build_permissive_of_strict h.fails]
    exact ⟨(announce i (b.textLine raw i)).events ++ rest, by simp⟩
  obtain ⟨more, hmore⟩ : ∃ more, (b.permissiveReader.parse source).events =
      (b.permissiveReader.buildAll 0 source.rawLines).events ++ more :=
    Attempt.exists_events_bind_eq _ _
  rw [hmore, hrest]
  exact ⟨rest ++ more, by simp⟩

/-- A program that the permissive reader returns begins with the records of the strict one. -/
theorem take_of_stops (h : b.strictReader.StopsAt source.rawLines i raw lines (.format e))
    {p : Program} (hp : (b.permissiveReader.parse source).result = .ok p) :
    p.lines.take i = lines := by
  obtain ⟨hlt, _⟩ := List.getElem?_eq_some_iff.mp h.position
  have hlength : lines.length = i := by
    rw [(Reader.getElem?_of_buildAll_ok h.before).1, List.length_take]
    omega
  have hlines := (Reader.result_parse_eq_ok_iff.mp hp).1
  rw [Reader.buildAll_split h.position, buildAll_take_of_stops h, Attempt.bind_of_ok h.before,
    ← Attempt.bind_pure_eq_map, Attempt.result_bind_eq_ok_iff] at hlines
  obtain ⟨lines', _, hpure⟩ := hlines
  rw [← show lines ++ lines' = p.lines from Except.ok.inj hpure, ← hlength, List.take_left]

/-- The standard table makes plain text of a malformed line, with nothing but its envelope. -/
theorem build_demoted_standard {index : Int}
    (h : (Builders.standard.classify raw index).result = .error (.format e)) :
    (Builders.standard.permissiveReader.build raw index).result =
      .ok { index, kind := .text, raw } := by
  rw [Reader.build_permissive_of_format rfl h, Builders.standard_textLine]
  rfl

end

/-! ## The two readers side by side -/

/-- Under a quiet table, the first warning of the permissive reader is that of the line which stops
    the strict one. -/
theorem head?_readerWarnings_of_stops {b : Builders} {source : Source} {i : Nat} {raw : Text}
    {lines : List Line} {e : FormatError} (hquiet : b.Quiet)
    (h : b.strictReader.StopsAt source.rawLines i raw lines (.format e)) :
    (readerWarnings (b.permissiveReader.parse source).events).head? =
      some ("Treating line ".toText ++ Text.ofInt i ++ " as text: ".toText ++ e.detail) := by
  obtain ⟨rest, hrest⟩ := events_parse_permissive_of_stops h
  rw [hrest, readerWarnings_append, readerWarnings_parse_strict hquiet, List.nil_append,
    readerWarnings, List.filter_cons_of_pos (by simpa using isReaderWarning_demoted i e.detail)]
  rfl

/-- The line that stops the strict reader of the standard table is plain text in the program that the
    permissive one returns. -/
theorem getElem?_of_stops {source : Source} {i : Nat} {raw : Text} {lines : List Line}
    {e : FormatError}
    (h : Builders.standard.strictReader.StopsAt source.rawLines i raw lines (.format e))
    {p : Program} (hp : (Builders.standard.permissiveReader.parse source).result = .ok p) :
    p.lines[i]? = some { index := i, kind := .text, raw } := by
  have hlines := (Reader.result_parse_eq_ok_iff.mp hp).1
  obtain ⟨line, hget, hline⟩ := (Reader.getElem?_of_buildAll_ok hlines).2 i raw h.position
  rw [Nat.zero_add, build_demoted_standard (build_strict_format_iff.mp h.fails)] at hline
  rw [hget, ← Except.ok.inj hline]

/-- **Under the standard table, strict success is permissive success without a warning.** -/
theorem exists_parse_strict_ok_iff {source : Source} :
    (∃ p, (Builders.standard.strictReader.parse source).result = .ok p) ↔
      (∃ p, (Builders.standard.permissiveReader.parse source).result = .ok p) ∧
        ∀ event ∈ (Builders.standard.permissiveReader.parse source).events,
          event.record.level ≠ .warning := by
  constructor
  · rintro ⟨p, hp⟩
    have heq : Builders.standard.permissiveReader.parse source =
        Builders.standard.strictReader.parse source := parse_permissive_eq_of_ne (by simp [hp])
    rw [heq]
    exact ⟨⟨p, hp⟩, fun event hevent => level_ne_warning_of_mem_events_parse hevent⟩
  · rintro ⟨⟨p, hp⟩, hsilent⟩
    -- a malformed line would have been warned of
    have heq : Builders.standard.permissiveReader.parse source =
        Builders.standard.strictReader.parse source := by
      refine parse_permissive_eq fun i raw lines e hstop => ?_
      obtain ⟨rest, hrest⟩ := events_parse_permissive_of_stops hstop
      have hmem : Event.demoted i e.detail ∈
          (Builders.standard.permissiveReader.parse source).events := by
        rw [hrest]
        exact List.mem_append_right _ List.mem_cons_self
      exact hsilent _ hmem rfl
    rw [heq] at hp
    exact ⟨p, hp⟩

/-- **Strict and permissive readers agree.**  For every table `b` and every source:
    (a) if the strict reader returns a program, the permissive one does the same, record by record
        and event by event, and never warns;
    (b) if the strict reader stops at a malformed line, the permissive one reads the lines before it
        alike and first warns of that very line; under the standard table the line becomes plain text
        with nothing but its index and itself;
    (c) if anything else stops the strict reader, it stops the permissive one in the same way;
    (d) so under the standard table the strict reader succeeds exactly if the permissive one does
        without a warning. -/
theorem strict_permissive (b : Builders) (source : Source) :
    (∀ p, (b.strictReader.parse source).result = .ok p →
      b.permissiveReader.parse source = b.strictReader.parse source ∧
      (b.Quiet → readerWarnings (b.permissiveReader.parse source).events = [])) ∧
    (∀ i raw lines e, b.strictReader.StopsAt source.rawLines i raw lines (.format e) →
      (b.strictReader.parse source).result = .error (.format e) ∧
      b.permissiveReader.buildAll 0 (source.rawLines.take i) =
        b.strictReader.buildAll 0 (source.rawLines.take i) ∧
      (∀ p, (b.permissiveReader.parse source).result = .ok p → p.lines.take i = lines) ∧
      (∃ rest, (b.permissiveReader.parse source).events =
        (b.strictReader.parse source).events ++ .demoted i e.detail :: rest) ∧
      (b.Quiet → (readerWarnings (b.permissiveReader.parse source).events).head? =
        some ("Treating line ".toText ++ Text.ofInt i ++ " as text: ".toText ++ e.detail)) ∧
      (b = .standard →
        (b.permissiveReader.build raw i).result = .ok { index := i, kind := .text, raw } ∧
        ∀ p, (b.permissiveReader.parse source).result = .ok p →
          p.lines[i]? = some { index := i, kind := .text, raw })) ∧
    (∀ fault, (b.strictReader.parse source).result = .error fault →
      ((∀ e, fault ≠ .format e) ∨
        ∀ i raw lines e, ¬ b.strictReader.StopsAt source.rawLines i raw lines (.format e)) →
      b.permissiveReader.parse source = b.strictReader.parse source) ∧
    (b = .standard →
      ((∃ p, (b.strictReader.parse source).result = .ok p) ↔
        (∃ p, (b.permissiveReader.parse source).result = .ok p) ∧
          ∀ event ∈ (b.permissiveReader.parse source).events, event.record.level ≠ .warning)) := by
  refine ⟨fun p hp => ?_, fun i raw lines e hstop => ?_, fun fault hfault hother => ?_, ?_⟩
  · have heq : b.permissiveReader.parse source = b.strictReader.parse source :=
      parse_permissive_eq_of_ne (by simp [hp])
    refine ⟨heq, fun hquiet => ?_⟩
    rw [heq]
    exact readerWarnings_parse_strict hquiet source
  · refine ⟨by rw [hstop.parse], buildAll_take_of_stops hstop, fun p hp => take_of_stops hstop hp,
      events_parse_permissive_of_stops hstop,
      fun hquiet => head?_readerWarnings_of_stops hquiet hstop, ?_⟩
    rintro rfl
    exact ⟨build_demoted_standard (build_strict_format_iff.mp hstop.fails),
      fun p hp => getElem?_of_stops hstop hp⟩
  · rcases hother with hne | hnone
    · exact parse_permissive_eq_of_ne (by simpa [hfault] using hne)
    · exact parse_permissive_eq hnone
  · rintro rfl
    exact exists_parse_strict_ok_iff

/-- A line number that is no number, behind a good line and before a comment: the strict reader stops at
    it, and the permissive one keeps the line before it, takes it for text and warns of it. -/
theorem strict_permissive_bad_number :
    ∃ e p, Builders.standard.strictReader.StopsAt (Source.text "N1 X=5\nNx\n;c".toText).rawLines 1
        "Nx".toText [{ index := 0, kind := .otherCode, raw := "N1 X=5".toText, n := some 1
                       parameters := [.integer ['X'] 5] }] (.format e) ∧
      (Builders.standard.permissiveReader.parse (.text "N1 X=5\nNx\n;c".toText)).result = .ok p ∧
      p.size = 3 ∧
      p.lines.take 1 = [{ index := 0, kind := .otherCode, raw := "N1 X=5".toText, n := some 1
                          parameters := [.integer ['X'] 5] }] ∧
      p.lines[1]? = some { index := 1, kind := .text, raw := "Nx".toText } ∧
      (readerWarnings
          (Builders.standard.permissiveReader.parse (.text "N1 X=5\nNx\n;c".toText)).events).head? =
        some "Treating line 1 as text: N field \x27Nx\x27 is not an integer".toText := by
  have hno : ¬ ∃ negative digits, Numeral.IsLiteral ['x'] negative digits :=
    Numeral.integer?_eq_none_iff.mp (by decide)
  have hbad : Faulty "Nx".toText 'N' ['x'] := by
    have hword : Text.words "Nx".toText = ["Nx".toText] := by decide
    refine Faulty.number (Text.words_eq_iff.mp hword) fun ⟨n, negative, digits, hlit, _⟩ => ?_
    exact hno ⟨negative, digits, hlit⟩
  have hstop : Builders.standard.strictReader.StopsAt
      (Source.text "N1 X=5\nNx\n;c".toText).rawLines 1 "Nx".toText
      [{ index := 0, kind := .otherCode, raw := "N1 X=5".toText, n := some 1
         parameters := [.integer ['X'] 5] }]
      (.format (.notInteger ['N'] "Nx".toText "Nx".toText 1)) := by
    refine ⟨by decide, rfl, build_strict_format_iff.mpr ?_⟩
    exact congrArg Attempt.result (classify_of_faulty_text hbad hno 1)
  obtain ⟨p, hp, hsize⟩ : ∃ p, (Builders.standard.permissiveReader.parse
      (.text "N1 X=5\nNx\n;c".toText)).result = .ok p ∧ p.size = 3 := ⟨_, rfl, rfl⟩
  obtain ⟨_, _, hbefore, _, hwarning, hline⟩ :=
    (strict_permissive .standard (.text "N1 X=5\nNx\n;c".toText)).2.1 _ _ _ _ hstop
  refine ⟨_, p, hstop, hp, hsize, hbefore p hp, (hline rfl).2 p hp, ?_⟩
  rw [hwarning Builders.standard_quiet]
  decide

end PartProgram
