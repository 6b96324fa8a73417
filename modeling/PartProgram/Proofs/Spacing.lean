/-
  Only the words of a line matter.

  1. **Program** — reading a line takes off its line end, looks at its first character, then at its
     words; a comment is searched for in the raw text once more.

  2. **Specification** — `SameOutcome`: two lines are read to records that agree in everything but the
     raw text, or fail with errors that agree in everything but the raw line.  Of a comment the text
     may differ, but not its words.

  3. **Two runs over one grammar (`Grammar.of_words`, `Faulty.of_words`)** — all forms but that of a
     comment are said of the words alone, so a line with the same words has the same form; and both
     lines are then read by the one equation for that form.

  4. **Line ends and early exits** — a line end is a blank, so taking it off leaves the words as they
     are (`words_chomp`); the tests on the first character decide nothing that the words would not
     decide in the same way (`classify_eq_words`).
-/
import PartProgram.Proofs.Recovery
import PartProgram.Proofs.Text.Columns

namespace PartProgram

open Text (Blanks Spaced words)

/-! ## The same outcome -/

/-- `line.Alike other` — the two records agree, but for the raw text and the blanks in a comment. -/
structure Line.Alike (line other : Line) : Prop where
  index : line.index = other.index
  kind : line.kind = other.kind
  n : line.n = other.n
  code : line.code = other.code
  parameters : line.parameters = other.parameters
  /-- A comment is there in both, with the same words. -/
  comment : line.kind = .comment →
    ∃ text text', line.comment = some text ∧ other.comment = some text' ∧ text.words = text'.words

/-- `fault.Alike other` — the two faults are of one kind with one message, and if they are those of
    malformed lines, all agrees but the raw line. -/
def Fault.Alike (fault other : Fault) : Prop :=
  fault.message = other.message ∧
    match fault, other with
    | .format e, .format e' => e.detail = e'.detail ∧ e.field = e'.field ∧ e.index = e'.index
    | _, _ => fault = other

/-- `SameOutcome x y` — both succeed with records that are alike, or both fail with faults that are. -/
inductive SameOutcome : Except Fault Line → Except Fault Line → Prop where
  | record {line other : Line} (h : line.Alike other) : SameOutcome (.ok line) (.ok other)
  | fault {fault other : Fault} (h : fault.Alike other) : SameOutcome (.error fault) (.error other)

theorem Fault.Alike.of_ne {fault : Fault} (h : ∀ e, fault ≠ .format e) : fault.Alike fault := by
  refine ⟨rfl, ?_⟩
  cases fault with
  | format e => exact absurd rfl (h e)
  | _ => rfl

/-- A malformed line on one side is one on the other. -/
theorem SameOutcome.exists_format {x : Except Fault Line} {e : FormatError}
    (h : SameOutcome (.error (.format e)) x) :
    ∃ e', x = .error (.format e') ∧ (Fault.format e).Alike (.format e') := by
  cases h with
  | @fault _ other h =>
    cases other with
    | format e' => exact ⟨e', rfl, h⟩
    | _ => exact nomatch h.2

theorem SameOutcome.ne_format {x y : Except Fault Line} (h : SameOutcome x y)
    (hx : ∀ e, x ≠ .error (.format e)) : ∀ e, y ≠ .error (.format e) := by
  rintro e rfl
  cases h with
  | @fault fault _ h =>
    cases fault with
    | format e' => exact hx e' rfl
    | _ => exact nomatch h.2

/-! ## Line ends are blanks -/

theorem Text.words_chomp (t : Text) : words t.chomp = words t := by
  have hcr : Blanks ['\r'] := List.all_eq_true.mp rfl
  have hlf : Blanks ['\n'] := List.all_eq_true.mp rfl
  have hcrlf : Blanks ['\r', '\n'] := List.all_eq_true.mp rfl
  have hchomp := Text.withoutLineEnd_chomp t
  generalize t.chomp = raw at hchomp
  cases hchomp with
  | crlf => exact (Text.words_append_blanks raw hcrlf).symm
  | lf _ => exact (Text.words_append_blanks raw hlf).symm
  | cr => exact (Text.words_append_blanks raw hcr).symm
  | none _ _ => rfl

section

variable {raw other : Text} (hwords : raw.words = other.words)

include hwords

/-! ## One grammar for both lines -/

theorem spaced_of_words {ws : List Text} (h : Spaced raw ws) : Spaced other ws := by
  rw [← Text.words_eq_iff, ← hwords]
  exact Text.words_of_spaced h

/-- A line with the words of a malformed one is malformed by the same field. -/
theorem Faulty.of_words {letter : CodePoint} {number : Text} (h : Faulty raw letter number) :
    Faulty other letter number := by
  cases h with
  | number hs hno => exact .number (spaced_of_words hwords hs) hno
  | code hs hn hletter hno => exact .code (spaced_of_words hwords hs) hn hletter hno

end

/-- `form.Alike form'` — the forms are the same, but for the blanks in a comment. -/
def Form.Alike : Form → Form → Prop
  | .comment found, .comment found' => found.words = found'.words
  | form, form' => form = form'

/-- **A line with the same words has the same form** and the same parameter tokens. -/
theorem Grammar.of_words {raw other : Text} (hwords : raw.words = other.words) {form : Form}
    {tokens : List Text} (h : Grammar raw form tokens) :
    ∃ form', form.Alike form' ∧ Grammar other form' tokens := by
  cases h with
  | blank hblanks =>
    have hother : other.words = [] := hwords.symm.trans (Text.words_of_blanks hblanks)
    exact ⟨_, rfl, .blank (Text.words_eq_nil_iff.mp hother)⟩
  | @comment gap rest hgap heq =>
    -- the first word of the other line begins with a semicolon as well, behind another gap
    obtain ⟨w, ws, hfirst⟩ : ∃ w ws, words raw = ((';' : CodePoint) :: w) :: ws :=
      Text.words_head_iff.mpr ⟨gap, rest, hgap, Standard.isBlank_semicolon, heq⟩
    obtain ⟨gap', rest', hgap', _, rfl⟩ := Text.words_head_iff.mp ⟨w, ws, hwords.symm.trans hfirst⟩
    have htext : words (';' :: rest) = words (';' :: rest') := by
      rw [← Text.words_append_of_blanks hgap, ← heq, hwords, Text.words_append_of_blanks hgap']
    exact ⟨.comment (';' :: rest'), htext, .comment hgap' rfl⟩
  | gCode hs hn hcode => exact ⟨_, rfl, .gCode (spaced_of_words hwords hs) hn hcode⟩
  | mCode hs hn hcode => exact ⟨_, rfl, .mCode (spaced_of_words hwords hs) hn hcode⟩
  | otherCode hs hn hother => exact ⟨_, rfl, .otherCode (spaced_of_words hwords hs) hn hother⟩
  | control hs => exact ⟨_, rfl, .control (spaced_of_words hwords hs)⟩
  | text hs hc => exact ⟨_, rfl, .text (spaced_of_words hwords hs) hc⟩

/-- Forms that are alike give records that are. -/
theorem Form.Alike.line {form form' : Form} (h : form.Alike form') {raw other : Text}
    (hwords : raw.words = other.words) (index : Int) (ps : List Param) :
    (form.line raw index ps).Alike (form'.line other index ps) := by
  by_cases hcomment : ∃ found found', form = .comment found ∧ form' = .comment found'
  · obtain ⟨found, found', rfl, rfl⟩ := hcomment
    exact ⟨rfl, rfl, rfl, rfl, rfl, fun _ => ⟨found, found', rfl, rfl, h⟩⟩
  · have heq : form = form' := by
      cases form with
      | comment found =>
        cases form' with
        | comment found' => exact absurd ⟨found, found', rfl, rfl⟩ hcomment
        | _ => exact h
      | _ => exact h
    subst heq
    cases form with
    | comment found => exact absurd ⟨found, found, rfl, rfl⟩ hcomment
    | control =>
      refine ⟨rfl, ?_, rfl, rfl, rfl, fun hkind => ?_⟩
      · show Standard.controlKind _ = Standard.controlKind _
        rw [hwords]
      · have hcontrol := isControl_controlKind (Text.lower ((raw.words.headD []).drop 1))
        rw [show Standard.controlKind _ = LineKind.comment from hkind] at hcontrol
        exact absurd hcontrol (by decide)
    | _ => exact ⟨rfl, rfl, rfl, rfl, rfl, nofun⟩

/-! ## Reading -/

/-- The errors of one field of two lines are alike. -/
theorem FormatError.alike_notInteger (field token raw other : Text) (index : Int) :
    (Fault.format (.notInteger field token raw index)).Alike
      (.format (.notInteger field token other index)) :=
  ⟨rfl, rfl, rfl, rfl⟩

/-- **Lines with the same words are classified alike**, and the same is told. -/
theorem classify_of_words {raw other : Text} (hwords : raw.words = other.words) (index : Int) :
    (Builders.standard.classify raw index).events =
        (Builders.standard.classify other index).events ∧
      SameOutcome (Builders.standard.classify raw index).result
        (Builders.standard.classify other index).result := by
  rcases malformed_or_grammar raw with ⟨letter, number, hbad⟩ | ⟨form, tokens, hform⟩
  · have hbad' := hbad.of_words hwords
    rcases Numeral.integer?_cases number with ⟨hno, _⟩ | ⟨v, hv, _⟩ | ⟨n, hn, _⟩
    · rw [classify_of_faulty_text hbad hno, classify_of_faulty_text hbad' hno]
      exact ⟨rfl, .fault (FormatError.alike_notInteger _ _ _ _ _)⟩
    · exact absurd ⟨v, hv⟩ hbad.not_denotes
    · rw [classify_of_faulty_overlong hbad hn, classify_of_faulty_overlong hbad' hn]
      exact ⟨rfl, .fault (.of_ne nofun)⟩
  · obtain ⟨form', halike, hform'⟩ := hform.of_words hwords
    rw [classify_of_grammar hform, classify_of_grammar hform']
    refine ⟨rfl, ?_⟩
    rw [Attempt.result_map, Attempt.result_map]
    cases hps : (tokens.mapM (Standard.param .standard)).result with
    | ok ps => exact .record (halike.line hwords index ps)
    | error fault =>
      -- the fault of a parameter knows nothing of the line
      obtain ⟨token, hmem, htoken⟩ := Attempt.exists_of_result_mapM_eq_error hps
      obtain ⟨n, _, rfl⟩ := (Standard.param_eq_error_iff (hform.ne_nil token hmem)).mp htoken
      exact .fault (.of_ne nofun)

/-- Two announcements of outcomes that are alike tell the same. -/
theorem events_announce_of_alike {x y : Attempt Line} (hevents : x.events = y.events)
    (h : SameOutcome x.result y.result) (index : Int) :
    (Reader.announce index x).events = (Reader.announce index y).events := by
  generalize hx : x.result = outcome at h
  generalize hy : y.result = outcome' at h
  cases h with
  | record h =>
    rw [Reader.announce_of_ok hx, Reader.announce_of_ok hy]
    show x.events ++ _ = y.events ++ _
    rw [hevents, h.kind]
  | fault _ =>
    rw [Reader.announce_of_error hx, Reader.announce_of_error hy]
    exact hevents

/-- **Lines with the same words are read alike**, by strict and by permissive readers. -/
theorem build_of_words {raw other : Text} (hwords : raw.words = other.words) (strict : Bool)
    (index : Int) :
    ((Reader.mk .standard strict).build raw index).events =
        ((Reader.mk .standard strict).build other index).events ∧
      SameOutcome ((Reader.mk .standard strict).build raw index).result
        ((Reader.mk .standard strict).build other index).result := by
  obtain ⟨hevents, hsame⟩ := classify_of_words hwords index
  by_cases hformat : ∃ e, (Builders.standard.classify raw index).result = .error (.format e)
  · obtain ⟨e, he⟩ := hformat
    rw [he] at hsame
    obtain ⟨e', he', halike⟩ := hsame.exists_format
    cases strict with
    | true =>
      rw [Reader.build_strict_of_format rfl he, Reader.build_strict_of_format rfl he']
      exact ⟨hevents, .fault halike⟩
    | false =>
      -- both lines are demoted, with the same warning
      rw [Reader.build_permissive_of_format rfl he, Reader.build_permissive_of_format rfl he',
        Builders.standard_textLine]
      constructor
      · show _ ++ Event.demoted index e.detail :: _ = _ ++ Event.demoted index e'.detail :: _
        rw [hevents, halike.2.1]
        rfl
      · exact .record ⟨rfl, rfl, rfl, rfl, rfl, nofun⟩
  · have hhere : ∀ e, (Builders.standard.classify raw index).result ≠ .error (.format e) :=
      fun e he => hformat ⟨e, he⟩
    have hthere := hsame.ne_format hhere
    rw [Reader.build_of_ne hhere, Reader.build_of_ne hthere]
    refine ⟨events_announce_of_alike hevents hsame index, ?_⟩
    rw [Reader.result_announce, Reader.result_announce]
    exact hsame

theorem parseLine_of_words {raw other : Text} (hwords : raw.words = other.words) (strict : Bool)
    (index : Int) :
    ((Reader.mk .standard strict).parseLine raw index).events =
        ((Reader.mk .standard strict).parseLine other index).events ∧
      SameOutcome ((Reader.mk .standard strict).parseLine raw index).result
        ((Reader.mk .standard strict).parseLine other index).result := by
  have hchomp : raw.chomp.words = other.chomp.words := by
    rw [Text.words_chomp, Text.words_chomp, hwords]
  exact build_of_words hchomp strict index

/-! ## Other blanks, the same words -/

/-- `Respaced raw other` — the two lines differ in their blanks: those in front, those behind, or those
    in one of the gaps between words. -/
inductive Respaced : Text → Text → Prop where
  | ends {body gap gap' trail trail' : Text} (hgap : Blanks gap) (hgap' : Blanks gap')
      (htrail : Blanks trail) (htrail' : Blanks trail') :
      Respaced (gap ++ (body ++ trail)) (gap' ++ (body ++ trail'))
  | between {front back gap gap' : Text} (hgap : Blanks gap) (hne : gap ≠ []) (hgap' : Blanks gap')
      (hne' : gap' ≠ []) : Respaced (front ++ (gap ++ back)) (front ++ (gap' ++ back))

/-- A gap keeps apart what stands before it and what stands behind it. -/
theorem Text.words_append_gap {gap : Text} (hgap : Blanks gap) (hne : gap ≠ []) (front back : Text) :
    words (front ++ (gap ++ back)) = words front ++ words back := by
  obtain ⟨c, gap, rfl⟩ := List.exists_cons_of_ne_nil hne
  obtain ⟨hc, hrest⟩ := List.forall_mem_cons.mp hgap
  rw [List.cons_append, Text.words_append_cons hc, Text.words_append_of_blanks hrest]

theorem Respaced.words_eq {raw other : Text} (h : Respaced raw other) : raw.words = other.words := by
  cases h with
  | ends hgap hgap' htrail htrail' =>
    rw [Text.words_append_of_blanks hgap, Text.words_append_of_blanks hgap',
      Text.words_append_blanks _ htrail, Text.words_append_blanks _ htrail']
  | between hgap hne hgap' hne' =>
    rw [Text.words_append_gap hgap hne, Text.words_append_gap hgap' hne']

/-! ## Only the words matter -/

/-- **Only the words of a line matter.**  For two lines with the same words, every index, strict and
    permissive readers:
    (1) both lines fail with faults that are alike, or both give records that are, and the same is told;
    (2) the early exits on an empty line and on a leading semicolon decide nothing, whatever the table:
        the words alone give the same;
    (3) so it is for every line that differs from the first in its blanks, in front, behind or between
        the words. -/
theorem words_suffice (strict : Bool) (raw other : Text) (index : Int)
    (hwords : raw.words = other.words) :
    (SameOutcome ((Reader.mk .standard strict).parseLine raw index).result
        ((Reader.mk .standard strict).parseLine other index).result ∧
      ((Reader.mk .standard strict).parseLine raw index).events =
        ((Reader.mk .standard strict).parseLine other index).events) ∧
    (∀ table line, Standard.classify table line index =
      Standard.classifyTokens table line line.words index) ∧
    ∀ respaced, Respaced raw respaced →
      SameOutcome ((Reader.mk .standard strict).parseLine respaced index).result
        ((Reader.mk .standard strict).parseLine other index).result := by
  obtain ⟨hevents, hsame⟩ := parseLine_of_words hwords strict index
  refine ⟨⟨hsame, hevents⟩, fun table line => Standard.classify_eq_words table line index,
    fun respaced h => ?_⟩
  exact (parseLine_of_words (h.words_eq.symm.trans hwords) strict index).2

/-- An indented comment with an ideographic space and a line end, against one without. -/
theorem words_suffice_comment :
    (Text.words "\t;a\u3000b \r\n".toText = Text.words ";a b".toText) ∧
    ∃ line other, ((Reader.mk .standard true).parseLine "\t;a\u3000b \r\n".toText 7).result = .ok line ∧
      ((Reader.mk .standard true).parseLine ";a b".toText 7).result = .ok other ∧
      line.comment = some ";a\u3000b ".toText ∧ other.comment = some ";a b".toText ∧
      line.Alike other := by
  have hwords : Text.words "\t;a\u3000b \r\n".toText = Text.words ";a b".toText := by decide
  obtain ⟨⟨hsame, _⟩, _⟩ := words_suffice true "\t;a\u3000b \r\n".toText ";a b".toText 7 hwords
  refine ⟨hwords, _, _, rfl, rfl, rfl, rfl, ?_⟩
  cases hsame with
  | record h => exact h

end PartProgram
