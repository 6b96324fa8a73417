/-
  Programs printed back.

  1. **Printing** — `p.printed` is the raw text of every record, each with a line feed behind it.

  2. **Settled texts** — `Settled t u`: `u` is `t` with every line end turned into a line feed, and with
     one put behind the last line if that line lacks its end.  It is read off the characters of `t`, and
     every text is settled in exactly one way.

  3. **The crux (`settled_iff`)** — the settled form of a text is its lines, printed.  The lines of a text
     hold no line ends, so printed lines have the same lines again (`lines_printed`), and texts with the
     same lines are exactly those with the same settled form (`lines_eq_iff`).

  4. **Programs (`raws_of_parse`)** — the raw texts of a program are the lines of its source.  So a program
     is read again from its printed text, and programs are equal exactly if their raw texts are: nothing
     else about a record is free.
-/
import PartProgram.Proofs.Dialect.Table
import PartProgram.Proofs.Envelope
import PartProgram.Proofs.SourceKinds

namespace PartProgram

/-! ## Texts -/

namespace Text

/-- The lines, each with a line feed behind it. -/
def printed (raws : List Text) : Text := raws.flatMap (· ++ (['\n'] : Text))

/-- `Settled t u` — `u` is `t` with all line ends turned into line feeds, and one more behind a last line
    that has none. -/
inductive Settled : Text → Text → Prop where
  | nil : Settled [] []
  | last {body : Text} (hne : body ≠ []) (hbody : Unbroken body) : Settled body (body ++ (['\n'] : Text))
  | line {body ending rest u : Text} (hbody : Unbroken body) (hend : LineEnd ending)
      (hwhole : ¬ SplitsLineEnd ending rest) (hrest : Settled rest u) :
      Settled (body ++ (ending ++ rest)) (body ++ ('\n' : CodePoint) :: u)

theorem printed_cons (raw : Text) (raws : List Text) :
    printed (raw :: raws) = raw ++ ('\n' : CodePoint) :: printed raws := by
  rw [printed, List.flatMap_cons, List.append_assoc]
  rfl

/-- Lines without line ends are lined again when they are printed. -/
theorem lined_printed {raws : List Text} (h : ∀ raw ∈ raws, Unbroken raw) :
    Lined (printed raws) (raws.map (· ++ (['\n'] : Text))) := by
  induction raws with
  | nil => exact Lined.nil
  | cons raw raws ih =>
    obtain ⟨hraw, hraws⟩ := List.forall_mem_cons.mp h
    have hwhole : ¬ SplitsLineEnd ['\n'] (printed raws) := fun hsplit => absurd hsplit.1 (by decide)
    rw [printed_cons]
    exact Lined.line hraw .lf hwhole (ih hraws)

/-- **Printed lines are the same lines again.** -/
theorem lines_printed {raws : List Text} (h : ∀ raw ∈ raws, Unbroken raw) :
    (printed raws).lines = raws := by
  rw [(lined_printed h).lines_eq, List.map_map]
  refine (List.map_congr_left ?_).trans (List.map_id raws)
  intro raw hmem
  exact chomp_line (h raw hmem) .lf

/-- **The settled form of a text is its lines, printed.** -/
theorem settled_iff {t u : Text} : Settled t u ↔ printed t.lines = u := by
  constructor
  · intro h
    induction h with
    | nil => rfl
    | last hne hbody => rw [lines_of_no_line_end hne hbody.1 hbody.2, printed_cons]; rfl
    | line hbody hend hwhole _ ih => rw [lines_line hbody hend hwhole, printed_cons, ih]
  · rintro rfl
    obtain ⟨items, hlined⟩ : ∃ items, Lined t items := ⟨t.ownLines, lined_ownLines t⟩
    induction hlined with
    | nil => exact Settled.nil
    | last hne hbody =>
      rw [lines_of_no_line_end hne hbody.1 hbody.2, printed_cons]
      exact Settled.last hne hbody
    | line hbody hend hwhole _ ih =>
      rw [lines_line hbody hend hwhole, printed_cons]
      exact Settled.line hbody hend hwhole ih

/-- **Texts have the same lines exactly if they settle to the same text.** -/
theorem lines_eq_iff {t t' : Text} : t.lines = t'.lines ↔ ∃ u, Settled t u ∧ Settled t' u := by
  constructor
  · intro heq
    exact ⟨printed t.lines, settled_iff.mpr rfl, settled_iff.mpr (by rw [heq])⟩
  · rintro ⟨u, hu, hu'⟩
    -- the lines can be got back from what is printed
    have hprinted : printed t.lines = printed t'.lines :=
      (settled_iff.mp hu).trans (settled_iff.mp hu').symm
    have hlines := congrArg lines hprinted
    rwa [lines_printed fun _ hmem => unbroken_of_mem_lines hmem,
      lines_printed fun _ hmem => unbroken_of_mem_lines hmem] at hlines

end Text

/-! ## Equality of programs -/

theorem Double.equal_self (d : Double) : (d == d) = true := by
  cases d with
  | finite negative mantissa exponent =>
    show Double.equal _ _ = true
    simp [Double.equal]
  | infinite negative =>
    show Double.equal _ _ = true
    simp [Double.equal]

instance : ReflBEq Double := ⟨fun {d} => d.equal_self⟩

deriving instance ReflBEq for Param
deriving instance ReflBEq for Line
deriving instance ReflBEq for Program

/-- Equal records have the same envelope. -/
theorem Line.envelope_of_beq {line line' : Line} (h : (line == line') = true) :
    line.index = line'.index ∧ line.raw = line'.raw := by
  obtain ⟨index, kind, raw, n, code, parameters, comment⟩ := line
  obtain ⟨index', kind', raw', n', code', parameters', comment'⟩ := line'
  have hfields : (index == index' && (kind == kind' && (raw == raw' && (n == n' && (code == code' &&
      (parameters == parameters' && comment == comment')))))) = true := h
  simp only [Bool.and_eq_true] at hfields
  exact ⟨eq_of_beq hfields.1, eq_of_beq hfields.2.2.1⟩

/-- Equal programs have the same raw texts. -/
theorem Program.raws_of_beq {p q : Program} (h : (p == q) = true) :
    p.lines.map Line.raw = q.lines.map Line.raw := by
  have hlines : (p.lines == q.lines) = true := h
  generalize p.lines = lines at hlines
  generalize q.lines = lines' at hlines
  induction lines generalizing lines' with
  | nil =>
    cases lines' with
    | nil => rfl
    | cons line' lines' => exact absurd hlines (by simp)
  | cons line lines ih =>
    cases lines' with
    | nil => exact absurd hlines (by simp)
    | cons line' lines' =>
      rw [List.cons_beq_cons, Bool.and_eq_true] at hlines
      rw [List.map_cons, List.map_cons, (Line.envelope_of_beq hlines.1).2, ih lines' hlines.2]

/-! ## Programs -/

/-- The text of a program: the raw text of every record, each with a line feed behind it. -/
def Program.printed (p : Program) : Text := p.lines.flatMap fun line => line.raw ++ (['\n'] : Text)

theorem Program.printed_eq (p : Program) : p.printed = Text.printed (p.lines.map Line.raw) := by
  rw [Program.printed, Text.printed, List.flatMap_map]

section

variable {strict : Bool}

/-- **The raw texts of a program are the lines of its source.** -/
theorem raws_of_parse {source : Source} {p : Program}
    (h : ((Reader.mk .standard strict).parse source).result = .ok p) :
    p.lines.map Line.raw = source.rawLines := by
  obtain ⟨hlength, hat⟩ := Reader.envelope_of_parse Dialect.keepsEnvelope_standard.builders h
  refine List.ext_getElem (by rw [List.length_map, hlength]) ?_
  intro i hi hi'
  obtain ⟨line, hline, _, hraw⟩ := hat i _ (List.getElem?_eq_getElem hi')
  obtain ⟨hlt, rfl⟩ := List.getElem?_eq_some_iff.mp hline
  rw [List.getElem_map, hraw]

/-- Every record is that of its own raw text at its own place. -/
theorem parseLine_of_parse {t : Text} {p : Program}
    (h : ((Reader.mk .standard strict).parse (.text t)).result = .ok p) {line : Line}
    (hmem : line ∈ p.lines) :
    ((Reader.mk .standard strict).parseLine line.raw line.index).result = .ok line := by
  obtain ⟨hlines, _⟩ := Reader.result_parse_eq_ok_iff.mp h
  obtain ⟨j, raw, hraw, hbuild⟩ := Reader.exists_build_of_mem hlines hmem
  obtain ⟨hindex, heq⟩ :=
    Reader.enveloped_build Dialect.keepsEnvelope_standard.builders raw (0 + j : Nat) line hbuild
  -- a line of a text has no line end to lose
  have hunbroken : Text.Unbroken raw := Text.unbroken_of_mem_lines (List.mem_of_getElem? hraw)
  rw [Reader.parseLine, heq, hindex, Text.chomp_of_unbroken hunbroken]
  exact hbuild

/-- **Programs of texts are equal exactly if the texts have the same lines.** -/
theorem eq_iff_lines_eq {t t' : Text} {p q : Program}
    (hp : ((Reader.mk .standard strict).parse (.text t)).result = .ok p)
    (hq : ((Reader.mk .standard strict).parse (.text t')).result = .ok q) :
    p = q ↔ t.lines = t'.lines := by
  constructor
  · rintro rfl
    exact (raws_of_parse hp).symm.trans (raws_of_parse hq)
  · intro heq
    have hsame := Reader.parse_congr (Reader.mk .standard strict)
      (show (Source.text t).rawLines = (Source.text t').rawLines from heq) rfl
    rw [hsame, hq] at hp
    exact (Except.ok.inj hp).symm

end

/-- **Printing back and reading again is the identity, and programs are equal exactly if their lines are.**
    For readers of the standard table, strict or permissive:
    (1) a program that was read from a text is read again from its printed text and from the list of its
        raw texts, and each of its records from its own raw text and index;
    (2) every text is settled in exactly one way;
    (3) two programs that were read from texts compare equal exactly if they are the same, exactly if they
        have the same raw texts, and exactly if their texts settle to the same text. -/
theorem printed_back (strict : Bool) :
    (∀ t p, ((Reader.mk .standard strict).parse (.text t)).result = .ok p →
      ((Reader.mk .standard strict).parse (.text p.printed)).result = .ok p ∧
      ((Reader.mk .standard strict).parse (.list (p.lines.map Line.raw))).result = .ok p ∧
      ∀ line ∈ p.lines,
        ((Reader.mk .standard strict).parseLine line.raw line.index).result = .ok line) ∧
    (∀ t, ∃! u, Text.Settled t u) ∧
    ∀ t t' p q, ((Reader.mk .standard strict).parse (.text t)).result = .ok p →
      ((Reader.mk .standard strict).parse (.text t')).result = .ok q →
      ((p == q) = true ↔ p = q) ∧
      ((p == q) = true ↔ p.lines.map Line.raw = q.lines.map Line.raw) ∧
      ((p == q) = true ↔ ∃ u, Text.Settled t u ∧ Text.Settled t' u) := by
  refine ⟨?_, ?_, ?_⟩
  · intro t p h
    have hraws : p.lines.map Line.raw = t.lines := raws_of_parse h
    have hunbroken : ∀ raw ∈ t.lines, Text.Unbroken raw := fun _ => Text.unbroken_of_mem_lines
    have htext : (Source.text p.printed).rawLines = (Source.text t).rawLines := by
      rw [p.printed_eq, hraws]
      exact Text.lines_printed hunbroken
    have hlist : (Source.list (p.lines.map Line.raw)).rawLines = (Source.text t).rawLines := by
      rw [hraws]
      refine (List.map_congr_left ?_).trans (List.map_id t.lines)
      intro raw hmem
      exact Text.chomp_of_unbroken (hunbroken raw hmem)
    refine ⟨?_, ?_, fun line hmem => parseLine_of_parse h hmem⟩
    · rw [Reader.parse_congr _ htext rfl]
      exact h
    · rw [Reader.parse_congr _ hlist rfl]
      exact h
  · intro t
    refine ⟨Text.printed t.lines, Text.settled_iff.mpr rfl, ?_⟩
    intro u hu
    exact (Text.settled_iff.mp hu).symm
  · intro t t' p q hp hq
    have hlines := eq_iff_lines_eq hp hq
    have hraws : p = q ↔ p.lines.map Line.raw = q.lines.map Line.raw := by
      rw [hlines, raws_of_parse hp, raws_of_parse hq]
      rfl
    have hbeq : (p == q) = true ↔ p = q := by
      constructor
      · intro heq
        exact hraws.mpr (Program.raws_of_beq heq)
      · rintro rfl
        exact BEq.refl p
    exact ⟨hbeq, hbeq.trans hraws, hbeq.trans (hlines.trans Text.lines_eq_iff)⟩

/-- A comment and a malformed line, with two ways of ending lines: the texts make one program, which is
    read again from its printed text. -/
theorem printed_back_mixed_ends :
    ∃ p : Program, p.printed = ";c\nNx\n".toText ∧
      ((Reader.mk .standard false).parse (.text ";c\rNx".toText)).result = .ok p ∧
      ((Reader.mk .standard false).parse (.text p.printed)).result = .ok p ∧
      ∃ u, Text.Settled ";c\rNx".toText u ∧ Text.Settled ";c\r\nNx\n".toText u := by
  have hparse : ((Reader.mk .standard false).parse (.text ";c\rNx".toText)).result =
      .ok ⟨[{ index := 0, kind := .comment, raw := ";c".toText, comment := some ";c".toText },
            { index := 1, kind := .text, raw := "Nx".toText }]⟩ := rfl
  have hparse' : ((Reader.mk .standard false).parse (.text ";c\r\nNx\n".toText)).result =
      .ok ⟨[{ index := 0, kind := .comment, raw := ";c".toText, comment := some ";c".toText },
            { index := 1, kind := .text, raw := "Nx".toText }]⟩ := rfl
  obtain ⟨hback, _, hequal⟩ := printed_back false
  obtain ⟨_, _, hsettled⟩ := hequal _ _ _ _ hparse hparse'
  exact ⟨_, rfl, hparse, (hback _ _ hparse).1, hsettled.mp (BEq.refl _)⟩

end PartProgram
