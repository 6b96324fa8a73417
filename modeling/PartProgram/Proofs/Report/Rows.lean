/-
  Rows are unambiguous.

  1. **Program** — the row of a line has its index at the right edge of a column, its kind at the left
     edge of another, and then what belongs to the kind: a comment, a text, or fields and parameters with
     blanks between them and none at the end.

  2. **Specification** — `line.Agrees line'`: the two records are the same but for their raw texts, which
     count only if they are plain text.  Two listings are the same exactly if their records agree, line by
     line.

  3. **The invariant (`Line.Legible`)** — each parameter of the record is written as one word, and that
     word is a token of the same parameter.  Every record that is read is legible as long as it has no
     doubles (`legible_of_build`).

  4. **The crux (`Line.Legible.agrees_of_row`)** — padding and trimming do not touch words, so a row gives
     back its words: the index, the kind, and for numbered and control lines one word for each field and
     parameter (`words_row`).  Comments and plain text are not taken apart into words; they are what is left
     of the row behind the columns, and the index and kind determine how much that is.
-/
import PartProgram.Proofs.Command.AllOrNothing
import PartProgram.Proofs.ParameterRange
import PartProgram.Proofs.PrintedBack
import PartProgram.Proofs.Text.Columns
import PartProgram.Proofs.WellFormed

namespace PartProgram

open Text (IsWord Unbroken words)

/-! ## Specification -/

/-- `line.Agrees line'` — the records are the same, up to a raw text that is not shown. -/
structure Line.Agrees (line line' : Line) : Prop where
  index : line.index = line'.index
  kind : line.kind = line'.kind
  n : line.n = line'.n
  code : line.code = line'.code
  comment : line.comment = line'.comment
  parameters : line.parameters = line'.parameters
  raw : line.kind = .text → line.raw = line'.raw

/-- Records that agree have the same row. -/
theorem Line.Agrees.row_eq {line line' : Line} (h : line.Agrees line') : line.row = line'.row := by
  obtain ⟨index, kind, raw, n, code, parameters, comment⟩ := line
  obtain ⟨index', kind', raw', n', code', parameters', comment'⟩ := line'
  obtain ⟨rfl, rfl, rfl, rfl, rfl, rfl, hraw⟩ := h
  by_cases hkind : kind = .text
  · obtain rfl : raw = raw' := hraw hkind
    rfl
  · simp only [Line.row, hkind, if_false]
    rfl

/-! ## Legible records -/

/-- A record whose row can be read: it is well formed, its raw text has no line ends, and each of its
    parameters is written as a word from which it is read again. -/
structure Line.Legible (line : Line) : Prop where
  wellFormed : line.WellFormed
  unbroken : Unbroken line.raw
  isWord : ∀ p ∈ line.parameters, IsWord p.written
  reread : ∀ p ∈ line.parameters, ParamGrammar p.written p

/-- **Every record that is read is legible**, unless it has doubles. -/
theorem legible_of_build {strict : Bool} {raw : Text} {index : Int} {line : Line}
    (h : ((Reader.mk .standard strict).build raw index).result = .ok line) (hraw : Unbroken raw)
    (hno : ∀ p ∈ line.parameters, p.kind ≠ .double) : line.Legible where
  wellFormed := wellFormed_of_build h
  unbroken := by
    obtain ⟨_, heq⟩ :=
      Reader.enveloped_build Dialect.keepsEnvelope_standard.builders raw index line h
    rwa [heq]
  isWord p hp := (written_of_build h hno p hp).1
  reread p hp := (written_of_build h hno p hp).2

theorem legible_of_parse {strict : Bool} {t : Text} {p : Program}
    (h : ((Reader.mk .standard strict).parse (.text t)).result = .ok p)
    (hno : ∀ line ∈ p.lines, ∀ param ∈ line.parameters, param.kind ≠ .double) :
    ∀ line ∈ p.lines, line.Legible := by
  intro line hmem
  obtain ⟨hlines, _⟩ := Reader.result_parse_eq_ok_iff.mp h
  obtain ⟨_, raw, hraw, hline⟩ := Reader.exists_build_of_mem hlines hmem
  exact legible_of_build hline (Text.unbroken_of_mem_lines (List.mem_of_getElem? hraw)) (hno line hmem)

/-! ## The parts of a row -/

theorem LineKind.isWord_name (kind : LineKind) : IsWord kind.name.toText := by
  cases kind <;> decide

/-- A kind is found by its name. -/
theorem LineKind.find?_name (kind : LineKind) :
    all.find? (·.name.toText == kind.name.toText) = some kind := by
  cases kind <;> rfl

theorem LineKind.name_inj {kind kind' : LineKind} (h : kind.name.toText = kind'.name.toText) :
    kind = kind' := by
  have hfind := find?_name kind
  rw [h, find?_name kind'] at hfind
  exact (Option.some.inj hfind).symm

/-- The fields of a numbered line, as they are written. -/
def Line.fieldWords (line : Line) : List Text :=
  ("N=".toText ++ line.n.elim absent Text.ofInt) ::
    line.code.toList.map fun code => "code=".toText ++ Text.ofInt code

/-- What follows the columns of a row, before trailing blanks are taken off. -/
def Line.rowTail (line : Line) : Text :=
  if line.kind = .comment then ' ' :: line.comment.getD absent
  else if line.kind = .text then ' ' :: line.raw
  else if line.kind.isCode then
    (' ' : CodePoint) :: Text.joined [' '] line.fieldWords ++ (' ' : CodePoint) :: line.parameterText
  else if line.kind.isControl then ' ' :: line.parameterText
  else []

/-- A row is the columns and what follows them, trimmed unless that is a comment or a text. -/
theorem Line.row_eq (line : Line) :
    line.row = if line.kind = .comment ∨ line.kind = .text then line.rowHead ++ line.rowTail
      else Text.trimRight (line.rowHead ++ line.rowTail) := by
  unfold Line.row Line.rowTail
  by_cases hcomment : line.kind = .comment
  · rw [if_pos hcomment, if_pos hcomment, if_pos (Or.inl hcomment)]
  by_cases htext : line.kind = .text
  · rw [if_neg hcomment, if_neg hcomment, if_pos htext, if_pos htext, if_pos (Or.inr htext)]
  rw [if_neg hcomment, if_neg hcomment, if_neg htext, if_neg htext, if_neg (not_or.mpr ⟨hcomment, htext⟩)]
  by_cases hcode : line.kind.isCode = true
  · have hnumber : " N=".toText = (' ' : CodePoint) :: "N=".toText := rfl
    have hletter : " code=".toText = (' ' : CodePoint) :: "code=".toText := rfl
    rw [if_pos hcode, if_pos hcode, Line.fieldWords]
    cases line.code with
    | none => simp [Text.joined_singleton, hnumber]
    | some code => simp [Text.joined_cons_cons, Text.joined_singleton, hnumber, hletter]
  · rw [if_neg hcode, if_neg hcode]
    by_cases hcontrol : line.kind.isControl = true
    · rw [if_pos hcontrol, if_pos hcontrol]
    · rw [if_neg hcontrol, if_neg hcontrol, List.append_nil]

theorem Line.blank_of_mem_head?_rowTail (line : Line) : ∀ c ∈ line.rowTail.head?, Text.isBlank c = true := by
  intro c hc
  unfold Line.rowTail at hc
  have hspace : ∀ t : Text, c ∈ ((' ' : CodePoint) :: t).head? → Text.isBlank c = true := by
    intro t ht
    obtain rfl := Option.some.inj ht
    decide
  split at hc
  · exact hspace _ hc
  split at hc
  · exact hspace _ hc
  split at hc
  · exact hspace _ hc
  split at hc
  · exact hspace _ hc
  · exact nomatch hc

/-- **The words of a row**: the index, the kind, and the words of what follows. -/
theorem Line.words_row (line : Line) :
    words line.row = Text.ofInt line.index :: line.kind.name.toText :: words line.rowTail := by
  have hwords : words (line.rowHead ++ line.rowTail) =
      Text.ofInt line.index :: line.kind.name.toText :: words line.rowTail := by
    rw [Line.rowHead, List.append_assoc, Text.words_padLeft_append, List.cons_append,
      Text.words_append_cons (by decide), Text.words_of_isWord (Text.isWord_ofInt _),
      Text.words_padRight_append (LineKind.isWord_name _) line.blank_of_mem_head?_rowTail]
    rfl
  rw [line.row_eq]
  split
  · exact hwords
  · rw [Text.words_trimRight, hwords]

section

variable {line line' : Line}

theorem Line.isWord_of_mem_fieldWords : ∀ w ∈ line.fieldWords, IsWord w := by
  intro w hw
  rcases List.mem_cons.mp hw with rfl | hw
  · refine IsWord.append (by decide) ?_
    cases line.n with
    | none => decide
    | some n => exact Text.isWord_ofInt n
  · obtain ⟨code, _, rfl⟩ := List.mem_map.mp hw
    exact IsWord.append (by decide) (Text.isWord_ofInt code)

theorem Line.Legible.words_rowTail_code (h : line.Legible) (hkind : line.kind.isCode = true) :
    words line.rowTail = line.fieldWords ++ line.parameters.map Param.written := by
  have hcomment : line.kind ≠ .comment := fun heq => absurd (heq ▸ hkind) (by decide)
  have htext : line.kind ≠ .text := fun heq => absurd (heq ▸ hkind) (by decide)
  rw [Line.rowTail, if_neg hcomment, if_neg htext, if_pos hkind, List.cons_append,
    Text.words_cons_of_blank (by decide), Text.words_append_cons (by decide),
    Text.words_joined line.isWord_of_mem_fieldWords, Line.words_parameterText h.isWord]

theorem Line.Legible.words_rowTail_control (h : line.Legible) (hkind : line.kind.isControl = true) :
    words line.rowTail = line.parameters.map Param.written := by
  have hcomment : line.kind ≠ .comment := fun heq => absurd (heq ▸ hkind) (by decide)
  have htext : line.kind ≠ .text := fun heq => absurd (heq ▸ hkind) (by decide)
  have hcode : ¬ line.kind.isCode = true := by
    revert hkind
    cases line.kind <;> decide
  rw [Line.rowTail, if_neg hcomment, if_neg htext, if_neg hcode, if_pos hkind,
    Text.words_cons_of_blank (by decide), Line.words_parameterText h.isWord]

/-- Parameters are read again from the words that are written of them. -/
theorem Line.Legible.parameters_inj (h : line.Legible) (h' : line'.Legible)
    (heq : line.parameters.map Param.written = line'.parameters.map Param.written) :
    line.parameters = line'.parameters := by
  have hps := Standard.result_mapM_written h.reread
  rw [heq, Standard.result_mapM_written h'.reread] at hps
  exact (Except.ok.inj hps).symm

/-! ## The fields of well formed records, by kind -/

theorem Line.WellFormed.fields_of_code (h : line.WellFormed) (hkind : line.kind.isCode = true) :
    (∃ n, line.n = some n) ∧ (line.kind = .otherCode → line.code = none) ∧
      (line.kind ≠ .otherCode → ∃ code, line.code = some code) ∧ line.comment = none := by
  have hfields := h.fields
  generalize line.kind = kind at hfields hkind
  cases kind <;> simp_all [LineKind.isCode, Option.isSome_iff_exists]

theorem Line.WellFormed.fields_of_control (h : line.WellFormed) (hkind : line.kind.isControl = true) :
    line.n = none ∧ line.code = none ∧ line.comment = none := by
  have hfields := h.fields
  generalize line.kind = kind at hfields hkind
  cases kind <;> simp_all [LineKind.isControl]

/-- The fields of numbered lines of one kind are read off their words. -/
theorem Line.WellFormed.fieldWords_inj (h : line.WellFormed) (h' : line'.WellFormed)
    (hcode : line.kind.isCode = true) (hkind : line.kind = line'.kind) {ws ws' : List Text}
    (heq : line.fieldWords ++ ws = line'.fieldWords ++ ws') :
    line.n = line'.n ∧ line.code = line'.code ∧ ws = ws' := by
  obtain ⟨⟨n, hn⟩, hnone, hsome, _⟩ := h.fields_of_code hcode
  obtain ⟨⟨n', hn'⟩, hnone', hsome', _⟩ := h'.fields_of_code (hkind ▸ hcode)
  unfold Line.fieldWords at heq
  rw [hn, hn', List.cons_append, List.cons_append, List.cons.injEq] at heq
  obtain ⟨hnumber, hrest⟩ := heq
  have hsame : n = n' := Text.ofInt_inj (List.append_cancel_left hnumber)
  by_cases hother : line.kind = .otherCode
  · rw [hnone hother, hnone' (hkind ▸ hother)] at hrest ⊢
    exact ⟨by rw [hn, hn', hsame], rfl, hrest⟩
  · obtain ⟨code, hc⟩ := hsome hother
    obtain ⟨code', hc'⟩ := hsome' (hkind ▸ hother)
    rw [hc, hc'] at hrest ⊢
    obtain ⟨hnumber', hws⟩ := List.cons.inj hrest
    exact ⟨by rw [hn, hn', hsame], by rw [Text.ofInt_inj (List.append_cancel_left hnumber')], hws⟩

theorem LineKind.cases_shown (kind : LineKind) :
    kind = .blank ∨ kind = .comment ∨ kind = .text ∨ kind.isCode = true ∨ kind.isControl = true := by
  cases kind <;> decide

/-- Of a comment or a text the row shows what follows the columns as it is. -/
theorem Line.rowTail_inj (hindex : line.index = line'.index) (hkind : line.kind = line'.kind)
    (hplain : line.kind = .comment ∨ line.kind = .text) (heq : line.row = line'.row) :
    line.rowTail = line'.rowTail := by
  have hhead : line.rowHead = line'.rowHead := by rw [Line.rowHead, Line.rowHead, hindex, hkind]
  rw [line.row_eq, line'.row_eq, if_pos hplain, if_pos (hkind ▸ hplain), hhead] at heq
  exact List.append_cancel_left heq

/-- **A row determines what it shows.** -/
theorem Line.Legible.agrees_of_row (h : line.Legible) (h' : line'.Legible)
    (heq : line.row = line'.row) : line.Agrees line' := by
  have hwords := congrArg words heq
  rw [line.words_row, line'.words_row, List.cons.injEq, List.cons.injEq] at hwords
  obtain ⟨hnumeral, hname, htail⟩ := hwords
  have hindex : line.index = line'.index := Text.ofInt_inj hnumeral
  have hkind : line.kind = line'.kind := LineKind.name_inj hname
  have hfields := h.wellFormed.fields
  have hfields' := h'.wellFormed.fields
  rcases line.kind.cases_shown with hk | hk | hk | hk | hk
  · -- a blank line has no other fields
    rw [hk] at hfields
    rw [← hkind, hk] at hfields'
    obtain ⟨hn, hcode, hcomment, hps⟩ := hfields
    obtain ⟨hn', hcode', hcomment', hps'⟩ := hfields'
    exact ⟨hindex, hkind, hn.trans hn'.symm, hcode.trans hcode'.symm, hcomment.trans hcomment'.symm,
      hps.trans hps'.symm, fun htext => absurd (hk.symm.trans htext) (by decide)⟩
  · -- a comment stands behind the columns as it is
    have hrest := Line.rowTail_inj hindex hkind (Or.inl hk) heq
    rw [hk] at hfields
    rw [← hkind, hk] at hfields'
    obtain ⟨hn, hcode, hps, _, _, _, hcomment, _⟩ := hfields
    obtain ⟨hn', hcode', hps', _, _, _, hcomment', _⟩ := hfields'
    rw [Line.rowTail, if_pos hk, Line.rowTail, if_pos (hkind ▸ hk), hcomment, hcomment'] at hrest
    have hsame : line.comment = line'.comment := by
      rw [hcomment, hcomment']
      exact congrArg some (List.cons.inj hrest).2
    exact ⟨hindex, hkind, hn.trans hn'.symm, hcode.trans hcode'.symm, hsame, hps.trans hps'.symm,
      fun htext => absurd (hk.symm.trans htext) (by decide)⟩
  · -- and so does a text
    have hrest := Line.rowTail_inj hindex hkind (Or.inr hk) heq
    have hno : line.kind ≠ .comment := fun hcomment => absurd (hk.symm.trans hcomment) (by decide)
    rw [hk] at hfields
    rw [← hkind, hk] at hfields'
    obtain ⟨hn, hcode, hcomment, hps⟩ := hfields
    obtain ⟨hn', hcode', hcomment', hps'⟩ := hfields'
    rw [Line.rowTail, if_neg hno, if_pos hk, Line.rowTail, if_neg (hkind ▸ hno),
      if_pos (hkind ▸ hk)] at hrest
    exact ⟨hindex, hkind, hn.trans hn'.symm, hcode.trans hcode'.symm, hcomment.trans hcomment'.symm,
      hps.trans hps'.symm, fun _ => (List.cons.inj hrest).2⟩
  · -- fields and parameters are words of their own
    have hk' : line'.kind.isCode = true := hkind ▸ hk
    rw [h.words_rowTail_code hk, h'.words_rowTail_code hk'] at htail
    obtain ⟨hn, hcode, hps⟩ := h.wellFormed.fieldWords_inj h'.wellFormed hk hkind htail
    obtain ⟨_, _, _, hcomment⟩ := h.wellFormed.fields_of_code hk
    obtain ⟨_, _, _, hcomment'⟩ := h'.wellFormed.fields_of_code hk'
    exact ⟨hindex, hkind, hn, hcode, hcomment.trans hcomment'.symm, h.parameters_inj h' hps,
      fun htext => absurd (htext ▸ hk) (by decide)⟩
  · have hk' : line'.kind.isControl = true := hkind ▸ hk
    rw [h.words_rowTail_control hk, h'.words_rowTail_control hk'] at htail
    obtain ⟨hn, hcode, hcomment⟩ := h.wellFormed.fields_of_control hk
    obtain ⟨hn', hcode', hcomment'⟩ := h'.wellFormed.fields_of_control hk'
    exact ⟨hindex, hkind, hn.trans hn'.symm, hcode.trans hcode'.symm, hcomment.trans hcomment'.symm,
      h.parameters_inj h' htail, fun htext => absurd (htext ▸ hk) (by decide)⟩

/-! ## Rows have no line ends -/

theorem Line.unbroken_rowHead (line : Line) : Unbroken line.rowHead := by
  have hkind := Text.unbroken_padRight (LineKind.isWord_name line.kind).unbroken kindWidth
  exact (Text.unbroken_padLeft (Text.isWord_ofInt line.index).unbroken indexWidth).append
    (Text.unbroken_cons_iff.mpr ⟨by decide, hkind⟩)

theorem Line.Legible.unbroken_rowTail (h : line.Legible) : Unbroken line.rowTail := by
  have hspace : ∀ {t : Text}, Unbroken t → Unbroken (' ' :: t) :=
    fun ht => Text.unbroken_cons_iff.mpr ⟨by decide, ht⟩
  have hps : Unbroken line.parameterText := by
    refine Text.unbroken_joined fun w hw => ?_
    obtain ⟨p, hp, rfl⟩ := List.mem_map.mp hw
    exact (h.isWord p hp).unbroken
  have hfields : Unbroken (Text.joined [' '] line.fieldWords) :=
    Text.unbroken_joined fun w hw => (line.isWord_of_mem_fieldWords w hw).unbroken
  unfold Line.rowTail
  split
  · next hk =>
    -- a comment is a part of its line
    have hwell := h.wellFormed.fields
    rw [hk] at hwell
    obtain ⟨_, _, _, gap, rest, _, hcomment, hraw⟩ := hwell
    rw [hcomment]
    exact hspace (h.unbroken.of_subset fun c hc => hraw ▸ List.mem_append_right gap hc)
  split
  · exact hspace h.unbroken
  split
  · exact (hspace hfields).append (hspace hps)
  split
  · exact hspace hps
  · exact Text.unbroken_nil

/-- **The row of a legible record is one line.** -/
theorem Line.Legible.unbroken_row (h : line.Legible) : Unbroken line.row := by
  have hwhole := line.unbroken_rowHead.append h.unbroken_rowTail
  rw [line.row_eq]
  split
  · exact hwhole
  · exact Text.unbroken_trimRight hwhole

end

/-! ## Listings -/

theorem Program.rendering_rows (p : Program) : p.rendering .rows = Text.printed (p.lines.map Line.row) := by
  rw [Program.rendering, Text.printed, List.flatMap_map]

theorem rows_eq_iff {lines lines' : List Line} (h : ∀ line ∈ lines, line.Legible)
    (h' : ∀ line ∈ lines', line.Legible) :
    lines.map Line.row = lines'.map Line.row ↔ List.Forall₂ Line.Agrees lines lines' := by
  constructor
  · intro heq
    induction lines generalizing lines' with
    | nil =>
      obtain rfl : lines' = [] := List.map_eq_nil_iff.mp heq.symm
      exact .nil
    | cons line lines ih =>
      cases lines' with
      | nil => exact nomatch heq
      | cons line' lines' =>
        obtain ⟨hline, hlines⟩ := List.forall_mem_cons.mp h
        obtain ⟨hline', hlines'⟩ := List.forall_mem_cons.mp h'
        obtain ⟨hrow, hrows⟩ := List.cons.inj heq
        exact .cons (hline.agrees_of_row hline' hrow) (ih hlines hlines' hrows)
  · intro hagree
    clear h h'
    induction hagree with
    | nil => rfl
    | cons hline _ ih => rw [List.map_cons, List.map_cons, hline.row_eq, ih]

/-- **Listings of legible records are the same exactly if the records agree**: a row holds no line end,
    so the rows can be told apart again. -/
theorem printed_rows_eq_iff {lines lines' : List Line} (h : ∀ line ∈ lines, line.Legible)
    (h' : ∀ line ∈ lines', line.Legible) :
    Text.printed (lines.map Line.row) = Text.printed (lines'.map Line.row) ↔
      List.Forall₂ Line.Agrees lines lines' := by
  have hunbroken : ∀ lines : List Line, (∀ line ∈ lines, line.Legible) →
      ∀ row ∈ lines.map Line.row, Unbroken row := by
    intro lines hlegible row hrow
    obtain ⟨line, hmem, rfl⟩ := List.mem_map.mp hrow
    exact (hlegible line hmem).unbroken_row
  rw [← rows_eq_iff h h']
  constructor
  · intro heq
    have hlines := congrArg Text.lines heq
    rwa [Text.lines_printed (hunbroken lines h), Text.lines_printed (hunbroken lines' h')] at hlines
  · exact congrArg Text.printed

/-- **The listing of a program is unambiguous.**  For texts that are read into programs without doubles,
    by readers strict or permissive, a run of the command in the style of rows shows one row for each
    record, each with a line feed behind it and none in it, and two such runs show the same exactly if
    their records agree one by one: in index, kind, number, code, comment and parameters, and in the raw
    text if they are plain text. -/
theorem rows_unambiguous {t t' : Text} {p p' : Program} {output output' : Text}
    (h : Command.Dumps .rows t p output) (h' : Command.Dumps .rows t' p' output')
    (hsize : t.lines.length ≤ 10 ^ Numeral.digitLimit)
    (hsize' : t'.lines.length ≤ 10 ^ Numeral.digitLimit)
    (hno : ∀ line ∈ p.lines, ∀ param ∈ line.parameters, param.kind ≠ .double)
    (hno' : ∀ line ∈ p'.lines, ∀ param ∈ line.parameters, param.kind ≠ .double) :
    output = (p.lines.flatMap fun line => line.row ++ (['\n'] : Text)) ∧
      (∀ line ∈ p.lines, ('\n' : CodePoint) ∉ line.row) ∧
      (output = output' ↔ List.Forall₂ Line.Agrees p.lines p'.lines) := by
  obtain ⟨_, hparse⟩ := h.exists_parse
  obtain ⟨_, hparse'⟩ := h'.exists_parse
  have hlegible := legible_of_parse hparse hno
  have hlegible' := legible_of_parse hparse' hno'
  refine ⟨h.output_eq hsize, fun line hmem => (hlegible line hmem).unbroken_row.2, ?_⟩
  rw [h.output_eq hsize, h'.output_eq hsize', p.rendering_rows, p'.rendering_rows]
  exact printed_rows_eq_iff hlegible hlegible'

/-- Two spellings of one program: a sign, a zero and blanks are not shown, and the records agree although
    their raw texts differ. -/
theorem rows_unambiguous_spellings :
    ∃ p p' output output',
      Command.Dumps .rows "N+1 X=05 T=a \n:If".toText p output ∧
      Command.Dumps .rows "N1 X=5  T=a\n:IF".toText p' output' ∧
      output = "    0 UNKNOWN_CODE    N=1 X=5 T=a\n    1 IF\n".toText ∧ output = output' ∧
      List.Forall₂ Line.Agrees p.lines p'.lines ∧ p.lines.map Line.raw ≠ p'.lines.map Line.raw := by
  have hplan : Command.plan {} ["a".toText] = .ok { style := .rows, .. } := rfl
  have hparse : ((Reader.mk .standard true).parse (.text "N+1 X=05 T=a \n:If".toText)).result =
      .ok ⟨[{ index := 0, kind := .otherCode, raw := "N+1 X=05 T=a ".toText, n := some 1
              parameters := [.integer ['X'] 5, .text ['T'] ['a']] },
            { index := 1, kind := .branch, raw := ":If".toText }]⟩ := rfl
  have hparse' : ((Reader.mk .standard true).parse (.text "N1 X=5  T=a\n:IF".toText)).result =
      .ok ⟨[{ index := 0, kind := .otherCode, raw := "N1 X=5  T=a".toText, n := some 1
              parameters := [.integer ['X'] 5, .text ['T'] ['a']] },
            { index := 1, kind := .branch, raw := ":IF".toText }]⟩ := rfl
  obtain ⟨output, h⟩ := Exists.intro _ (Command.Dumps.of_chars hplan hparse)
  obtain ⟨output', h'⟩ := Exists.intro _ (Command.Dumps.of_chars hplan hparse')
  have hsize : (Text.lines "N+1 X=05 T=a \n:If".toText).length ≤ 10 ^ Numeral.digitLimit :=
    Numeral.le_pow_digitLimit (by decide)
  have hsize' : (Text.lines "N1 X=5  T=a\n:IF".toText).length ≤ 10 ^ Numeral.digitLimit :=
    Numeral.le_pow_digitLimit (by decide)
  obtain ⟨hrows, _, hiff⟩ := rows_unambiguous h h' hsize hsize' (by decide) (by decide)
  obtain ⟨hrows', _, _⟩ := rows_unambiguous h' h hsize' hsize (by decide) (by decide)
  have hshown : output = "    0 UNKNOWN_CODE    N=1 X=5 T=a\n    1 IF\n".toText := hrows
  have hshown' : output' = "    0 UNKNOWN_CODE    N=1 X=5 T=a\n    1 IF\n".toText := hrows'
  have heq : output = output' := hshown.trans hshown'.symm
  exact ⟨_, _, output, output', h, h', hshown, heq, hiff.mp heq, by decide⟩

end PartProgram
