/-
  Reports on programs that were read are whole.

  1. **Program** — a report breaks off at the first integer that takes more than 4300 digits.  The rows
     before it are shown; of a JSON document nothing is.

  2. **Specification** — `p.rendering style`: the program in the given style from the first line to the
     last, and `p.pieces style`: the same in the pieces that are printed.  They know of no limit.

  3. **The invariant (`isTooLong_of_build`)** — every integer of a record that was read stands in its line
     as a literal of at most 4300 digits, so it can be written again.  The index of a line is the one
     integer that comes from nowhere in the text; it is below the number of lines.

  4. So the report on a program that was read is its rendering (`report_of_parse`).
-/
import PartProgram.Report
import PartProgram.Proofs.Dialect.Parameters
import PartProgram.Proofs.Envelope
import PartProgram.Proofs.LineGrammar

namespace PartProgram

open Numeral (isTooLong digitLimit)

/-! ## Renderings -/

/-- The whole of a program in a style: a row for each line, the document of its lines, or its counts,
    with a line feed at the end. -/
def Program.rendering (p : Program) : ReportStyle → Text
  | .rows => p.lines.flatMap fun line => line.row ++ (['\n'] : Text)
  | .json => p.toJson.render ++ (['\n'] : Text)
  | .summary => p.summary ++ (['\n'] : Text)

/-- The same in pieces: the rows are printed one by one. -/
def Program.pieces (p : Program) : ReportStyle → List Text
  | .rows => p.lines.map fun line => line.row ++ (['\n'] : Text)
  | .json => [p.toJson.render ++ (['\n'] : Text)]
  | .summary => [p.summary ++ (['\n'] : Text)]

theorem Program.flatten_pieces (p : Program) (style : ReportStyle) :
    (p.pieces style).flatten = p.rendering style := by
  cases style with
  | rows => exact List.flatMap_def.symm
  | json => exact List.flatten_singleton
  | summary => exact List.flatten_singleton

/-- The integers of a record, but for its index. -/
def Line.integers (line : Line) : List Int :=
  line.n.toList ++ line.code.toList ++ line.parameters.flatMap fun p => p.intValue.toList

/-- `line.Writable` — every integer of the record can be written, its index among them. -/
def Line.Writable (line : Line) : Prop := ∀ v ∈ line.index :: line.integers, isTooLong v = false

theorem Line.mem_integers_of_mem_rowIntegers {line : Line} {v : Int} (h : v ∈ line.rowIntegers) :
    v ∈ line.index :: line.integers := by
  simp only [Line.rowIntegers, List.cons_append, List.mem_cons, List.mem_append,
    List.mem_ite_nil_right, List.mem_flatMap, Line.integers] at h ⊢
  rcases h with hindex | ⟨_, hfield⟩ | ⟨_, p, hp, _, hv⟩
  · exact Or.inl hindex
  · exact Or.inr (Or.inl hfield)
  · exact Or.inr (Or.inr ⟨p, hp, hv⟩)

theorem Line.mem_integers_of_mem_jsonIntegers {line : Line} {v : Int} (h : v ∈ line.jsonIntegers) :
    v ∈ line.index :: line.integers := by
  simp only [Line.jsonIntegers, List.cons_append, List.mem_cons, List.mem_append,
    List.mem_ite_nil_right, List.mem_ite_nil_left, List.mem_flatMap, Line.integers] at h ⊢
  rcases h with hindex | ⟨_, hfield⟩ | ⟨_, p, hp, _, hv⟩
  · exact Or.inl hindex
  · exact Or.inr (Or.inl hfield)
  · exact Or.inr (Or.inr ⟨p, hp, hv⟩)

namespace Report

theorem rows_of_writable {lines : List Line} (h : ∀ line ∈ lines, line.Writable) :
    rows lines = { prints := lines.map fun line => line.row ++ (['\n'] : Text) } := by
  induction lines with
  | nil => rfl
  | cons line lines ih =>
    obtain ⟨hline, hlines⟩ := List.forall_mem_cons.mp h
    have hshort : ¬ line.rowIntegers.any isTooLong = true := by
      rw [List.any_eq_true]
      rintro ⟨v, hv, hlong⟩
      rw [hline v (Line.mem_integers_of_mem_rowIntegers hv)] at hlong
      exact absurd hlong (by decide)
    rw [rows, if_neg hshort, ih hlines]
    rfl

/-- **A report on writable lines is whole.** -/
theorem of_writable {p : Program} (h : ∀ line ∈ p.lines, line.Writable) (style : ReportStyle) :
    Report.of p style = { prints := p.pieces style } := by
  cases style with
  | rows => exact rows_of_writable h
  | summary => rfl
  | json =>
    have hshort : ¬ p.lines.any (·.jsonIntegers.any isTooLong) = true := by
      rw [List.any_eq_true]
      rintro ⟨line, hline, hany⟩
      obtain ⟨v, hv, hlong⟩ := List.any_eq_true.mp hany
      rw [h line hline v (Line.mem_integers_of_mem_jsonIntegers hv)] at hlong
      exact absurd hlong (by decide)
    rw [Report.of, if_neg hshort]
    rfl

end Report

/-! ## Integers that are read -/

theorem Field.isTooLong {letter : CodePoint} {token : Text} {v : Int} (h : Field letter token v) :
    Numeral.isTooLong v = false := by
  obtain ⟨literal, _, hv⟩ := h
  exact hv.isTooLong

/-- The fields of a numbered line are denoted by its tokens. -/
theorem Grammar.isTooLong {raw : Text} {form : Form} {tokens : List Text} (h : Grammar raw form tokens)
    (index : Int) {ps : List Param} (hps : ∀ p ∈ ps, ∀ v, p.intValue = some v → isTooLong v = false) :
    ∀ v ∈ (form.line raw index ps).integers, Numeral.isTooLong v = false := by
  have hflat : ∀ v ∈ ps.flatMap fun p => p.intValue.toList, Numeral.isTooLong v = false := by
    intro v hv
    obtain ⟨p, hp, hmem⟩ := List.mem_flatMap.mp hv
    exact hps p hp v (Option.mem_toList.mp hmem)
  intro v hv
  rw [Line.integers, List.mem_append, List.mem_append] at hv
  cases h with
  | blank _ => exact absurd hv (by simp [Form.line])
  | comment _ _ => exact absurd hv (by simp [Form.line])
  | text _ _ => exact absurd hv (by simp [Form.line])
  | gCode _ hn hcode =>
    rcases hv with (hv | hv) | hv
    · obtain rfl := List.mem_singleton.mp hv
      exact hn.isTooLong
    · obtain rfl := List.mem_singleton.mp hv
      exact hcode.isTooLong
    · exact hflat v hv
  | mCode _ hn hcode =>
    rcases hv with (hv | hv) | hv
    · obtain rfl := List.mem_singleton.mp hv
      exact hn.isTooLong
    · obtain rfl := List.mem_singleton.mp hv
      exact hcode.isTooLong
    · exact hflat v hv
  | otherCode _ hn _ =>
    rcases hv with (hv | hv) | hv
    · obtain rfl := List.mem_singleton.mp hv
      exact hn.isTooLong
    · exact absurd hv List.not_mem_nil
    · exact hflat v hv
  | control _ =>
    rcases hv with (hv | hv) | hv
    · exact absurd hv List.not_mem_nil
    · exact absurd hv List.not_mem_nil
    · exact hflat v hv

/-- **Every integer of a record that is read can be written.** -/
theorem isTooLong_of_build {strict : Bool} {raw : Text} {index : Int} {line : Line}
    (h : ((Reader.mk .standard strict).build raw index).result = .ok line) :
    ∀ v ∈ line.integers, isTooLong v = false := by
  rcases exists_form_of_build h with ⟨form, tokens, ps, hform, hps, rfl⟩ | ⟨_, rfl⟩
  · refine hform.isTooLong index fun p hp v hv => ?_
    obtain ⟨token, _, htoken⟩ := Attempt.exists_of_mem_result_mapM hps hp
    exact (Standard.param_eq_ok_iff.mp htoken).isTooLong hv
  · exact fun v hv => absurd hv List.not_mem_nil

/-! ## Programs that are read -/

section

variable {strict : Bool} {source : Source} {p : Program}

theorem isTooLong_of_parse (h : ((Reader.mk .standard strict).parse source).result = .ok p) :
    ∀ line ∈ p.lines, ∀ v ∈ line.integers, isTooLong v = false := by
  intro line hmem
  obtain ⟨_, _, _, hline⟩ :=
    Reader.exists_build_of_mem (Reader.result_parse_eq_ok_iff.mp h).1 hmem
  exact isTooLong_of_build hline

/-- Every integer of a program that was read can be written, if there are numerals for its lines. -/
theorem writable_of_parse (h : ((Reader.mk .standard strict).parse source).result = .ok p)
    (hsize : source.rawLines.length ≤ 10 ^ digitLimit) : ∀ line ∈ p.lines, line.Writable := by
  intro line hmem v hv
  rcases List.mem_cons.mp hv with rfl | hv
  · -- the index of a line is its position in the source
    obtain ⟨hlines, _⟩ := Reader.result_parse_eq_ok_iff.mp h
    obtain ⟨j, raw, hraw, hline⟩ := Reader.exists_build_of_mem hlines hmem
    obtain ⟨hindex, _⟩ :=
      Reader.enveloped_build Dialect.keepsEnvelope_standard.builders raw (0 + j : Nat) line hline
    obtain ⟨hlt, _⟩ := List.getElem?_eq_some_iff.mp hraw
    rw [Numeral.isTooLong_eq_false_iff, hindex, Int.natAbs_natCast]
    omega
  · exact isTooLong_of_parse h line hmem v hv

/-- **The report on a program that was read is whole.** -/
theorem report_of_parse (h : ((Reader.mk .standard strict).parse source).result = .ok p)
    (hsize : source.rawLines.length ≤ 10 ^ digitLimit) (style : ReportStyle) :
    Report.of p style = { prints := p.pieces style } :=
  Report.of_writable (writable_of_parse h hsize) style

end

end PartProgram
