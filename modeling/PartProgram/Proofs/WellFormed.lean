/-
  Every record that is read is well formed.

  1. **Specification** — `Line.WellFormed` and `Param.WellFormed`: which fields are set, by the kind of
     the record and by nothing else.  A comment is what follows the leading blanks of its line; an
     identifier holds no blank and no equals sign.

  2. **Parameters (`wellFormed_of_param`)** — one case for each shape of a token.

  3. **Lines (`Grammar.wellFormed`)** — one case for each form of the grammar.  The only other record
     is the plain text that a permissive reader makes of a malformed line (`wellFormed_of_build`).

  4. **Nothing is lost (`Line.WellFormed.shown_eq`)** — a well formed record holds nothing but what its
     JSON object shows, so it can be rebuilt from that object, whatever its raw text is.
-/
import PartProgram.Proofs.Json.Rebuilt
import PartProgram.Proofs.LineGrammar
import PartProgram.Proofs.Reading

namespace PartProgram

/-! ## Specification -/

/-- A parameter has the value of its kind and no other, and a proper identifier. -/
structure Param.WellFormed (p : Param) : Prop where
  /-- A code may lack its number; every other value of a kind is there. -/
  payload : match p.kind with
    | .code => p.doubleValue = none ∧ p.textValue = none
    | .integer => p.intValue.isSome ∧ p.doubleValue = none ∧ p.textValue = none
    | .double => p.intValue = none ∧ p.doubleValue.isSome ∧ p.textValue = none
    | .text => p.intValue = none ∧ p.doubleValue = none ∧ p.textValue.isSome
    | .unknown => p.intValue = none ∧ p.doubleValue = none ∧ p.textValue = none
  unequal : ('=' : CodePoint) ∉ p.identifier
  unblank : ∀ c ∈ p.identifier, Text.isBlank c = false

/-- A line has the fields of its kind and no others. -/
structure Line.WellFormed (line : Line) : Prop where
  fields : match line.kind with
    | .blank | .text =>
      line.n = none ∧ line.code = none ∧ line.comment = none ∧ line.parameters = []
    | .comment =>
      line.n = none ∧ line.code = none ∧ line.parameters = [] ∧
        ∃ gap rest, Text.Blanks gap ∧ line.comment = some ((';' : CodePoint) :: rest) ∧
          line.raw = gap ++ (';' : CodePoint) :: rest
    | .gCode | .mCode => line.n.isSome ∧ line.code.isSome ∧ line.comment = none
    | .otherCode => line.n.isSome ∧ line.code = none ∧ line.comment = none
    | .branch | .alternative | .branchEnd | .otherControl =>
      line.n = none ∧ line.code = none ∧ line.comment = none
  parameters : ∀ p ∈ line.parameters, p.WellFormed

/-! ## Parameters -/

/-- The parameter of a word is well formed. -/
theorem wellFormed_of_param {token : Text} {p : Param} (hword : Text.IsWord token)
    (hp : (Standard.param .standard token).result = .ok p) : p.WellFormed := by
  by_cases heq : ('=' : CodePoint) ∈ token
  · obtain ⟨key, value, rfl, hkey⟩ := List.eq_append_cons_of_mem heq
    have hblank : ∀ c ∈ key, Text.isBlank c = false :=
      fun c hc => hword.2 c (List.mem_append_left _ hc)
    rw [Standard.param_value hkey] at hp
    rcases hnumber : Numeral.number? value with fault | _ | n | d <;> rw [hnumber] at hp
    · exact absurd hp (by simp [Standard.keyed])
    · obtain rfl : Param.text key value = p := Except.ok.inj hp
      exact ⟨⟨rfl, rfl, rfl⟩, hkey, hblank⟩
    · obtain rfl : Param.integer key n = p := Except.ok.inj hp
      exact ⟨⟨rfl, rfl, rfl⟩, hkey, hblank⟩
    · obtain rfl : Param.double key d = p := Except.ok.inj hp
      exact ⟨⟨rfl, rfl, rfl⟩, hkey, hblank⟩
  · cases token with
    | nil => exact absurd rfl hword.1
    | cons letter rest =>
      by_cases hletter : letter = 'G' ∨ letter = 'M'
      · rw [Standard.param_code hletter heq] at hp
        rcases hnumber : Numeral.integer? rest with fault | number <;> rw [hnumber] at hp
        · exact absurd hp (by simp [Attempt.ofExcept, Functor.map, Except.map])
        · obtain rfl : Param.code (letter :: rest) number = p := Except.ok.inj hp
          exact ⟨⟨rfl, rfl⟩, heq, hword.2⟩
      · rw [Standard.param_other hletter heq] at hp
        obtain rfl : Param.unknown (letter :: rest) = p := Except.ok.inj hp
        exact ⟨⟨rfl, rfl, rfl⟩, heq, hword.2⟩

/-! ## Lines -/

theorem wellFormed_of_text (raw : Text) (index : Int) :
    Line.WellFormed { index, kind := .text, raw } :=
  ⟨⟨rfl, rfl, rfl, rfl⟩, fun _ hp => absurd hp List.not_mem_nil⟩

theorem wellFormed_of_control {line : Line} (hkind : line.kind.isControl = true) (hn : line.n = none)
    (hcode : line.code = none) (hcomment : line.comment = none)
    (hparameters : ∀ p ∈ line.parameters, p.WellFormed) : line.WellFormed := by
  refine ⟨?_, hparameters⟩
  cases h : line.kind <;> simp_all [LineKind.isControl]

/-- The record of a line with a form is well formed, as soon as its parameters are. -/
theorem Grammar.wellFormed {raw : Text} {form : Form} {tokens : List Text}
    (h : Grammar raw form tokens) (index : Int) {ps : List Param} (hps : ∀ p ∈ ps, p.WellFormed) :
    (form.line raw index ps).WellFormed := by
  have hnone : ∀ p ∈ ([] : List Param), p.WellFormed := fun _ hp => absurd hp List.not_mem_nil
  cases h with
  | blank _ => exact ⟨⟨rfl, rfl, rfl, rfl⟩, hnone⟩
  | @comment gap rest hgap heq => exact ⟨⟨rfl, rfl, rfl, gap, rest, hgap, rfl, heq⟩, hnone⟩
  | text _ _ => exact wellFormed_of_text raw index
  | gCode _ _ _ => exact ⟨⟨rfl, rfl, rfl⟩, hps⟩
  | mCode _ _ _ => exact ⟨⟨rfl, rfl, rfl⟩, hps⟩
  | otherCode _ _ _ => exact ⟨⟨rfl, rfl, rfl⟩, hps⟩
  | control _ => exact wellFormed_of_control (isControl_controlKind _) rfl rfl rfl hps

/-- **Every line that is read** has a well formed record. -/
theorem wellFormed_of_build {strict : Bool} {raw : Text} {index : Int} {line : Line}
    (h : ((Reader.mk .standard strict).build raw index).result = .ok line) : line.WellFormed := by
  rcases exists_form_of_build h with ⟨form, tokens, ps, hform, hps, rfl⟩ | ⟨_, rfl⟩
  · refine hform.wellFormed index fun p hp => ?_
    obtain ⟨token, hmem, htoken⟩ := Attempt.exists_of_mem_result_mapM hps hp
    exact wellFormed_of_param (hform.isWord token hmem) htoken
  · exact wellFormed_of_text raw index

theorem wellFormed_of_parse {strict : Bool} {source : Source} {p : Program}
    (h : ((Reader.mk .standard strict).parse source).result = .ok p) :
    ∀ line ∈ p.lines, line.WellFormed := by
  intro line hmem
  obtain ⟨hlines, _⟩ := Reader.result_parse_eq_ok_iff.mp h
  obtain ⟨_, _, _, hline⟩ := Reader.exists_build_of_mem hlines hmem
  exact wellFormed_of_build hline

/-! ## Nothing is lost -/

theorem Param.WellFormed.shown_eq {p : Param} (h : p.WellFormed) : p.shown = p := by
  obtain ⟨kind, identifier, intValue, doubleValue, textValue⟩ := p
  have hpayload := h.payload
  cases kind <;> simp_all [Param.shown]

/-- A well formed record holds nothing but what is written of it. -/
theorem Line.WellFormed.shown_eq {line : Line} (h : line.WellFormed) : line.shown = line := by
  have hmap : line.parameters.map Param.shown = line.parameters :=
    (List.map_congr_left fun p hp => (h.parameters p hp).shown_eq).trans (List.map_id _)
  obtain ⟨index, kind, raw, n, code, parameters, comment⟩ := line
  have hfields := h.fields
  cases kind <;> simp_all [Line.shown, LineKind.isCode, LineKind.isControl]

theorem Line.WellFormed.ofJson?_toJson {line : Line} (h : line.WellFormed) :
    Line.ofJson? line.toJson = some line := by
  rw [Line.ofJson?_toJson, h.shown_eq]

/-- **Whatever is read is well formed**, from every kind of source and by both readers: each record has
    the fields of its kind and no others, and it can be rebuilt from its JSON object.  That the raw text
    is not needed for it shows in the last part: with any other raw text in its place, all else comes
    back as well. -/
theorem parsed_wellFormed (strict : Bool) (source : Source) (p : Program)
    (h : ((Reader.mk .standard strict).parse source).result = .ok p) :
    ∀ line ∈ p.lines, line.WellFormed ∧ Line.ofJson? line.toJson = some line ∧
      ∀ raw : Text, Line.ofJson? { line with raw }.toJson = some { line with raw } := by
  intro line hmem
  obtain ⟨hlines, _⟩ := Reader.result_parse_eq_ok_iff.mp h
  obtain ⟨_, _, _, hline⟩ := Reader.exists_build_of_mem hlines hmem
  have hwell : line.WellFormed := wellFormed_of_build hline
  refine ⟨hwell, hwell.ofJson?_toJson, fun raw => ?_⟩
  -- what is shown of a record does not depend on its raw text
  calc Line.ofJson? { line with raw }.toJson
      = some { line with raw }.shown := Line.ofJson?_toJson { line with raw }
    _ = some { line.shown with raw } := rfl
    _ = some { line with raw } := by rw [hwell.shown_eq]

/-- A line with a parameter of each kind, and a malformed line that is taken as plain text. -/
theorem parsed_wellFormed_demoted :
    ∃ coded plain : Line,
      ((Reader.mk .standard false).parse
        (.text "N1 G1 X=5 F=0.5 T=a Mx Q\nN2 Gx\n".toText)).result = .ok ⟨[coded, plain]⟩ ∧
      coded.parameters =
        [.integer ['X'] 5, .double ['F'] (.finite false (2 ^ 52) (-53)), .text ['T'] ['a'],
          .code ['M', 'x'] none, .unknown ['Q']] ∧
      coded.WellFormed ∧ plain.WellFormed ∧ Line.ofJson? coded.toJson = some coded := by
  have hparse : ((Reader.mk .standard false).parse
      (.text "N1 G1 X=5 F=0.5 T=a Mx Q\nN2 Gx\n".toText)).result =
      .ok ⟨[{ index := 0, kind := .gCode, raw := "N1 G1 X=5 F=0.5 T=a Mx Q".toText, n := some 1,
              code := some 1,
              parameters :=
                [.integer ['X'] 5, .double ['F'] (.finite false (2 ^ 52) (-53)), .text ['T'] ['a'],
                  .code ['M', 'x'] none, .unknown ['Q']] },
            { index := 1, kind := .text, raw := "N2 Gx".toText }]⟩ := rfl
  have hwell := parsed_wellFormed false _ _ hparse
  obtain ⟨hcoded, hrebuilt, _⟩ := hwell _ (List.mem_cons_self ..)
  obtain ⟨hplain, _, _⟩ := hwell _ (List.mem_cons_of_mem _ (List.mem_cons_self ..))
  exact ⟨_, _, hparse, rfl, hcoded, hplain, hrebuilt⟩

end PartProgram
