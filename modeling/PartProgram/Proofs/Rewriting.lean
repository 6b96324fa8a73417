/-
  Parameters, written and read again.

  1. **Program** — `Param.written` puts a parameter down as one token: the identifier, and behind an equals
     sign the value, unless the parameter is a code or an unknown word.

  2. **Specification** — what is written is a word, it is the token of the SAME parameter, and it is the
     very token that was read unless that one holds an integer literal which is not canonical
     (`ParamGrammar.written_eq_token`, `ParamGrammar.written_eq_iff`).

  3. **Lines (`Grammar.rewritten`)** — in a line of a form the parameter tokens may be replaced by any
     others.  Only a line without a code looks at one of them: its first parameter token must not begin
     like a code.  What is written begins as what was read (`ParamGrammar.head?_written`), so this is kept.
-/
import PartProgram.Proofs.ParameterRange
import PartProgram.Proofs.Spacing
import PartProgram.Report

namespace PartProgram

open Numeral (Denotes Canonical)
open Text (IsWord)

/-! ## Tokens -/

namespace ParamGrammar

variable {token : Text} {p : Param}

/-- A parameter without a number of its own is written as it was read. -/
theorem written_eq_token (h : ParamGrammar token p)
    (hkind : p.kind = .code ∨ p.kind = .unknown ∨ p.kind = .text) : p.written = token := by
  cases h with
  | integer _ _ => exact absurd hkind (by simp [Param.integer])
  | double _ _ => exact absurd hkind (by simp [Param.double])
  | text _ _ _ => rfl
  | code _ _ _ => rfl
  | bareCode _ _ _ => rfl
  | unknown _ _ => rfl

/-- An integer parameter is a key and a literal of its value. -/
theorem exists_literal (h : ParamGrammar token p) (hkind : p.kind = .integer) :
    ∃ key literal v, ('=' : CodePoint) ∉ key ∧ Denotes literal v ∧
      token = key ++ ('=' : CodePoint) :: literal ∧
      p = .integer key v := by
  cases h with
  | @integer key literal v hkey hv => exact ⟨key, literal, v, hkey, hv, rfl, rfl⟩
  | _ => exact nomatch hkind

/-- **It is written as it was read exactly if the literal is canonical.** -/
theorem written_eq_iff {key literal : Text} {v : Int} (hv : Denotes literal v) :
    (Param.integer key v).written = key ++ ('=' : CodePoint) :: literal ↔ Canonical literal := by
  rw [← Numeral.ofInt_eq_iff hv]
  show key ++ ('=' : CodePoint) :: Text.ofInt v = key ++ ('=' : CodePoint) :: literal ↔ Text.ofInt v = literal
  rw [List.append_cancel_left_eq, List.cons.injEq]
  exact and_iff_right rfl

/-- What is written begins as what was read. -/
theorem head?_written (h : ParamGrammar token p) : p.written.head? = token.head? := by
  have hkeyed : ∀ key value value' : Text,
      (key ++ ('=' : CodePoint) :: value).head? = (key ++ ('=' : CodePoint) :: value').head? := by
    intro key value value'
    cases key <;> rfl
  cases h with
  | integer _ _ => exact hkeyed _ _ _
  | double _ _ => exact hkeyed _ _ _
  | text _ _ _ => rfl
  | code _ _ _ => rfl
  | bareCode _ _ _ => rfl
  | unknown _ _ => rfl

end ParamGrammar

/-- The parameter of a token by itself. -/
theorem Standard.parameters_singleton {token : Text} {p : Param} :
    (Builders.standard.parameters [token] 0 none).result = .ok [p] ↔ ParamGrammar token p := by
  have hone := parameters_from [token] 0
  rw [List.drop_zero] at hone
  show (Builders.standard.parameters [token] (0 : Nat) none).result = _ ↔ _
  rw [hone, result_mapM_param_eq_ok_iff, List.forall₂_cons]
  exact and_iff_left .nil

/-- The first of the tokens that are written begins as the first that was read. -/
theorem head?_of_mem_head?_written {tokens : List Text} {ps : List Param}
    (h : List.Forall₂ ParamGrammar tokens ps) :
    ∀ w ∈ (ps.map Param.written).head?, ∃ token ∈ tokens.head?, w.head? = token.head? := by
  intro w hw
  cases h with
  | nil => exact nomatch hw
  | cons hp _ =>
    obtain rfl := Option.some.inj hw
    exact ⟨_, rfl, hp.head?_written⟩

/-! ## Lines -/

section

variable {raw raw' : Text} {form : Form} {tokens tokens' : List Text} {index : Int} {ps : List Param}

/-- **Other parameter tokens leave the form as it is**, as long as the first of them begins as before. -/
theorem Grammar.rewritten (h : Grammar raw form tokens)
    (hkind : (form.line raw index ps).kind.isCode = true ∨
      (form.line raw index ps).kind.isControl = true)
    (hwords : raw'.words = raw.words.take (form.line raw index ps).kind.leading ++ tokens')
    (hfirst : ∀ w ∈ tokens'.head?, ∃ token ∈ tokens.head?, w.head? = token.head?) :
    Grammar raw' form tokens' := by
  have hspaced := Text.spaced_words raw'
  rw [hwords] at hspaced
  cases h with
  | blank _ => rcases hkind with hkind | hkind <;> exact nomatch hkind
  | comment _ _ => rcases hkind with hkind | hkind <;> exact nomatch hkind
  | text _ _ => rcases hkind with hkind | hkind <;> exact nomatch hkind
  | gCode hs hn hcode =>
    rw [Text.words_of_spaced hs] at hspaced
    exact .gCode hspaced hn hcode
  | mCode hs hn hcode =>
    rw [Text.words_of_spaced hs] at hspaced
    exact .mCode hspaced hn hcode
  | otherCode hs hn hother =>
    rw [Text.words_of_spaced hs] at hspaced
    refine .otherCode hspaced hn fun w hw => ?_
    obtain ⟨token, htoken, hhead⟩ := hfirst w hw
    rw [hhead]
    exact hother token htoken
  | control hs =>
    have hleading : (Form.control.line raw index ps).kind.leading = 1 :=
      LineKind.leading_of_isControl (isControl_controlKind _)
    rw [hleading, Text.words_of_spaced hs] at hspaced
    exact .control hspaced

/-- The records of a form for two lines with the same first word are alike. -/
theorem Form.alike_line (hfirst : raw'.words.head? = raw.words.head?)
    (hkind : (form.line raw index ps).kind.isCode = true ∨
      (form.line raw index ps).kind.isControl = true) :
    (form.line raw' index ps).Alike (form.line raw index ps) := by
  have hsame : (form.line raw' index ps).kind = (form.line raw index ps).kind := by
    cases form with
    | control =>
      show Standard.controlKind (Text.lower ((raw'.words.headD []).drop 1)) =
        Standard.controlKind (Text.lower ((raw.words.headD []).drop 1))
      rw [List.headD_eq_head?_getD, List.headD_eq_head?_getD, hfirst]
    | _ => rfl
  refine ⟨?_, hsame, ?_, ?_, ?_, fun hcomment => ?_⟩
  · cases form <;> rfl
  · cases form <;> rfl
  · cases form <;> rfl
  · cases form <;> rfl
  · rw [hsame] at hcomment
    rw [hcomment] at hkind
    rcases hkind with hkind | hkind <;> exact nomatch hkind

end

/-- **A line is read alike with its parameters written again.** -/
theorem build_rewritten {strict : Bool} {raw raw' : Text} {index : Int} {line : Line}
    (h : ((Reader.mk .standard strict).build raw index).result = .ok line)
    (hkind : line.kind.isCode = true ∨ line.kind.isControl = true)
    (hno : ∀ p ∈ line.parameters, p.kind ≠ .double)
    (hwords : raw'.words =
      raw.words.take line.kind.leading ++ line.parameters.map Param.written) :
    ∃ line', ((Reader.mk .standard strict).build raw' index).result = .ok line' ∧
      line'.Alike line := by
  obtain ⟨form, hform, hline, hread⟩ := parameters_of_build h hkind
  have hkind' : (form.line raw index line.parameters).kind.isCode = true ∨
      (form.line raw index line.parameters).kind.isControl = true := by
    rw [hline]
    exact hkind
  have hform' : Grammar raw' form (line.parameters.map Param.written) := by
    apply hform.rewritten hkind' _ (head?_of_mem_head?_written hread)
    rw [hline]
    exact hwords
  have hfirst : raw'.words.head? = raw.words.head? := by
    obtain ⟨heads, hlength, hheads⟩ := hform.words_eq hkind'
    have hpos := line.kind.leading_pos
    rw [hline] at hlength
    obtain ⟨w, rest, rfl⟩ := List.exists_cons_of_length_pos (hlength ▸ hpos)
    rw [hwords, List.head?_append, List.head?_take, if_neg (by omega), hheads]
    rfl
  refine ⟨form.line raw' index line.parameters, ?_, ?_⟩
  · rw [Reader.build_of_ne hform'.ne_format, Reader.result_announce, classify_of_grammar hform' index,
      Attempt.result_map, Standard.result_mapM_written fun p hp => (written_of_build h hno p hp).2]
    rfl
  · have halike := Form.alike_line hfirst hkind'
    rw [hline] at halike
    exact halike

/-- **What is written of parameters is read again.**  Under the standard table:
    (1) a word that is read to a parameter without a double: what is written of the parameter is a word
        and is read to the same parameter; it is the word itself, or, of an integer, the identifier, an
        equals sign and the canonical literal of the value, which is the word itself exactly if its own
        literal is canonical;
    (2) a numbered line or a control line without doubles: every line with the same words up to the
        parameters, and with the parameters written again for the others, is read to the same index, kind,
        numbers and parameters, by strict and by permissive readers;
    (3) so is the line that is put together from a text of the first words, a blank, and the parameters
        with single blanks, with and without a line end. -/
theorem parameters_rewritten :
    (∀ (token : Text) (p : Param), IsWord token →
      (Builders.standard.parameters [token] 0 none).result = .ok [p] → p.kind ≠ .double →
      IsWord p.written ∧ (Builders.standard.parameters [p.written] 0 none).result = .ok [p] ∧
      (p.kind = .code ∨ p.kind = .unknown ∨ p.kind = .text → p.written = token) ∧
      (p.kind = .integer → ∃ key literal v, p = .integer key v ∧ ('=' : CodePoint) ∉ key ∧
        token = key ++ ('=' : CodePoint) :: literal ∧ Denotes literal v ∧
        p.written = key ++ ('=' : CodePoint) :: Text.ofInt v ∧ Denotes (Text.ofInt v) v ∧
        Canonical (Text.ofInt v) ∧
        (p.written = token ↔ Canonical literal))) ∧
    ∀ (strict : Bool) (raw : Text) (index : Int) (line : Line),
      ((Reader.mk .standard strict).build raw index).result = .ok line →
      line.kind.isCode = true ∨ line.kind.isControl = true →
      (∀ p ∈ line.parameters, p.kind ≠ .double) →
      (∀ raw' : Text,
        raw'.words = raw.words.take line.kind.leading ++ line.parameters.map Param.written →
        ∃ line', ((Reader.mk .standard strict).build raw' index).result = .ok line' ∧
          line'.Alike line) ∧
      ∀ front : Text, front.words = raw.words.take line.kind.leading →
        ∃ line', ((Reader.mk .standard strict).parseLine (front ++ (' ' : CodePoint) :: line.parameterText)
            index).result = .ok line' ∧ line'.Alike line := by
  refine ⟨fun token p hword hp hno => ?_, fun strict raw index line h hkind hno => ⟨?_, ?_⟩⟩
  · have hgrammar := Standard.parameters_singleton.mp hp
    refine ⟨hgrammar.isWord_written hword hno,
      Standard.parameters_singleton.mpr (hgrammar.written hno), hgrammar.written_eq_token, ?_⟩
    intro hinteger
    obtain ⟨key, literal, v, hkey, hv, rfl, rfl⟩ := hgrammar.exists_literal hinteger
    exact ⟨key, literal, v, rfl, hkey, rfl, hv, rfl, Numeral.denotes_ofInt hv.isTooLong,
      Numeral.canonical_ofInt v, ParamGrammar.written_eq_iff hv⟩
  · intro raw' hwords
    exact build_rewritten h hkind hno hwords
  · intro front hfront
    apply build_rewritten h hkind hno
    rw [Text.words_chomp, Text.words_append_cons (by decide), hfront,
      Line.words_parameterText fun p hp => (written_of_build h hno p hp).1]

/-- An integer with a sign and a zero in front, and a line in which it stands behind a code. -/
theorem parameters_rewritten_signed :
    (∃ p, (Builders.standard.parameters ["X=+05".toText] 0 none).result = .ok [p] ∧
      p.written = "X=5".toText ∧
      (Builders.standard.parameters [p.written] 0 none).result = .ok [p]) ∧
    ∃ line line', ((Reader.mk .standard true).build "N07 G+1 \tX=+05  M+07 Q".toText 3).result =
        .ok line ∧
      ((Reader.mk .standard true).parseLine "N07 G+1 X=5 M+07 Q".toText 3).result = .ok line' ∧
      line'.Alike line := by
  obtain ⟨htokens, hlines⟩ := parameters_rewritten
  constructor
  · obtain ⟨_, hagain, _⟩ := htokens "X=+05".toText (.integer "X".toText 5)
      (by decide) rfl (by decide)
    exact ⟨_, rfl, rfl, hagain⟩
  · obtain ⟨_, hjoined⟩ := hlines true "N07 G+1 \tX=+05  M+07 Q".toText 3 _ rfl (Or.inl rfl) (by decide)
    obtain ⟨line', hline', halike⟩ := hjoined "N07 G+1".toText (by decide)
    exact ⟨_, line', rfl, hline', halike⟩

end PartProgram
