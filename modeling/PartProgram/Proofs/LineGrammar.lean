/-
  The grammar of lines.

  1. **Program** — the standard classification: two early exits on the raw characters, then tests on
     the first token, then number fields, then parameters, in that order.

  2. **Specification** — `Grammar raw form tokens`: by its characters alone, the line `raw` has the
     form `form`, and `tokens` are its parameter tokens.  One rule for each form, none of which
     mentions another or an order of tests.  `Malformed raw` is what is left over: a numbered line in
     which the number of a field has no value (`Faulty` names the field).

  3. **The grammar is unambiguous and total** — every line is malformed or has exactly one form
     (`Grammar.unique`, `malformed_or_grammar`, `Grammar.not_malformed`).  The forms are told apart by
     the first character that is not blank (`Grammar.leads`), numbered lines by their second word.

  4. **Correctness** — a line with a form gives the record of that form, filled with its parameters
     (`classify_of_grammar`); a malformed line fails (`classify_of_faulty`).  With the totality
     above, these two directions are all of `line_grammar`.

  5. **Readers (`exists_form_of_build`)** — a line that is read, strictly or not, has the record of its
     form, or it is malformed and has the record of plain text.
-/
import PartProgram.Proofs.Dialect.Lines
import PartProgram.Proofs.Reading

namespace PartProgram

open Text (Blanks Spaced words)
open Numeral (Denotes IsLiteral)

/-! ## The grammar -/

/-- What a line can be, with the values that its characters give. -/
inductive Form where
  | blank
  | comment (text : Text)
  | gCode (n code : Int)
  | mCode (n code : Int)
  | otherCode (n : Int)
  | control
  | text

/-- `Grammar raw form tokens` — the line `raw` has the form `form`, with the parameter tokens
    `tokens`. -/
inductive Grammar (raw : Text) : Form → List Text → Prop where
  /-- Nothing but blanks. -/
  | blank (h : Blanks raw) : Grammar raw .blank []
  /-- Blanks, a semicolon, anything; the comment runs from the semicolon on. -/
  | comment {gap rest : Text} (hgap : Blanks gap) (h : raw = gap ++ (';' : CodePoint) :: rest) :
      Grammar raw (.comment (';' :: rest)) []
  /-- `N` and an integer, `G` and an integer, any tokens. -/
  | gCode {first second : Text} {tokens : List Text} {n code : Int}
      (h : Spaced raw (first :: second :: tokens)) (hn : Field 'N' first n)
      (hcode : Field 'G' second code) : Grammar raw (.gCode n code) tokens
  /-- `N` and an integer, `M` and an integer, any tokens. -/
  | mCode {first second : Text} {tokens : List Text} {n code : Int}
      (h : Spaced raw (first :: second :: tokens)) (hn : Field 'N' first n)
      (hcode : Field 'M' second code) : Grammar raw (.mCode n code) tokens
  /-- `N` and an integer, then nothing or a token that begins with neither letter. -/
  | otherCode {first : Text} {tokens : List Text} {n : Int} (h : Spaced raw (first :: tokens))
      (hn : Field 'N' first n)
      (hother : ∀ second ∈ tokens.head?,
        second.head? ≠ some ('G' : CodePoint) ∧ second.head? ≠ some ('M' : CodePoint)) :
      Grammar raw (.otherCode n) tokens
  /-- A colon and a keyword, any tokens. -/
  | control {keyword : Text} {tokens : List Text} (h : Spaced raw ((':' :: keyword) :: tokens)) :
      Grammar raw .control tokens
  /-- A first token that begins with none of the characters above. -/
  | text {c : CodePoint} {word : Text} {others : List Text} (h : Spaced raw ((c :: word) :: others))
      (hc : c ≠ ';' ∧ c ≠ 'N' ∧ c ≠ ':') : Grammar raw .text []

/-- `Faulty raw letter number` — in the numbered line `raw` the field of `letter`, which is `N` or the
    code, has `number` where an integer literal of at most 4300 digits should stand.  If this is so of
    both fields, it is the first one that counts. -/
inductive Faulty (raw : Text) : CodePoint → Text → Prop where
  | number {number : Text} {others : List Text} (h : Spaced raw (('N' :: number) :: others))
      (hno : ¬ ∃ n, Denotes number n) : Faulty raw 'N' number
  | code {first number : Text} {letter : CodePoint} {tokens : List Text} {n : Int}
      (h : Spaced raw (first :: (letter :: number) :: tokens)) (hn : Field 'N' first n)
      (hletter : letter = 'G' ∨ letter = 'M') (hno : ¬ ∃ code, Denotes number code) :
      Faulty raw letter number

/-- A numbered line in which the number of a field has no value. -/
def Malformed (raw : Text) : Prop := ∃ letter number, Faulty raw letter number

/-- `line.Shows form` — the record is of the kind of the form, with the values of the form. -/
def Line.Shows (line : Line) : Form → Prop
  | .blank => line.kind = .blank
  | .comment text => line.kind = .comment ∧ line.comment = some text
  | .gCode n code => line.kind = .gCode ∧ line.n = some n ∧ line.code = some code
  | .mCode n code => line.kind = .mCode ∧ line.n = some n ∧ line.code = some code
  | .otherCode n => line.kind = .otherCode ∧ line.n = some n
  | .control => line.kind.isControl = true
  | .text => line.kind = .text

/-! ## The grammar is unambiguous -/

/-- The characters that a form can lead with: the first one of the line that is not blank. -/
def Form.LeadsWith : Form → Option CodePoint → Prop
  | .blank, lead => lead = none
  | .comment _, lead => lead = some (';' : CodePoint)
  | .gCode _ _, lead | .mCode _ _, lead | .otherCode _, lead => lead = some ('N' : CodePoint)
  | .control, lead => lead = some (':' : CodePoint)
  | .text, lead => ∃ c, lead = some c ∧ c ≠ ';' ∧ c ≠ 'N' ∧ c ≠ ':'

/-- The first character of the first word. -/
def lead (raw : Text) : Option CodePoint := raw.words.head?.bind List.head?

theorem lead_of_spaced {raw word : Text} {c : CodePoint} {others : List Text}
    (h : Spaced raw ((c :: word) :: others)) : lead raw = some c := by
  rw [lead, Text.words_of_spaced h]
  rfl

theorem lead_of_field {raw first : Text} {others : List Text} {letter : CodePoint} {v : Int}
    (h : Spaced raw (first :: others)) (hfield : Field letter first v) : lead raw = some letter := by
  obtain ⟨literal, rfl, _⟩ := hfield
  exact lead_of_spaced h

theorem Grammar.leads {raw : Text} {form : Form} {tokens : List Text}
    (h : Grammar raw form tokens) : form.LeadsWith (lead raw) := by
  cases h with
  | blank hblanks => show lead raw = none; rw [lead, Text.words_of_blanks hblanks]; rfl
  | @comment gap rest hgap heq =>
    obtain ⟨w, ws, hws⟩ : ∃ w ws, words raw = ((';' : CodePoint) :: w) :: ws :=
      Text.words_head_iff.mpr ⟨gap, rest, hgap, Standard.isBlank_semicolon, heq⟩
    exact lead_of_spaced (Text.words_eq_iff.mp hws)
  | gCode hs hn _ => exact lead_of_field hs hn
  | mCode hs hn _ => exact lead_of_field hs hn
  | otherCode hs hn _ => exact lead_of_field hs hn
  | control hs => exact lead_of_spaced hs
  | text hs hc => exact ⟨_, lead_of_spaced hs, hc⟩

theorem Field.unique {letter letter' : CodePoint} {token : Text} {v v' : Int} (h : Field letter token v)
    (h' : Field letter' token v') : letter = letter' ∧ v = v' := by
  obtain ⟨literal, rfl, hv⟩ := h
  obtain ⟨literal', heq, hv'⟩ := h'
  rw [List.cons.injEq] at heq
  obtain ⟨rfl, rfl⟩ := heq
  exact ⟨rfl, hv.unique hv'⟩

theorem Field.head? {letter : CodePoint} {token : Text} {v : Int} (h : Field letter token v) :
    token.head? = some letter := by
  obtain ⟨literal, rfl, _⟩ := h
  rfl

theorem spaced_unique {raw : Text} {ws ws' : List Text} (h : Spaced raw ws) (h' : Spaced raw ws') :
    ws = ws' := by
  rw [← Text.words_of_spaced h, Text.words_of_spaced h']

theorem semicolon_not_mem_of_blanks {gap : Text} (h : Blanks gap) : (';' : CodePoint) ∉ gap := by
  intro hmem
  have hblank := h ';' hmem
  rw [Standard.isBlank_semicolon] at hblank
  exact absurd hblank (by decide)

/-- A line with a code has no other code, and has one. -/
theorem Grammar.unique_of_code {raw : Text} {letter : CodePoint} {first second : Text}
    {tokens tokens' : List Text} {n code : Int} {form' : Form}
    (hletter : letter = 'G' ∨ letter = 'M') (h : Spaced raw (first :: second :: tokens))
    (hn : Field 'N' first n) (hcode : Field letter second code) (h' : Grammar raw form' tokens') :
    form' = (if letter = 'G' then Form.gCode n code else Form.mCode n code) ∧ tokens' = tokens := by
  have hlead := h'.leads
  rw [lead_of_field h hn] at hlead
  cases h' with
  | gCode hs hn' hcode' =>
    have heq := spaced_unique h hs
    rw [List.cons.injEq, List.cons.injEq] at heq
    obtain ⟨rfl, rfl, rfl⟩ := heq
    obtain ⟨rfl, rfl⟩ := hcode.unique hcode'
    obtain ⟨_, rfl⟩ := hn.unique hn'
    exact ⟨(if_pos rfl).symm, rfl⟩
  | mCode hs hn' hcode' =>
    have heq := spaced_unique h hs
    rw [List.cons.injEq, List.cons.injEq] at heq
    obtain ⟨rfl, rfl, rfl⟩ := heq
    obtain ⟨rfl, rfl⟩ := hcode.unique hcode'
    obtain ⟨_, rfl⟩ := hn.unique hn'
    exact ⟨(if_neg (by decide)).symm, rfl⟩
  | otherCode hs _ hother =>
    have heq := spaced_unique h hs
    rw [List.cons.injEq] at heq
    obtain ⟨hG, hM⟩ := hother second (by rw [← heq.2]; rfl)
    rw [hcode.head?] at hG hM
    rcases hletter with rfl | rfl
    · exact absurd rfl hG
    · exact absurd rfl hM
  | _ => exact absurd hlead (by simp [Form.LeadsWith])

/-- **The grammar is unambiguous.**  Forms with different leading characters exclude each other; the
    three forms of numbered lines are told apart by `unique_of_code`. -/
theorem Grammar.unique {raw : Text} {form form' : Form} {tokens tokens' : List Text}
    (h : Grammar raw form tokens) (h' : Grammar raw form' tokens') :
    form = form' ∧ tokens = tokens' := by
  have hlead := h.leads
  have hlead' := h'.leads
  cases h with
  | blank _ =>
    rw [show lead raw = none from hlead] at hlead'
    cases h' with
    | blank _ => exact ⟨rfl, rfl⟩
    | _ => exact absurd hlead' (by simp [Form.LeadsWith])
  | comment hgap heq =>
    rw [show lead raw = some (';' : CodePoint) from hlead] at hlead'
    cases h' with
    | comment hgap' heq' =>
      rw [heq] at heq'
      obtain ⟨_, rfl⟩ := Text.append_cons_inj (semicolon_not_mem_of_blanks hgap)
        (semicolon_not_mem_of_blanks hgap') heq'
      exact ⟨rfl, rfl⟩
    | _ => exact absurd hlead' (by simp [Form.LeadsWith])
  | gCode hs hn hcode =>
    obtain ⟨rfl, rfl⟩ := h'.unique_of_code (Or.inl rfl) hs hn hcode
    exact ⟨rfl, rfl⟩
  | mCode hs hn hcode =>
    obtain ⟨rfl, rfl⟩ := h'.unique_of_code (Or.inr rfl) hs hn hcode
    exact ⟨rfl, rfl⟩
  | otherCode hs hn hother =>
    rw [show lead raw = some ('N' : CodePoint) from hlead] at hlead'
    have hself := Grammar.otherCode hs hn hother
    cases h' with
    | gCode hs' hn' hcode' =>
      exact absurd (hself.unique_of_code (Or.inl rfl) hs' hn' hcode').1 (by simp)
    | mCode hs' hn' hcode' =>
      exact absurd (hself.unique_of_code (Or.inr rfl) hs' hn' hcode').1 (by simp)
    | otherCode hs' hn' _ =>
      have heq := spaced_unique hs hs'
      rw [List.cons.injEq] at heq
      obtain ⟨rfl, rfl⟩ := heq
      obtain ⟨_, rfl⟩ := hn.unique hn'
      exact ⟨rfl, rfl⟩
    | _ => exact absurd hlead' (by simp [Form.LeadsWith])
  | control hs =>
    rw [show lead raw = some (':' : CodePoint) from hlead] at hlead'
    cases h' with
    | control hs' =>
      have heq := spaced_unique hs hs'
      rw [List.cons.injEq] at heq
      exact ⟨rfl, heq.2⟩
    | _ => exact absurd hlead' (by simp [Form.LeadsWith])
  | text _ _ =>
    obtain ⟨c, hc, hsemicolon, hn, hcolon⟩ := hlead
    rw [hc] at hlead'
    cases h' with
    | text _ _ => exact ⟨rfl, rfl⟩
    | _ => exact absurd hlead' (by simp [Form.LeadsWith, hsemicolon, hn, hcolon])

/-- A malformed line has no form: it is a numbered line, and one of its fields has no value. -/
theorem Grammar.not_malformed {raw : Text} {form : Form} {tokens : List Text}
    (h : Grammar raw form tokens) : ¬ Malformed raw := by
  rintro ⟨letter, number, hbad⟩
  have hlead := h.leads
  cases hbad with
  | number hs hno =>
    rw [lead_of_spaced hs] at hlead
    -- in each form that is left, the first field has a value
    have hfirst : ∀ {first : Text} {ws : List Text} {n : Int}, Spaced raw (first :: ws) →
        ¬ Field 'N' first n := by
      rintro first ws n hs' ⟨literal, rfl, hv⟩
      have heq := spaced_unique hs hs'
      rw [List.cons.injEq, List.cons.injEq] at heq
      exact hno ⟨n, heq.1.2 ▸ hv⟩
    cases h with
    | gCode hs' hn _ => exact hfirst hs' hn
    | mCode hs' hn _ => exact hfirst hs' hn
    | otherCode hs' hn _ => exact hfirst hs' hn
    | _ => exact absurd hlead (by simp [Form.LeadsWith])
  | code hs hn hletter hno =>
    rw [lead_of_field hs hn] at hlead
    -- in each form with a code, the second field has a value
    have hsecond : ∀ {first second : Text} {ws : List Text} {letter' : CodePoint} {code : Int},
        Spaced raw (first :: second :: ws) → ¬ Field letter' second code := by
      rintro first second ws letter' code hs' ⟨literal, rfl, hv⟩
      have heq := spaced_unique hs hs'
      rw [List.cons.injEq, List.cons.injEq, List.cons.injEq] at heq
      exact hno ⟨code, heq.2.1.2 ▸ hv⟩
    cases h with
    | gCode hs' _ hcode => exact hsecond hs' hcode
    | mCode hs' _ hcode => exact hsecond hs' hcode
    | otherCode hs' _ hother =>
      have heq := spaced_unique hs hs'
      rw [List.cons.injEq] at heq
      obtain ⟨hG, hM⟩ := hother (letter :: number) (by rw [← heq.2]; rfl)
      rcases hletter with rfl | rfl
      · exact absurd rfl hG
      · exact absurd rfl hM
    | _ => exact absurd hlead (by simp [Form.LeadsWith])

/-! ## The grammar is total -/

/-- A numbered line is malformed or has one of the three forms of numbered lines. -/
theorem malformed_or_grammar_of_numbered {raw number : Text} {others : List Text}
    (hs : Spaced raw (('N' :: number) :: others)) :
    Malformed raw ∨ ∃ form tokens, Grammar raw form tokens := by
  by_cases hnumber : ∃ n, Denotes number n
  · obtain ⟨n, hn⟩ := hnumber
    have hfield : Field 'N' ('N' :: number) n := ⟨number, rfl, hn⟩
    by_cases hcoded : ∃ letter codeNumber tokens,
        others = (letter :: codeNumber) :: tokens ∧ (letter = 'G' ∨ letter = 'M')
    · obtain ⟨letter, codeNumber, tokens, rfl, hletter⟩ := hcoded
      by_cases hcode : ∃ code, Denotes codeNumber code
      · obtain ⟨code, hcode⟩ := hcode
        rcases hletter with rfl | rfl
        · exact Or.inr ⟨_, _, Grammar.gCode hs hfield ⟨codeNumber, rfl, hcode⟩⟩
        · exact Or.inr ⟨_, _, Grammar.mCode hs hfield ⟨codeNumber, rfl, hcode⟩⟩
      · exact Or.inl ⟨letter, codeNumber, Faulty.code hs hfield hletter hcode⟩
    · refine Or.inr ⟨_, _, Grammar.otherCode hs hfield fun second hsecond => ?_⟩
      cases others with
      | nil => exact absurd hsecond (by simp)
      | cons word tokens =>
        obtain rfl : word = second := Option.some.inj hsecond
        cases word with
        | nil => exact ⟨by simp, by simp⟩
        | cons letter rest =>
          have hno : ¬ (letter = 'G' ∨ letter = 'M') :=
            fun hletter => hcoded ⟨letter, rest, tokens, rfl, hletter⟩
          simpa [not_or] using hno
  · exact Or.inl ⟨'N', number, Faulty.number hs hnumber⟩

/-- **The grammar is total.** -/
theorem malformed_or_grammar (raw : Text) :
    Malformed raw ∨ ∃ form tokens, Grammar raw form tokens := by
  cases hws : raw.words with
  | nil => exact Or.inr ⟨_, _, Grammar.blank (Text.words_eq_nil_iff.mp hws)⟩
  | cons first others =>
    have hs : Spaced raw (first :: others) := Text.words_eq_iff.mp hws
    cases first with
    | nil => exact absurd rfl (hs.isWord [] List.mem_cons_self).1
    | cons c word =>
      by_cases hn : c = 'N'
      · subst hn
        exact malformed_or_grammar_of_numbered hs
      · by_cases hcolon : c = ':'
        · subst hcolon
          exact Or.inr ⟨_, _, Grammar.control hs⟩
        · by_cases hsemicolon : c = ';'
          · subst hsemicolon
            obtain ⟨gap, rest, hgap, _, heq⟩ := Text.words_head_iff.mp ⟨word, others, hws⟩
            exact Or.inr ⟨_, _, Grammar.comment hgap heq⟩
          · exact Or.inr ⟨_, _, Grammar.text hs ⟨hsemicolon, hn, hcolon⟩⟩

/-! ## Correctness of the standard classification -/

/-- The record of a line of a given form, with its parameters. -/
def Form.line (raw : Text) (index : Int) (parameters : List Param) : Form → Line
  | .blank => { index, kind := .blank, raw }
  | .comment found => { index, kind := .comment, raw, comment := some found }
  | .gCode n code => { index, kind := .gCode, raw, n := some n, code := some code, parameters }
  | .mCode n code => { index, kind := .mCode, raw, n := some n, code := some code, parameters }
  | .otherCode n => { index, kind := .otherCode, raw, n := some n, parameters }
  | .control =>
    -- the kind is that of the keyword, which is the first word without its colon
    { index, kind := Standard.controlKind (Text.lower ((raw.words.headD []).drop 1)), raw, parameters }
  | .text => { index, kind := .text, raw }

theorem isControl_controlKind (keyword : Text) : (Standard.controlKind keyword).isControl = true := by
  unfold Standard.controlKind
  split
  · rfl
  · split
    · rfl
    · split <;> rfl

theorem Form.shows_line (form : Form) (raw : Text) (index : Int) (parameters : List Param) :
    (form.line raw index parameters).Shows form := by
  cases form with
  | control => exact isControl_controlKind _
  | blank => exact rfl
  | text => exact rfl
  | comment found => exact ⟨rfl, rfl⟩
  | gCode n code => exact ⟨rfl, rfl, rfl⟩
  | mCode n code => exact ⟨rfl, rfl, rfl⟩
  | otherCode n => exact ⟨rfl, rfl⟩

/-- The record of a line with a form holds the parameters that it is given: a form without room for
    parameters has no parameter tokens. -/
theorem Grammar.parameters_line {raw : Text} {form : Form} {tokens : List Text}
    (h : Grammar raw form tokens) {ps : List Param} (hlength : tokens.length = ps.length)
    (index : Int) : (form.line raw index ps).parameters = ps := by
  -- for the forms without parameters
  have hnil : tokens = [] → [] = ps := by
    rintro rfl
    exact (List.length_eq_zero_iff.mp hlength.symm).symm
  cases h with
  | blank _ => exact hnil rfl
  | comment _ _ => exact hnil rfl
  | text _ _ => exact hnil rfl
  | gCode _ _ _ => rfl
  | mCode _ _ _ => rfl
  | otherCode _ _ _ => rfl
  | control _ => rfl

/-- A record shows one form only. -/
theorem Line.Shows.unique {line : Line} {form form' : Form} (h : line.Shows form)
    (h' : line.Shows form') : form = form' := by
  cases form <;> cases form' <;> simp_all [Line.Shows, LineKind.isControl]

/-- A numbered line whose two fields have values asks the table for the parameters behind them. -/
theorem codeLine_of_fields {raw first second : Text} {letter : CodePoint} {tokens : List Text}
    {n code : Int} (hletter : letter = 'G' ∨ letter = 'M')
    (h : Spaced raw (first :: second :: tokens)) (hn : Field 'N' first n)
    (hcode : Field letter second code) (table : Builders) (index : Int) :
    Standard.codeLine table raw raw.words index =
      (fun parameters =>
        { index, kind := if letter = 'G' then .gCode else .mCode, raw, n := some n,
          code := some code, parameters }) <$> table.parameters raw.words (2 : Nat) none := by
  obtain ⟨number, rfl, hnumber⟩ := hn
  obtain ⟨codeNumber, rfl, hcodeNumber⟩ := hcode
  rw [Text.words_of_spaced h, Standard.codeLine_of_code table hletter,
    Standard.fieldNumber_of_denotes hnumber, pure_bind,
    Standard.fieldNumber_of_denotes hcodeNumber, pure_bind]

theorem classify_of_code {raw first second : Text} {letter : CodePoint} {tokens : List Text} {n code : Int}
    (hletter : letter = 'G' ∨ letter = 'M') (h : Spaced raw (first :: second :: tokens))
    (hn : Field 'N' first n) (hcode : Field letter second code) (index : Int) :
    Builders.standard.classify raw index =
      (fun parameters =>
        { index, kind := if letter = 'G' then .gCode else .mCode, raw, n := some n,
          code := some code, parameters }) <$> tokens.mapM (Standard.param .standard) := by
  have hws := Text.words_of_spaced h
  have hline := codeLine_of_fields hletter h hn hcode .standard index
  obtain ⟨number, rfl, _⟩ := hn
  rw [Standard.classify_of_numbered hws, ← hws, hline, Standard.parameters_from, hws]
  rfl

/-- **A line with a form gives the record of that form**, as soon as its parameters can be built. -/
theorem classify_of_grammar {raw : Text} {form : Form} {tokens : List Text}
    (h : Grammar raw form tokens) (index : Int) :
    Builders.standard.classify raw index =
      (fun parameters => form.line raw index parameters) <$>
        tokens.mapM (Standard.param .standard) := by
  cases h with
  | blank hblanks => exact Standard.classify_of_blanks hblanks index
  | comment hgap heq =>
    subst heq
    exact Standard.classify_of_comment hgap _ index
  | gCode hs hn hcode => exact classify_of_code (Or.inl rfl) hs hn hcode index
  | mCode hs hn hcode => exact classify_of_code (Or.inr rfl) hs hn hcode index
  | otherCode hs hn hother =>
    obtain ⟨number, rfl, hnumber⟩ := hn
    rw [Standard.classify_of_numbered (Text.words_of_spaced hs)]
    cases tokens with
    | nil =>
      rw [Standard.codeLine_alone, Standard.fieldNumber_of_denotes hnumber]
      rfl
    | cons second tokens =>
      cases second with
      | nil => exact absurd rfl (hs.isWord [] (by simp)).1
      | cons letter rest =>
        have hletter : ¬ (letter = 'G' ∨ letter = 'M') := by
          simpa [not_or] using hother (letter :: rest) rfl
        rw [Standard.codeLine_other hletter, Standard.fieldNumber_of_denotes hnumber]
        rfl
  | control hs =>
    have hws := Text.words_of_spaced hs
    rw [Standard.classify_of_control hws]
    simp only [Form.line, hws, List.headD_cons, List.drop_one, List.tail_cons]
  | text hs hc => exact Standard.classify_of_text (Text.words_of_spaced hs) hc index

/-- **A malformed line fails as its field does**, and in silence. -/
theorem classify_of_faulty {raw : Text} {letter : CodePoint} {number : Text}
    (h : Faulty raw letter number) (index : Int) :
    ∃ fault, Standard.fieldNumber [letter] (letter :: number) raw index = .fail fault ∧
      Builders.standard.classify raw index = .fail fault := by
  cases h with
  | number hs hno =>
    obtain ⟨fault, hfault⟩ := Standard.fieldNumber_of_not_denotes hno ['N'] 'N' raw index
    refine ⟨fault, hfault, ?_⟩
    rw [Standard.classify_of_numbered (Text.words_of_spaced hs)]
    show (Standard.fieldNumber ['N'] ('N' :: number) raw index >>= _) = _
    rw [hfault]
    rfl
  | code hs hn hletter hno =>
    -- the `N` field has a value, so that the field of the code is come to
    obtain ⟨literal, rfl, hv⟩ := hn
    obtain ⟨fault, hfault⟩ := Standard.fieldNumber_of_not_denotes hno [letter] letter raw index
    refine ⟨fault, hfault, ?_⟩
    rw [Standard.classify_of_numbered (Text.words_of_spaced hs), Standard.codeLine_coded hletter,
      Standard.fieldNumber_of_denotes hv, pure_bind, hfault]
    rfl

/-- A field that is no integer literal is an error of the line. -/
theorem classify_of_faulty_text {raw : Text} {letter : CodePoint} {number : Text}
    (h : Faulty raw letter number) (hno : ¬ ∃ negative digits, IsLiteral number negative digits)
    (index : Int) :
    Builders.standard.classify raw index =
      .fail (.format (.notInteger [letter] (letter :: number) raw index)) := by
  obtain ⟨fault, hfield, hfault⟩ := classify_of_faulty h index
  rw [hfault]
  rcases Standard.fieldNumber_cases [letter] letter number raw index with
    ⟨v, ⟨negative, digits, hlit, _⟩, _⟩ | ⟨_, heq⟩ | ⟨n, ⟨_, negative, digits, hlit, _⟩, _⟩
  · exact absurd ⟨negative, digits, hlit⟩ hno
  · rw [show fault = _ from Except.error.inj (congrArg Attempt.result (hfield.symm.trans heq))]
  · exact absurd ⟨negative, digits, hlit⟩ hno

/-- A field with too many digits is refused. -/
theorem classify_of_faulty_overlong {raw : Text} {letter : CodePoint} {number : Text} {n : Nat}
    (h : Faulty raw letter number) (hn : Numeral.Overlong number n) (index : Int) :
    Builders.standard.classify raw index = .fail (.tooManyDigits n) := by
  obtain ⟨fault, hfield, hfault⟩ := classify_of_faulty h index
  rw [hfault]
  rcases Standard.fieldNumber_cases [letter] letter number raw index with
    ⟨v, hv, _⟩ | ⟨hno, _⟩ | ⟨m, hm, heq⟩
  · exact absurd hn (hv.not_overlong n)
  · obtain ⟨_, negative, digits, hlit, _⟩ := hn
    exact absurd ⟨negative, digits, hlit⟩ hno
  · rw [hn.unique hm]
    rw [show fault = _ from Except.error.inj (congrArg Attempt.result (hfield.symm.trans heq))]

theorem classify_of_malformed {raw : Text} (h : Malformed raw) (index : Int) :
    ∃ fault, Builders.standard.classify raw index = .fail fault := by
  obtain ⟨letter, number, hbad⟩ := h
  obtain ⟨fault, _, hfault⟩ := classify_of_faulty hbad index
  exact ⟨fault, hfault⟩

/-- The parameter tokens of a line are words of it. -/
theorem Grammar.isWord {raw : Text} {form : Form} {tokens : List Text} (h : Grammar raw form tokens) :
    ∀ token ∈ tokens, Text.IsWord token := by
  intro token hmem
  cases h with
  | blank _ => exact absurd hmem List.not_mem_nil
  | comment _ _ => exact absurd hmem List.not_mem_nil
  | text _ _ => exact absurd hmem List.not_mem_nil
  | gCode hs _ _ => exact hs.isWord token (by simp [hmem])
  | mCode hs _ _ => exact hs.isWord token (by simp [hmem])
  | otherCode hs _ _ => exact hs.isWord token (by simp [hmem])
  | control hs => exact hs.isWord token (by simp [hmem])

theorem Grammar.ne_nil {raw : Text} {form : Form} {tokens : List Text} (h : Grammar raw form tokens) :
    ∀ token ∈ tokens, token ≠ [] :=
  fun token hmem => (h.isWord token hmem).1

/-- A line with a form is built exactly if none of its parameter tokens is refused. -/
theorem Grammar.built_iff {raw : Text} {form : Form} {tokens : List Text}
    (h : Grammar raw form tokens) (index : Int) :
    (∃ line, (Builders.standard.classify raw index).result = .ok line) ↔
      ∀ token ∈ tokens, ¬ ∃ n, Refused token n := by
  rw [← Standard.exists_mapM_param_ok_iff h.ne_nil, classify_of_grammar h index, Attempt.result_map]
  cases (tokens.mapM (Standard.param .standard)).result with
  | error fault => simp [Functor.map, Except.map]
  | ok ps => simp [Functor.map, Except.map]

/-- A line with a form fails only by a parameter token that is refused. -/
theorem Grammar.exists_refused {raw : Text} {form : Form} {tokens : List Text} {index : Int}
    {fault : Fault} (h : Grammar raw form tokens)
    (hfault : (Builders.standard.classify raw index).result = .error fault) :
    ∃ token ∈ tokens, ∃ n, Refused token n ∧ fault = .tooManyDigits n := by
  rw [classify_of_grammar h index, ← Attempt.bind_pure_eq_map,
    Attempt.result_bind_eq_error_iff] at hfault
  rcases hfault with hfault | ⟨ps, _, hpure⟩
  · obtain ⟨token, hmem, htoken⟩ := Attempt.exists_of_result_mapM_eq_error hfault
    exact ⟨token, hmem, (Standard.param_eq_error_iff (h.ne_nil token hmem)).mp htoken⟩
  · exact absurd hpure (by simp)

theorem Grammar.ne_format {raw : Text} {form : Form} {tokens : List Text} {index : Int}
    (h : Grammar raw form tokens) (e : FormatError) :
    (Builders.standard.classify raw index).result ≠ .error (.format e) := by
  intro he
  obtain ⟨_, _, n, _, heq⟩ := h.exists_refused he
  exact absurd heq (by simp)

theorem Grammar.shows {raw : Text} {form : Form} {tokens : List Text} {index : Int} {line : Line}
    (h : Grammar raw form tokens)
    (hline : (Builders.standard.classify raw index).result = .ok line) : line.Shows form := by
  rw [classify_of_grammar h index, Attempt.result_map] at hline
  cases hps : (tokens.mapM (Standard.param .standard)).result with
  | error fault => rw [hps] at hline; exact absurd hline (by simp [Functor.map, Except.map])
  | ok ps =>
    rw [hps] at hline
    obtain rfl : form.line raw index ps = line := Except.ok.inj hline
    exact form.shows_line raw index ps

/-- **How a line is read**, by both readers: with a form it has the record of that form, and malformed
    it has the record of plain text. -/
theorem exists_form_of_build {strict : Bool} {raw : Text} {index : Int} {line : Line}
    (h : ((Reader.mk .standard strict).build raw index).result = .ok line) :
    (∃ form tokens ps, Grammar raw form tokens ∧
      (tokens.mapM (Standard.param .standard)).result = .ok ps ∧ form.line raw index ps = line) ∨
    Malformed raw ∧ { index, kind := .text, raw } = line := by
  rcases malformed_or_grammar raw with hbad | ⟨form, tokens, hform⟩
  · refine Or.inr ⟨hbad, ?_⟩
    rcases Reader.classify_or_textLine_of_build h with hclassify | htext
    · obtain ⟨fault, hfault⟩ := classify_of_malformed hbad index
      rw [hfault] at hclassify
      exact absurd hclassify (by simp)
    · rw [Builders.standard_textLine] at htext
      exact Except.ok.inj htext
  · rw [Reader.build_of_ne hform.ne_format, Reader.result_announce, classify_of_grammar hform index,
      ← Attempt.bind_pure_eq_map, Attempt.result_bind_eq_ok_iff] at h
    obtain ⟨ps, hps, hpure⟩ := h
    exact Or.inl ⟨form, tokens, ps, hform, hps, Except.ok.inj hpure⟩

/-! ## What is built, and what fails -/

/-- **A record of a form is built** exactly if the line has that form and no parameter token of it is
    refused. -/
theorem exists_classify_shows_iff {raw : Text} {index : Int} {form : Form} :
    (∃ line, (Builders.standard.classify raw index).result = .ok line ∧ line.Shows form) ↔
      ∃ tokens, Grammar raw form tokens ∧ ∀ token ∈ tokens, ¬ ∃ n, Refused token n := by
  constructor
  · rintro ⟨line, hline, hshows⟩
    rcases malformed_or_grammar raw with hbad | ⟨form', tokens, h⟩
    · obtain ⟨fault, hfault⟩ := classify_of_malformed hbad index
      rw [hfault] at hline
      exact absurd hline (by simp)
    · -- the line has some form, and the record shows no other
      obtain rfl := (h.shows hline).unique hshows
      exact ⟨tokens, h, (h.built_iff index).mp ⟨line, hline⟩⟩
  · rintro ⟨tokens, h, hread⟩
    obtain ⟨line, hline⟩ := (h.built_iff index).mpr hread
    exact ⟨line, hline, h.shows hline⟩

/-- Every record that is built shows a form. -/
theorem exists_shows_of_classify {raw : Text} {index : Int} {line : Line}
    (hline : (Builders.standard.classify raw index).result = .ok line) : ∃ form, line.Shows form := by
  rcases malformed_or_grammar raw with hbad | ⟨form, tokens, h⟩
  · obtain ⟨fault, hfault⟩ := classify_of_malformed hbad index
    rw [hfault] at hline
    exact absurd hline (by simp)
  · exact ⟨form, h.shows hline⟩

/-- **A line fails** exactly if it is malformed or one of its parameter tokens is refused. -/
theorem exists_classify_error_iff {raw : Text} {index : Int} :
    (∃ fault, (Builders.standard.classify raw index).result = .error fault) ↔
      Malformed raw ∨
        ∃ form tokens, Grammar raw form tokens ∧ ∃ token ∈ tokens, ∃ n, Refused token n := by
  constructor
  · rintro ⟨fault, hfault⟩
    rcases malformed_or_grammar raw with hbad | ⟨form, tokens, h⟩
    · exact Or.inl hbad
    · obtain ⟨token, hmem, n, hn, _⟩ := h.exists_refused hfault
      exact Or.inr ⟨form, tokens, h, token, hmem, n, hn⟩
  · rintro (hbad | ⟨form, tokens, h, token, hmem, hn⟩)
    · obtain ⟨fault, hfault⟩ := classify_of_malformed hbad index
      exact ⟨fault, congrArg Attempt.result hfault⟩
    · cases hresult : (Builders.standard.classify raw index).result with
      | error fault => exact ⟨fault, rfl⟩
      | ok line => exact absurd hn ((h.built_iff index).mp ⟨line, hresult⟩ token hmem)

/-- **The grammar of lines.**  For every line and every index, under the standard table:
    (1) a record of a form is built exactly if the characters of the line match that form and none of
        its parameter tokens is refused;
    (2) every record that is built shows a form;
    (3) the line fails exactly if it is malformed or one of its parameter tokens is refused;
    (4) the line has exactly one form or is malformed, and never both. -/
theorem line_grammar (raw : Text) (index : Int) :
    (∀ form, (∃ line, (Builders.standard.classify raw index).result = .ok line ∧ line.Shows form) ↔
      ∃ tokens, Grammar raw form tokens ∧ ∀ token ∈ tokens, ¬ ∃ n, Refused token n) ∧
    (∀ line, (Builders.standard.classify raw index).result = .ok line → ∃ form, line.Shows form) ∧
    ((∃ fault, (Builders.standard.classify raw index).result = .error fault) ↔
      Malformed raw ∨
        ∃ form tokens, Grammar raw form tokens ∧ ∃ token ∈ tokens, ∃ n, Refused token n) ∧
    ((Malformed raw ∧ ¬ ∃ form tokens, Grammar raw form tokens) ∨
      (¬ Malformed raw ∧ ∃! p : Form × List Text, Grammar raw p.1 p.2)) := by
  refine ⟨fun form => exists_classify_shows_iff, fun line hline => exists_shows_of_classify hline,
    exists_classify_error_iff, ?_⟩
  rcases malformed_or_grammar raw with hbad | ⟨form, tokens, h⟩
  · refine Or.inl ⟨hbad, ?_⟩
    rintro ⟨form, tokens, h⟩
    exact h.not_malformed hbad
  · refine Or.inr ⟨h.not_malformed, (form, tokens), h, ?_⟩
    rintro ⟨form', tokens'⟩ h'
    obtain ⟨rfl, rfl⟩ := h.unique h'
    rfl

end PartProgram
