/-
  What whole lines give, by their words.

  The standard classification looks at the first word of a line only.  Its two early exits, for an
  empty line and for a leading semicolon, decide nothing that the words would not decide in the same
  way (`classify_eq_words`).  So a line is handed to one of five builders (`classify_calls_blank` and
  the four behind it), whatever the table.  The other lemmas are the equations of the builders, one
  for each shape of a line: blank, comment, plain text, control line, and numbered line with a code,
  without one, or with nothing but its number.
-/
import PartProgram.Proofs.Text.Words
import PartProgram.Proofs.Dialect.Tokens

namespace PartProgram.Standard

open Text (Blanks words)

/-! ## The early exits -/

theorem isBlank_semicolon : Text.isBlank ';' = false := by decide

/-- **The early exits are redundant**, whatever the table: the words alone decide. -/
theorem classify_eq_words (table : Builders) (raw : Text) (index : Int) :
    classify table raw index = classifyTokens table raw raw.words index := by
  cases raw with
  | nil => rfl
  | cons c rest =>
    by_cases hc : c = ';'
    · subst hc
      obtain ⟨w, ws, hws⟩ : ∃ w ws, words ((';' : CodePoint) :: rest) = ((';' : CodePoint) :: w) :: ws :=
        Text.words_head_iff.mpr
          ⟨[], rest, fun d hd => absurd hd List.not_mem_nil, isBlank_semicolon, rfl⟩
      rw [hws]
      rfl
    · unfold classify
      split
      · next h => exact absurd h (by simp)
      · next h => exact absurd (Option.some.inj h) hc
      · rfl

/-! ## The builder that a line is handed to -/

section

variable {raw word : Text} {others : List Text}

theorem classify_calls_blank (h : raw.words = []) (table : Builders) (index : Int) :
    classify table raw index = table.blank raw index := by
  rw [classify_eq_words, h]
  rfl

theorem classify_calls_comment (h : raw.words = ((';' : CodePoint) :: word) :: others) (table : Builders)
    (index : Int) : classify table raw index = table.comment raw index := by
  rw [classify_eq_words, h]
  rfl

theorem classify_calls_codeLine (h : raw.words = (('N' : CodePoint) :: word) :: others) (table : Builders)
    (index : Int) : classify table raw index = table.codeLine raw raw.words index := by
  rw [classify_eq_words, h]
  rfl

theorem classify_calls_controlLine (h : raw.words = ((':' : CodePoint) :: word) :: others) (table : Builders)
    (index : Int) : classify table raw index = table.controlLine raw raw.words index := by
  rw [classify_eq_words, h]
  rfl

theorem classify_calls_textLine {c : CodePoint} (h : raw.words = (c :: word) :: others)
    (hc : c ≠ ';' ∧ c ≠ 'N' ∧ c ≠ ':') (table : Builders) (index : Int) :
    classify table raw index = table.textLine raw index := by
  obtain ⟨hsemicolon, hn, hcolon⟩ := hc
  rw [classify_eq_words, h]
  unfold classifyTokens
  dsimp only [List.head?_cons]
  split
  · next heq => exact absurd (Option.some.inj heq) hsemicolon
  · next heq => exact absurd (Option.some.inj heq) hn
  · next heq => exact absurd (Option.some.inj heq) hcolon
  · rfl

end

/-! ## Lines without fields or parameters -/

theorem classify_of_blanks {raw : Text} (h : Blanks raw) (index : Int) :
    Builders.standard.classify raw index = pure { index, kind := .blank, raw } := by
  rw [Builders.standard_classify, classify_calls_blank (Text.words_of_blanks h),
    Builders.standard_blank]
  rfl

theorem classify_of_comment {gap : Text} (h : Blanks gap) (rest : Text) (index : Int) :
    Builders.standard.classify (gap ++ (';' : CodePoint) :: rest) index =
      pure { index, kind := .comment, raw := gap ++ (';' : CodePoint) :: rest
             comment := some (';' :: rest) } := by
  obtain ⟨w, ws, hws⟩ : ∃ w ws, words (gap ++ (';' : CodePoint) :: rest) = ((';' : CodePoint) :: w) :: ws :=
    Text.words_head_iff.mpr ⟨gap, rest, h, isBlank_semicolon, rfl⟩
  -- A gap of blanks holds no semicolon, so the first one of the line is the one behind the gap.
  have hgap : ∀ c ∈ gap, (c != ';') = true := by
    intro c hc
    rw [bne_iff_ne]
    rintro rfl
    have hblank := h _ hc
    rw [isBlank_semicolon] at hblank
    exact absurd hblank (by decide)
  rw [Builders.standard_classify, classify_calls_comment hws, Builders.standard_comment, comment,
    List.dropWhile_append_of_pos hgap]
  rfl

theorem classify_of_text {raw : Text} {c : CodePoint} {word : Text} {others : List Text}
    (h : raw.words = (c :: word) :: others) (hc : c ≠ ';' ∧ c ≠ 'N' ∧ c ≠ ':') (index : Int) :
    Builders.standard.classify raw index = pure { index, kind := .text, raw } := by
  rw [Builders.standard_classify, classify_calls_textLine h hc, Builders.standard_textLine]
  rfl

/-! ## Control lines -/

/-- A control line asks the table for the parameters behind the keyword, and for nothing else. -/
theorem controlLine_of_keyword (table : Builders) (raw keyword : Text) (tokens : List Text)
    (index : Int) :
    controlLine table raw (((':' : CodePoint) :: keyword) :: tokens) index =
      (fun parameters => { index, kind := controlKind (Text.lower keyword), raw, parameters }) <$>
        table.parameters (((':' : CodePoint) :: keyword) :: tokens) (1 : Nat) none :=
  Attempt.bind_pure_eq_map _ _

theorem classify_of_control {raw keyword : Text} {tokens : List Text}
    (h : raw.words = ((':' : CodePoint) :: keyword) :: tokens) (index : Int) :
    Builders.standard.classify raw index =
      (fun parameters => { index, kind := controlKind (Text.lower keyword), raw, parameters }) <$>
        tokens.mapM (param .standard) := by
  rw [Builders.standard_classify, classify_calls_controlLine h, h, Builders.standard_controlLine,
    controlLine_of_keyword, parameters_from]
  rfl

/-! ## Numbered lines -/

theorem classify_of_numbered {raw number : Text} {others : List Text}
    (h : raw.words = (('N' : CodePoint) :: number) :: others) (index : Int) :
    Builders.standard.classify raw index =
      codeLine .standard raw ((('N' : CodePoint) :: number) :: others) index := by
  rw [Builders.standard_classify, classify_calls_codeLine h, h, Builders.standard_codeLine]

theorem codeLine_alone (raw first : Text) (index : Int) :
    codeLine .standard raw [first] index =
      fieldNumber ['N'] first raw index >>= fun n =>
        pure { index, kind := .otherCode, raw, n := some n } := rfl

/-- A numbered line with a code asks the table for the parameters behind the code, and for nothing
    else. -/
theorem codeLine_of_code (table : Builders) {letter : CodePoint} (hletter : letter = 'G' ∨ letter = 'M')
    (raw first number : Text) (tokens : List Text) (index : Int) :
    codeLine table raw (first :: (letter :: number) :: tokens) index =
      fieldNumber ['N'] first raw index >>= fun n =>
        fieldNumber [letter] (letter :: number) raw index >>= fun code =>
          (fun parameters =>
            { index, kind := if letter = 'G' then .gCode else .mCode, raw, n := some n,
              code := some code, parameters }) <$>
            table.parameters (first :: (letter :: number) :: tokens) (2 : Nat) none := by
  show (fieldNumber ['N'] first raw index >>= fun n =>
    if letter = 'G' ∨ letter = 'M' then _ else _) = _
  congr 1
  funext n
  rw [if_pos hletter]
  congr 1
  funext code
  exact Attempt.bind_pure_eq_map _ _

/-- One without a code asks for those behind the number. -/
theorem codeLine_of_no_code (table : Builders) {letter : CodePoint}
    (hletter : ¬ (letter = 'G' ∨ letter = 'M')) (raw first rest : Text) (tokens : List Text)
    (index : Int) :
    codeLine table raw (first :: (letter :: rest) :: tokens) index =
      fieldNumber ['N'] first raw index >>= fun n =>
        (fun parameters => { index, kind := .otherCode, raw, n := some n, parameters }) <$>
          table.parameters (first :: (letter :: rest) :: tokens) (1 : Nat) none := by
  show (fieldNumber ['N'] first raw index >>= fun n =>
    if letter = 'G' ∨ letter = 'M' then _ else _) = _
  congr 1
  funext n
  rw [if_neg hletter]
  exact Attempt.bind_pure_eq_map _ _

theorem codeLine_coded {letter : CodePoint} (hletter : letter = 'G' ∨ letter = 'M')
    (raw first number : Text) (tokens : List Text) (index : Int) :
    codeLine .standard raw (first :: (letter :: number) :: tokens) index =
      fieldNumber ['N'] first raw index >>= fun n =>
        fieldNumber [letter] (letter :: number) raw index >>= fun code =>
          (fun parameters =>
            { index, kind := if letter = 'G' then .gCode else .mCode, raw, n := some n,
              code := some code, parameters }) <$> tokens.mapM (param .standard) := by
  rw [codeLine_of_code .standard hletter, parameters_from]
  rfl

theorem codeLine_other {letter : CodePoint} (hletter : ¬ (letter = 'G' ∨ letter = 'M'))
    (raw first rest : Text) (tokens : List Text) (index : Int) :
    codeLine .standard raw (first :: (letter :: rest) :: tokens) index =
      fieldNumber ['N'] first raw index >>= fun n =>
        (fun parameters => { index, kind := .otherCode, raw, n := some n, parameters }) <$>
          ((letter :: rest) :: tokens).mapM (param .standard) := by
  rw [codeLine_of_no_code .standard hletter, parameters_from]
  rfl

end PartProgram.Standard
