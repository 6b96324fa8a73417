/-
  Exactly which lines fail, and with which fault.

  1. **Program** — the standard classification reads the number of a line, then its code, then its
     parameters from left to right, and stops at the first of them that cannot be read.

  2. **Specification** — `Blames raw index cause fault`: by its tokens alone, the line has something
     wrong with it, namely `cause`, and that would be the fault `fault`.  There are five causes, and
     several may be there at once; `Cause.rank` puts them in order.  `Decides` says of a cause that it
     is there and none before it is.

  3. **A deciding cause gives its fault (`Decides.classify`)** — that no earlier cause is there means
     that every number before the one at fault has a value, so the program comes to it.

  4. **There is no other failure (`exists_blames_of_error`)** — a line that fails is malformed or has a
     parameter token that is refused, and each of these is one of the five causes.  Tokens are never
     empty and a comment always has its semicolon, so nothing is ever asked for that is not there.

  5. So a line fails exactly if there is a cause, and the first one decides (`line_failures`).
-/
import PartProgram.Proofs.Recovery

namespace PartProgram

open Numeral (Denotes IsLiteral Overlong)

/-! ## Causes -/

/-- What can be wrong with a line. -/
inductive Cause where
  /-- The number of the line is no integer literal. -/
  | number
  /-- The number of the line has too many digits. -/
  | longNumber
  /-- The number of the code is no integer literal. -/
  | code
  /-- The number of the code has too many digits. -/
  | longCode
  /-- A number in a parameter has too many digits. -/
  | longParameter
deriving DecidableEq, Repr

/-- The place of a cause in the order in which causes count. -/
def Cause.rank : Cause → Nat
  | number => 0
  | longNumber => 1
  | code => 2
  | longCode => 3
  | longParameter => 4

/-- `ParameterTokens tokens params` — of the tokens of a numbered line or a control line, `params` are
    those of its parameters: from the third on if the line has a code, and from the second on
    otherwise. -/
inductive ParameterTokens : List Text → List Text → Prop where
  | coded {number rest : Text} {letter : CodePoint} {params : List Text}
      (hletter : letter = 'G' ∨ letter = 'M') :
      ParameterTokens (('N' :: number) :: (letter :: rest) :: params) params
  | uncoded {number : Text} {params : List Text}
      (hother : ∀ second ∈ params.head?,
        second.head? ≠ some ('G' : CodePoint) ∧ second.head? ≠ some ('M' : CodePoint)) :
      ParameterTokens (('N' :: number) :: params) params
  | control {keyword : Text} {params : List Text} :
      ParameterTokens ((':' :: keyword) :: params) params

/-- `Blames raw index cause fault` — the cause is there in the line `raw`, and if it decides, the line
    at `index` fails with `fault`. -/
inductive Blames (raw : Text) (index : Int) : Cause → Fault → Prop where
  | number {rest : Text} {others : List Text} (h : raw.words = (('N' : CodePoint) :: rest) :: others)
      (hno : ¬ ∃ negative digits, IsLiteral rest negative digits) :
      Blames raw index .number (.format
        { detail := "N field ".toText ++ Text.quoted ('N' :: rest) ++ " is not an integer".toText
          index, raw, field := "N".toText })
  | longNumber {rest : Text} {others : List Text} {n : Nat}
      (h : raw.words = (('N' : CodePoint) :: rest) :: others) (hn : Overlong rest n) :
      Blames raw index .longNumber (.tooManyDigits n)
  | code {number rest : Text} {letter : CodePoint} {others : List Text}
      (h : raw.words = (('N' : CodePoint) :: number) :: (letter :: rest) :: others)
      (hletter : letter = 'G' ∨ letter = 'M')
      (hno : ¬ ∃ negative digits, IsLiteral rest negative digits) :
      Blames raw index .code (.format
        { detail := letter :: " field ".toText ++ Text.quoted (letter :: rest) ++
            " is not an integer".toText
          index, raw, field := [letter] })
  | longCode {number rest : Text} {letter : CodePoint} {others : List Text} {n : Nat}
      (h : raw.words = (('N' : CodePoint) :: number) :: (letter :: rest) :: others)
      (hletter : letter = 'G' ∨ letter = 'M') (hn : Overlong rest n) :
      Blames raw index .longCode (.tooManyDigits n)
  /-- Of several such tokens the first one counts. -/
  | longParameter {before after : List Text} {token : Text} {n : Nat}
      (h : ParameterTokens raw.words (before ++ token :: after))
      (hbefore : ∀ earlier ∈ before, ¬ ∃ m, Refused earlier m) (hn : Refused token n) :
      Blames raw index .longParameter (.tooManyDigits n)

/-- `Decides raw index cause fault` — the cause is there, and none before it is. -/
def Decides (raw : Text) (index : Int) (cause : Cause) (fault : Fault) : Prop :=
  Blames raw index cause fault ∧
    ∀ earlier : Cause, earlier.rank < cause.rank → ∀ other, ¬ Blames raw index earlier other

/-! ## A deciding cause gives its fault -/

section

variable {raw : Text} {index : Int}

/-- A line with a form fails by the first of its parameter tokens that is refused. -/
theorem Grammar.classify_of_refused {form : Form} {before after : List Text} {token : Text} {n : Nat}
    (h : Grammar raw form (before ++ token :: after))
    (hbefore : ∀ earlier ∈ before, ¬ ∃ m, Refused earlier m) (hn : Refused token n) :
    (Builders.standard.classify raw index).result = .error (.tooManyDigits n) := by
  have hne := h.ne_nil
  have hread : ∀ earlier ∈ before, ∃ p, (Standard.param .standard earlier).result = .ok p := by
    have hall : ∃ ps, (before.mapM (Standard.param .standard)).result = .ok ps :=
      (Standard.exists_mapM_param_ok_iff fun earlier hmem =>
        hne earlier (List.mem_append_left _ hmem)).mpr hbefore
    exact Attempt.exists_result_mapM_eq_ok_iff.mp hall
  have htoken : (Standard.param .standard token).result = .error (.tooManyDigits n) :=
    (Standard.param_eq_error_iff (hne token (by simp))).mpr ⟨n, hn, rfl⟩
  rw [classify_of_grammar h index, Attempt.result_map, Attempt.result_mapM_of_stop hread htoken]
  rfl

theorem not_denotes_of_not_literal {t : Text} (h : ¬ ∃ negative digits, IsLiteral t negative digits) :
    ¬ ∃ v, Denotes t v := by
  rintro ⟨_, negative, digits, hlit, _⟩
  exact h ⟨negative, digits, hlit⟩

theorem not_denotes_of_overlong {t : Text} {n : Nat} (h : Overlong t n) : ¬ ∃ v, Denotes t v := by
  rintro ⟨v, hv⟩
  exact hv.not_overlong n h

/-- Without the first two causes the number of the line has a value. -/
theorem exists_field_number {number : Text} {others : List Text}
    (h : raw.words = (('N' : CodePoint) :: number) :: others)
    (hno : ∀ other, ¬ Blames raw index .number other)
    (hlong : ∀ other, ¬ Blames raw index .longNumber other) :
    ∃ n, Field 'N' ('N' :: number) n := by
  rcases Numeral.integer?_cases number with ⟨hlit, _⟩ | ⟨n, hn, _⟩ | ⟨n, hn, _⟩
  · exact absurd (Blames.number h hlit) (hno _)
  · exact ⟨n, number, rfl, hn⟩
  · exact absurd (Blames.longNumber h hn) (hlong _)

/-- Without the next two the number of its code has one. -/
theorem exists_field_code {number rest : Text} {letter : CodePoint} {others : List Text}
    (h : raw.words = (('N' : CodePoint) :: number) :: (letter :: rest) :: others)
    (hletter : letter = 'G' ∨ letter = 'M') (hno : ∀ other, ¬ Blames raw index .code other)
    (hlong : ∀ other, ¬ Blames raw index .longCode other) :
    ∃ code, Field letter (letter :: rest) code := by
  rcases Numeral.integer?_cases rest with ⟨hlit, _⟩ | ⟨code, hcode, _⟩ | ⟨n, hn, _⟩
  · exact absurd (Blames.code h hletter hlit) (hno _)
  · exact ⟨code, rest, rfl, hcode⟩
  · exact absurd (Blames.longCode h hletter hn) (hlong _)

/-- Without the first four causes a line with parameter tokens has a form. -/
theorem exists_grammar_of_parameterTokens {tokens params : List Text} (h : raw.words = tokens)
    (hparams : ParameterTokens tokens params)
    (hnone : ∀ cause : Cause, cause.rank < 4 → ∀ other, ¬ Blames raw index cause other) :
    ∃ form, Grammar raw form params := by
  have hspaced : Text.Spaced raw tokens := Text.words_eq_iff.mp h
  cases hparams with
  | control => exact ⟨_, Grammar.control hspaced⟩
  | uncoded hother =>
    obtain ⟨n, hn⟩ := exists_field_number h (hnone .number (by decide))
      (hnone .longNumber (by decide))
    exact ⟨_, Grammar.otherCode hspaced hn hother⟩
  | coded hletter =>
    obtain ⟨n, hn⟩ := exists_field_number h (hnone .number (by decide))
      (hnone .longNumber (by decide))
    obtain ⟨code, hcode⟩ := exists_field_code h hletter (hnone .code (by decide))
      (hnone .longCode (by decide))
    rcases hletter with rfl | rfl
    · exact ⟨_, Grammar.gCode hspaced hn hcode⟩
    · exact ⟨_, Grammar.mCode hspaced hn hcode⟩

/-- **A deciding cause gives its fault.** -/
theorem Decides.classify {cause : Cause} {fault : Fault} (h : Decides raw index cause fault) :
    (Builders.standard.classify raw index).result = .error fault := by
  obtain ⟨hblames, hnone⟩ := h
  cases hblames with
  | number h hno =>
    have hbad := Faulty.number (Text.words_eq_iff.mp h) (not_denotes_of_not_literal hno)
    rw [classify_of_faulty_text hbad hno index]
    rfl
  | longNumber h hn =>
    have hbad := Faulty.number (Text.words_eq_iff.mp h) (not_denotes_of_overlong hn)
    rw [classify_of_faulty_overlong hbad hn index]
    rfl
  | code h hletter hno =>
    -- the number of the line has a value, so that the code is come to
    obtain ⟨n, hfield⟩ := exists_field_number h (hnone .number (by decide))
      (hnone .longNumber (by decide))
    have hbad := Faulty.code (Text.words_eq_iff.mp h) hfield hletter (not_denotes_of_not_literal hno)
    rw [classify_of_faulty_text hbad hno index]
    rfl
  | longCode h hletter hn =>
    obtain ⟨n, hfield⟩ := exists_field_number h (hnone .number (by decide))
      (hnone .longNumber (by decide))
    have hbad := Faulty.code (Text.words_eq_iff.mp h) hfield hletter (not_denotes_of_overlong hn)
    rw [classify_of_faulty_overlong hbad hn index]
    rfl
  | longParameter h hbefore hn =>
    obtain ⟨form, hform⟩ := exists_grammar_of_parameterTokens rfl h hnone
    exact hform.classify_of_refused hbefore hn

/-! ## There is no other failure -/

/-- The parameter tokens of a form are those of the line, if there are any. -/
theorem Grammar.parameterTokens {form : Form} {token : Text} {params : List Text}
    (h : Grammar raw form params) (hmem : token ∈ params) : ParameterTokens raw.words params := by
  cases h with
  | blank _ => exact absurd hmem List.not_mem_nil
  | comment _ _ => exact absurd hmem List.not_mem_nil
  | text _ _ => exact absurd hmem List.not_mem_nil
  | gCode hs hn hcode =>
    obtain ⟨number, rfl, _⟩ := hn
    obtain ⟨rest, rfl, _⟩ := hcode
    rw [Text.words_of_spaced hs]
    exact .coded (Or.inl rfl)
  | mCode hs hn hcode =>
    obtain ⟨number, rfl, _⟩ := hn
    obtain ⟨rest, rfl, _⟩ := hcode
    rw [Text.words_of_spaced hs]
    exact .coded (Or.inr rfl)
  | otherCode hs hn hother =>
    obtain ⟨number, rfl, _⟩ := hn
    rw [Text.words_of_spaced hs]
    exact .uncoded hother
  | control hs =>
    rw [Text.words_of_spaced hs]
    exact .control

/-- A line with a form fails by the parameter token at which its reading stops. -/
theorem Grammar.exists_blames {form : Form} {params : List Text} {fault : Fault}
    (h : Grammar raw form params)
    (hfault : (Builders.standard.classify raw index).result = .error fault) :
    ∃ other, Blames raw index .longParameter other := by
  rw [classify_of_grammar h index, ← Attempt.bind_pure_eq_map,
    Attempt.result_bind_eq_error_iff] at hfault
  rcases hfault with hfault | ⟨ps, _, hpure⟩
  · obtain ⟨before, token, after, ps, rfl, hps, htoken, _⟩ :=
      Attempt.exists_stop_of_result_mapM hfault
    have hne := h.ne_nil
    have hbefore : ∀ earlier ∈ before, ¬ ∃ m, Refused earlier m :=
      (Standard.exists_mapM_param_ok_iff fun earlier hmem =>
        hne earlier (List.mem_append_left _ hmem)).mp ⟨ps, hps⟩
    obtain ⟨n, hn, _⟩ := (Standard.param_eq_error_iff (hne token (by simp))).mp htoken
    have hmem : token ∈ before ++ token :: after := by simp
    exact ⟨_, .longParameter (h.parameterTokens hmem) hbefore hn⟩
  · exact absurd hpure (by simp)

/-- A malformed line is malformed by one of the first four causes. -/
theorem Faulty.exists_blames {letter : CodePoint} {number : Text} (h : Faulty raw letter number) :
    ∃ cause other, Blames raw index cause other := by
  cases h with
  | number hs hno =>
    have hwords := Text.words_of_spaced hs
    rcases Numeral.integer?_cases number with ⟨hlit, _⟩ | ⟨v, hv, _⟩ | ⟨n, hn, _⟩
    · exact ⟨_, _, .number hwords hlit⟩
    · exact absurd ⟨v, hv⟩ hno
    · exact ⟨_, _, .longNumber hwords hn⟩
  | code hs hn hletter hno =>
    obtain ⟨literal, rfl, _⟩ := hn
    have hwords := Text.words_of_spaced hs
    rcases Numeral.integer?_cases number with ⟨hlit, _⟩ | ⟨v, hv, _⟩ | ⟨n, hn, _⟩
    · exact ⟨_, _, .code hwords hletter hlit⟩
    · exact absurd ⟨v, hv⟩ hno
    · exact ⟨_, _, .longCode hwords hletter hn⟩

/-- **A line fails for a cause.** -/
theorem exists_blames_of_error {fault : Fault}
    (h : (Builders.standard.classify raw index).result = .error fault) :
    ∃ cause other, Blames raw index cause other := by
  rcases malformed_or_grammar raw with ⟨letter, number, hbad⟩ | ⟨form, params, hform⟩
  · exact hbad.exists_blames
  · exact ⟨_, hform.exists_blames h⟩

/-! ## The first cause -/

/-- Of the causes that are there, one is the first. -/
theorem Blames.exists_decides {cause : Cause} {fault : Fault} (h : Blames raw index cause fault) :
    ∃ first other, Decides raw index first other := by
  induction hrank : cause.rank using Nat.strongRecOn generalizing cause fault with
  | _ rank ih =>
    by_cases hearlier : ∃ earlier : Cause, earlier.rank < cause.rank ∧
        ∃ other, Blames raw index earlier other
    · obtain ⟨earlier, hlt, other, hother⟩ := hearlier
      exact ih earlier.rank (hrank ▸ hlt) hother rfl
    · refine ⟨cause, fault, h, ?_⟩
      intro earlier hlt other hother
      exact hearlier ⟨earlier, hlt, other, hother⟩

theorem classify_eq_error_iff {fault : Fault} :
    (Builders.standard.classify raw index).result = .error fault ↔
      ∃ cause, Decides raw index cause fault := by
  constructor
  · intro h
    obtain ⟨cause, other, hother⟩ := exists_blames_of_error h
    obtain ⟨first, decided, hfirst⟩ := hother.exists_decides
    obtain rfl : decided = fault := Except.error.inj (hfirst.classify.symm.trans h)
    exact ⟨first, hfirst⟩
  · rintro ⟨cause, h⟩
    exact h.classify

end

/-- **Exactly which lines fail, how, and in which order of priority.**  For every line and every index
    under the standard table (an index stands for one of at most 4300 digits, which every position of a
    line has; the wording of an error cannot hold a longer one):
    (1) the line fails with a fault exactly if a cause of that fault is there and none before it is;
    (2) the line fails exactly if there is any cause at all;
    (3) it fails by a malformed field, whose error holds the index and the line, or by too many digits,
        and in no other way: no empty token, no token that is not there and no semicolon is ever asked
        for in vain. -/
theorem line_failures (raw : Text) (index : Int) :
    (∀ fault, (Builders.standard.classify raw index).result = .error fault ↔
      ∃ cause, Decides raw index cause fault) ∧
    ((∃ fault, (Builders.standard.classify raw index).result = .error fault) ↔
      ∃ cause fault, Blames raw index cause fault) ∧
    (∀ fault, (Builders.standard.classify raw index).result = .error fault →
      ((∃ e, fault = .format e ∧ e.index = index ∧ e.raw = raw ∧
        (e.field = "N".toText ∨ e.field = "G".toText ∨ e.field = "M".toText)) ∨
        ∃ n, fault = .tooManyDigits n ∧ 4300 < n) ∧
      fault ≠ .emptyToken ∧ fault ≠ .outOfRange ∧ fault ≠ .noSemicolon) := by
  refine ⟨fun fault => classify_eq_error_iff, ⟨?_, ?_⟩, fun fault h => ?_⟩
  · rintro ⟨fault, h⟩
    exact exists_blames_of_error h
  · rintro ⟨cause, fault, h⟩
    obtain ⟨first, other, hfirst⟩ := h.exists_decides
    exact ⟨other, hfirst.classify⟩
  · obtain ⟨cause, hblames, _⟩ := classify_eq_error_iff.mp h
    cases hblames with
    | number _ _ => exact ⟨Or.inl ⟨_, rfl, rfl, rfl, Or.inl rfl⟩, nofun, nofun, nofun⟩
    | longNumber _ hn => exact ⟨Or.inr ⟨_, rfl, hn.1⟩, nofun, nofun, nofun⟩
    | code _ hletter _ =>
      rcases hletter with rfl | rfl
      · exact ⟨Or.inl ⟨_, rfl, rfl, rfl, Or.inr (Or.inl rfl)⟩, nofun, nofun, nofun⟩
      · exact ⟨Or.inl ⟨_, rfl, rfl, rfl, Or.inr (Or.inr rfl)⟩, nofun, nofun, nofun⟩
    | longCode _ _ hn => exact ⟨Or.inr ⟨_, rfl, hn.1⟩, nofun, nofun, nofun⟩
    | longParameter _ _ hn =>
      obtain ⟨_, _, hn⟩ := hn
      exact ⟨Or.inr ⟨_, rfl, hn.1⟩, nofun, nofun, nofun⟩

-- two causes at once
example : (Builders.standard.classify "Nx Gy".toText 3).result =
    .error (.format
      { detail := "N field \x27Nx\x27 is not an integer".toText, index := 3, raw := "Nx Gy".toText
        field := "N".toText }) := rfl

end PartProgram
