/-
  What single tokens give: parameters and fields.

  1. **Fields** — `Field letter token v`: the token is the letter and an integer literal of value
     `v`.  Reading the number behind the first letter of a token has three outcomes
     (`fieldNumber_cases`): the value, a malformed line, a literal that is refused.

  2. **Parameters** — `Holds token part`: `part` is what the token holds to be read as a number,
     which is the text behind its first equals sign or, without one, behind the letter of a code.
     `Refused token n` says that this part is an integer literal of `n` digits, more than 4300.
     The parameter of a token fails exactly if the token is refused (`param_eq_error_iff`), whatever
     else it is.

  Both are silent but for the text values of parameters (`eq_textValue_of_mem_events_param`).
-/
import PartProgram.Proofs.Attempt
import PartProgram.Proofs.Literal
import PartProgram.Proofs.Dialect.Table

namespace PartProgram

/-! ## Cutting a text in two -/

namespace Text

theorem cut_append {c : CodePoint} {front : Text} (h : c ∉ front) (back : Text) :
    (front ++ c :: back).cut c = (front, back) := by
  have hfront : ∀ d ∈ front, (d != c) = true := by
    intro d hd
    rw [bne_iff_ne]
    rintro rfl
    exact h hd
  unfold cut
  rw [List.takeWhile_append_of_pos hfront, List.dropWhile_append_of_pos hfront]
  simp

/-- A text is cut at one place only. -/
theorem append_cons_inj {c : CodePoint} {front front' back back' : Text} (h : c ∉ front)
    (h' : c ∉ front') (heq : front ++ c :: back = front' ++ c :: back') :
    front = front' ∧ back = back' := by
  have hcut := congrArg (cut c) heq
  rw [cut_append h, cut_append h', Prod.mk.injEq] at hcut
  exact hcut

end Text

namespace Slice

/-- A window without a stop is what is left behind its start. -/
theorem window_none {α : Type} (xs : List α) (k : Nat) : window xs k none = xs.drop k := by
  -- a start beyond the end is moved back to it, and then nothing is left either way
  have hbound : (bound xs.length 0 xs.length k).toNat = min xs.length k := by
    unfold bound fromFront
    rw [if_neg (by omega)]
    omega
  show (xs.take (xs.length : Int).toNat).drop (bound xs.length 0 xs.length k).toNat = xs.drop k
  rw [hbound, Int.toNat_natCast, List.take_length]
  rcases Nat.le_total k xs.length with hle | hle
  · rw [Nat.min_eq_right hle]
  · rw [Nat.min_eq_left hle, List.drop_length, List.drop_eq_nil_of_le hle]

end Slice

/-! ## Fields of numbered lines -/

/-- `Field letter token v` — the token is the letter and an integer literal of value `v`. -/
def Field (letter : CodePoint) (token : Text) (v : Int) : Prop :=
  ∃ literal, token = letter :: literal ∧ Numeral.Denotes literal v

namespace Standard

open Numeral (Denotes Overlong IsLiteral)

/-- The three outcomes of a field, by the text behind its letter. -/
theorem fieldNumber_cases (field : Text) (letter : CodePoint) (number raw : Text) (index : Int) :
    (∃ v, Denotes number v ∧ fieldNumber field (letter :: number) raw index = pure v) ∨
      ((¬ ∃ negative digits, IsLiteral number negative digits) ∧
        fieldNumber field (letter :: number) raw index =
          .fail (.format (.notInteger field (letter :: number) raw index))) ∨
      ∃ n, Overlong number n ∧
        fieldNumber field (letter :: number) raw index = .fail (.tooManyDigits n) := by
  -- the outcome of reading the integer is all that the field depends on
  unfold fieldNumber
  rw [List.drop_one, List.tail_cons]
  rcases Numeral.integer?_cases number with ⟨hno, h⟩ | ⟨v, hv, h⟩ | ⟨n, hn, h⟩ <;> rw [h]
  · exact Or.inr (Or.inl ⟨hno, rfl⟩)
  · exact Or.inl ⟨v, hv, rfl⟩
  · exact Or.inr (Or.inr ⟨n, hn, rfl⟩)

theorem fieldNumber_of_denotes {number : Text} {v : Int} (hv : Denotes number v) (field : Text)
    (letter : CodePoint) (raw : Text) (index : Int) :
    fieldNumber field (letter :: number) raw index = pure v := by
  rcases fieldNumber_cases field letter number raw index with ⟨w, hw, h⟩ | ⟨hno, _⟩ | ⟨n, hn, _⟩
  · rw [h, hv.unique hw]
  · obtain ⟨negative, digits, hlit, _⟩ := hv
    exact absurd ⟨negative, digits, hlit⟩ hno
  · exact absurd hn (hv.not_overlong n)

/-- A field without a value fails, in one way or the other. -/
theorem fieldNumber_of_not_denotes {number : Text} (h : ¬ ∃ v, Denotes number v) (field : Text)
    (letter : CodePoint) (raw : Text) (index : Int) :
    ∃ fault, fieldNumber field (letter :: number) raw index = .fail fault := by
  rcases fieldNumber_cases field letter number raw index with ⟨v, hv, _⟩ | ⟨_, heq⟩ | ⟨n, _, heq⟩
  · exact absurd ⟨v, hv⟩ h
  · exact ⟨_, heq⟩
  · exact ⟨_, heq⟩

end Standard

/-! ## Parameters -/

/-- `Holds token part` — the token holds `part` to be read as a number: behind its first equals sign
    or, if it has none, behind the letter of a code. -/
inductive Holds : Text → Text → Prop where
  | value {key part : Text} (hkey : ('=' : CodePoint) ∉ key) : Holds (key ++ ('=' : CodePoint) :: part) part
  | code {letter : CodePoint} {part : Text} (hletter : letter = 'G' ∨ letter = 'M')
      (hno : ('=' : CodePoint) ∉ letter :: part) : Holds (letter :: part) part

/-- `Refused token n` — what the token holds is an integer literal of `n` digits, more than 4300. -/
def Refused (token : Text) (n : Nat) : Prop := ∃ part, Holds token part ∧ Numeral.Overlong part n

theorem holds_value_iff {key value part : Text} (hkey : ('=' : CodePoint) ∉ key) :
    Holds (key ++ ('=' : CodePoint) :: value) part ↔ part = value := by
  constructor
  · intro h
    generalize htoken : key ++ ('=' : CodePoint) :: value = token at h
    cases h with
    | value hkey' => exact (Text.append_cons_inj hkey hkey' htoken).2.symm
    | code _ hno =>
      rw [← htoken] at hno
      exact absurd (List.mem_append_right key List.mem_cons_self) hno
  · rintro rfl
    exact Holds.value hkey

theorem holds_cons_iff {letter : CodePoint} {rest part : Text} (hno : ('=' : CodePoint) ∉ letter :: rest) :
    Holds (letter :: rest) part ↔ part = rest ∧ (letter = 'G' ∨ letter = 'M') := by
  constructor
  · intro h
    generalize htoken : letter :: rest = token at h
    cases h with
    | value _ =>
      rw [htoken] at hno
      exact absurd (List.mem_append_right _ List.mem_cons_self) hno
    | code hletter _ =>
      rw [List.cons.injEq] at htoken
      obtain ⟨rfl, rfl⟩ := htoken
      exact ⟨rfl, hletter⟩
  · rintro ⟨rfl, hletter⟩
    exact Holds.code hletter hno

namespace Standard

/-- The parameter of a key and a value, by the outcome of reading the value as a number. -/
def keyed (key value : Text) : Except Fault (Option Number) → Attempt Param
  | .ok (some (.double d)) => pure (.double key d)
  | .ok (some (.integer n)) => pure (.integer key n)
  | .ok none => ⟨[.textValue key value], .ok (.text key value)⟩
  | .error fault => .fail fault

theorem param_calls_valueParam {token : Text} (heq : ('=' : CodePoint) ∈ token) (table : Builders) :
    param table token = table.valueParam token := by
  have hmem : token.contains '=' = true := by simpa using heq
  unfold param
  rw [if_pos hmem]

theorem param_calls_codeParam {letter : CodePoint} {rest : Text} (hletter : letter = 'G' ∨ letter = 'M')
    (hno : ('=' : CodePoint) ∉ letter :: rest) (table : Builders) :
    param table (letter :: rest) = table.codeParam (letter :: rest) := by
  have hmem : ¬ (letter :: rest).contains '=' = true := by simpa using hno
  unfold param
  rw [if_neg hmem]
  exact if_pos hletter

theorem param_calls_nothing {letter : CodePoint} {rest : Text}
    (hletter : ¬ (letter = 'G' ∨ letter = 'M')) (hno : ('=' : CodePoint) ∉ letter :: rest)
    (table : Builders) :
    param table (letter :: rest) = pure (.unknown (letter :: rest)) := by
  have hmem : ¬ (letter :: rest).contains '=' = true := by simpa using hno
  unfold param
  rw [if_neg hmem]
  exact if_neg hletter

theorem param_value {key : Text} (hkey : ('=' : CodePoint) ∉ key) (value : Text) :
    param .standard (key ++ ('=' : CodePoint) :: value) = keyed key value (Numeral.number? value) := by
  rw [param_calls_valueParam (by simp), Builders.standard_valueParam]
  unfold valueParam
  rw [Text.cut_append hkey]
  dsimp only
  cases Numeral.number? value with
  | error fault => rfl
  | ok number =>
    cases number with
    | none => rfl
    | some number => cases number <;> rfl

theorem param_code {letter : CodePoint} {rest : Text} (hletter : letter = 'G' ∨ letter = 'M')
    (hno : ('=' : CodePoint) ∉ letter :: rest) :
    param .standard (letter :: rest) =
      Param.code (letter :: rest) <$> Attempt.ofExcept (Numeral.integer? rest) := by
  rw [param_calls_codeParam hletter hno, Builders.standard_codeParam]
  exact Attempt.bind_pure_eq_map (Param.code (letter :: rest)) _

theorem param_other {letter : CodePoint} {rest : Text} (hletter : ¬ (letter = 'G' ∨ letter = 'M'))
    (hno : ('=' : CodePoint) ∉ letter :: rest) :
    param .standard (letter :: rest) = pure (.unknown (letter :: rest)) :=
  param_calls_nothing hletter hno .standard

/-- **The parameter of a token fails** exactly if the token is refused. -/
theorem param_eq_error_iff {token : Text} (hne : token ≠ []) {fault : Fault} :
    (param .standard token).result = .error fault ↔
      ∃ n, Refused token n ∧ fault = .tooManyDigits n := by
  by_cases heq : ('=' : CodePoint) ∈ token
  · -- a key and a value: the value is read as a number
    obtain ⟨key, value, rfl, hkey⟩ := List.eq_append_cons_of_mem heq
    have hrefused : ∀ n, Refused (key ++ ('=' : CodePoint) :: value) n ↔ Numeral.Overlong value n := by
      intro n
      simp only [Refused, holds_value_iff hkey, exists_eq_left]
    simp only [hrefused, ← Numeral.number?_eq_error_iff, param_value hkey]
    rcases Numeral.number? value with fault' | _ | number | number <;> simp [keyed]
  · cases token with
    | nil => exact absurd rfl hne
    | cons letter rest =>
      by_cases hletter : letter = 'G' ∨ letter = 'M'
      · -- a code: the rest is read as an integer
        have hrefused : ∀ n, Refused (letter :: rest) n ↔ Numeral.Overlong rest n := by
          intro n
          simp only [Refused, holds_cons_iff heq, hletter, and_true, exists_eq_left]
        simp only [hrefused, ← Numeral.integer?_eq_error_iff, param_code hletter heq]
        cases Numeral.integer? rest <;> simp [Attempt.ofExcept, Functor.map, Except.map]
      · -- an unknown word: nothing is read
        rw [param_other hletter heq]
        simp [Refused, holds_cons_iff heq, hletter]

/-- Parameters tell nothing but their text values. -/
theorem eq_textValue_of_mem_events_param {token : Text} {event : Event}
    (h : event ∈ (param .standard token).events) : ∃ key value, event = .textValue key value := by
  by_cases heq : ('=' : CodePoint) ∈ token
  · obtain ⟨key, value, rfl, hkey⟩ := List.eq_append_cons_of_mem heq
    rw [param_value hkey] at h
    rcases hnumber : Numeral.number? value with fault | _ | number | number <;>
      simp [hnumber, keyed] at h
    exact ⟨key, value, h⟩
  · cases token with
    | nil => exact absurd h (by simp [param])
    | cons letter rest =>
      by_cases hletter : letter = 'G' ∨ letter = 'M'
      · rw [param_code hletter heq] at h
        exact absurd h List.not_mem_nil
      · rw [param_other hletter heq] at h
        exact absurd h List.not_mem_nil

/-! ## Lists of tokens -/

theorem parameters_calls (table : Builders) (tokens : List Text) (k : Nat) :
    parameters table tokens k none = (tokens.drop k).mapM (param table) := by
  rw [parameters, Slice.window_none]

theorem parameters_from (tokens : List Text) (k : Nat) :
    Builders.standard.parameters tokens k none = (tokens.drop k).mapM (param .standard) := by
  rw [Builders.standard_parameters, parameters_calls]

/-- The parameters of some words are all built exactly if none of the words is refused. -/
theorem exists_mapM_param_ok_iff {tokens : List Text} (hne : ∀ token ∈ tokens, token ≠ []) :
    (∃ ps, (tokens.mapM (param .standard)).result = .ok ps) ↔
      ∀ token ∈ tokens, ¬ ∃ n, Refused token n := by
  rw [Attempt.exists_result_mapM_eq_ok_iff]
  refine forall₂_congr fun token hmem => ?_
  cases hresult : (param .standard token).result with
  | ok p =>
    refine ⟨fun _ => ?_, fun _ => ⟨p, rfl⟩⟩
    rintro ⟨n, hn⟩
    have herror := (param_eq_error_iff (hne token hmem)).mpr ⟨n, hn, rfl⟩
    rw [hresult] at herror
    exact absurd herror (by simp)
  | error fault =>
    obtain ⟨n, hn, _⟩ := (param_eq_error_iff (hne token hmem)).mp hresult
    exact ⟨fun ⟨p, hp⟩ => absurd hp (by simp), fun hall => absurd ⟨n, hn⟩ hall⟩

end Standard

end PartProgram
