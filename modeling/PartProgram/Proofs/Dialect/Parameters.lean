/-
  Parameter tokens, against their grammar.

  1. **Program** — `Standard.param` looks for an equals sign, then at the first character, then reads a
     number.

  2. **Specification** — `ParamGrammar token p`: by its characters alone, the token is that of the
     parameter `p`.  One rule for each shape of a token; the rules exclude each other.

  3. **Correctness (`param_eq_ok_iff`)** — a token is read exactly as the grammar says.  On the way
     nothing is told but a text value, once (`ParamGrammar.param`).

  4. **Written and read again (`ParamGrammar.written`)** — a parameter without a double is written as a
     token of its own, and since a token is that of one parameter only (`ParamGrammar.unique`), what is
     written determines the parameter.  The token that was READ may have been another one, with a sign or
     zeros in front of a number.
-/
import PartProgram.Proofs.Dialect.Tokens
import PartProgram.Proofs.Integer

namespace PartProgram

open Numeral (Denotes IsLiteral IsDecimal)

/-! ## The grammar -/

/-- `ParamGrammar token p` — the token is that of the parameter `p`. -/
inductive ParamGrammar : Text → Param → Prop where
  /-- A key and an integer literal. -/
  | integer {key literal : Text} {v : Int} (hkey : ('=' : CodePoint) ∉ key) (hv : Denotes literal v) :
      ParamGrammar (key ++ ('=' : CodePoint) :: literal) (.integer key v)
  /-- A key and a decimal literal. -/
  | double {key literal : Text} (hkey : ('=' : CodePoint) ∉ key) (hdec : IsDecimal literal) :
      ParamGrammar (key ++ ('=' : CodePoint) :: literal) (.double key (Numeral.decimalValue literal))
  /-- A key and anything else. -/
  | text {key value : Text} (hkey : ('=' : CodePoint) ∉ key)
      (hno : ¬ ∃ negative digits, IsLiteral value negative digits) (hdec : ¬ IsDecimal value) :
      ParamGrammar (key ++ ('=' : CodePoint) :: value) (.text key value)
  /-- The letter of a code and an integer literal. -/
  | code {letter : CodePoint} {literal : Text} {v : Int} (hletter : letter = 'G' ∨ letter = 'M')
      (hplain : ('=' : CodePoint) ∉ letter :: literal) (hv : Denotes literal v) :
      ParamGrammar (letter :: literal) (.code (letter :: literal) (some v))
  /-- The letter of a code and anything else. -/
  | bareCode {letter : CodePoint} {rest : Text} (hletter : letter = 'G' ∨ letter = 'M')
      (hplain : ('=' : CodePoint) ∉ letter :: rest)
      (hno : ¬ ∃ negative digits, IsLiteral rest negative digits) :
      ParamGrammar (letter :: rest) (.code (letter :: rest) none)
  /-- Any other word. -/
  | unknown {letter : CodePoint} {rest : Text} (hletter : ¬ (letter = 'G' ∨ letter = 'M'))
      (hplain : ('=' : CodePoint) ∉ letter :: rest) :
      ParamGrammar (letter :: rest) (.unknown (letter :: rest))

/-- What is told when a parameter is read. -/
def Param.told (p : Param) : List Event :=
  match p.kind, p.textValue with
  | .text, some value => [.textValue p.identifier value]
  | _, _ => []

namespace ParamGrammar

variable {token : Text} {p : Param}

/-- **A token is read as its grammar says**, and its text value is told. -/
theorem param (h : ParamGrammar token p) : Standard.param .standard token = ⟨p.told, .ok p⟩ := by
  cases h with
  | integer hkey hv => rw [Standard.param_value hkey, Numeral.number?_eq_integer_iff.mpr hv]; rfl
  | double hkey hdec =>
    rw [Standard.param_value hkey, Numeral.number?_eq_double_iff.mpr ⟨hdec, rfl⟩]
    rfl
  | text hkey hno hdec =>
    rw [Standard.param_value hkey, Numeral.number?_eq_none_iff.mpr ⟨hno, hdec⟩]
    rfl
  | code hletter hplain hv =>
    rw [Standard.param_code hletter hplain, Numeral.integer?_eq_some_iff.mpr hv]
    rfl
  | bareCode hletter hplain hno =>
    rw [Standard.param_code hletter hplain, Numeral.integer?_eq_none_iff.mpr hno]
    rfl
  | unknown hletter hplain => rw [Standard.param_other hletter hplain]; rfl

/-- A token is that of one parameter only. -/
theorem unique {q : Param} (h : ParamGrammar token p) (h' : ParamGrammar token q) : p = q := by
  have heq := h.param.symm.trans h'.param
  exact Except.ok.inj (congrArg Attempt.result heq)

end ParamGrammar

namespace Standard

/-- Whatever is read has a rule. -/
theorem paramGrammar_of_ok {token : Text} {p : Param} (h : (param .standard token).result = .ok p) :
    ParamGrammar token p := by
  by_cases heq : ('=' : CodePoint) ∈ token
  · obtain ⟨key, value, rfl, hkey⟩ := List.eq_append_cons_of_mem heq
    rw [param_value hkey] at h
    rcases hnumber : Numeral.number? value with fault | _ | v | d <;> rw [hnumber] at h
    · exact absurd h (by simp [keyed])
    · obtain rfl : Param.text key value = p := Except.ok.inj h
      obtain ⟨hno, hdec⟩ := Numeral.number?_eq_none_iff.mp hnumber
      exact .text hkey hno hdec
    · obtain rfl : Param.integer key v = p := Except.ok.inj h
      exact .integer hkey (Numeral.number?_eq_integer_iff.mp hnumber)
    · obtain rfl : Param.double key d = p := Except.ok.inj h
      obtain ⟨hdec, rfl⟩ := Numeral.number?_eq_double_iff.mp hnumber
      exact .double hkey hdec
  · cases token with
    | nil => exact absurd h (by simp [param])
    | cons letter rest =>
      by_cases hletter : letter = 'G' ∨ letter = 'M'
      · rw [param_code hletter heq] at h
        rcases hnumber : Numeral.integer? rest with fault | _ | v <;> rw [hnumber] at h
        · exact absurd h (by simp [Attempt.ofExcept, Functor.map, Except.map])
        · obtain rfl : Param.code (letter :: rest) none = p := Except.ok.inj h
          exact .bareCode hletter heq (Numeral.integer?_eq_none_iff.mp hnumber)
        · obtain rfl : Param.code (letter :: rest) (some v) = p := Except.ok.inj h
          exact .code hletter heq (Numeral.integer?_eq_some_iff.mp hnumber)
      · rw [param_other hletter heq] at h
        obtain rfl : Param.unknown (letter :: rest) = p := Except.ok.inj h
        exact .unknown hletter heq

/-- **A parameter is read** exactly from the tokens that are its own. -/
theorem param_eq_ok_iff {token : Text} {p : Param} :
    (param .standard token).result = .ok p ↔ ParamGrammar token p :=
  ⟨paramGrammar_of_ok, fun h => congrArg Attempt.result h.param⟩

/-- A token that is not read tells nothing. -/
theorem events_param_of_error {token : Text} {fault : Fault}
    (h : (param .standard token).result = .error fault) : (param .standard token).events = [] := by
  by_cases heq : ('=' : CodePoint) ∈ token
  · obtain ⟨key, value, rfl, hkey⟩ := List.eq_append_cons_of_mem heq
    rw [param_value hkey] at h ⊢
    rcases hnumber : Numeral.number? value with fault' | _ | v | d
    · rfl
    · rw [hnumber] at h
      exact absurd h (by simp [keyed])
    · rfl
    · rfl
  · cases token with
    | nil => rfl
    | cons letter rest =>
      by_cases hletter : letter = 'G' ∨ letter = 'M'
      · rw [param_code hletter heq]
        rfl
      · rw [param_other hletter heq]
        rfl

end Standard

/-! ## Integers -/

/-- The integer of a parameter is denoted by a part of its token, so it can be written. -/
theorem ParamGrammar.isTooLong {token : Text} {p : Param} {v : Int} (h : ParamGrammar token p)
    (hv : p.intValue = some v) : Numeral.isTooLong v = false := by
  cases h with
  | integer _ hliteral =>
    obtain rfl := Option.some.inj hv
    exact hliteral.isTooLong
  | code _ _ hliteral =>
    obtain rfl := Option.some.inj hv
    exact hliteral.isTooLong
  | double _ _ => exact nomatch hv
  | text _ _ _ => exact nomatch hv
  | bareCode _ _ _ => exact nomatch hv
  | unknown _ _ => exact nomatch hv

/-! ## Written and read again -/

namespace ParamGrammar

variable {token : Text} {p : Param}

/-- **A parameter is read again from the token that is written of it**, unless it is a double. -/
theorem written (h : ParamGrammar token p) (hno : p.kind ≠ .double) : ParamGrammar p.written p := by
  cases h with
  | integer hkey hv =>
    -- the numeral may be another literal than the one that was read
    exact .integer hkey (Numeral.denotes_ofInt hv.isTooLong)
  | double _ _ => exact absurd rfl hno
  | text hkey hnumber hdec => exact .text hkey hnumber hdec
  | code hletter hplain hv => exact .code hletter hplain hv
  | bareCode hletter hplain hnumber => exact .bareCode hletter hplain hnumber
  | unknown hletter hplain => exact .unknown hletter hplain

/-- What is written of the parameter of a word is a word. -/
theorem isWord_written (h : ParamGrammar token p) (hword : Text.IsWord token) (hno : p.kind ≠ .double) :
    Text.IsWord p.written := by
  cases h with
  | @integer key literal v hkey hv =>
    refine ⟨by simp [Param.written, Param.integer], fun c hc => ?_⟩
    rcases List.mem_append.mp hc with hc | hc
    · exact hword.2 c (List.mem_append_left _ hc)
    · rcases List.mem_cons.mp hc with rfl | hc
      · decide
      · exact (Text.isWord_ofInt v).2 c hc
  | double _ _ => exact absurd rfl hno
  | text _ _ _ => exact hword
  | code _ _ _ => exact hword
  | bareCode _ _ _ => exact hword
  | unknown _ _ => exact hword

end ParamGrammar

/-- Parameters that are read again from what is written of each are read again from all that is. -/
theorem Standard.result_mapM_written {ps : List Param} (h : ∀ p ∈ ps, ParamGrammar p.written p) :
    ((ps.map Param.written).mapM (param .standard)).result = .ok ps := by
  rw [Attempt.result_mapM_eq_ok_iff, List.forall₂_map_left_iff, List.forall₂_same]
  intro p hp
  exact param_eq_ok_iff.mpr (h p hp)

end PartProgram
