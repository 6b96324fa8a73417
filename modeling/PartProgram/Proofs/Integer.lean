/-
  Integers, read and written.

  An integer is read from a literal of at most 4300 digits, and it is written only if that takes no more
  than 4300 digits.  The two limits are one: no literal within the limit has a value beyond it
  (`Denotes.isTooLong`), and the numeral of a value within the limit is a literal that denotes it
  (`denotes_ofInt`).

  Numerals are words, and different integers have different ones.  A numeral is the one literal of its
  value that has no plus sign, no needless zero and no minus sign on zero (`ofInt_eq_iff`).
-/
import Mathlib.Data.List.Basic
import Mathlib.Data.List.Induction
import PartProgram.Proofs.Literal
import PartProgram.Proofs.Text.CodePoint
import PartProgram.Proofs.Text.Words

namespace PartProgram

open Numeral (IsDigit IsLiteral Denotes positional)

namespace Text

/-! ## The digits of a numeral -/

theorem ofNat_of_lt {n : Nat} (h : n < 10) : ofNat n = [.char n.digitChar] := by
  rw [ofNat, Nat.toDigits_of_lt_base h, List.map_singleton]

/-- A numeral is built from behind. -/
theorem ofNat_of_le {n : Nat} (h : 10 ≤ n) : ofNat n = ofNat (n / 10) ++ [.char (n % 10).digitChar] := by
  rw [ofNat, Nat.toDigits_of_base_le (by decide) h, List.map_append]
  rfl

theorem ofNat_ne_nil (n : Nat) : ofNat n ≠ [] := mt List.map_eq_nil_iff.mp Nat.toDigits_ne_nil

end Text

namespace Numeral

/-! ## Values of literals -/

theorem IsDigit.toNat_lt {c : CodePoint} (h : IsDigit c) : c.toNat - '0'.toNat < 10 := by
  have hle : c.toNat ≤ '9'.toNat := h.2
  have hzero : '0'.toNat = 48 := rfl
  have hnine : '9'.toNat = 57 := rfl
  omega

theorem positional_append (digits digits' : Text) :
    positional (digits ++ digits') = positional digits * 10 ^ digits'.length + positional digits' := by
  induction digits with
  | nil => simp [positional]
  | cons c digits ih =>
    rw [List.cons_append, positional, positional, ih, List.length_append, Nat.pow_add, Nat.add_mul,
      Nat.mul_assoc, Nat.add_assoc]

theorem positional_zeros (n : Nat) : positional (List.replicate n ('0' : CodePoint)) = 0 := by
  induction n with
  | zero => rfl
  | succ n ih =>
    rw [List.replicate_succ, positional, ih]
    simp

/-- So many digits are below the power of ten of their number. -/
theorem positional_lt {digits : Text} (h : ∀ c ∈ digits, IsDigit c) :
    positional digits < 10 ^ digits.length := by
  induction digits with
  | nil => exact Nat.one_pos
  | cons c digits ih =>
    obtain ⟨hc, hdigits⟩ := List.forall_mem_cons.mp h
    have hrest := ih hdigits
    have hfirst : (c.toNat - '0'.toNat) * 10 ^ digits.length ≤ 9 * 10 ^ digits.length :=
      Nat.mul_le_mul_right _ (Nat.le_of_lt_succ hc.toNat_lt)
    rw [positional, List.length_cons, Nat.pow_succ]
    omega

theorem isTooLong_eq_false_iff {v : Int} : isTooLong v = false ↔ v.natAbs < 10 ^ digitLimit := by
  unfold isTooLong
  rw [decide_eq_false_iff_not, Nat.not_le, Nat.pow_eq]

/-- The limit leaves room for more than itself. -/
theorem le_pow_digitLimit {n : Nat} (h : n ≤ digitLimit) : n ≤ 10 ^ digitLimit :=
  h.trans (Nat.lt_pow_self (by decide)).le

/-- What a literal denotes can be written. -/
theorem Denotes.isTooLong {t : Text} {v : Int} (h : Denotes t v) : isTooLong v = false := by
  obtain ⟨negative, digits, ⟨_, _, hdigits⟩, hlength, rfl⟩ := h
  have hlimit : digits.length ≤ digitLimit := hlength
  have hvalue : positional digits < 10 ^ digitLimit :=
    (positional_lt hdigits).trans_le (Nat.pow_le_pow_right (by decide) hlimit)
  rw [isTooLong_eq_false_iff]
  cases negative with
  | false => exact hvalue
  | true => simpa using hvalue

/-! ## Numerals -/

theorem isDigit_of_mem_ofNat {n : Nat} {c : CodePoint} (hc : c ∈ Text.ofNat n) : IsDigit c := by
  obtain ⟨digit, hdigit, rfl⟩ := List.mem_map.mp hc
  exact isDigit_iff.mp (Nat.isDigit_of_mem_toDigits (by decide) (by decide) hdigit)

theorem positional_ofNat (n : Nat) : positional (Text.ofNat n) = n := by
  rw [← digitsValue_eq_positional, Text.digitsValue, Text.ofNat, List.foldl_map]
  exact Nat.ofDigitChars_toDigits (by decide) (by decide)

/-- The numeral of an integer is a literal: its sign, then the digits of its absolute value. -/
theorem isLiteral_ofInt (v : Int) :
    IsLiteral (Text.ofInt v) (decide (v < 0)) (Text.ofNat v.natAbs) := by
  refine ⟨?_, Text.ofNat_ne_nil _, fun c => isDigit_of_mem_ofNat⟩
  cases v with
  | ofNat n => exact Signed.plain
  | negSucc n =>
    rw [decide_eq_true (Int.negSucc_lt_zero n)]
    exact Signed.minus

/-- **The numeral of an integer denotes it**, unless it is too long. -/
theorem denotes_ofInt {v : Int} (h : isTooLong v = false) : Denotes (Text.ofInt v) v := by
  have hlength : (Text.ofNat v.natAbs).length ≤ digitLimit := by
    rw [Text.ofNat, List.length_map]
    exact (Nat.length_toDigits_le_iff (by decide) (by decide)).mpr (isTooLong_eq_false_iff.mp h)
  refine ⟨_, _, isLiteral_ofInt v, hlength, ?_⟩
  rw [positional_ofNat]
  by_cases hneg : v < 0
  · rw [decide_eq_true hneg, if_pos rfl]
    omega
  · rw [decide_eq_false hneg, if_neg (by decide)]
    omega

/-- The numeral of a natural number begins with a zero only if that is all of it. -/
theorem ofNat_eq_zero {n : Nat} (h : (Text.ofNat n).head? = some ('0' : CodePoint)) :
    Text.ofNat n = (['0'] : Text) := by
  induction n using Nat.strongRecOn with
  | _ n ih =>
    by_cases hn : n < 10
    · rw [Text.ofNat_of_lt hn] at h ⊢
      rw [Option.some.inj h]
    · -- all but the last digit are those of a positive number, and by induction they are no zero
      have hlt : n / 10 < n := by omega
      rw [Text.ofNat_of_le (Nat.not_lt.mp hn), List.head?_append_of_ne_nil _ (Text.ofNat_ne_nil _)] at h
      have hzero := positional_ofNat (n / 10)
      rw [ih (n / 10) hlt h] at hzero
      exact absurd hzero (by simp [positional]; omega)

end Numeral

namespace Text

/-! ## Numerals as texts -/

/-- Different integers have different numerals. -/
theorem ofInt_inj {v w : Int} (h : ofInt v = ofInt w) : v = w := by
  -- the sign and the digits are read off the numeral
  obtain ⟨_, hdigits, hsign⟩ := Numeral.isLiteral_iff.mp (Numeral.isLiteral_ofInt v)
  obtain ⟨_, hdigits', hsign'⟩ := Numeral.isLiteral_iff.mp (Numeral.isLiteral_ofInt w)
  rw [h, ← hdigits'] at hdigits
  rw [h, ← hsign', decide_eq_decide] at hsign
  have habs : v.natAbs = w.natAbs := by
    rw [← Numeral.positional_ofNat v.natAbs, hdigits, Numeral.positional_ofNat]
  omega

theorem digit_or_minus_of_mem_ofInt {v : Int} {c : CodePoint} (hc : c ∈ ofInt v) :
    IsDigit c ∨ c = '-' := by
  cases v with
  | ofNat n => exact Or.inl (Numeral.isDigit_of_mem_ofNat hc)
  | negSucc n =>
    rcases List.mem_cons.mp hc with rfl | hc
    · exact Or.inr rfl
    · exact Or.inl (Numeral.isDigit_of_mem_ofNat hc)

theorem isBlank_of_isDigit {c : CodePoint} (h : IsDigit c) : isBlank c = false := by
  have hle : '0'.toNat ≤ c.toNat ∧ c.toNat ≤ '9'.toNat := h
  have hzero : '0'.toNat = 48 := rfl
  have hnine : '9'.toNat = 57 := rfl
  simp [isBlank, inRanges, blankRanges]
  omega

theorem isWord_ofInt (v : Int) : IsWord (ofInt v) := by
  refine ⟨?_, fun c hc => ?_⟩
  · cases v with
    | ofNat n => exact ofNat_ne_nil n
    | negSucc n => exact List.cons_ne_nil _ _
  · rcases digit_or_minus_of_mem_ofInt hc with hdigit | rfl
    · exact isBlank_of_isDigit hdigit
    · decide

/-- The last hexadecimal digit comes off. -/
theorem ofNatHex_succ {width n : Nat} (hwidth : 0 < width) :
    ofNatHex (width + 1) n = ofNatHex width (n / 16) ++ [.char (n % 16).digitChar] := by
  unfold ofNatHex
  dsimp only
  by_cases hn : n < 16
  · -- one digit, and zeros in front of it
    obtain ⟨width, rfl⟩ := Nat.exists_eq_succ_of_ne_zero hwidth.ne'
    rw [Nat.toDigits_of_lt_base hn, Nat.div_eq_of_lt hn, Nat.mod_eq_of_lt hn,
      Nat.toDigits_of_lt_base (by decide)]
    simp [List.replicate_succ']
  · rw [Nat.toDigits_of_base_le (by decide) (Nat.not_lt.mp hn), List.map_append, List.length_append,
      List.map_singleton, List.length_singleton, Nat.add_sub_add_right, List.append_assoc]

theorem ofNatHex_four {n : Nat} (h : n < 0x10000) :
    ofNatHex 4 n = [.char (n / 16 / 16 / 16).digitChar, .char (n / 16 / 16 % 16).digitChar,
      .char (n / 16 % 16).digitChar, .char (n % 16).digitChar] := by
  have hfirst : n / 16 / 16 / 16 < 16 := by omega
  rw [ofNatHex_succ (by decide), ofNatHex_succ (by decide), ofNatHex_succ (by decide), ofNatHex,
    Nat.toDigits_of_lt_base hfirst]
  rfl

end Text

namespace Numeral

/-! ## The canonical literal -/

/-- `Canonical t` — the integer literal `t` has no plus sign, no zero in front of other digits, and no
    minus sign if its value is zero. -/
def Canonical (t : Text) : Prop :=
  ∃ negative digits, IsLiteral t negative digits ∧ ('+' : CodePoint) ∉ t ∧
    (digits.head? = some ('0' : CodePoint) → digits = (['0'] : Text)) ∧
    (negative = true → positional digits ≠ 0)

theorem IsDigit.digitChar {c : CodePoint} (h : IsDigit c) :
    .char (Nat.digitChar (c.toNat - '0'.toNat)) = c := by
  apply CodePoint.toNat_inj
  rw [CodePoint.toNat_char, Nat.toNat_digitChar_of_lt_ten h.toNat_lt]
  have hle : '0'.toNat ≤ c.toNat := h.1
  have hzero : '0'.toNat = 48 := rfl
  omega

/-- **Digits without a needless zero are the numeral of their value.**  The digits are taken off from
    behind, as the numeral is built. -/
theorem ofNat_positional {digits : Text} (hne : digits ≠ []) (hdigits : ∀ c ∈ digits, IsDigit c)
    (hzero : digits.head? = some ('0' : CodePoint) → digits = (['0'] : Text)) :
    Text.ofNat (positional digits) = digits := by
  induction digits using List.reverseRecOn with
  | nil => exact absurd rfl hne
  | append_singleton digits c ih =>
    have hc : IsDigit c := hdigits c (by simp)
    have hlast : Text.ofNat (c.toNat - '0'.toNat) = [c] := by
      rw [Text.ofNat_of_lt hc.toNat_lt, hc.digitChar]
    have hvalue : positional (digits ++ [c]) = 10 * positional digits + (c.toNat - '0'.toNat) := by
      rw [positional_append]
      simp only [positional, List.length_singleton, List.length_nil]
      omega
    rcases digits with _ | ⟨d, digits⟩
    · rw [hvalue, show 10 * positional [] + (c.toNat - '0'.toNat) = c.toNat - '0'.toNat from
        Nat.zero_add _]
      exact hlast
    · -- behind a first digit there is another one, so the first is no zero
      have hd : d ≠ '0' := by
        rintro rfl
        exact absurd (hzero rfl) (by simp)
      have hfront : Text.ofNat (positional (d :: digits)) = d :: digits := by
        apply ih (List.cons_ne_nil d digits)
        · intro c' hc'
          exact hdigits c' (List.mem_append_left _ hc')
        · intro hhead
          exact absurd (Option.some.inj hhead) hd
      have hpos : 0 < positional (d :: digits) := by
        apply Nat.pos_of_ne_zero
        intro heq
        rw [heq] at hfront
        exact hd (List.cons.inj hfront).1.symm
      have hlt := hc.toNat_lt
      rw [hvalue, Text.ofNat_of_le (by omega), show (10 * positional (d :: digits) +
        (c.toNat - '0'.toNat)) / 10 = positional (d :: digits) by omega, hfront,
        show (10 * positional (d :: digits) + (c.toNat - '0'.toNat)) % 10 = c.toNat - '0'.toNat by omega,
        hc.digitChar]

theorem canonical_ofInt (v : Int) : Canonical (Text.ofInt v) := by
  refine ⟨_, _, isLiteral_ofInt v, ?_, ofNat_eq_zero, fun hneg => ?_⟩
  · intro hplus
    rcases Text.digit_or_minus_of_mem_ofInt hplus with hdigit | hminus
    · exact hdigit.ne_sign.1 rfl
    · exact absurd hminus (by decide)
  · rw [positional_ofNat]
    have hlt : v < 0 := of_decide_eq_true hneg
    omega

/-- **An integer is written as its canonical literal**, whichever literal it was read from. -/
theorem ofInt_eq_iff {t : Text} {v : Int} (h : Denotes t v) : Text.ofInt v = t ↔ Canonical t := by
  constructor
  · rintro rfl
    exact canonical_ofInt v
  · rintro ⟨negative, digits, hlit, hplus, hzero, hneg⟩
    obtain ⟨negative', digits', hlit', _, rfl⟩ := h
    obtain ⟨_, rfl, rfl⟩ := isLiteral_iff.mp hlit'
    obtain ⟨_, rfl, rfl⟩ := isLiteral_iff.mp hlit
    have hnumeral := ofNat_positional hlit.2.1 hlit.2.2 hzero
    have hsigned := hlit.1
    generalize isNegative t = negative at hsigned hneg ⊢
    generalize unsigned t = digits at hsigned hneg hnumeral ⊢
    cases hsigned with
    | plain => exact hnumeral
    | plus => exact absurd List.mem_cons_self hplus
    | minus =>
      -- a value that is not zero keeps its minus sign
      obtain ⟨n, hn⟩ := Nat.exists_eq_succ_of_ne_zero (hneg rfl)
      rw [hn] at hnumeral ⊢
      show ('-' : CodePoint) :: Text.ofNat (n + 1) = ('-' : CodePoint) :: digits
      rw [hnumeral]

end Numeral

end PartProgram
