/-
  The kinds of number literals.

  1. **Program** — `Numeral.classify t` takes a sign off `t`, goes over digits and looks for a point behind
     them; `integer? t` and `number? t` convert what it finds.

  2. **Specification** — by what the characters are and how often they are there: behind a sign or none,
     an integer is digits only; a decimal is digits and points, with EXACTLY ONE point and AT LEAST ONE
     digit (`OnePoint`).  Nothing is said about what stands in front of what.

  3. **Patterns** — the same two kinds as regular expressions.  The one for decimals has two branches,
     since a literal may have its only digits in front of the point or behind it.

  4. **The crux (`onePoint_iff`)** — a text with one point falls into two parts without one.
-/
import Mathlib.Computability.RegularExpressions
import PartProgram.Proofs.Double.Nearest
import PartProgram.Proofs.Integer

namespace PartProgram.Numeral

/-! ## The grammar by counting -/

/-- `OnePoint body` — digits and points only, exactly one point, and at least one digit. -/
def OnePoint (body : Text) : Prop :=
  (∀ c ∈ body, IsDigit c ∨ c = '.') ∧ body.count ('.' : CodePoint) = 1 ∧ ∃ c ∈ body, IsDigit c

theorem IsDigit.ne_point {c : CodePoint} (h : IsDigit c) : c ≠ '.' := by
  rintro rfl
  exact absurd h (by decide)

theorem mem_append_point {c : CodePoint} {whole fraction : Text} :
    c ∈ whole ++ ('.' : CodePoint) :: fraction ↔ c = '.' ∨ c ∈ whole ++ fraction := by
  rw [List.mem_append, List.mem_cons, List.mem_append]
  exact or_left_comm

theorem count_append_point (whole fraction : Text) :
    (whole ++ ('.' : CodePoint) :: fraction).count ('.' : CodePoint) =
      (whole ++ fraction).count ('.' : CodePoint) + 1 := by
  rw [List.count_append, List.count_cons_self, List.count_append, Nat.add_assoc]

/-- **One point cuts a text in two**, and what is left of it is digits only. -/
theorem onePoint_iff {body : Text} :
    OnePoint body ↔ ∃ whole fraction, body = whole ++ ('.' : CodePoint) :: fraction ∧
      (∀ c ∈ whole ++ fraction, IsDigit c) ∧ whole ++ fraction ≠ [] := by
  constructor
  · rintro ⟨hchars, hcount, d, hd, hdigit⟩
    have hpoint : ('.' : CodePoint) ∈ body := List.count_pos_iff.mp (by omega)
    obtain ⟨whole, fraction, rfl⟩ := List.append_of_mem hpoint
    rw [count_append_point] at hcount
    have hnone : ('.' : CodePoint) ∉ whole ++ fraction := List.count_eq_zero.mp (by omega)
    refine ⟨whole, fraction, rfl, fun c hc => ?_, ?_⟩
    · exact (hchars c (mem_append_point.mpr (Or.inr hc))).resolve_right fun heq => hnone (heq ▸ hc)
    · exact List.ne_nil_of_mem ((mem_append_point.mp hd).resolve_left hdigit.ne_point)
  · rintro ⟨whole, fraction, rfl, hdigits, hne⟩
    have hnone : ('.' : CodePoint) ∉ whole ++ fraction := fun hpoint => (hdigits '.' hpoint).ne_point rfl
    obtain ⟨c, hc⟩ := List.exists_mem_of_ne_nil _ hne
    refine ⟨fun c hc => ?_, ?_, c, mem_append_point.mpr (Or.inr hc), hdigits c hc⟩
    · exact (mem_append_point.mp hc).symm.imp_left (hdigits c)
    · rw [count_append_point, List.count_eq_zero.mpr hnone]

theorem isDecimal_iff_onePoint {t : Text} :
    IsDecimal t ↔ ∃ negative body, Signed t negative body ∧ OnePoint body := by
  constructor
  · rintro ⟨negative, whole, fraction, hs, hdigits, hne⟩
    exact ⟨negative, _, hs, onePoint_iff.mpr ⟨whole, fraction, rfl, hdigits, hne⟩⟩
  · rintro ⟨negative, body, hs, hbody⟩
    obtain ⟨whole, fraction, rfl, hdigits, hne⟩ := onePoint_iff.mp hbody
    exact ⟨negative, whole, fraction, hs, hdigits, hne⟩

/-! ## The patterns -/

/-- Any one of the characters. -/
def anyOf : List CodePoint → RegularExpression CodePoint
  | [] => 0
  | c :: cs => .char c + anyOf cs

/-- One of the ten digits. -/
def digitPattern : RegularExpression CodePoint := anyOf "0123456789".toText

/-- One or more digits. -/
def digitsPattern : RegularExpression CodePoint := digitPattern * digitPattern.star

/-- A sign or none. -/
def signPattern : RegularExpression CodePoint := 1 + anyOf ['+', '-']

/-- A sign or none, then one or more digits. -/
def integerPattern : RegularExpression CodePoint := signPattern * digitsPattern

/-- A sign or none, then digits and a point, in this order, with digits behind them or not; or else a
    point and digits. -/
def decimalPattern : RegularExpression CodePoint :=
  signPattern *
    (digitsPattern * (.char '.' * digitPattern.star) + .char '.' * digitsPattern)

theorem mem_anyOf {cs : List CodePoint} {t : Text} : t ∈ (anyOf cs).matches' ↔ ∃ c ∈ cs, t = [c] := by
  induction cs with
  | nil =>
    refine ⟨fun h => absurd h (Language.notMem_zero t), ?_⟩
    rintro ⟨c, hc, _⟩
    exact absurd hc List.not_mem_nil
  | cons c cs ih =>
    show t ∈ (RegularExpression.char c).matches' + (anyOf cs).matches' ↔ _
    rw [Language.mem_add, ih, List.exists_mem_cons_iff]
    rfl

theorem isDigit_iff_mem {c : CodePoint} : IsDigit c ↔ c ∈ "0123456789".toText := by
  constructor
  · intro h
    have hall : ∀ n < 10, .char (Nat.digitChar n) ∈ "0123456789".toText := by decide
    rw [← h.digitChar]
    exact hall _ h.toNat_lt
  · intro h
    exact all_isDigit_iff.mp (show "0123456789".toText.all CodePoint.isDigit = true by decide) c h

theorem mem_digitPattern {t : Text} : t ∈ digitPattern.matches' ↔ ∃ c, IsDigit c ∧ t = [c] := by
  rw [digitPattern, mem_anyOf]
  exact exists_congr fun c => and_congr_left fun _ => isDigit_iff_mem.symm

theorem mem_digits_star {t : Text} : t ∈ digitPattern.star.matches' ↔ ∀ c ∈ t, IsDigit c := by
  rw [RegularExpression.matches'_star, Language.mem_kstar]
  constructor
  · rintro ⟨pieces, rfl, hpieces⟩ c hc
    obtain ⟨piece, hpiece, hc⟩ := List.mem_flatten.mp hc
    obtain ⟨d, hd, rfl⟩ := mem_digitPattern.mp (hpieces piece hpiece)
    rw [List.mem_singleton.mp hc]
    exact hd
  · intro h
    refine ⟨t.map ([·]), (List.flatMap_singleton' t).symm, fun piece hpiece => ?_⟩
    obtain ⟨c, hc, rfl⟩ := List.mem_map.mp hpiece
    exact mem_digitPattern.mpr ⟨c, h c hc, rfl⟩

theorem mem_digitsPattern {t : Text} :
    t ∈ digitsPattern.matches' ↔ t ≠ [] ∧ ∀ c ∈ t, IsDigit c := by
  rw [digitsPattern, RegularExpression.matches'_mul, Language.mem_mul]
  constructor
  · rintro ⟨first, hfirst, rest, hrest, rfl⟩
    obtain ⟨c, hc, rfl⟩ := mem_digitPattern.mp hfirst
    exact ⟨List.cons_ne_nil c rest, List.forall_mem_cons.mpr ⟨hc, mem_digits_star.mp hrest⟩⟩
  · rintro ⟨hne, hdigits⟩
    obtain ⟨c, rest, rfl⟩ := List.exists_cons_of_ne_nil hne
    obtain ⟨hc, hrest⟩ := List.forall_mem_cons.mp hdigits
    exact ⟨[c], mem_digitPattern.mpr ⟨c, hc, rfl⟩, rest, mem_digits_star.mpr hrest, rfl⟩

theorem mem_signPattern_mul {r : RegularExpression CodePoint} {t : Text} :
    t ∈ (signPattern * r).matches' ↔ ∃ negative body, Signed t negative body ∧ body ∈ r.matches' := by
  rw [RegularExpression.matches'_mul, Language.mem_mul]
  constructor
  · rintro ⟨sign, hsign, body, hbody, rfl⟩
    rcases (Language.mem_add _ _ _).mp hsign with hnone | hsome
    · obtain rfl := (Language.mem_one sign).mp hnone
      exact ⟨false, body, .plain, hbody⟩
    · obtain ⟨c, hc, rfl⟩ := mem_anyOf.mp hsome
      rw [List.mem_cons, List.mem_singleton] at hc
      rcases hc with rfl | rfl
      · exact ⟨false, body, .plus, hbody⟩
      · exact ⟨true, body, .minus, hbody⟩
  · rintro ⟨negative, body, hs, hbody⟩
    have hsigned : ∀ c ∈ (['+', '-'] : Text), [c] ∈ signPattern.matches' := fun c hc =>
      (Language.mem_add _ _ _).mpr (Or.inr (mem_anyOf.mpr ⟨c, hc, rfl⟩))
    cases hs with
    | plain =>
      exact ⟨[], (Language.mem_add _ _ _).mpr (Or.inl Language.nil_mem_one), t, hbody, rfl⟩
    | plus => exact ⟨['+'], hsigned '+' (by decide), body, hbody, rfl⟩
    | minus => exact ⟨['-'], hsigned '-' (by decide), body, hbody, rfl⟩

theorem mem_integerPattern {t : Text} :
    t ∈ integerPattern.matches' ↔ ∃ negative digits, IsLiteral t negative digits := by
  rw [integerPattern, mem_signPattern_mul]
  exact exists₂_congr fun negative body => and_congr_right fun _ => mem_digitsPattern

/-- The two branches of the pattern are the two places where a digit can stand. -/
theorem mem_decimalPattern {t : Text} : t ∈ decimalPattern.matches' ↔ IsDecimal t := by
  rw [decimalPattern, mem_signPattern_mul, isDecimal_iff_onePoint]
  refine exists₂_congr fun negative body => and_congr_right fun _ => ?_
  rw [onePoint_iff, RegularExpression.matches'_add, Language.mem_add, RegularExpression.matches'_mul,
    RegularExpression.matches'_mul, RegularExpression.matches'_mul, Language.mem_mul, Language.mem_mul]
  constructor
  · rintro (⟨whole, hwhole, rest, hrest, rfl⟩ | ⟨point, rfl, fraction, hfraction, rfl⟩)
    · obtain ⟨point, rfl, fraction, hfraction, rfl⟩ := Language.mem_mul.mp hrest
      obtain ⟨hne, hdigits⟩ := mem_digitsPattern.mp hwhole
      exact ⟨whole, fraction, rfl, List.forall_mem_append.mpr ⟨hdigits, mem_digits_star.mp hfraction⟩,
        List.append_ne_nil_of_left_ne_nil hne _⟩
    · obtain ⟨hne, hdigits⟩ := mem_digitsPattern.mp hfraction
      exact ⟨[], fraction, rfl, hdigits, hne⟩
  · rintro ⟨whole, fraction, rfl, hdigits, hne⟩
    obtain ⟨hwhole, hfraction⟩ := List.forall_mem_append.mp hdigits
    rcases whole with _ | ⟨c, whole⟩
    · exact Or.inr ⟨['.'], rfl, fraction, mem_digitsPattern.mpr ⟨hne, hfraction⟩, rfl⟩
    · exact Or.inl ⟨c :: whole, mem_digitsPattern.mpr ⟨List.cons_ne_nil c whole, hwhole⟩, '.' :: fraction,
        Language.mem_mul.mpr ⟨['.'], rfl, fraction, mem_digits_star.mpr hfraction, rfl⟩, rfl⟩

/-! ## The kind that the program finds -/

variable {t : Text}

theorem classify_eq_integer_iff :
    classify t = .integer ↔ ∃ negative digits, IsLiteral t negative digits := by
  rw [exists_isLiteral_iff, classify]
  split
  next h => exact iff_of_true rfl h
  next h => exact iff_of_false (by split <;> simp) h

theorem classify_eq_decimal_iff : classify t = .decimal ↔ IsDecimal t := by
  rw [← isDecimal_iff, classify]
  by_cases hdec : isDecimal t = true
  · rw [if_neg (not_isInteger_of_isDecimal hdec), if_pos hdec]
    exact iff_of_true rfl hdec
  · rw [if_neg hdec]
    exact iff_of_false (by split <;> simp) hdec

theorem classify_eq_other_iff :
    classify t = .other ↔ (¬ ∃ negative digits, IsLiteral t negative digits) ∧ ¬ IsDecimal t := by
  rw [← classify_eq_integer_iff, ← classify_eq_decimal_iff]
  cases classify t <;> simp

/-- The characters of a literal are digits, a point and signs. -/
theorem mem_of_classify (h : classify t ≠ .other) : ∀ c ∈ t, c ∈ "+-.0123456789".toText := by
  have hdigit : ∀ {c}, IsDigit c → c ∈ "+-.0123456789".toText := fun hc =>
    List.mem_append_right (['+', '-', '.'] : Text) (isDigit_iff_mem.mp hc)
  -- what stands behind the sign decides, since the sign itself is allowed
  have hsigned : ∀ {negative body}, Signed t negative body →
      (∀ c ∈ body, c ∈ "+-.0123456789".toText) → ∀ c ∈ t, c ∈ "+-.0123456789".toText := by
    intro negative body hs hbody
    cases hs with
    | plain => exact hbody
    | plus => exact List.forall_mem_cons.mpr ⟨by decide, hbody⟩
    | minus => exact List.forall_mem_cons.mpr ⟨by decide, hbody⟩
  rw [Ne, classify_eq_other_iff, not_and_not_right, isDecimal_iff_onePoint] at h
  by_cases hint : ∃ negative digits, IsLiteral t negative digits
  · obtain ⟨negative, digits, hs, _, hdigits⟩ := hint
    exact hsigned hs fun c hc => hdigit (hdigits c hc)
  · obtain ⟨negative, body, hs, hchars, _⟩ := h hint
    refine hsigned hs fun c hc => ?_
    rcases hchars c hc with hc | rfl
    · exact hdigit hc
    · decide

/-- **Every text is an integer, a decimal or no number**, and is read as such.  For every text:
    (1) it is an integer exactly if it is a sign or none and one or more digits; a decimal exactly if,
        behind a sign or none, it is digits and exactly one point, with at least one digit; and no number
        exactly if it is neither;
    (2) these are the texts that the two patterns match, and but for the ten digits, the point and the two
        signs there is no character in them;
    (3) reading an integer gives the signed positional value of an integer of at most 4300 digits, fails
        exactly on one of more digits, and gives nothing exactly where there is no integer;
    (4) reading a number does the same with an integer; it gives a double exactly on a decimal, the one
        that this denotes, and nothing exactly where there is no number. -/
theorem literal_kinds (t : Text) :
    ((classify t = .integer ↔ ∃ negative digits, IsLiteral t negative digits) ∧
      (classify t = .decimal ↔ ∃ negative body, Signed t negative body ∧ OnePoint body) ∧
      (classify t = .other ↔ (¬ ∃ negative digits, IsLiteral t negative digits) ∧
        ¬ ∃ negative body, Signed t negative body ∧ OnePoint body)) ∧
    ((t ∈ integerPattern.matches' ↔ classify t = .integer) ∧
      (t ∈ decimalPattern.matches' ↔ classify t = .decimal) ∧
      (classify t ≠ .other → ∀ c ∈ t, c ∈ "+-.0123456789".toText)) ∧
    ((∀ v, integer? t = .ok (some v) ↔ Denotes t v) ∧
      (∀ fault, integer? t = .error fault ↔ ∃ n, Overlong t n ∧ fault = .tooManyDigits n) ∧
      (integer? t = .ok none ↔ classify t ≠ .integer)) ∧
    (classify t = .integer → number? t = Option.map Number.integer <$> integer? t) ∧
    ((∃ d, number? t = .ok (some (.double d))) ↔ classify t = .decimal) ∧
    (∀ d, number? t = .ok (some (.double d)) ↔ DenotesDouble t d) ∧
    (number? t = .ok none ↔ classify t = .other) := by
  have hdecimal := (classify_eq_decimal_iff (t := t)).trans isDecimal_iff_onePoint
  refine ⟨⟨classify_eq_integer_iff, hdecimal, ?_⟩,
    ⟨mem_integerPattern.trans classify_eq_integer_iff.symm,
      mem_decimalPattern.trans classify_eq_decimal_iff.symm, mem_of_classify⟩,
    ⟨fun v => integer?_eq_some_iff, fun fault => integer?_eq_error_iff, ?_⟩, ?_, ?_, ?_, ?_⟩
  · rw [classify_eq_other_iff, isDecimal_iff_onePoint]
  · rw [integer?_eq_none_iff, Ne, classify_eq_integer_iff]
  · intro h
    exact number?_of_isInteger (exists_isLiteral_iff.mp (classify_eq_integer_iff.mp h))
  · rw [classify_eq_decimal_iff]
    constructor
    · rintro ⟨d, hd⟩
      exact (number?_eq_double_iff.mp hd).1
    · intro h
      exact ⟨decimalValue t, number?_eq_double_iff.mpr ⟨h, rfl⟩⟩
  · intro d
    rw [number?_eq_double_iff, denotesDouble_iff, eq_comm]
  · rw [number?_eq_none_iff, classify_eq_other_iff]

/-- A literal with a sign and with zeros in front. -/
theorem literal_kinds_zeros :
    (∀ c ∈ "-007".toText, c ∈ "+-.0123456789".toText) ∧
      number? "-007".toText = .ok (some (.integer (-7))) := by
  obtain ⟨_, ⟨_, _, hchars⟩, ⟨hvalue, _⟩, hnumber, _⟩ := literal_kinds "-007".toText
  have hseven : Denotes "-007".toText (-7) :=
    ⟨true, "007".toText, ⟨.minus, by decide, all_isDigit_iff.mp rfl⟩, by decide, rfl⟩
  refine ⟨hchars (by decide), ?_⟩
  rw [hnumber (by decide), (hvalue (-7)).mpr hseven]
  rfl

end PartProgram.Numeral
