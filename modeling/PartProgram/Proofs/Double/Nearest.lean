/-
  The double that a decimal literal denotes.

  1. **Program** — `Numeral.decimalValue` takes the digits on both sides of the point for one integer and
     rounds its ratio to a power of ten.

  2. **Specification** — `Nearest x m e`: of ALL finite doubles none is nearer to `x` than `m · 2 ^ e`, and
     if another one is as near, `m` is even.  `Rounded` adds the sign and the infinities.  Neither knows of
     leading bits, of carries or of the way in which the double is found.

  3. **Distances (`Leading.distance`)** — a double of a greater exponent stands on the grid of the lesser
     one, where the nearest natural number decides; one of a lesser exponent stands below all numbers with
     53 leading bits, so the least of those is nearer.

  4. **One double (`rounded_iff`)** — of two neighbours on a grid one is odd, so there is never a choice.
-/
import PartProgram.Proofs.Double.Rounding
import PartProgram.Proofs.Literal

namespace PartProgram.Double

/-! ## Nearest doubles -/

/-- `Nearest x m e` — `m · 2 ^ e` is a finite double, none is nearer to `x`, and if there is another one as
    near, the mantissa is EVEN. -/
structure Nearest (x : ℚ) (m : Nat) (e : Int) : Prop where
  normal : Normal m e
  le : ∀ m' e', Normal m' e' → |x - m * 2 ^ e| ≤ |x - m' * 2 ^ e'|
  tie : ∀ m' e', Normal m' e' → |x - m * 2 ^ e| = |x - m' * 2 ^ e'| →
    (m' : ℚ) * 2 ^ e' = m * 2 ^ e ∨ m % 2 = 0

/-- `Rounded negative x d` — `d` is the double of `x`, or of `-x`: the nearest one, or an infinity from the
    overflow on. -/
def Rounded (negative : Bool) (x : ℚ) : Double → Prop
  | finite s m e => s = negative ∧ x < overflow ∧ Nearest x m e
  | infinite s => s = negative ∧ overflow ≤ x

/-- A finite double has one normal form only. -/
theorem Normal.unique {m m' : Nat} {e e' : Int} (h : Normal m e) (h' : Normal m' e')
    (heq : (m : ℚ) * 2 ^ e = m' * 2 ^ e') : m = m' ∧ e = e' := by
  have hleading : ∀ {k : Nat} {f : Int}, Normal k f → Leading ((k : ℚ) * 2 ^ f) f := by
    intro k f hk
    have hpos := two_zpow_pos f
    refine ⟨?_, fun hf => ?_, hk.min_le⟩
    · have hlt : (k : ℚ) < 2 ^ 53 := by exact_mod_cast hk.mantissa_lt
      gcongr
    · have hle : (2 : ℚ) ^ 52 ≤ k := by exact_mod_cast hk.le_mantissa hf
      gcongr
  have hexponent : e = e' := (hleading h).unique (heq ▸ hleading h')
  rw [hexponent] at heq
  have hmantissa : (m : ℚ) = m' := mul_right_cancel₀ (two_zpow_pos e').ne' heq
  exact ⟨by exact_mod_cast hmantissa, hexponent⟩

/-! ## Distances -/

/-- **No natural number is nearer**; one that is as near is a neighbour, and odd. -/
theorem Near.distance {m : Nat} {y : ℚ} (h : Near m y) (k : Nat) :
    |y - m| ≤ |y - k| ∧ (|y - m| = |y - k| → k = m ∨ m % 2 = 0 ∧ k % 2 = 1) := by
  have hlow := h.low
  have hhigh := h.high
  have hhalf : |y - m| ≤ 1 / 2 := abs_le.mpr ⟨by linarith, by linarith⟩
  rcases lt_trichotomy k m with hlt | rfl | hgt
  · have hstep : (k : ℚ) + 1 ≤ m := by exact_mod_cast hlt
    have hdist : |y - k| = y - k := abs_of_nonneg (by linarith)
    refine ⟨by linarith, fun heq => Or.inr ?_⟩
    have hprev : (k : ℚ) + 1 = m := by linarith
    have hprev' : k + 1 = m := by exact_mod_cast hprev
    have heven := h.tie (Or.inl (by linarith))
    omega
  · exact ⟨le_rfl, fun _ => Or.inl rfl⟩
  · have hstep : (m : ℚ) + 1 ≤ k := by exact_mod_cast hgt
    have hdist : |y - k| = k - y := by rw [abs_sub_comm]; exact abs_of_nonneg (by linarith)
    refine ⟨by linarith, fun heq => Or.inr ?_⟩
    have hnext : (m : ℚ) + 1 = k := by linarith
    have hnext' : m + 1 = k := by exact_mod_cast hnext
    have heven := h.tie (Or.inr (by linarith))
    omega

/-- A distance on the grid of an exponent. -/
theorem distance_scaled (x : ℚ) (k : Nat) (e : Int) : |x - k * 2 ^ e| = |x / 2 ^ e - k| * 2 ^ e := by
  have hpos := two_zpow_pos e
  calc |x - k * 2 ^ e| = |(x / 2 ^ e - k) * 2 ^ e| := by
        rw [sub_mul, div_mul_cancel₀ x hpos.ne']
    _ = |x / 2 ^ e - k| * 2 ^ e := by rw [abs_mul, abs_of_pos hpos]

section

variable {x : ℚ} {e : Int} {m : Nat}

/-- No number on the grid is nearer. -/
theorem Near.distance_grid (hm : Near m (x / 2 ^ e)) (k : Nat) :
    |x - m * 2 ^ e| ≤ |x - k * 2 ^ e| ∧
      (|x - m * 2 ^ e| = |x - k * 2 ^ e| → k = m ∨ m % 2 = 0 ∧ k % 2 = 1) := by
  have hpos := two_zpow_pos e
  obtain ⟨hle, htie⟩ := hm.distance k
  rw [distance_scaled x m, distance_scaled x k]
  exact ⟨by gcongr, fun heq => htie (mul_right_cancel₀ hpos.ne' heq)⟩

/-- **No double is nearer than the one that is rounded to**; another one that is as near is odd. -/
theorem Leading.distance (he : Leading x e) (hm : Near m (x / 2 ^ e)) {m' : Nat} {e' : Int}
    (h' : Normal m' e') :
    |x - m * 2 ^ e| ≤ |x - m' * 2 ^ e'| ∧
      (|x - m * 2 ^ e| = |x - m' * 2 ^ e'| →
        (m' : ℚ) * 2 ^ e' = m * 2 ^ e ∨ m % 2 = 0 ∧ m' % 2 = 1) := by
  have htwo : (2 : ℚ) ≠ 0 := by norm_num
  rcases Int.lt_or_le e' e with hlt | hle
  · -- below all numbers that have 53 bits at the exponent `e`
    have hleast := he.le (lt_of_le_of_lt h'.min_le hlt)
    have hbelow : (m' : ℚ) * 2 ^ e' < 2 ^ 52 * 2 ^ e := by
      have hmantissa : (m' : ℚ) < 2 ^ 53 := by exact_mod_cast h'.mantissa_lt
      have hpow : (2 : ℚ) ^ e' ≤ 2 ^ (e - 1) := zpow_le_zpow_right₀ (by norm_num) (by omega)
      have hprev : (2 : ℚ) ^ e = 2 ^ (e - 1) * 2 := by
        rw [← zpow_add_one₀ htwo, Int.sub_add_cancel]
      have hpos := two_zpow_pos e'
      calc (m' : ℚ) * 2 ^ e' < 2 ^ 53 * 2 ^ e' := by gcongr
        _ ≤ 2 ^ 53 * 2 ^ (e - 1) := by gcongr
        _ = 2 ^ 52 * 2 ^ e := by rw [hprev]; ring
    have hgrid := (hm.distance_grid (2 ^ 52)).1
    rw [Nat.cast_pow, Nat.cast_ofNat] at hgrid
    have hleft : |x - 2 ^ 52 * 2 ^ e| = x - 2 ^ 52 * 2 ^ e := abs_of_nonneg (by linarith)
    have hright : |x - m' * 2 ^ e'| = x - m' * 2 ^ e' := abs_of_nonneg (by linarith)
    have hstrict : |x - m * 2 ^ e| < |x - m' * 2 ^ e'| := by linarith
    exact ⟨hstrict.le, fun heq => absurd heq hstrict.ne⟩
  · obtain ⟨n, rfl⟩ := Int.le.dest hle
    have hgrid : (m' : ℚ) * 2 ^ (e + n : Int) = (m' * 2 ^ n : Nat) * 2 ^ e := by
      rw [zpow_add₀ htwo, zpow_natCast]
      push_cast
      ring
    rw [hgrid]
    obtain ⟨hnearest, htie⟩ := hm.distance_grid (m' * 2 ^ n)
    refine ⟨hnearest, fun heq => ?_⟩
    rcases htie heq with heq' | ⟨heven, hodd⟩
    · exact Or.inl (by rw [heq'])
    · -- an odd number on the grid has the exponent of the grid
      refine Or.inr ⟨heven, ?_⟩
      cases n with
      | zero => rwa [Nat.pow_zero, Nat.mul_one] at hodd
      | succ n =>
        rw [Nat.pow_succ, ← Nat.mul_assoc, Nat.mul_mod_left] at hodd
        exact absurd hodd (by decide)

end

/-! ## The double of a ratio -/

section

variable {negative : Bool} {num den : Nat}

/-- What rounding gives: an infinity from the overflow on, or a double whose value has the two properties,
    before or after a carry. -/
theorem ofRatio_cases (hden : 0 < den) :
    (overflow : ℚ) ≤ num / den ∧ ofRatio negative num den = infinite negative ∨
    (num : ℚ) / den < overflow ∧ ∃ m e k f, ofRatio negative num den = finite negative m e ∧
      Normal m e ∧ Leading ((num : ℚ) / den) f ∧ Near k ((num : ℚ) / den / 2 ^ f) ∧
      (m : ℚ) * 2 ^ e = k * 2 ^ f ∧ (k % 2 = 0 → m % 2 = 0) := by
  have hpos : (0 : ℚ) < den := by exact_mod_cast hden
  have hrange : (ofRatio negative num den).isFinite = true ↔ (num : ℚ) / den < overflow := by
    rw [isFinite_ofRatio_iff hden, div_lt_iff₀ hpos]
    exact_mod_cast Iff.rfl
  have hsound : (ofRatio negative num den).Sound := sound_ofRatio hden
  rcases Nat.eq_zero_or_pos num with rfl | hnum
  · refine Or.inr ⟨hrange.mp rfl, 0, minExponent, 0, minExponent, rfl, hsound, ?_, ?_, rfl, id⟩
    · rw [Nat.cast_zero, zero_div]
      exact ⟨mul_pos (by norm_num) (two_zpow_pos _), fun h => absurd h (lt_irrefl _), le_rfl⟩
    · rw [Nat.cast_zero, zero_div, zero_div]
      exact ⟨by norm_num, by norm_num, fun _ => rfl⟩
  obtain ⟨k, f, hf, hk⟩ := exists_leading_near hnum hden
  rw [ofRatio_eq_ite hnum hden hf hk] at hrange hsound ⊢
  by_cases hlt : k < 2 ^ 53
  · rw [if_pos hlt] at hrange hsound ⊢
    by_cases hmax : maxExponent < f
    · rw [if_pos hmax] at hrange ⊢
      exact Or.inl ⟨not_lt.mp (mt hrange.mpr (by simp [isFinite])), rfl⟩
    · rw [if_neg hmax] at hrange hsound ⊢
      exact Or.inr ⟨hrange.mp rfl, k, f, k, f, rfl, hsound, hf, hk, rfl, id⟩
  · rw [if_neg hlt] at hrange hsound ⊢
    by_cases hmax : maxExponent < f + 1
    · rw [if_pos hmax] at hrange ⊢
      exact Or.inl ⟨not_lt.mp (mt hrange.mpr (by simp [isFinite])), rfl⟩
    · rw [if_neg hmax] at hrange hsound ⊢
      -- the carry leaves the value as it is
      obtain rfl : k = 2 ^ 53 := le_antisymm (hf.mantissa_le hk) (Nat.not_lt.mp hlt)
      refine Or.inr ⟨hrange.mp rfl, 2 ^ 52, f + 1, 2 ^ 53, f, rfl, hsound, hf, hk, ?_,
        fun _ => by norm_num⟩
      rw [zpow_add_one₀ (by norm_num)]
      push_cast
      ring

/-- **Rounding gives the one double that is rounded to.** -/
theorem rounded_iff (hden : 0 < den) {d : Double} :
    Rounded negative (num / den) d ↔ d = ofRatio negative num den := by
  rcases @ofRatio_cases negative num den hden with
    ⟨hover, hratio⟩ | ⟨hbelow, m, e, k, f, hratio, hnormal, hf, hk, hvalue, heven⟩
  · rw [hratio]
    constructor
    · intro h
      cases d with
      | finite s m e => exact absurd h.2.1 (not_lt.mpr hover)
      | infinite s => rw [h.1]
    · rintro rfl
      exact ⟨rfl, hover⟩
  · have hdistance : ∀ m' e', Normal m' e' →
        |(num : ℚ) / den - m * 2 ^ e| ≤ |(num : ℚ) / den - m' * 2 ^ e'| ∧
          (|(num : ℚ) / den - m * 2 ^ e| = |(num : ℚ) / den - m' * 2 ^ e'| →
            (m' : ℚ) * 2 ^ e' = m * 2 ^ e ∨ k % 2 = 0 ∧ m' % 2 = 1) := by
      intro m' e' h'
      rw [hvalue]
      exact hf.distance hk h'
    rw [hratio]
    constructor
    · intro h
      cases d with
      | infinite s => exact absurd h.2 (not_le.mpr hbelow)
      | finite s m' e' =>
        obtain ⟨rfl, _, hnearest⟩ := h
        obtain ⟨hle, htie⟩ := hdistance m' e' hnearest.normal
        have hequal := le_antisymm hle (hnearest.le m e hnormal)
        -- as near as each other: unless the values are the same, the mantissa would be even and odd
        have hsame : (m' : ℚ) * 2 ^ e' = m * 2 ^ e := by
          rcases htie hequal with hsame | ⟨_, hodd⟩
          · exact hsame
          · rcases hnearest.tie m e hnormal hequal.symm with hsame | heven'
            · exact hsame.symm
            · omega
        obtain ⟨rfl, rfl⟩ := hnearest.normal.unique hnormal hsame
        rfl
    · rintro rfl
      refine ⟨rfl, hbelow, hnormal, fun m' e' h' => (hdistance m' e' h').1, fun m' e' h' heq => ?_⟩
      exact ((hdistance m' e' h').2 heq).imp_right fun h => heven h.1

end

end PartProgram.Double

/-! ## Decimal literals -/

namespace PartProgram.Numeral

/-- `DenotesDouble t d` — `t` is a decimal literal, and `d` is the double of its signed positional value. -/
def DenotesDouble (t : Text) (d : Double) : Prop :=
  ∃ negative whole fraction, Signed t negative (whole ++ ('.' : CodePoint) :: fraction) ∧
    (∀ c ∈ whole ++ fraction, IsDigit c) ∧ whole ++ fraction ≠ [] ∧
    Double.Rounded negative (positional (whole ++ fraction) / 10 ^ fraction.length) d

/-- **Decimal literals are read to the doubles that they denote.** -/
theorem denotesDouble_iff {t : Text} {d : Double} :
    DenotesDouble t d ↔ IsDecimal t ∧ d = decimalValue t := by
  have hrounded : ∀ {negative whole fraction}, Signed t negative (whole ++ ('.' : CodePoint) :: fraction) →
      (∀ c ∈ whole ++ fraction, IsDigit c) →
      (Double.Rounded negative (positional (whole ++ fraction) / 10 ^ fraction.length) d ↔
        d = decimalValue t) := by
    intro negative whole fraction hs hdigits
    rw [decimalValue_of_signed hs hdigits, ← Double.rounded_iff (Nat.pow_pos (by decide)),
      Nat.cast_pow, Nat.cast_ofNat]
  constructor
  · rintro ⟨negative, whole, fraction, hs, hdigits, hne, h⟩
    exact ⟨⟨negative, whole, fraction, hs, hdigits, hne⟩, (hrounded hs hdigits).mp h⟩
  · rintro ⟨⟨negative, whole, fraction, hs, hdigits, hne⟩, h⟩
    exact ⟨negative, whole, fraction, hs, hdigits, hne, (hrounded hs hdigits).mpr h⟩

end PartProgram.Numeral
