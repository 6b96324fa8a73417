/-
  The double next to a ratio.

  1. **Program** — `ofRatio` looks for an exponent, divides, rounds the quotient and carries into the
     next exponent if need be.

  2. **Specification** — two relations on rational numbers: `Leading x e`, at the exponent `e` the 53
     leading bits of `x` stand in front of the point, and `Near m y`, the natural number `m` is nearest
     to `y` and even if there are two.  Either leaves NO choice (`Leading.unique`, `Near.unique`), so
     whatever has the two properties is what `ofRatio` finds (`ofRatio_eq_ite`).

  3. **Range (`isFinite_ofRatio_iff`)** — the result is finite exactly below `overflow`, the midpoint
     between the greatest finite double and the power of two behind it.  The midpoint itself is
     infinite: the mantissa below it is odd.

  4. **Reading back (`ofRatio_of_readsBack`)** — everything between the midpoints to the two neighbours
     of a double is rounded to that double.  Just below a power of two the exponent is one less, and it
     is the carry that makes up for it.
-/
import PartProgram.Double.Basic
import Mathlib.Algebra.Order.Field.Power
import Mathlib.Algebra.Order.Field.Rat
import Mathlib.Tactic.FieldSimp
import Mathlib.Tactic.Linarith
import Mathlib.Tactic.NormNum
import Mathlib.Tactic.Positivity
import Mathlib.Tactic.Ring

namespace PartProgram.Double

/-! ## Ratios -/

/-- A power is a quotient of two, of which one has the exponent zero. -/
theorem zpow_eq_div {b : ℚ} (hb : b ≠ 0) (e : Int) : b ^ e = b ^ e.toNat / b ^ (-e).toNat := by
  have hexponent : e = (e.toNat : Int) - ((-e).toNat : Int) := by omega
  calc b ^ e = b ^ ((e.toNat : Int) - ((-e).toNat : Int)) := by rw [← hexponent]
    _ = b ^ e.toNat / b ^ (-e).toNat := by rw [zpow_sub₀ hb, zpow_natCast, zpow_natCast]

theorem two_zpow_pos (e : Int) : (0 : ℚ) < 2 ^ e := zpow_pos (by norm_num) e

theorem scaled_ratio (num den : Nat) (e : Int) :
    ((scaled num den e).1 : ℚ) / ((scaled num den e).2 : ℚ) = num / den / 2 ^ e := by
  show ((num * 2 ^ (-e).toNat : Nat) : ℚ) / ((den * 2 ^ e.toNat : Nat) : ℚ) = _
  rw [zpow_eq_div (by norm_num : (2 : ℚ) ≠ 0)]
  push_cast
  field_simp

theorem scaled_pos {den : Nat} (hden : 0 < den) (num : Nat) (e : Int) : 0 < (scaled num den e).2 := by
  show 0 < den * 2 ^ e.toNat
  positivity

/-! ## The exponent -/

/-- `Leading x e` — at the exponent `e`, the 53 leading bits of `x` stand in front of the point; at the
    least exponent there may be fewer. -/
structure Leading (x : ℚ) (e : Int) : Prop where
  lt : x < 2 ^ 53 * 2 ^ e
  le : minExponent < e → 2 ^ 52 * 2 ^ e ≤ x
  min : minExponent ≤ e

/-- There is one such exponent only. -/
theorem Leading.unique {x : ℚ} {e e' : Int} (h : Leading x e) (h' : Leading x e') : e = e' := by
  have hle : ∀ {f f' : Int}, Leading x f → Leading x f' → f' ≤ f := by
    intro f f' hf hf'
    by_contra hlt
    have hpow : (2 : ℚ) ^ (f + 1) ≤ 2 ^ f' := zpow_le_zpow_right₀ (by norm_num) (by omega)
    have hlow := hf'.le (by have := hf.min; omega)
    have hhigh := hf.lt
    rw [zpow_add_one₀ (by norm_num)] at hpow
    linarith
  exact le_antisymm (hle h' h) (hle h h')

/-- A positive ratio is about two to the difference of the logarithms. -/
theorem ratio_log2 {num den : Nat} (hnum : 0 < num) (hden : 0 < den) :
    (2 : ℚ) ^ ((num.log2 : Int) - den.log2 - 1) ≤ num / den ∧
      (num : ℚ) / den < 2 ^ ((num.log2 : Int) - den.log2 + 1) := by
  have hnum' : ((2 ^ num.log2 : Nat) : ℚ) ≤ num := by exact_mod_cast Nat.log2_self_le hnum.ne'
  have hnum'' : (num : ℚ) < ((2 ^ (num.log2 + 1) : Nat) : ℚ) := by exact_mod_cast Nat.lt_log2_self
  have hden' : ((2 ^ den.log2 : Nat) : ℚ) ≤ den := by exact_mod_cast Nat.log2_self_le hden.ne'
  have hden'' : (den : ℚ) < ((2 ^ (den.log2 + 1) : Nat) : ℚ) := by exact_mod_cast Nat.lt_log2_self
  have hpos : (0 : ℚ) < den := by exact_mod_cast hden
  push_cast at hnum' hnum'' hden' hden''
  have htwo : (2 : ℚ) ≠ 0 := by norm_num
  constructor
  · rw [le_div_iff₀ hpos]
    calc (2 : ℚ) ^ ((num.log2 : Int) - den.log2 - 1) * den
        ≤ 2 ^ ((num.log2 : Int) - den.log2 - 1) * 2 ^ (den.log2 + 1) := by gcongr
      _ = 2 ^ num.log2 := by
        rw [← zpow_natCast, ← zpow_natCast, ← zpow_add₀ htwo]
        congr 1
        push_cast
        ring
      _ ≤ num := hnum'
  · rw [div_lt_iff₀ hpos]
    calc (num : ℚ) < 2 ^ (num.log2 + 1) := hnum''
      _ = 2 ^ ((num.log2 : Int) - den.log2 + 1) * 2 ^ den.log2 := by
        rw [← zpow_natCast, ← zpow_natCast, ← zpow_add₀ htwo]
        congr 1
        push_cast
        ring
      _ ≤ 2 ^ ((num.log2 : Int) - den.log2 + 1) * den := by gcongr

/-- **The exponent that is looked for is found.** -/
theorem leading_exponentOf {num den : Nat} (hnum : 0 < num) (hden : 0 < den) :
    Leading (num / den) (exponentOf num den) := by
  obtain ⟨hlow, hhigh⟩ := ratio_log2 hnum hden
  have htwo : (2 : ℚ) ≠ 0 := by norm_num
  unfold exponentOf
  dsimp only
  generalize hguess : max ((num.log2 : Int) - den.log2 - precision) minExponent = guess
  have hprecision : ((precision : Nat) : Int) = 53 := rfl
  -- in any case the guess is not too small by more than one
  have hbound : (num : ℚ) / den < 2 ^ 54 * 2 ^ guess := by
    calc (num : ℚ) / den < 2 ^ ((num.log2 : Int) - den.log2 + 1) := hhigh
      _ ≤ 2 ^ (54 + guess) := zpow_le_zpow_right₀ (by norm_num) (by omega)
      _ = 2 ^ 54 * 2 ^ guess := zpow_add₀ htwo 54 guess
  have hmin : minExponent ≤ guess := by omega
  have hratio := scaled_ratio num den guess
  have hpos : (0 : ℚ) < (scaled num den guess).2 := by exact_mod_cast scaled_pos hden num guess
  split
  · next hsmall =>
    have hlt : (scaled num den guess).1 < 2 ^ 53 * (scaled num den guess).2 :=
      (Nat.div_lt_iff_lt_mul (scaled_pos hden num guess)).mp hsmall
    have hlt' : ((scaled num den guess).1 : ℚ) < 2 ^ 53 * (scaled num den guess).2 := by
      exact_mod_cast hlt
    refine ⟨?_, fun hgt => ?_, hmin⟩
    · rwa [← div_lt_iff₀ hpos, hratio, div_lt_iff₀ (two_zpow_pos guess)] at hlt'
    · calc (2 : ℚ) ^ 52 * 2 ^ guess = 2 ^ (52 + guess) := (zpow_add₀ htwo 52 guess).symm
        _ ≤ 2 ^ ((num.log2 : Int) - den.log2 - 1) := zpow_le_zpow_right₀ (by norm_num) (by omega)
        _ ≤ num / den := hlow
  · next hlarge =>
    have hle : 2 ^ 53 * (scaled num den guess).2 ≤ (scaled num den guess).1 :=
      (Nat.le_div_iff_mul_le (scaled_pos hden num guess)).mp (Nat.not_lt.mp hlarge)
    have hle' : 2 ^ 53 * ((scaled num den guess).2 : ℚ) ≤ (scaled num den guess).1 := by
      exact_mod_cast hle
    rw [← le_div_iff₀ hpos, hratio, le_div_iff₀ (two_zpow_pos guess)] at hle'
    have hnext : (2 : ℚ) ^ (guess + 1) = 2 ^ guess * 2 := zpow_add_one₀ htwo guess
    refine ⟨?_, fun _ => ?_, by omega⟩
    · rw [hnext]
      linarith
    · rw [hnext]
      linarith

/-! ## The mantissa -/

/-- `Near m y` — no natural number is nearer to `y` than `m`, and if `y` lies halfway, `m` is EVEN. -/
structure Near (m : Nat) (y : ℚ) : Prop where
  low : m - 1 / 2 ≤ y
  high : y ≤ m + 1 / 2
  tie : y = m - 1 / 2 ∨ y = m + 1 / 2 → m % 2 = 0

/-- There is one such number only. -/
theorem Near.unique {m m' : Nat} {y : ℚ} (h : Near m y) (h' : Near m' y) : m = m' := by
  have hle : ∀ {k k' : Nat}, Near k y → Near k' y → k' ≤ k := by
    intro k k' hk hk'
    by_contra hlt
    have hstep : (k : ℚ) + 1 ≤ k' := by exact_mod_cast Nat.not_le.mp hlt
    have hlow := hk'.low
    have hhigh := hk.high
    -- `y` lies halfway between the two, and of two neighbours one is odd
    have hsucc : (k' : ℚ) = k + 1 := by linarith
    have hsucc' : k' = k + 1 := by exact_mod_cast hsucc
    have heven := hk.tie (Or.inr (by linarith))
    have heven' := hk'.tie (Or.inl (by linarith))
    omega
  exact le_antisymm (hle h' h) (hle h h')

/-- **Rounding finds the nearest number.** -/
theorem near_roundHalfEven {n d : Nat} (hd : 0 < d) : Near (roundHalfEven n d) ((n : ℚ) / d) := by
  have hpos : (0 : ℚ) < d := by exact_mod_cast hd
  have hsum : (n : ℚ) = d * (n / d : Nat) + (n % d : Nat) := by exact_mod_cast (Nat.div_add_mod n d).symm
  have hratio : (n : ℚ) / d = (n / d : Nat) + (n % d : Nat) / d := by
    rw [hsum]
    field_simp
  have hrest : ((n % d : Nat) : ℚ) / d < 1 := by
    rw [div_lt_one hpos]
    exact_mod_cast Nat.mod_lt n hd
  have hnonneg : (0 : ℚ) ≤ (n % d : Nat) / d := by positivity
  unfold roundHalfEven
  dsimp only
  rw [hratio]
  generalize n / d = q
  generalize hr : n % d = r at hrest hnonneg
  split
  · next hbelow =>
    have hhalf : (r : ℚ) / d < 1 / 2 := by
      rw [div_lt_div_iff₀ hpos (by norm_num)]
      exact_mod_cast (by omega : r * 2 < 1 * d)
    refine ⟨by linarith, by linarith, ?_⟩
    rintro (heq | heq) <;> linarith
  split
  · next hbelow habove =>
    have hhalf : 1 / 2 < (r : ℚ) / d := by
      rw [div_lt_div_iff₀ (by norm_num) hpos]
      exact_mod_cast (by omega : 1 * d < r * 2)
    have hsucc : ((q + 1 : Nat) : ℚ) = q + 1 := Nat.cast_succ q
    refine ⟨by linarith, by linarith, ?_⟩
    rintro (heq | heq) <;> linarith
  · next hbelow habove =>
    have hhalf : (r : ℚ) / d = 1 / 2 := by
      rw [div_eq_div_iff hpos.ne' (by norm_num)]
      exact_mod_cast (by omega : r * 2 = 1 * d)
    rw [hhalf]
    -- halfway: up from an odd quotient, down to an even one
    rcases Nat.mod_two_eq_zero_or_one q with hq | hq
    · rw [hq]
      exact ⟨by push_cast; linarith, by push_cast; linarith, fun _ => hq⟩
    · rw [hq]
      exact ⟨by push_cast; linarith, by push_cast; linarith, fun _ => by omega⟩

/-- A number is rounded to less than an even number exactly below the midpoint in front of it. -/
theorem Near.lt_iff {m k : Nat} {y : ℚ} (h : Near m y) (hk : k % 2 = 0) : m < k ↔ y < k - 1 / 2 := by
  have hlow := h.low
  have hhigh := h.high
  constructor
  · intro hlt
    have hstep : (m : ℚ) + 1 ≤ k := by exact_mod_cast hlt
    refine lt_of_le_of_ne (by linarith) fun heq => ?_
    -- on the midpoint, `m` is the odd number in front of `k`
    have hpred : (m : ℚ) + 1 = k := by linarith
    have hpred' : m + 1 = k := by exact_mod_cast hpred
    have heven := h.tie (Or.inr (by linarith))
    omega
  · intro hlt
    have hcast : (m : ℚ) < k := by linarith
    exact_mod_cast hcast

/-- A leading part is rounded to 53 bits, or to the power of two behind them. -/
theorem Leading.mantissa_le {x : ℚ} {e : Int} {m : Nat} (h : Leading x e) (hm : Near m (x / 2 ^ e)) :
    m ≤ 2 ^ 53 := by
  have hlt : x / 2 ^ e < 2 ^ 53 := by
    rw [div_lt_iff₀ (two_zpow_pos e)]
    exact h.lt
  have hlow := hm.low
  by_contra hgt
  have hstep : (2 : ℚ) ^ 53 + 1 ≤ m := by exact_mod_cast Nat.not_le.mp hgt
  linarith

theorem Leading.le_mantissa {x : ℚ} {e : Int} {m : Nat} (h : Leading x e) (hm : Near m (x / 2 ^ e))
    (he : minExponent < e) : 2 ^ 52 ≤ m := by
  have hle : 2 ^ 52 ≤ x / 2 ^ e := by
    rw [le_div_iff₀ (two_zpow_pos e)]
    exact h.le he
  have hhigh := hm.high
  by_contra hlt
  have hstep : (m : ℚ) + 1 ≤ 2 ^ 52 := by exact_mod_cast Nat.not_le.mp hlt
  linarith

/-! ## The double -/

section

variable {negative : Bool} {num den m : Nat} {e : Int}

/-- **The two relations determine the double**: the mantissa and the exponent that have them, or, after
    a carry, those that are one exponent further. -/
theorem ofRatio_eq_ite (hnum : 0 < num) (hden : 0 < den) (he : Leading (num / den) e)
    (hm : Near m ((num : ℚ) / den / 2 ^ e)) :
    ofRatio negative num den =
      if m < 2 ^ 53 then if maxExponent < e then infinite negative else finite negative m e
      else if maxExponent < e + 1 then infinite negative else finite negative (2 ^ 52) (e + 1) := by
  have hle := he.mantissa_le hm
  obtain rfl : exponentOf num den = e := (leading_exponentOf hnum hden).unique he
  have hround : roundHalfEven (scaled num den (exponentOf num den)).1
      (scaled num den (exponentOf num den)).2 = m := by
    have hnear := near_roundHalfEven (n := (scaled num den (exponentOf num den)).1)
      (scaled_pos hden num (exponentOf num den))
    rw [scaled_ratio] at hnear
    exact hnear.unique hm
  unfold ofRatio
  rw [if_neg hnum.ne']
  dsimp only
  rw [hround]
  by_cases hlt : m < 2 ^ 53
  · rw [if_pos hlt, if_pos (show m < Nat.pow 2 precision from hlt)]
  · obtain rfl : m = 2 ^ 53 := le_antisymm hle (Nat.not_lt.mp hlt)
    rfl

theorem exists_leading_near (hnum : 0 < num) (hden : 0 < den) :
    ∃ m e, Leading ((num : ℚ) / den) e ∧ Near m ((num : ℚ) / den / 2 ^ e) := by
  have hnear := near_roundHalfEven (n := (scaled num den (exponentOf num den)).1)
    (scaled_pos hden num (exponentOf num den))
  rw [scaled_ratio] at hnear
  exact ⟨_, _, leading_exponentOf hnum hden, hnear⟩

/-- `Normal m e` — the mantissa and the exponent of a finite double, in the one form that it has. -/
structure Normal (m : Nat) (e : Int) : Prop where
  mantissa_lt : m < 2 ^ 53
  le_mantissa : minExponent < e → 2 ^ 52 ≤ m
  min_le : minExponent ≤ e
  le_max : e ≤ maxExponent

/-- The double is an infinity, or it is in normal form. -/
def Sound : Double → Prop
  | finite _ m e => Normal m e
  | infinite _ => True

/-- **Every ratio has a sound double.** -/
theorem sound_ofRatio (hden : 0 < den) : (ofRatio negative num den).Sound := by
  rcases Nat.eq_zero_or_pos num with rfl | hnum
  · exact ⟨by decide, by decide, by decide, by decide⟩
  · obtain ⟨m, e, he, hm⟩ := exists_leading_near hnum hden
    have hmin := he.min
    rw [ofRatio_eq_ite hnum hden he hm]
    split
    · next hlt =>
      split
      · trivial
      · next hmax => exact ⟨hlt, he.le_mantissa hm, hmin, Int.not_lt.mp hmax⟩
    · split
      · trivial
      · next hmax => exact ⟨by decide, fun _ => le_rfl, by omega, Int.not_lt.mp hmax⟩

/-! ## The range -/

/-- The midpoint between the greatest finite double and two to the power of 1024. -/
def overflow : Nat := (2 ^ 54 - 1) * 2 ^ 970

theorem cast_overflow : (overflow : ℚ) = (2 ^ 53 - 1 / 2) * 2 ^ maxExponent := by
  have hpow : (2 : ℚ) ^ maxExponent = 2 * 2 ^ 970 := by
    show (2 : ℚ) ^ (971 : Int) = _
    rw [← pow_succ', ← zpow_natCast]
    rfl
  have hsub : ((2 ^ 54 - 1 : Nat) : ℚ) = 2 ^ 54 - 1 := by norm_num
  rw [hpow, overflow, Nat.cast_mul, hsub, Nat.cast_pow, Nat.cast_ofNat]
  generalize (2 : ℚ) ^ 970 = unit
  ring

/-- **A ratio has a finite double exactly below the overflow.** -/
theorem isFinite_ofRatio_iff (hden : 0 < den) :
    (ofRatio negative num den).isFinite = true ↔ num < overflow * den := by
  have hpos : (0 : ℚ) < den := by exact_mod_cast hden
  rcases Nat.eq_zero_or_pos num with rfl | hnum
  · refine iff_of_true rfl (Nat.mul_pos ?_ hden)
    exact Nat.mul_pos (by norm_num) (pow_pos (by norm_num) _)
  obtain ⟨m, e, he, hm⟩ := exists_leading_near hnum hden
  have hcast : num < overflow * den ↔ (num : ℚ) / den < (2 ^ 53 - 1 / 2) * 2 ^ maxExponent := by
    rw [← cast_overflow, div_lt_iff₀ hpos]
    exact_mod_cast Iff.rfl
  have hbelow : m < 2 ^ 53 ↔ (num : ℚ) / den < (2 ^ 53 - 1 / 2) * 2 ^ e := by
    rw [hm.lt_iff (by norm_num), div_lt_iff₀ (two_zpow_pos e)]
    norm_num
  have hpow : ∀ {f f' : Int}, f ≤ f' → (2 : ℚ) ^ f ≤ 2 ^ f' := zpow_le_zpow_right₀ (by norm_num)
  have hmax := two_zpow_pos maxExponent
  rw [hcast, ofRatio_eq_ite hnum hden he hm]
  split
  · next hlt =>
    rw [hbelow] at hlt
    split
    · next hbeyond =>
      -- 53 bits at an exponent beyond the greatest
      have hmin : minExponent < e := lt_trans (by decide) hbeyond
      have hge := he.le hmin
      have hnext := hpow (show maxExponent + 1 ≤ e from hbeyond)
      rw [zpow_add_one₀ (by norm_num)] at hnext
      exact iff_of_false (by simp [isFinite]) (by linarith)
    · next hwithin =>
      have hle := hpow (Int.not_lt.mp hwithin)
      exact iff_of_true rfl (by linarith)
  · next hcarry =>
    rw [hbelow, not_lt] at hcarry
    split
    · next hbeyond =>
      have hle := hpow (Int.lt_add_one_iff.mp hbeyond)
      exact iff_of_false (by simp [isFinite]) (by linarith)
    · next hwithin =>
      -- the carry leads to a power of two that is still finite
      have hlt := he.lt
      have hle := hpow (Int.not_lt.mp hwithin)
      rw [zpow_add_one₀ (by norm_num)] at hle
      exact iff_of_true rfl (by linarith)

/-! ## Reading back -/

/-- The distance to the lower midpoint, in units of the last place: less at a power of two, where the
    lower neighbour is nearer. -/
def margin (m : Nat) (e : Int) : ℚ := if m = 2 ^ 52 ∧ minExponent < e then 1 / 4 else 1 / 2

/-- `ReadsBack m e x` — `x` lies between the midpoints to the two neighbours of `m · 2 ^ e`; for an odd
    mantissa the midpoints do not belong to it. -/
structure ReadsBack (m : Nat) (e : Int) (x : ℚ) : Prop where
  low : (m - margin m e) * 2 ^ e ≤ x
  high : x ≤ (m + 1 / 2) * 2 ^ e
  inside : m % 2 ≠ 0 → (m - margin m e) * 2 ^ e < x ∧ x < (m + 1 / 2) * 2 ^ e

theorem margin_le (m : Nat) (e : Int) : margin m e ≤ 1 / 2 := by
  unfold margin
  split <;> norm_num

theorem ReadsBack.pos {x : ℚ} (h : ReadsBack m e x) (hm : 0 < m) : 0 < x := by
  have hmargin := margin_le m e
  have hone : (1 : ℚ) ≤ m := by exact_mod_cast hm
  have hpos : 0 < (m - margin m e) * 2 ^ e := mul_pos (by linarith) (two_zpow_pos e)
  exact hpos.trans_le h.low

/-- At the exponent of the double itself, its mantissa is near. -/
theorem ReadsBack.near {x : ℚ} (h : ReadsBack m e x) : Near m (x / 2 ^ e) := by
  have hpos := two_zpow_pos e
  have hmargin := margin_le m e
  have hlow : (m : ℚ) - margin m e ≤ x / 2 ^ e := (le_div_iff₀ hpos).mpr h.low
  have hhigh : x / 2 ^ e ≤ m + 1 / 2 := (div_le_iff₀ hpos).mpr h.high
  refine ⟨by linarith, hhigh, fun htie => ?_⟩
  by_contra hodd
  have hlow' : (m : ℚ) - margin m e < x / 2 ^ e := (lt_div_iff₀ hpos).mpr (h.inside hodd).1
  have hhigh' : x / 2 ^ e < m + 1 / 2 := (div_lt_iff₀ hpos).mpr (h.inside hodd).2
  rcases htie with htie | htie <;> linarith

/-- What reads back as a double has its leading bits at the exponent of the double, or it lies just
    below a power of two and has them one exponent before. -/
theorem ReadsBack.leading {x : ℚ} {f : Int} (h : ReadsBack m e x) (hn : Normal m e)
    (hf : Leading x f) : f = e ∨ f + 1 = e ∧ m = 2 ^ 52 ∧ (2 ^ 53 - 1 / 2) * 2 ^ f ≤ x := by
  have htwo : (2 : ℚ) ≠ 0 := by norm_num
  have hpos := two_zpow_pos e
  have hpow : ∀ {f f' : Int}, f ≤ f' → (2 : ℚ) ^ f ≤ 2 ^ f' := zpow_le_zpow_right₀ (by norm_num)
  rcases lt_trichotomy f e with hlt | heq | hgt
  · right
    have hmin := hf.min
    have hge := hn.le_mantissa (by omega)
    have hhigh := hf.lt
    have hprev : (2 : ℚ) ^ e = 2 ^ (e - 1) * 2 := by
      rw [← zpow_add_one₀ htwo, Int.sub_add_cancel]
    have hle := hpow (show f ≤ e - 1 by omega)
    -- below `2 ^ 52` units of the last place there is the lower margin only
    have hm : m = 2 ^ 52 := by
      by_contra hne
      have hstep : (2 : ℚ) ^ 52 + 1 ≤ m := by exact_mod_cast (by omega : 2 ^ 52 + 1 ≤ m)
      have hlow := h.low
      have hmargin := margin_le m e
      nlinarith
    have hmargin : margin m e = 1 / 4 := if_pos ⟨hm, by omega⟩
    have hlow := h.low
    rw [hmargin, hm] at hlow
    push_cast at hlow
    have hf' : f = e - 1 := by
      by_contra hne
      have hle' := hpow (show f + 1 ≤ e - 1 by omega)
      rw [zpow_add_one₀ htwo] at hle'
      linarith
    refine ⟨by omega, hm, ?_⟩
    rw [hf']
    linarith
  · exact Or.inl heq
  · -- at a greater exponent there would be more than 53 bits
    have hmin := hn.min_le
    have hge := hf.le (by omega)
    have hnext := hpow (show e + 1 ≤ f by omega)
    rw [zpow_add_one₀ htwo] at hnext
    have hhigh := h.high
    have hm : (m : ℚ) + 1 ≤ 2 ^ 53 := by exact_mod_cast hn.mantissa_lt
    nlinarith

/-- **Between the midpoints, every ratio is rounded to the double.** -/
theorem ofRatio_of_readsBack (hn : Normal m e) (hm : 0 < m) (hden : 0 < den)
    (h : ReadsBack m e ((num : ℚ) / den)) : ofRatio negative num den = finite negative m e := by
  have hnum : 0 < num := by
    rw [Nat.pos_iff_ne_zero]
    rintro rfl
    have hpos := h.pos hm
    rw [Nat.cast_zero, zero_div] at hpos
    exact lt_irrefl 0 hpos
  obtain ⟨k, f, hf, hk⟩ := exists_leading_near hnum hden
  rw [ofRatio_eq_ite hnum hden hf hk]
  have hmax := hn.le_max
  rcases h.leading hn hf with rfl | ⟨rfl, rfl, hlow⟩
  · obtain rfl : m = k := h.near.unique hk
    rw [if_pos hn.mantissa_lt, if_neg (Int.not_lt.mpr hmax)]
  · have hcarry : ¬ k < 2 ^ 53 := by
      rw [hk.lt_iff (by norm_num), not_lt, le_div_iff₀ (two_zpow_pos f)]
      norm_num at hlow ⊢
      exact hlow
    rw [if_neg hcarry, if_neg (Int.not_lt.mpr hmax)]

end

end PartProgram.Double
