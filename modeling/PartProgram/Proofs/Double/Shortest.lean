/-
  The shortest decimal of a double reads back as the double.

  1. **Program** — `shortest` looks on finer and finer grids of decimals for one that lies between the
     midpoints to the neighbours of the double, and takes off trailing zeros.

  2. **Specification** — `ReadsBack m e x`, stated with rational numbers.  The test on integers that the
     program makes decides it (`contains_of_iff`).

  3. **Seventeen digits (`exists_onGrid`)** — on the grid of seventeen digits the two decimals around the
     double are LESS far apart than the midpoints, so one of them lies between these.  It takes a lower
     bound of the double for that (`pow_order_le`): with an order too small by one the grid would still
     do, with one too great it would be too coarse.

  4. So the search does not fail, and what it finds reads back (`shortest_readsBack`).
-/
import PartProgram.Double.Shortest
import PartProgram.Proofs.Double.Rounding

namespace PartProgram.Double

/-- The value of the decimal `digits · 10 ^ power`. -/
def decimal (digits : Nat) (power : Int) : ℚ := digits * 10 ^ power

theorem decimal_eq_div (digits : Nat) (power : Int) :
    decimal digits power = digits * 10 ^ power.toNat / 10 ^ (-power).toNat := by
  rw [decimal, zpow_eq_div (by norm_num), mul_div_assoc]

theorem decimal_mul_pow (digits n : Nat) (power : Int) :
    decimal (digits * 10 ^ n) power = decimal digits (power + n) := by
  rw [decimal, decimal, zpow_add₀ (by norm_num), zpow_natCast]
  push_cast
  ring

/-- The double of a decimal is that of its value. -/
theorem ofDecimal_of_readsBack {negative : Bool} {m digits : Nat} {e power : Int} (hn : Normal m e)
    (hm : 0 < m) (h : ReadsBack m e (decimal digits power)) :
    ofDecimal negative digits power = finite negative m e := by
  refine ofRatio_of_readsBack hn hm (Nat.pow_pos (by decide)) ?_
  have hvalue : ((digits * 10 ^ power.toNat : Nat) : ℚ) / ((10 ^ (-power).toNat : Nat) : ℚ) =
      decimal digits power := by
    rw [decimal_eq_div]
    push_cast
    rfl
  rwa [← hvalue] at h

/-! ## The interval -/

/-- The test on integers, in rational numbers. -/
theorem Interval.contains_iff {i : Interval} (hunit : 0 < i.unit) (digits : Nat) (power : Int) :
    i.contains digits power = true ↔
      ((i.low : ℚ) / i.unit ≤ decimal digits power ∧ decimal digits power ≤ (i.high : ℚ) / i.unit) ∧
      (i.closed = false →
        (i.low : ℚ) / i.unit < decimal digits power ∧ decimal digits power < (i.high : ℚ) / i.unit) := by
  have hunit' : (0 : ℚ) < i.unit := by exact_mod_cast hunit
  have hten : (0 : ℚ) < 10 ^ (-power).toNat := by positivity
  rw [decimal_eq_div, div_le_div_iff₀ hunit' hten, div_le_div_iff₀ hten hunit',
    div_lt_div_iff₀ hunit' hten, div_lt_div_iff₀ hten hunit']
  norm_cast
  unfold contains
  cases i.closed with
  | true => simp
  | false =>
    simp only [Bool.false_eq_true, if_false, Bool.and_eq_true, decide_eq_true_eq, forall_const]
    constructor
    · intro h
      exact ⟨⟨Nat.le_of_lt h.1, Nat.le_of_lt h.2⟩, h⟩
    · exact And.right

section

variable {m : Nat} {e : Int}

theorem unit_of_pos (m : Nat) (e : Int) : 0 < (Interval.of m e).unit := by
  show 0 < 4 * 2 ^ (-e).toNat
  positivity

/-- A bound of the interval, in rational numbers. -/
theorem div_unit_of (m : Nat) {bound : Nat} {c : ℚ} (h : (bound : ℚ) = 4 * c * 2 ^ e.toNat) :
    (bound : ℚ) / (Interval.of m e).unit = c * 2 ^ e := by
  have hunit : ((Interval.of m e).unit : ℚ) = 4 * 2 ^ (-e).toNat := by
    show ((4 * 2 ^ (-e).toNat : Nat) : ℚ) = _
    push_cast
    rfl
  rw [hunit, h, zpow_eq_div (by norm_num)]
  field_simp

theorem value_of (m : Nat) (e : Int) :
    ((Interval.of m e).value : ℚ) / (Interval.of m e).unit = m * 2 ^ e := by
  refine div_unit_of m ?_
  show ((4 * m * 2 ^ e.toNat : Nat) : ℚ) = _
  push_cast
  rfl

theorem low_of (hm : 0 < m) (e : Int) :
    ((Interval.of m e).low : ℚ) / (Interval.of m e).unit = (m - margin m e) * 2 ^ e := by
  refine div_unit_of m ?_
  show (((4 * m - if m = 2 ^ 52 ∧ minExponent < e then 1 else 2) * 2 ^ e.toNat : Nat) : ℚ) = _
  rw [margin, Nat.cast_mul, Nat.cast_sub (by split <;> omega)]
  split <;> (push_cast; ring)

theorem high_of (m : Nat) (e : Int) :
    ((Interval.of m e).high : ℚ) / (Interval.of m e).unit = (m + 1 / 2) * 2 ^ e := by
  refine div_unit_of m ?_
  show (((4 * m + 2) * 2 ^ e.toNat : Nat) : ℚ) = _
  push_cast
  ring

/-- **The test on integers** decides whether a decimal reads back. -/
theorem contains_of_iff (hm : 0 < m) (digits : Nat) (power : Int) :
    (Interval.of m e).contains digits power = true ↔ ReadsBack m e (decimal digits power) := by
  have hclosed : (Interval.of m e).closed = false ↔ m % 2 ≠ 0 := beq_eq_false_iff_ne
  rw [Interval.contains_iff (unit_of_pos m e), low_of hm, high_of, hclosed]
  exact ⟨fun h => ⟨h.1.1, h.1.2, h.2⟩, fun h => ⟨⟨h.low, h.high⟩, h.inside⟩⟩

/-! ## The order -/

/-- A numeral of `n + 1` digits is that of a number from `10 ^ n` on. -/
theorem pow_le_of_length {n : Nat} (hn : 0 < n) : 10 ^ ((Nat.toDigits 10 n).length - 1) ≤ n := by
  by_contra hlt
  rcases Nat.eq_zero_or_pos ((Nat.toDigits 10 n).length - 1) with hone | hmore
  · rw [hone] at hlt
    omega
  · have hshort := (Nat.length_toDigits_le_iff (by decide) hmore).mpr (Nat.not_le.mp hlt)
    omega

theorem lt_pow_length (n : Nat) : n < 10 ^ (Nat.toDigits 10 n).length := by
  have hpos : 0 < (Nat.toDigits 10 n).length := List.length_pos_iff.mpr Nat.toDigits_ne_nil
  exact (Nat.length_toDigits_le_iff (by decide) hpos).mp le_rfl

/-- **The double is not below ten to its order.** -/
theorem Interval.pow_order_le {i : Interval} (hunit : 0 < i.unit) (hvalue : 0 < i.value) :
    (10 : ℚ) ^ i.order ≤ i.value / i.unit := by
  have hunit' : (0 : ℚ) < i.unit := by exact_mod_cast hunit
  unfold order
  split
  · next hle =>
    have hquotient : 0 < i.value / i.unit := Nat.div_pos hle hunit
    generalize hlength : (Nat.toDigits 10 (i.value / i.unit)).length = length
    have hpow := pow_le_of_length hquotient
    rw [hlength, Nat.le_div_iff_mul_le hunit] at hpow
    have hpos : 0 < length := by
      rw [← hlength]
      exact List.length_pos_iff.mpr Nat.toDigits_ne_nil
    rw [← Int.natCast_one, ← Int.natCast_sub hpos, zpow_natCast, le_div_iff₀ hunit']
    exact_mod_cast hpow
  · next hgt =>
    generalize hceil : (i.unit + i.value - 1) / i.value = ceil
    have hlt := lt_pow_length (ceil - 1)
    generalize (Nat.toDigits 10 (ceil - 1)).length = length at hlt
    have hceil' : (i.unit + i.value - 1) / i.value < 10 ^ length + 1 := by omega
    rw [Nat.div_lt_iff_lt_mul hvalue, Nat.add_mul] at hceil'
    have hle : i.unit ≤ 10 ^ length * i.value := by omega
    have hle' : (i.unit : ℚ) ≤ 10 ^ length * i.value := by exact_mod_cast hle
    rw [zpow_neg, zpow_natCast, inv_eq_one_div, div_le_div_iff₀ (by positivity) hunit']
    linarith

/-! ## The grids -/

/-- The decimal of the grid that is next below the number. -/
def Interval.below (i : Interval) (power : Int) : Nat :=
  i.value * 10 ^ (-power).toNat / (i.unit * 10 ^ power.toNat)

/-- The number lies between two neighbours of the grid. -/
theorem Interval.decimal_below {i : Interval} (hunit : 0 < i.unit) (power : Int) :
    decimal (i.below power) power ≤ i.value / i.unit ∧
      (i.value : ℚ) / i.unit < decimal (i.below power + 1) power := by
  have hunit' : (0 : ℚ) < i.unit := by exact_mod_cast hunit
  have hten : (0 : ℚ) < 10 ^ (-power).toNat := by positivity
  have hden : 0 < i.unit * 10 ^ power.toNat := by positivity
  rw [decimal_eq_div, decimal_eq_div, div_le_div_iff₀ hten hunit', div_lt_div_iff₀ hunit' hten]
  constructor
  · have hle : i.below power * (i.unit * 10 ^ power.toNat) ≤ i.value * 10 ^ (-power).toNat :=
      Nat.div_mul_le_self _ _
    have hle' : (i.below power : ℚ) * (i.unit * 10 ^ power.toNat) ≤ i.value * 10 ^ (-power).toNat := by
      exact_mod_cast hle
    linarith
  · have hlt : i.value * 10 ^ (-power).toNat < (i.below power + 1) * (i.unit * 10 ^ power.toNat) :=
      (Nat.div_lt_iff_lt_mul hden).mp (Nat.lt_succ_self _)
    have hlt' : (i.value : ℚ) * 10 ^ (-power).toNat <
        ((i.below power + 1 : Nat) : ℚ) * (i.unit * 10 ^ power.toNat) := by
      exact_mod_cast hlt
    linarith

theorem roundHalfEven_eq_or (n d : Nat) : roundHalfEven n d = n / d ∨ roundHalfEven n d = n / d + 1 := by
  unfold roundHalfEven
  dsimp only
  split
  · exact Or.inl rfl
  split
  · exact Or.inr rfl
  · have hparity := Nat.mod_two_eq_zero_or_one (n / d)
    omega

/-- What is found on a grid passes the test. -/
theorem Interval.contains_of_onGrid {i : Interval} {power : Int} {digits : Nat}
    (h : i.onGrid power = some digits) : i.contains digits power = true := by
  unfold onGrid at h
  dsimp only at h
  split at h
  · next hdown hup =>
    obtain rfl := Option.some.inj h
    rcases roundHalfEven_eq_or (i.value * Nat.pow 10 (-power).toNat) (i.unit * Nat.pow 10 power.toNat)
      with heq | heq
    · rw [heq]
      exact hdown
    · rw [heq]
      exact hup
  · next hdown _ =>
    obtain rfl := Option.some.inj h
    exact hdown
  · next _ hup =>
    obtain rfl := Option.some.inj h
    exact hup
  · exact nomatch h

/-- If nothing is found on a grid, the two neighbours of the number fail the test. -/
theorem Interval.contains_of_onGrid_none {i : Interval} {power : Int} (h : i.onGrid power = none) :
    i.contains (i.below power) power = false ∧ i.contains (i.below power + 1) power = false := by
  unfold onGrid at h
  dsimp only at h
  split at h
  · exact nomatch h
  · exact nomatch h
  · exact nomatch h
  · next hdown hup => exact ⟨hdown, hup⟩

/-- Strictly between the midpoints everything reads back. -/
theorem ReadsBack.of_inside {x : ℚ} (hlow : (m - margin m e) * 2 ^ e < x)
    (hhigh : x < (m + 1 / 2) * 2 ^ e) : ReadsBack m e x :=
  ⟨hlow.le, hhigh.le, fun _ => ⟨hlow, hhigh⟩⟩

/-- The midpoints are farther apart than two decimals of seventeen digits. -/
theorem spacing_lt (hn : Normal m e) {spacing : ℚ} (h : spacing * 10 ^ 16 ≤ m * 2 ^ e) :
    spacing < (1 / 2 + margin m e) * 2 ^ e := by
  have hpos := two_zpow_pos e
  unfold margin
  split
  · next hpower =>
    have hm : (m : ℚ) = 2 ^ 52 := by exact_mod_cast hpower.1
    rw [hm] at h
    linarith
  · have hm : (m : ℚ) ≤ 2 ^ 53 := by exact_mod_cast hn.mantissa_lt.le
    nlinarith

/-- **Seventeen digits suffice.** -/
theorem exists_onGrid (hn : Normal m e) (hm : 0 < m) :
    ∃ digits, (Interval.of m e).onGrid ((Interval.of m e).order - 16) = some digits := by
  have hpos := two_zpow_pos e
  have hunit := unit_of_pos m e
  have hvalue : 0 < (Interval.of m e).value := by
    show 0 < 4 * m * 2 ^ e.toNat
    positivity
  have horder := Interval.pow_order_le hunit hvalue
  generalize (Interval.of m e).order = order at horder
  obtain ⟨hbelow, habove⟩ := Interval.decimal_below hunit (order - 16)
  rw [value_of] at horder hbelow habove
  rw [← Option.ne_none_iff_exists']
  intro hnone
  obtain ⟨hdown, hup⟩ := Interval.contains_of_onGrid_none hnone
  generalize (Interval.of m e).below (order - 16) = below at hbelow habove hdown hup
  rw [← Bool.not_eq_true, contains_of_iff hm] at hdown hup
  have hmargin : 0 < margin m e := by
    unfold margin
    split <;> norm_num
  -- both neighbours lie beyond the midpoints, and so they are too far apart
  have hdown' : decimal below (order - 16) ≤ (m - margin m e) * 2 ^ e := by
    by_contra hlt
    exact hdown (.of_inside (not_le.mp hlt) (by nlinarith))
  have hup' : (m + 1 / 2) * 2 ^ e ≤ decimal (below + 1) (order - 16) := by
    by_contra hlt
    exact hup (.of_inside (by nlinarith) (not_le.mp hlt))
  have hspacing : decimal (below + 1) (order - 16) = decimal below (order - 16) + 10 ^ (order - 16) := by
    unfold decimal
    push_cast
    ring
  have hsixteen : (10 : ℚ) ^ (order - 16) * 10 ^ 16 = 10 ^ order := by
    rw [zpow_sub₀ (by norm_num)]
    exact div_mul_cancel₀ _ (by norm_num)
  have hlt := spacing_lt hn (hsixteen.trans_le horder)
  linarith

/-! ## The shortest decimal -/

/-- Taking off zeros does not change the value. -/
theorem decimal_dropZeros (fuel digits : Nat) (power : Int) :
    decimal (dropZeros fuel digits power).1 (dropZeros fuel digits power).2 = decimal digits power := by
  fun_induction dropZeros fuel digits power with
  | case1 fuel digits power hzero ih =>
    have hten : (digits : ℚ) = 10 * (digits / 10 : Nat) := by
      exact_mod_cast (Nat.mul_div_cancel' (Nat.dvd_of_mod_eq_zero hzero)).symm
    rw [ih, decimal, decimal, zpow_add_one₀ (by norm_num), hten]
    ring
  | case2 => rfl
  | case3 => rfl

/-- **The shortest decimal reads back.** -/
theorem shortest_readsBack (hn : Normal m e) (hm : 0 < m) :
    ReadsBack m e (decimal (shortest m e).1 (shortest m e).2) := by
  unfold shortest
  dsimp only
  split
  · next digits power hfound =>
    obtain ⟨more, _, hmore⟩ := List.exists_of_findSome?_eq_some hfound
    obtain ⟨digits', hgrid, heq⟩ := Option.map_eq_some_iff.mp hmore
    obtain ⟨rfl, rfl⟩ := Prod.mk.inj heq
    rw [decimal_dropZeros, ← contains_of_iff hm]
    exact Interval.contains_of_onGrid hgrid
  · next hnone =>
    -- the search goes up to seventeen digits
    obtain ⟨digits, hgrid⟩ := exists_onGrid hn hm
    have hlast := List.findSome?_eq_none_iff.mp hnone 16 (by decide)
    rw [Option.map_eq_none_iff] at hlast
    exact absurd (hlast.symm.trans hgrid) (by simp)

/-- The shortest decimal of a double is not zero. -/
theorem shortest_pos (hn : Normal m e) (hm : 0 < m) : 0 < (shortest m e).1 := by
  have hpos := (shortest_readsBack hn hm).pos hm
  rw [Nat.pos_iff_ne_zero]
  intro hzero
  rw [hzero, decimal, Nat.cast_zero, zero_mul] at hpos
  exact lt_irrefl 0 hpos

end

end PartProgram.Double
