/-
  Doubles as JSON numbers.

  1. **Program** — `Double.render` writes the digits of the shortest decimal, with a point among them or
     in scientific form; an infinity it spells out.

  2. **Specification** — the numbers of JSON, `Spells s (.double d)`: no needless zero in front, digits on
     both sides of a point, and `d` is the double next to the decimal.

  3. **Two forms (`spellsDecimal_plain`, `spellsDecimal_scientific`)** — each of the two forms spells a
     decimal with the value of the digits.  The zeros that a small number gets in front are the ONLY
     place where a zero comes first.

  4. So a finite double is written as a number that is read as this double (`spells_render`).  An infinity
     is written as a word that is no number at all (`word?_infinite`).
-/
import PartProgram.Proofs.Double.Shortest
import PartProgram.Proofs.Json.Document

namespace PartProgram.Json

open Double (Normal decimal)
open Numeral (IsDigit IsLiteral positional)

/-! ## Decimals -/

/-- `SpellsDecimal s x` — the text is an unsigned JSON number with a point or an exponent, and `x` is its
    value. -/
inductive SpellsDecimal : Text → ℚ → Prop where
  | intro {whole s fraction : Text} {order : Int} {x : ℚ} (hwhole : IsWhole whole)
      (hscale : SpellsScale s fraction order)
      (hx : decimal (positional (whole ++ fraction)) (order - fraction.length) = x) :
      SpellsDecimal (whole ++ s) x

theorem isDigit_zeros {n : Nat} : ∀ c ∈ List.replicate n ('0' : CodePoint), IsDigit c := by
  intro c hc
  obtain rfl := List.eq_of_mem_replicate hc
  decide

/-- A prefix of digits without a needless zero has none either. -/
theorem IsWhole.take {digits : Text} (h : IsWhole digits) {n : Nat} (hn : 0 < n) :
    IsWhole (digits.take n) where
  digit c hc := h.digit c (List.mem_of_mem_take hc)
  ne_nil := by
    rw [ne_eq, List.take_eq_nil_iff, not_or]
    exact ⟨hn.ne', h.ne_nil⟩
  zero hzero := by
    have hhead : (digits.take n).head? = digits.head? := by
      obtain ⟨n, rfl⟩ := Nat.exists_eq_succ_of_ne_zero hn.ne'
      cases digits <;> rfl
    rw [h.zero (hhead ▸ hzero), List.take_of_length_le (show 1 ≤ n from hn)]

/-- Digits and zeros: the number is written out, with a zero behind the point. -/
theorem spellsDecimal_whole {digits n : Nat} (h : 0 < digits ∨ n = 0) :
    SpellsDecimal (Text.ofNat digits ++ List.replicate n ('0' : CodePoint) ++ (['.', '0'] : Text))
      (decimal digits n) := by
  have hwhole : IsWhole (Text.ofNat digits ++ List.replicate n ('0' : CodePoint)) := by
    refine ⟨?_, by simp [(isWhole_ofNat digits).ne_nil], fun hzero => ?_⟩
    · rw [List.forall_mem_append]
      exact ⟨(isWhole_ofNat digits).digit, isDigit_zeros⟩
    · rw [List.head?_append_of_ne_nil _ (isWhole_ofNat digits).ne_nil] at hzero
      have hdigits := (isWhole_ofNat digits).zero hzero
      -- digits that begin with a zero are those of zero, and then there are no zeros behind them
      have hvalue := Numeral.positional_ofNat digits
      rw [hdigits] at hvalue
      obtain rfl : n = 0 := h.resolve_left (by rw [← hvalue]; decide)
      rw [hdigits]
      rfl
  have hscale : SpellsScale ('.' :: ((['0'] : Text) ++ [])) ['0'] 0 :=
    .point (List.forall_mem_singleton.mpr (by decide)) (by decide) .none
  refine .intro hwhole hscale ?_
  have hvalue : positional (Text.ofNat digits ++ List.replicate n ('0' : CodePoint) ++ (['0'] : Text)) =
      digits * 10 ^ (n + 1) := by
    rw [Numeral.positional_append, Numeral.positional_append, Numeral.positional_ofNat,
      Numeral.positional_zeros, List.length_replicate, Nat.pow_succ, ← Nat.mul_assoc]
    rfl
  have hpower : (0 : Int) - (['0'] : Text).length + (n + 1 : Nat) = n := by
    rw [List.length_singleton]
    omega
  rw [hvalue, Double.decimal_mul_pow, hpower]

/-- Zeros and digits: the point stands in front of the last places. -/
theorem spellsDecimal_places {digits places : Nat} (hplaces : 0 < places) {padded : Text}
    (hpadded : padded = List.replicate (places + 1 - (Text.ofNat digits).length) ('0' : CodePoint) ++
      Text.ofNat digits) :
    SpellsDecimal (padded.take (padded.length - places) ++
        ('.' : CodePoint) :: padded.drop (padded.length - places))
      (decimal digits (-places)) := by
  have hlength : padded.length =
      places + 1 - (Text.ofNat digits).length + (Text.ofNat digits).length := by
    rw [hpadded, List.length_append, List.length_replicate]
  have hdigit : ∀ c ∈ padded, IsDigit c := by
    rw [hpadded, List.forall_mem_append]
    exact ⟨isDigit_zeros, (isWhole_ofNat digits).digit⟩
  have hfraction : (padded.drop (padded.length - places)).length = places := by
    rw [List.length_drop]
    omega
  have hwhole : IsWhole (padded.take (padded.length - places)) := by
    rcases Nat.lt_or_ge places (Text.ofNat digits).length with hmore | hfew
    · -- digits enough: there is nothing in front of them
      have hnone : places + 1 - (Text.ofNat digits).length = 0 := by omega
      have hsame : padded = Text.ofNat digits := by
        rw [hpadded, hnone]
        rfl
      rw [hsame]
      exact (isWhole_ofNat digits).take (by omega)
    · -- one of the zeros stands in front of the point
      have hone : padded.length - places = 1 := by omega
      have hzero : padded.take 1 = (['0'] : Text) := by
        have hsome : places + 1 - (Text.ofNat digits).length =
            places - (Text.ofNat digits).length + 1 := by omega
        rw [hpadded, hsome, List.replicate_succ]
        rfl
      rw [hone, hzero]
      exact ⟨List.forall_mem_singleton.mpr (by decide), by decide, fun _ => rfl⟩
  have hscale : SpellsScale ('.' :: (padded.drop (padded.length - places) ++ []))
      (padded.drop (padded.length - places)) 0 := by
    refine .point (fun c hc => hdigit c (List.mem_of_mem_drop hc)) (fun hnil => ?_) .none
    rw [hnil] at hfraction
    exact hplaces.ne hfraction
  rw [List.append_nil] at hscale
  refine .intro hwhole hscale ?_
  rw [List.take_append_drop, hfraction, hpadded, Numeral.positional_append, Numeral.positional_zeros,
    Numeral.positional_ofNat, Nat.zero_mul, Nat.zero_add, Int.zero_sub]

/-- **With a point**, the digits spell their decimal. -/
theorem spellsDecimal_plain {digits : Nat} {power : Int} (h : 0 < digits ∨ power = 0) :
    SpellsDecimal (Double.plain (Text.ofNat digits) power) (decimal digits power) := by
  unfold Double.plain
  dsimp only
  split
  · next hnonneg =>
    obtain ⟨n, rfl⟩ := Int.eq_ofNat_of_zero_le hnonneg
    exact spellsDecimal_whole (h.imp_right Int.natCast_eq_zero.mp)
  · next hneg =>
    have hpower : -((-power).toNat : Int) = power := by omega
    have hspells : SpellsDecimal _ (decimal digits (-((-power).toNat : Int))) :=
      spellsDecimal_places (by omega) rfl
    rwa [hpower] at hspells

/-- The exponent of a number, with its letter. -/
theorem spellsOrder_exponent (width : Nat) (order : Int) :
    SpellsOrder ('e' :: (if order < 0 then '-' else '+') ::
      (List.replicate (width - (Text.ofNat order.natAbs).length) ('0' : CodePoint) ++
        Text.ofNat order.natAbs))
      order := by
  generalize hpadded : List.replicate (width - (Text.ofNat order.natAbs).length) ('0' : CodePoint) ++
    Text.ofNat order.natAbs = padded
  have hvalue : positional padded = order.natAbs := by
    rw [← hpadded, Numeral.positional_append, Numeral.positional_zeros, Numeral.positional_ofNat,
      Nat.zero_mul, Nat.zero_add]
  have hne : padded ≠ [] := by
    rw [← hpadded]
    simp [(isWhole_ofNat order.natAbs).ne_nil]
  have hdigit : ∀ c ∈ padded, IsDigit c := by
    rw [← hpadded, List.forall_mem_append]
    exact ⟨isDigit_zeros, (isWhole_ofNat _).digit⟩
  split
  · next hneg =>
    have hspells : SpellsOrder ('e' :: '-' :: padded) _ :=
      .some (Or.inl rfl) (⟨.minus, hne, hdigit⟩ : IsLiteral ('-' :: padded) true padded)
    have horder : signed true (positional padded) = order := by
      rw [hvalue]
      show -(order.natAbs : Int) = order
      omega
    rwa [horder] at hspells
  · next hnonneg =>
    have hspells : SpellsOrder ('e' :: '+' :: padded) _ :=
      .some (Or.inl rfl) (⟨.plus, hne, hdigit⟩ : IsLiteral ('+' :: padded) false padded)
    have horder : signed false (positional padded) = order := by
      rw [hvalue]
      show (order.natAbs : Int) = order
      omega
    rwa [horder] at hspells

/-- **In scientific form**, the digits spell their decimal. -/
theorem spellsDecimal_scientific (width digits : Nat) (power : Int) :
    SpellsDecimal
      (Double.scientific width (Text.ofNat digits) (power + (Text.ofNat digits).length - 1))
      (decimal digits power) := by
  have hwhole := (isWhole_ofNat digits).take Nat.one_pos
  have horder := spellsOrder_exponent width (power + (Text.ofNat digits).length - 1)
  have hvalue := Numeral.positional_ofNat digits
  have hpos := List.length_pos_iff.mpr (isWhole_ofNat digits).ne_nil
  have hdigit := (isWhole_ofNat digits).digit
  unfold Double.scientific
  dsimp only
  generalize Text.ofNat digits = text at hwhole horder hvalue hpos hdigit
  rw [List.append_assoc]
  generalize hexponent : (('e' : CodePoint) :: _ : Text) = exponent at horder
  split
  · next hone =>
    -- a single digit, and no point
    have hscale : SpellsScale exponent [] _ := .order (hexponent ▸ List.cons_ne_nil _ _) horder
    refine .intro hwhole hscale ?_
    have hpower : power + (text.length : Int) - 1 - ([] : Text).length = power := by
      rw [List.length_nil]
      omega
    rw [List.append_nil, List.take_of_length_le hone, hvalue, hpower]
  · next hmore =>
    have hfraction : (text.drop 1).length = text.length - 1 := List.length_drop
    have hscale : SpellsScale ('.' :: (text.drop 1 ++ exponent)) (text.drop 1)
        (power + (text.length : Int) - 1) := by
      refine .point (fun c hc => hdigit c (List.mem_of_mem_drop hc)) (fun hnil => ?_) horder
      rw [hnil, List.length_nil] at hfraction
      omega
    refine .intro hwhole hscale ?_
    have hpower : power + (text.length : Int) - 1 - (text.drop 1).length = power := by
      rw [hfraction]
      omega
    rw [List.take_append_drop, hvalue, hpower]

/-! ## Doubles -/

/-- A decimal with its sign is a number, and its double is the one that it reads back as. -/
theorem SpellsDecimal.spells {body : Text} {x : ℚ} (h : SpellsDecimal body x) {negative : Bool}
    {d : Double} (hd : ∀ digits power, decimal digits power = x →
      Double.ofDecimal negative digits power = d) :
    Spells (minus negative ++ body) (.double d) := by
  obtain ⟨hwhole, hscale, hx⟩ := h
  rw [← hd _ _ hx]
  exact .double hwhole hscale

/-- The double of a decimal that is zero is zero. -/
theorem ofDecimal_of_decimal_eq_zero {digits : Nat} {power : Int} (h : decimal digits power = 0)
    (negative : Bool) :
    Double.ofDecimal negative digits power = .finite negative 0 Double.minExponent := by
  have hpow : (10 : ℚ) ^ power ≠ 0 := zpow_ne_zero _ (by norm_num)
  obtain rfl : digits = 0 := by
    have hzero := (mul_eq_zero.mp h).resolve_right hpow
    exact_mod_cast hzero
  rw [Double.ofDecimal, Nat.zero_mul]
  rfl

/-- The decimal that is written of a double: every decimal of the same value is read as the double, and
    it is no zero with a power. -/
theorem exists_written {m : Nat} {e : Int} (hn : Normal m e) (negative : Bool) :
    ∃ digits power, (if m = 0 then (0, 0) else Double.shortest m e) = (digits, power) ∧
      (0 < digits ∨ power = 0) ∧ ∀ digits' power', decimal digits' power' = decimal digits power →
        Double.ofDecimal negative digits' power' = .finite negative m e := by
  rcases Nat.eq_zero_or_pos m with rfl | hm
  · refine ⟨0, 0, if_pos rfl, Or.inr rfl, fun digits' power' heq => ?_⟩
    -- zero has the least exponent: at any other one the mantissa is not zero
    have he : e = Double.minExponent := by
      have hmin := hn.min_le
      by_contra hne
      exact absurd (hn.le_mantissa (by omega)) (by norm_num)
    have hzero : decimal digits' power' = 0 := by
      rw [heq, decimal, Nat.cast_zero, zero_mul]
    rw [ofDecimal_of_decimal_eq_zero hzero, he]
  · refine ⟨_, _, if_neg hm.ne', Or.inl (Double.shortest_pos hn hm), fun digits' power' heq => ?_⟩
    refine Double.ofDecimal_of_readsBack hn hm ?_
    rw [heq]
    exact Double.shortest_readsBack hn hm

/-- **A finite double is written as a number that is read as this double.** -/
theorem spells_render {negative : Bool} {m : Nat} {e : Int} (hn : Normal m e) :
    Spells ((Double.finite negative m e).render Double.jsonStyle)
      (.double (.finite negative m e)) := by
  obtain ⟨digits, power, hwritten, hpower, hread⟩ := exists_written hn negative
  have hbody : SpellsDecimal
      (if Double.jsonStyle.leastPlain ≤ power + (Text.ofNat digits).length - 1 ∧
          power + (Text.ofNat digits).length - 1 < Double.jsonStyle.firstScientific
        then Double.plain (Text.ofNat digits) power
        else Double.scientific Double.jsonStyle.exponentWidth (Text.ofNat digits)
          (power + (Text.ofNat digits).length - 1)) (decimal digits power) := by
    split
    · exact spellsDecimal_plain hpower
    · exact spellsDecimal_scientific _ digits power
  have hspells := hbody.spells hread
  unfold Double.render
  dsimp only
  rw [hwritten]
  cases negative <;> exact hspells

/-- The name of an infinity is no token. -/
theorem word?_infinite (negative : Bool) :
    word? ((Double.infinite negative).render Double.jsonStyle) = none := by
  cases negative <;> rfl

end PartProgram.Json
