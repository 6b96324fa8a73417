/-
  Texts as JSON strings.

  1. **Program** — `Json.renderString` writes a text in printable ASCII, one code point after another
     (`escapedChar`), and a character beyond the first 65536 as a pair of surrogates.

  2. **Specification** — `Spells s (.string t)`: between the quotes, `s` stands for `t`.

  3. **One code point (`spellsChar_escapedChar`)** — through the branches of `escapedChar`.  A surrogate is
     written as its own code unit, and this spells it as long as it is not taken for half of a pair.

  4. **Pairs (`escapedChar_pair`)** — two surrogates side by side that are a pair are written exactly like
     the ONE character that the pair makes, and so is the whole text (`renderString_joinPairs`).  What a
     string spells is therefore not the text but `t.joinPairs`, with that character in the place of each
     pair (`spells_renderString`), and this is the text itself exactly if there is no pair in it
     (`joinPairs_eq_self_iff`).
-/
import PartProgram.Proofs.Json.Grammar
import PartProgram.Proofs.Integer

namespace PartProgram

/-! ## Pairs of surrogates -/

theorem Json.isHigh_iff {unit : Nat} : isHigh unit = true ↔ 0xd800 ≤ unit ∧ unit ≤ 0xdbff := by
  simp [isHigh]

theorem Json.isLow_iff {unit : Nat} : isLow unit = true ↔ 0xdc00 ≤ unit ∧ unit ≤ 0xdfff := by
  simp [isLow]

namespace Text

/-- The text with every pair of surrogates put together. -/
def joinPairs : Text → Text
  | high :: low :: t =>
    if Json.isHigh high.toNat && Json.isLow low.toNat then
      Json.ofPair high.toNat low.toNat :: joinPairs t
    else high :: joinPairs (low :: t)
  | t => t

/-- `t.HoldsPair` — somewhere in the text, a high surrogate is directly followed by a low one. -/
def HoldsPair (t : Text) : Prop :=
  ∃ before high low after, t = before ++ high :: low :: after ∧
    Json.isHigh high.toNat = true ∧ Json.isLow low.toNat = true

theorem holdsPair_cons_cons_iff {c d : CodePoint} {t : Text} :
    HoldsPair (c :: d :: t) ↔
      (Json.isHigh c.toNat = true ∧ Json.isLow d.toNat = true) ∨ HoldsPair (d :: t) := by
  constructor
  · rintro ⟨before, high, low, after, heq, hpair⟩
    cases before with
    | nil =>
      obtain ⟨rfl, hrest⟩ := List.cons.inj heq
      obtain ⟨rfl, _⟩ := List.cons.inj hrest
      exact Or.inl hpair
    | cons _ before => exact Or.inr ⟨before, high, low, after, (List.cons.inj heq).2, hpair⟩
  · rintro (hpair | ⟨before, high, low, after, heq, hpair⟩)
    · exact ⟨[], c, d, t, rfl, hpair⟩
    · exact ⟨c :: before, high, low, after, by rw [heq]; rfl, hpair⟩

theorem not_holdsPair_short {t : Text} (h : t.length ≤ 1) : ¬ HoldsPair t := by
  rintro ⟨before, high, low, after, rfl, _⟩
  simp only [List.length_append, List.length_cons] at h
  omega

/-- A part of a text holds no pair that the text does not hold. -/
theorem HoldsPair.mono {s t : Text} (h : HoldsPair s) (hpart : s <:+: t) : HoldsPair t := by
  obtain ⟨before, high, low, after, rfl, hpair⟩ := h
  obtain ⟨front, back, rfl⟩ := hpart
  exact ⟨front ++ before, high, low, after ++ back, by simp, hpair⟩

/-- Texts of characters hold no pair. -/
theorem not_holdsPair_chars (chars : List Char) : ¬ HoldsPair (chars.map .char) := by
  rintro ⟨before, high, low, after, heq, hhigh, _⟩
  have hmem : high ∈ chars.map .char := heq ▸ List.mem_append_right _ List.mem_cons_self
  obtain ⟨c, _, rfl⟩ := List.mem_map.mp hmem
  have hfirst : CodePoint.firstSurrogate = 0xd800 := rfl
  rw [CodePoint.toNat_char, Json.isHigh_iff] at hhigh
  rcases CodePoint.toNat_char_cases c with h | h <;> omega

/-- Every pair makes the text shorter. -/
theorem length_joinPairs_le (t : Text) : t.joinPairs.length ≤ t.length := by
  fun_induction joinPairs t with
  | case1 high low t _ ih => simp only [List.length_cons]; omega
  | case2 high low t _ ih => simpa only [List.length_cons, Nat.add_le_add_iff_right] using ih
  | case3 t _ => exact Nat.le_refl _

/-- **Putting pairs together changes nothing exactly if there are none.** -/
theorem joinPairs_eq_self_iff {t : Text} : t.joinPairs = t ↔ ¬ HoldsPair t := by
  fun_induction joinPairs t with
  | case1 high low t hpair ih =>
    refine iff_of_false (fun heq => ?_) (not_not_intro ?_)
    · have hlength := congrArg List.length heq
      have hle := length_joinPairs_le t
      simp only [List.length_cons] at hlength
      omega
    · rw [Bool.and_eq_true] at hpair
      exact holdsPair_cons_cons_iff.mpr (Or.inl hpair)
  | case2 high low t hpair ih =>
    rw [Bool.and_eq_true] at hpair
    rw [List.cons.injEq, eq_self, true_and, ih, holdsPair_cons_cons_iff, or_iff_right hpair]
  | case3 t hshort =>
    refine iff_of_true rfl (not_holdsPair_short ?_)
    match t, hshort with
    | [], _ => exact Nat.zero_le _
    | [_], _ => exact Nat.le_refl _
    | c :: d :: t, hshort => exact absurd rfl (hshort c d t)

end Text

namespace Json

/-! ## Code units -/

theorem hexDigit?_digitChar {n : Nat} (h : n < 16) : hexDigit? (.char n.digitChar) = some n := by
  have hall : ∀ m < 16, hexDigit? (.char (Nat.digitChar m)) = some m := by decide
  exact hall n h

/-- **The four digits of a code unit are read as that unit.** -/
theorem unit?_four {n : Nat} (h : n < 0x10000) :
    unit? [.char (n / 16 / 16 / 16).digitChar, .char (n / 16 / 16 % 16).digitChar,
      .char (n / 16 % 16).digitChar, .char (n % 16).digitChar] = some n := by
  have hfirst : n / 16 / 16 / 16 < 16 := by omega
  have hlast : ∀ m : Nat, m % 16 < 16 := fun m => Nat.mod_lt m (by decide)
  unfold unit?
  dsimp only
  rw [hexDigit?_digitChar hfirst, hexDigit?_digitChar (hlast _), hexDigit?_digitChar (hlast _),
    hexDigit?_digitChar (hlast _)]
  refine congrArg some ?_
  omega

theorem low?_escapedUnit {n : Nat} (h : n < 0x10000) (rest : Text) :
    low? (escapedUnit n ++ rest) = if isLow n then some n else none := by
  rw [escapedUnit, Text.ofNatHex_four h]
  show (unit? [_, _, _, _]).filter isLow = _
  rw [unit?_four h, Option.filter_some]

/-! ## Code points -/

variable {c : CodePoint} {rest : Text}

theorem spellsChar_unit (h : c.toNat < 0x10000) (halone : isHigh c.toNat = true → low? rest = none) :
    SpellsChar (escapedUnit c.toNat) rest c := by
  have hspells := SpellsChar.unit (unit?_four h) halone
  rw [CodePoint.ofNat_toNat] at hspells
  rwa [escapedUnit, Text.ofNatHex_four h]

/-- A character beyond the first 65536 is spelled by its pair of surrogates. -/
theorem spellsChar_beyond (h : 0x10000 ≤ c.toNat) :
    SpellsChar (escapedUnit (0xd800 + (c.toNat - 0x10000) / 0x400) ++
      escapedUnit (0xdc00 + (c.toNat - 0x10000) % 0x400)) rest c := by
  have hbound := c.toNat_lt
  generalize hoffset : c.toNat - 0x10000 = offset
  have hhigh : 0xd800 + offset / 0x400 < 0x10000 := by omega
  have hlow : 0xdc00 + offset % 0x400 < 0x10000 := by omega
  have hpair : ofPair (0xd800 + offset / 0x400) (0xdc00 + offset % 0x400) = c := by
    have hvalue : 0x10000 + (0xd800 + offset / 0x400 - 0xd800) * 0x400 +
        (0xdc00 + offset % 0x400 - 0xdc00) = c.toNat := by omega
    rw [ofPair, hvalue, CodePoint.ofNat_toNat]
  have hspells : SpellsChar _ rest _ := .pair (unit?_four hhigh) (unit?_four hlow)
    (isHigh_iff.mpr (by omega)) (isLow_iff.mpr (by omega))
  rw [hpair] at hspells
  rw [escapedUnit, escapedUnit, Text.ofNatHex_four hhigh, Text.ofNatHex_four hlow]
  exact hspells

/-- **Every code point is spelled by its escape**, unless it is the first half of a pair. -/
theorem spellsChar_escapedChar (halone : isHigh c.toNat = true → low? rest = none) :
    SpellsChar (escapedChar c) rest c := by
  unfold escapedChar
  split
  · next h => rcases h with rfl | rfl <;> exact .short rfl
  split
  · next h => obtain rfl := h; exact .short rfl
  split
  · next h => obtain rfl := h; exact .short rfl
  split
  · next h => obtain rfl := h; exact .short rfl
  split
  · next h => obtain rfl := h; exact .short rfl
  split
  · next h => obtain rfl := h; exact .short rfl
  split
  · next hspecial _ _ _ _ _ hprintable =>
    rw [not_or] at hspecial
    exact .plain hprintable.1 hspecial.1 hspecial.2
  split
  · next h => exact spellsChar_unit h halone
  · next h => exact spellsChar_beyond (Nat.not_lt.mp h)

/-- Beyond ASCII, a code point is written by its number. -/
theorem escapedChar_of_le (h : 0x80 ≤ c.toNat) :
    escapedChar c =
      if c.toNat < 0x10000 then escapedUnit c.toNat
      else escapedUnit (0xd800 + (c.toNat - 0x10000) / 0x400) ++
        escapedUnit (0xdc00 + (c.toNat - 0x10000) % 0x400) := by
  have hne : ∀ d : Char, d.toNat < 0x80 → c ≠ d := by
    rintro d hd rfl
    exact absurd h (Nat.not_le.mpr hd)
  unfold escapedChar
  rw [if_neg (not_or_intro (hne _ (by decide)) (hne _ (by decide))), if_neg (hne _ (by decide)),
    if_neg (hne _ (by decide)), if_neg (hne _ (by decide)), if_neg (hne _ (by decide)),
    if_neg (hne _ (by decide)), if_neg (by omega)]

/-- The number of the character that a pair makes. -/
theorem toNat_ofPair {high low : Nat} (hhigh : isHigh high = true) (hlow : isLow low = true) :
    (ofPair high low).toNat = 0x10000 + (high - 0xd800) * 0x400 + (low - 0xdc00) := by
  have hhigh' := isHigh_iff.mp hhigh
  have hlow' := isLow_iff.mp hlow
  exact CodePoint.toNat_ofNat (by omega)

/-- **A pair is written like the character that it makes.** -/
theorem escapedChar_pair {d : CodePoint} (hhigh : isHigh c.toNat = true) (hlow : isLow d.toNat = true) :
    escapedChar c ++ escapedChar d = escapedChar (ofPair c.toNat d.toNat) := by
  have hvalue := toNat_ofPair hhigh hlow
  rw [isHigh_iff] at hhigh
  rw [isLow_iff] at hlow
  have hfirst : 0xd800 + ((ofPair c.toNat d.toNat).toNat - 0x10000) / 0x400 = c.toNat := by omega
  have hsecond : 0xdc00 + ((ofPair c.toNat d.toNat).toNat - 0x10000) % 0x400 = d.toNat := by omega
  rw [escapedChar_of_le (by omega), escapedChar_of_le (by omega), escapedChar_of_le (by omega),
    if_pos (by omega), if_pos (by omega), if_neg (by omega), hfirst, hsecond]

/-- What is written of a code point begins with a second half only if it is one. -/
theorem low?_escapedChar (hlow : isLow c.toNat = false) (rest : Text) :
    low? (escapedChar c ++ rest) = none := by
  have hbound := c.toNat_lt
  unfold escapedChar
  split
  · next h => rcases h with rfl | rfl <;> rfl
  iterate 5
    split
    · rfl
  split
  · next hspecial _ _ _ _ _ _ =>
    rw [not_or] at hspecial
    simp [low?, hspecial.2]
  split
  · next h => rw [low?_escapedUnit h, hlow]; rfl
  · have hfirst : isLow (0xd800 + (c.toNat - 0x10000) / 0x400) = false := by
      rw [← Bool.not_eq_true, isLow_iff]
      omega
    dsimp only
    rw [List.append_assoc, low?_escapedUnit (by omega), hfirst]
    rfl

/-! ## Strings -/

/-- **What is written of a text stands for the text with its pairs put together.** -/
theorem spellsText_joinPairs (t : Text) : SpellsText (t.flatMap escapedChar) t.joinPairs := by
  fun_induction Text.joinPairs t with
  | case1 high low t hpair ih =>
    obtain ⟨hhigh, hlow⟩ := Bool.and_eq_true_iff.mp hpair
    rw [List.flatMap_cons, List.flatMap_cons, ← List.append_assoc, escapedChar_pair hhigh hlow]
    refine .cons (spellsChar_escapedChar fun hhigh' => ?_) ih
    rw [toNat_ofPair hhigh hlow, isHigh_iff] at hhigh'
    omega
  | case2 high low t hpair ih =>
    refine .cons (spellsChar_escapedChar fun hhigh => low?_escapedChar ?_ _) ih
    rw [hhigh, Bool.true_and, Bool.not_eq_true] at hpair
    exact hpair
  | case3 t hshort =>
    match t, hshort with
    | [], _ => exact .nil
    | [c], _ => exact .cons (spellsChar_escapedChar fun _ => rfl) .nil
    | c :: d :: t, hshort => exact absurd rfl (hshort c d t)

theorem spells_renderString (t : Text) : Spells (renderString t) (.string t.joinPairs) :=
  .string (spellsText_joinPairs t)

/-- **A text is written like the text with its pairs put together.** -/
theorem renderString_joinPairs (t : Text) : renderString t.joinPairs = renderString t := by
  have hchars : t.joinPairs.flatMap escapedChar = t.flatMap escapedChar := by
    fun_induction Text.joinPairs t with
    | case1 high low t hpair ih =>
      obtain ⟨hhigh, hlow⟩ := Bool.and_eq_true_iff.mp hpair
      rw [List.flatMap_cons, List.flatMap_cons, List.flatMap_cons, ih, ← escapedChar_pair hhigh hlow,
        List.append_assoc]
    | case2 high low t _ ih => rw [List.flatMap_cons, List.flatMap_cons, ih]
    | case3 t _ => rfl
  rw [renderString, renderString, hchars]

example : renderString [CodePoint.ofNat 0xd83d, CodePoint.ofNat 0xde00] = renderString "😀".toText := by
  decide

end Json

end PartProgram
