/-
  Code points and their numbers.

  Characters and surrogates together have the numbers below 0x110000, each of them once: a code point
  is known by its number.
-/
import PartProgram.Text.Basic

namespace PartProgram.CodePoint

/-- No character has the number of a surrogate. -/
theorem toNat_char_cases (c : Char) :
    c.toNat < firstSurrogate ∨ firstSurrogate + 0x800 ≤ c.toNat ∧ c.toNat < 0x110000 := by
  rcases c.valid with hlow | ⟨hhigh, hlast⟩
  · exact Or.inl hlow
  · exact Or.inr ⟨hhigh, hlast⟩

theorem toNat_lt (c : CodePoint) : c.toNat < 0x110000 := by
  have hfirst : firstSurrogate = 0xd800 := rfl
  cases c with
  | char c =>
    rw [toNat_char]
    rcases toNat_char_cases c with h | h <;> omega
  | surrogate offset =>
    show firstSurrogate + offset.val < _
    omega

theorem ofNat_toNat (c : CodePoint) : ofNat c.toNat = c := by
  cases c with
  | char c =>
    have hnot : ¬ (firstSurrogate ≤ c.toNat ∧ c.toNat < firstSurrogate + 0x800) := by
      rcases toNat_char_cases c with h | h <;> omega
    rw [toNat_char, ofNat, dif_neg hnot, Char.ofNat_toNat]
  | surrogate offset =>
    have hin : firstSurrogate ≤ firstSurrogate + offset.val ∧
        firstSurrogate + offset.val < firstSurrogate + 0x800 := by omega
    rw [ofNat, toNat, dif_pos hin]
    exact congrArg surrogate (Fin.ext (Nat.add_sub_cancel_left _ _))

theorem toNat_inj {c d : CodePoint} (h : c.toNat = d.toNat) : c = d := by
  rw [← ofNat_toNat c, h, ofNat_toNat]

theorem toNat_ofNat {n : Nat} (h : n < 0x110000) : (ofNat n).toNat = n := by
  unfold ofNat
  split
  next hin =>
    show firstSurrogate + (n - firstSurrogate) = n
    omega
  next hout =>
    have hfirst : firstSurrogate = 0xd800 := rfl
    have hvalid : n.isValidChar := by
      by_cases hlow : n < 0xd800
      · exact Or.inl hlow
      · exact Or.inr ⟨by omega, h⟩
    rw [toNat_char, Char.ofNat, dif_pos hvalid]
    rfl

end PartProgram.CodePoint
