/-
  Texts of characters in UTF-8.

  1. **Program** — `Utf8.decode` takes the bytes character by character (`Utf8.step`): it reads the first
     byte, and then as many others as belong to it and fit.

  2. **Second side** — `Utf8.encode`: the bytes of the characters, one character after another, as the
     strings of the standard library are kept.

  3. **One character (`step_encodeChar`)** — by the number of its bytes.  The bytes behind the first one
     always fit (`step_of_fits`); where the range of the second byte is narrower, it leaves out nothing but
     characters that have fewer bytes, surrogates, and numbers beyond the last one.

  4. So every text of characters has bytes that are decoded to it (`decode_encode`).
-/
import Mathlib.Data.List.TakeWhile
import PartProgram.Encoding.Utf8
import PartProgram.Proofs.Text.CodePoint

namespace PartProgram.Encoding

/-- A code point at the front of bytes is the first one of their text. -/
theorem decodeWith_point {codec : String} {step : UInt8 → List UInt8 → Step} {position more : Nat}
    {first : UInt8} {rest : List UInt8} {c : CodePoint} {t : Text} (hstep : step first rest = .text [c] more)
    (hrest : decodeWith codec step (position + 1 + more) (rest.drop more) = .ok { text := t }) :
    decodeWith codec step position (first :: rest) = .ok { text := c :: t } := by
  rw [decodeWith, hstep]
  dsimp only
  rw [hrest]
  rfl

namespace Utf8

/-- The bytes of a text of characters. -/
def encode (chars : List Char) : List UInt8 := chars.flatMap String.utf8EncodeChar

/-- A byte that can stand anywhere behind the first one of a character. -/
def Follows (b : UInt8) : Prop := 0x80 ≤ b.toNat ∧ b.toNat ≤ 0xbf

/-- `Fits first second` — the second byte is in the range that the first one leaves to it. -/
def Fits (first second : UInt8) : Prop :=
  (secondRange first).1.toNat ≤ second.toNat ∧ second.toNat ≤ (secondRange first).2.toNat

/-- **A first byte with all the bytes that belong to it** is one character. -/
theorem step_of_fits {first second : UInt8} {others : List UInt8}
    (hfirst : 0xc2 ≤ first.toNat ∧ first.toNat ≤ 0xf4)
    (hcount : (second :: others).length = followers first) (hsecond : Fits first second)
    (hothers : ∀ b ∈ others, Follows b) (rest : List UInt8) :
    step first (second :: others ++ rest) =
      .text [CodePoint.ofNat (codePoint first (second :: others))] (second :: others).length := by
  have hsmall : ¬ first < 0x80 := by
    rw [UInt8.lt_iff_toNat_lt]
    exact Nat.not_lt.mpr (Nat.le_trans (by decide) hfirst.1)
  have hstart : ¬ (first < 0xc2 || 0xf4 < first) = true := by
    rw [Bool.or_eq_true, decide_eq_true_iff, decide_eq_true_iff, UInt8.lt_iff_toNat_lt,
      UInt8.lt_iff_toNat_lt]
    exact not_or.mpr ⟨Nat.not_lt.mpr hfirst.1, Nat.not_lt.mpr hfirst.2⟩
  have hrange : ((secondRange first).1 ≤ second && second ≤ (secondRange first).2) = true := by
    rw [Bool.and_eq_true, decide_eq_true_iff, decide_eq_true_iff, UInt8.le_iff_toNat_le,
      UInt8.le_iff_toNat_le]
    exact hsecond
  have htake : others.takeWhile (fun b => 0x80 ≤ b && b ≤ 0xbf) = others := by
    rw [List.takeWhile_eq_self_iff]
    intro b hb
    rw [Bool.and_eq_true, decide_eq_true_iff, decide_eq_true_iff, UInt8.le_iff_toNat_le,
      UInt8.le_iff_toNat_le]
    exact hothers b hb
  have hfitting : fitting first (second :: others ++ rest) = second :: others := by
    unfold fitting
    rw [List.take_append_of_le_length (Nat.le_of_eq hcount.symm),
      List.take_of_length_le (Nat.le_of_eq hcount)]
    dsimp only
    rw [if_pos hrange, htake]
  unfold step
  rw [if_neg hsmall, if_neg hstart]
  dsimp only
  rw [hfitting, if_pos hcount]

theorem toNat_byte {n : Nat} (h : n < 256) : (UInt8.ofNat n).toNat = n := by
  rw [UInt8.toNat_ofNat', Nat.mod_eq_of_lt h]

/-- A byte with six bits of a number follows others. -/
theorem follows_byte (n : Nat) : Follows (UInt8.ofNat (n % 64 + 128)) := by
  have hbyte : (UInt8.ofNat (n % 64 + 128)).toNat = n % 64 + 128 := toNat_byte (by omega)
  unfold Follows
  omega

/-- How many bytes follow, in numbers. -/
theorem followers_eq (first : UInt8) :
    followers first = if first.toNat < 0xe0 then 1 else if first.toNat < 0xf0 then 2 else 3 := rfl

/-- The range of the second byte, in numbers. -/
theorem fits_of_toNat {first second : UInt8} (hsecond : Follows second)
    (hshort : first.toNat = 0xe0 → 0xa0 ≤ second.toNat)
    (hsurrogate : first.toNat = 0xed → second.toNat ≤ 0x9f)
    (hshort' : first.toNat = 0xf0 → 0x90 ≤ second.toNat)
    (hlast : first.toNat = 0xf4 → second.toNat ≤ 0x8f) : Fits first second := by
  obtain ⟨hlow, hhigh⟩ := hsecond
  unfold Fits secondRange
  split
  · next h => subst h; exact ⟨hshort rfl, hhigh⟩
  split
  · next h => subst h; exact ⟨hlow, hsurrogate rfl⟩
  split
  · next h => subst h; exact ⟨hshort' rfl, hhigh⟩
  split
  · next h => subst h; exact ⟨hlow, hlast rfl⟩
  · exact ⟨hlow, hhigh⟩

/-- **A character is decoded from its bytes**, whatever follows them. -/
theorem step_encodeChar (c : Char) (rest : List UInt8) :
    ∃ first others, String.utf8EncodeChar c = first :: others ∧
      step first (others ++ rest) = .text [.char c] others.length := by
  have hvalid := CodePoint.toNat_char_cases c
  have hsurrogates : CodePoint.firstSurrogate = 0xd800 := rfl
  have hpoint : ∀ {n}, n = c.toNat → CodePoint.ofNat n = .char c := by
    rintro n rfl
    exact CodePoint.ofNat_toNat (.char c)
  have hval : c.val.toNat = c.toNat := rfl
  unfold String.utf8EncodeChar
  dsimp only
  rw [hval]
  generalize c.toNat = v at *
  have hfourth : (UInt8.ofNat (v % 64 + 128)).toNat = v % 64 + 128 := toNat_byte (by omega)
  have hthird : (UInt8.ofNat (v / 64 % 64 + 128)).toNat = v / 64 % 64 + 128 := toNat_byte (by omega)
  have hsecond : (UInt8.ofNat (v / 4096 % 64 + 128)).toNat = v / 4096 % 64 + 128 :=
    toNat_byte (by omega)
  split
  · next hone =>
    have hfirst : (UInt8.ofNat v).toNat = v := toNat_byte (by omega)
    have hsmall : UInt8.ofNat v < 0x80 := by
      rw [UInt8.lt_iff_toNat_lt, hfirst]
      exact Nat.lt_of_le_of_lt hone (by decide)
    refine ⟨_, [], rfl, ?_⟩
    unfold step
    rw [if_pos hsmall, hpoint hfirst]
    rfl
  split
  · have hfirst : (UInt8.ofNat (v / 64 % 32 + 192)).toNat = v / 64 % 32 + 192 := toNat_byte (by omega)
    refine ⟨_, _, rfl, ?_⟩
    rw [step_of_fits (by omega) ?count (fits_of_toNat (follows_byte v) ?_ ?_ ?_ ?_) ?others, hpoint ?point]
    case count => rw [followers_eq, if_pos (by omega)]; rfl
    case others => exact List.forall_mem_nil _
    case point =>
      show (UInt8.ofNat _).toNat % 32 * 64 + (UInt8.ofNat _).toNat % 64 = v
      omega
    all_goals omega
  split
  · have hfirst : (UInt8.ofNat (v / 4096 % 16 + 224)).toNat = v / 4096 % 16 + 224 :=
      toNat_byte (by omega)
    refine ⟨_, _, rfl, ?_⟩
    rw [step_of_fits (by omega) ?count (fits_of_toNat (follows_byte _) ?_ ?_ ?_ ?_) ?others, hpoint ?point]
    case count => rw [followers_eq, if_neg (by omega), if_pos (by omega)]; rfl
    case others => exact List.forall_mem_singleton.mpr (follows_byte v)
    case point =>
      show ((UInt8.ofNat _).toNat % 16 * 64 + (UInt8.ofNat _).toNat % 64) * 64 +
        (UInt8.ofNat _).toNat % 64 = v
      omega
    all_goals omega
  · have hfirst : (UInt8.ofNat (v / 262144 % 8 + 240)).toNat = v / 262144 % 8 + 240 :=
      toNat_byte (by omega)
    refine ⟨_, _, rfl, ?_⟩
    rw [step_of_fits (by omega) ?count (fits_of_toNat (follows_byte _) ?_ ?_ ?_ ?_) ?others, hpoint ?point]
    case count => rw [followers_eq, if_neg (by omega), if_neg (by omega)]; rfl
    case others =>
      exact List.forall_mem_cons.mpr ⟨follows_byte _, List.forall_mem_singleton.mpr (follows_byte v)⟩
    case point =>
      show (((UInt8.ofNat _).toNat % 8 * 64 + (UInt8.ofNat _).toNat % 64) * 64 +
        (UInt8.ofNat _).toNat % 64) * 64 + (UInt8.ofNat _).toNat % 64 = v
      omega
    all_goals omega

/-- **Every text of characters is decoded from its bytes.** -/
theorem decode_encode (chars : List Char) : decode (encode chars) = .ok { text := chars.map .char } := by
  have hall : ∀ position, decodeWith "utf-8" step position (encode chars) =
      .ok { text := chars.map .char } := by
    induction chars with
    | nil => exact fun position => decodeWith.eq_1 ..
    | cons c chars ih =>
      intro position
      obtain ⟨first, others, heq, hstep⟩ := step_encodeChar c (encode chars)
      show decodeWith "utf-8" step position (String.utf8EncodeChar c ++ encode chars) = _
      rw [heq, List.cons_append]
      refine decodeWith_point hstep ?_
      rw [List.drop_left]
      exact ih _
  exact hall 0

end Utf8

end PartProgram.Encoding
