/-
  Number literals, against their grammar.

  1. **Program** — `Numeral.integer? t` and `Numeral.number? t` classify `t`, count its digits and
     convert it.

  2. **Specification** — `IsLiteral t negative digits`: `t` is an optional sign and ASCII digits;
     `Denotes t v` adds that there are at most 4300 digits and that `v` is their signed positional
     value; `Overlong t n` says that there are `n` digits, more than 4300.  `IsDecimal t` is an
     optional sign, then digits with one point among them.

  3. **Correctness** — reading an integer has three outcomes, and each happens exactly on its own
     texts: a value (`integer?_eq_some_iff`), no integer (`integer?_eq_none_iff`), a refusal
     (`integer?_eq_error_iff`).  A number is refused exactly where an integer is
     (`number?_eq_error_iff`), and is missing exactly where `t` is no literal at all; whether it is an
     integer or a double is decided by the point (`number?_eq_integer_iff`, `number?_eq_double_iff`).

  4. **The crux (`signed_iff`)** — what stands behind the sign never begins with a sign itself, so a
     literal determines its sign and its body, and they are the ones that the program takes.
-/
import Mathlib.Algebra.Group.Nat.Defs
import Mathlib.Data.List.TakeWhile
import PartProgram.Numeral

namespace PartProgram.Numeral

/-! ## The grammar -/

/-- One of the ten ASCII digits. -/
def IsDigit (c : CodePoint) : Prop := '0'.toNat ≤ c.toNat ∧ c.toNat ≤ '9'.toNat

instance (c : CodePoint) : Decidable (IsDigit c) :=
  inferInstanceAs (Decidable ('0'.toNat ≤ c.toNat ∧ c.toNat ≤ '9'.toNat))

/-- `Signed t negative body` — `t` is `body`, with a sign in front of it or without one. -/
inductive Signed : Text → Bool → Text → Prop where
  | plain {body : Text} : Signed body false body
  | plus {body : Text} : Signed ('+' :: body) false body
  | minus {body : Text} : Signed ('-' :: body) true body

/-- `IsLiteral t negative digits` — `t` is an integer literal: a sign or none, then one or more
    digits. -/
def IsLiteral (t : Text) (negative : Bool) (digits : Text) : Prop :=
  Signed t negative digits ∧ digits ≠ [] ∧ ∀ c ∈ digits, IsDigit c

/-- The positional value of a string of digits: each digit times the power of ten of its place. -/
def positional : Text → Nat
  | [] => 0
  | c :: cs => (c.toNat - '0'.toNat) * 10 ^ cs.length + positional cs

/-- `Denotes t v` — `t` is an integer literal of at most 4300 digits, and `v` is its value. -/
def Denotes (t : Text) (v : Int) : Prop :=
  ∃ negative digits, IsLiteral t negative digits ∧ digits.length ≤ 4300 ∧
    v = if negative then -(positional digits : Int) else positional digits

/-- `Overlong t n` — `t` is an integer literal of `n` digits, which are more than 4300. -/
def Overlong (t : Text) (n : Nat) : Prop :=
  4300 < n ∧ ∃ negative digits, IsLiteral t negative digits ∧ digits.length = n

/-- `IsDecimal t` — `t` is a decimal literal: a sign or none, then digits and exactly one point, with
    at least one digit on one side of it. -/
def IsDecimal (t : Text) : Prop :=
  ∃ negative whole fraction, Signed t negative (whole ++ ('.' : CodePoint) :: fraction) ∧
    (∀ c ∈ whole ++ fraction, IsDigit c) ∧ whole ++ fraction ≠ []

/-! ## Digits and their value -/

theorem isDigit_iff {c : CodePoint} : c.isDigit = true ↔ IsDigit c := by
  cases c with
  | char c => simp [IsDigit, Char.isDigit, UInt32.le_iff_toNat_le]
  | surrogate offset =>
    have hbeyond : '9'.toNat < CodePoint.firstSurrogate := by decide
    refine iff_of_false nofun fun h => ?_
    have hle : CodePoint.firstSurrogate + offset ≤ '9'.toNat := h.2
    omega

theorem all_isDigit_iff {t : Text} : t.all CodePoint.isDigit = true ↔ ∀ c ∈ t, IsDigit c := by
  rw [List.all_eq_true]
  exact forall₂_congr fun _ _ => isDigit_iff

/-- The program's left fold over the digits is the positional value. -/
theorem digitsValue_eq_positional (digits : Text) : Text.digitsValue digits = positional digits := by
  -- the digits in front count for more with each digit that follows
  have hfrom : ∀ value, digits.foldl (fun value digit => 10 * value + (digit.toNat - '0'.toNat)) value =
      value * 10 ^ digits.length + positional digits := by
    induction digits with
    | nil => intro value; rw [List.foldl_nil, List.length_nil, Nat.pow_zero, Nat.mul_one]; rfl
    | cons c cs ih =>
      intro value
      rw [List.foldl_cons, ih, positional, List.length_cons, Nat.pow_succ', Nat.add_mul, Nat.add_assoc,
        Nat.mul_left_comm, Nat.mul_assoc]
  rw [Text.digitsValue, hfrom, Nat.zero_mul, Nat.zero_add]

/-! ## The sign -/

theorem signed_unsigned (t : Text) : Signed t (isNegative t) (unsigned t) := by
  unfold unsigned
  split
  · exact Signed.plus
  · exact Signed.minus
  · next hminus =>
    have hneg : isNegative t = false := by
      cases t with
      | nil => rfl
      | cons c t =>
        have hne : c ≠ '-' := by rintro rfl; exact hminus t rfl
        simpa [isNegative] using hne
    rw [hneg]
    exact Signed.plain

/-- **The sign is determined** if what stands behind it does not begin with a sign. -/
theorem signed_iff {t body : Text} {negative : Bool}
    (hbody : ∀ c ∈ body.head?, c ≠ '+' ∧ c ≠ '-') :
    Signed t negative body ↔ body = unsigned t ∧ negative = isNegative t := by
  constructor
  · intro h
    cases h with
    | plus => exact ⟨rfl, rfl⟩
    | minus => exact ⟨rfl, rfl⟩
    | plain =>
      -- the program looks for a sign at the front of `body` itself, and there is none
      cases t with
      | nil => exact ⟨rfl, rfl⟩
      | cons c t =>
        obtain ⟨hplus, hminus⟩ := hbody c rfl
        exact ⟨by simp [unsigned, hplus, hminus], by simp [isNegative, hminus]⟩
  · rintro ⟨rfl, rfl⟩
    exact signed_unsigned t

theorem IsDigit.ne_sign {c : CodePoint} (hc : IsDigit c) : c ≠ '+' ∧ c ≠ '-' :=
  ⟨by rintro rfl; exact absurd hc (by decide), by rintro rfl; exact absurd hc (by decide)⟩

/-! ## Integer literals -/

theorem isInteger_iff {t : Text} :
    isInteger t = true ↔ unsigned t ≠ [] ∧ ∀ c ∈ unsigned t, IsDigit c := by
  rw [isInteger, Bool.and_eq_true, all_isDigit_iff]
  simp

/-- A literal determines its parts, and they are what the program takes for sign and digits. -/
theorem isLiteral_iff {t digits : Text} {negative : Bool} :
    IsLiteral t negative digits ↔
      isInteger t = true ∧ digits = unsigned t ∧ negative = isNegative t := by
  rw [isInteger_iff]
  constructor
  · rintro ⟨hs, hne, hd⟩
    obtain ⟨rfl, rfl⟩ := (signed_iff fun c hc => (hd c (List.mem_of_mem_head? hc)).ne_sign).mp hs
    exact ⟨⟨hne, hd⟩, rfl, rfl⟩
  · rintro ⟨⟨hne, hd⟩, rfl, rfl⟩
    exact ⟨signed_unsigned t, hne, hd⟩

theorem exists_isLiteral_iff {t : Text} :
    (∃ negative digits, IsLiteral t negative digits) ↔ isInteger t = true := by
  constructor
  · rintro ⟨negative, digits, h⟩
    exact (isLiteral_iff.mp h).1
  · intro h
    exact ⟨isNegative t, unsigned t, isLiteral_iff.mpr ⟨h, rfl, rfl⟩⟩

/-! ## Reading integers -/

theorem integerValue_of_le {t : Text} (h : (unsigned t).length ≤ 4300) :
    integerValue t = .ok (if isNegative t then -(positional (unsigned t) : Int)
      else positional (unsigned t)) := by
  have hnot : ¬ digitLimit < (unsigned t).length := Nat.not_lt.mpr h
  unfold integerValue
  rw [← digitsValue_eq_positional, if_neg hnot]
  cases isNegative t <;> rfl

theorem integerValue_of_lt {t : Text} (h : 4300 < (unsigned t).length) :
    integerValue t = .error (.tooManyDigits (unsigned t).length) := by
  have hlim : digitLimit < (unsigned t).length := h
  unfold integerValue
  rw [if_pos hlim]
  rfl

theorem integer?_of_isInteger {t : Text} (h : isInteger t = true) :
    integer? t = some <$> integerValue t := by
  rw [integer?, classify, if_pos h]

theorem integer?_of_not_isInteger {t : Text} (h : ¬ isInteger t = true) :
    integer? t = .ok none := by
  rw [integer?, classify, if_neg h]
  split
  · next heq => split at heq <;> exact absurd heq (by decide)
  · rfl

/-- A text is no integer literal, or one within the limit, or one beyond it.  Each case comes with
    the outcome of reading it. -/
theorem integer?_cases (t : Text) :
    ((¬ ∃ negative digits, IsLiteral t negative digits) ∧ integer? t = .ok none) ∨
      (∃ v, Denotes t v ∧ integer? t = .ok (some v)) ∨
      ∃ n, Overlong t n ∧ integer? t = .error (.tooManyDigits n) := by
  by_cases h : isInteger t = true
  · -- a literal, so that the number of its digits decides
    have hlit : IsLiteral t (isNegative t) (unsigned t) := isLiteral_iff.mpr ⟨h, rfl, rfl⟩
    rw [integer?_of_isInteger h]
    rcases Nat.lt_or_ge 4300 (unsigned t).length with hlt | hle
    · refine Or.inr (Or.inr ⟨_, ⟨hlt, _, _, hlit, rfl⟩, ?_⟩)
      rw [integerValue_of_lt hlt]
      rfl
    · refine Or.inr (Or.inl ⟨_, ⟨_, _, hlit, hle, rfl⟩, ?_⟩)
      rw [integerValue_of_le hle]
      rfl
  · exact Or.inl ⟨fun hex => h (exists_isLiteral_iff.mp hex), integer?_of_not_isInteger h⟩

/-- The digits of a literal are determined, so the same text is never within the limit and beyond
    it, and never beyond it by two counts. -/
theorem Overlong.unique {t : Text} {m n : Nat} (hm : Overlong t m) (hn : Overlong t n) : m = n := by
  obtain ⟨_, _, _, hlit, rfl⟩ := hm
  obtain ⟨_, _, _, hlit', rfl⟩ := hn
  rw [(isLiteral_iff.mp hlit).2.1, (isLiteral_iff.mp hlit').2.1]

theorem Denotes.not_overlong {t : Text} {v : Int} (hv : Denotes t v) (n : Nat) : ¬ Overlong t n := by
  rintro ⟨hlt, _, _, hlit', rfl⟩
  obtain ⟨_, _, hlit, hle, _⟩ := hv
  rw [(isLiteral_iff.mp hlit).2.1] at hle
  rw [(isLiteral_iff.mp hlit').2.1] at hlt
  omega

theorem Denotes.unique {t : Text} {v w : Int} (hv : Denotes t v) (hw : Denotes t w) : v = w := by
  obtain ⟨_, _, hlit, _, rfl⟩ := hv
  obtain ⟨_, _, hlit', _, rfl⟩ := hw
  obtain ⟨_, rfl, rfl⟩ := isLiteral_iff.mp hlit
  obtain ⟨_, rfl, rfl⟩ := isLiteral_iff.mp hlit'
  rfl

/-- **An integer is read** exactly from the literals within the limit, with their value. -/
theorem integer?_eq_some_iff {t : Text} {v : Int} : integer? t = .ok (some v) ↔ Denotes t v := by
  rcases integer?_cases t with ⟨hno, h⟩ | ⟨w, hw, h⟩ | ⟨n, hn, h⟩ <;> rw [h]
  · refine ⟨fun heq => absurd heq (by simp), fun hv => ?_⟩
    obtain ⟨negative, digits, hlit, _⟩ := hv
    exact absurd ⟨negative, digits, hlit⟩ hno
  · rw [Except.ok.injEq, Option.some.injEq]
    exact ⟨fun heq => heq ▸ hw, fun hv => hw.unique hv⟩
  · exact ⟨fun heq => absurd heq (by simp), fun hv => absurd hn (hv.not_overlong n)⟩

/-- **No integer is read** exactly from the texts that are no integer literal. -/
theorem integer?_eq_none_iff {t : Text} :
    integer? t = .ok none ↔ ¬ ∃ negative digits, IsLiteral t negative digits := by
  rcases integer?_cases t with ⟨hno, h⟩ | ⟨w, ⟨_, _, hlit, _⟩, h⟩ | ⟨n, ⟨_, _, _, hlit, _⟩, h⟩ <;>
    rw [h]
  · exact ⟨fun _ => hno, fun _ => rfl⟩
  · exact ⟨fun heq => absurd heq (by simp), fun hno => absurd ⟨_, _, hlit⟩ hno⟩
  · exact ⟨fun heq => absurd heq (by simp), fun hno => absurd ⟨_, _, hlit⟩ hno⟩

/-- **An integer is refused** exactly if the literal has too many digits. -/
theorem integer?_eq_error_iff {t : Text} {fault : Fault} :
    integer? t = .error fault ↔ ∃ n, Overlong t n ∧ fault = .tooManyDigits n := by
  rcases integer?_cases t with ⟨hno, h⟩ | ⟨w, hw, h⟩ | ⟨n, hn, h⟩ <;> rw [h]
  · refine ⟨fun heq => absurd heq (by simp), ?_⟩
    rintro ⟨n, ⟨_, negative, digits, hlit, _⟩, _⟩
    exact absurd ⟨negative, digits, hlit⟩ hno
  · exact ⟨fun heq => absurd heq (by simp), fun ⟨n, hn, _⟩ => absurd hn (hw.not_overlong n)⟩
  · rw [Except.error.injEq]
    exact ⟨fun heq => ⟨n, hn, heq.symm⟩, fun ⟨m, hm, heq⟩ => by rw [heq, hn.unique hm]⟩

/-! ## Reading numbers -/

theorem decimalParts_append {whole fraction : Text} (h : ∀ c ∈ whole, IsDigit c) :
    decimalParts (whole ++ ('.' : CodePoint) :: fraction) = some (whole, fraction) := by
  have hdigits : ∀ c ∈ whole, c.isDigit = true := fun c hc => isDigit_iff.mpr (h c hc)
  unfold decimalParts
  rw [List.dropWhile_append_of_pos hdigits, List.takeWhile_append_of_pos hdigits]
  simp

/-- The program's parts of a decimal are digits, then a point, then the rest. -/
theorem decimalParts_eq_some {body whole fraction : Text}
    (h : decimalParts body = some (whole, fraction)) :
    body = whole ++ ('.' : CodePoint) :: fraction ∧ ∀ c ∈ whole, IsDigit c := by
  unfold decimalParts at h
  split at h
  · next fraction' hdrop =>
    rw [Option.some.injEq, Prod.mk.injEq] at h
    obtain ⟨rfl, rfl⟩ := h
    refine ⟨?_, fun c hc => isDigit_iff.mp (List.mem_takeWhile_imp hc)⟩
    rw [← hdrop, List.takeWhile_append_dropWhile]
  · exact absurd h (by simp)

theorem isDecimal_iff {t : Text} : isDecimal t = true ↔ IsDecimal t := by
  constructor
  · intro h
    unfold isDecimal at h
    split at h
    · next whole fraction hparts =>
      obtain ⟨hbody, hwhole⟩ := decimalParts_eq_some hparts
      rw [Bool.and_eq_true, all_isDigit_iff] at h
      refine ⟨isNegative t, whole, fraction, hbody ▸ signed_unsigned t, fun c hc => ?_, ?_⟩
      · rcases List.mem_append.mp hc with hc | hc
        · exact hwhole c hc
        · exact h.1 c hc
      · simpa [imp_iff_not_or] using h.2
    · exact absurd h (by decide)
  · rintro ⟨negative, whole, fraction, hs, hd, hne⟩
    have hwhole : ∀ c ∈ whole, IsDigit c := fun c hc => hd c (List.mem_append_left _ hc)
    have hfraction : ∀ c ∈ fraction, IsDigit c := fun c hc => hd c (List.mem_append_right _ hc)
    -- neither a digit nor the point is a sign, so `signed_iff` applies
    have hhead : ∀ c ∈ (whole ++ ('.' : CodePoint) :: fraction).head?, c ≠ '+' ∧ c ≠ '-' := by
      intro c hc
      cases whole with
      | nil =>
        obtain rfl : '.' = c := by simpa using hc
        decide
      | cons d whole =>
        obtain rfl : d = c := by simpa using hc
        exact (hwhole d List.mem_cons_self).ne_sign
    rw [isDecimal, ← ((signed_iff hhead).mp hs).1, decimalParts_append hwhole]
    show (fraction.all CodePoint.isDigit && !(whole.isEmpty && fraction.isEmpty)) = true
    rw [all_isDigit_iff.mpr hfraction, Bool.true_and]
    simpa [imp_iff_not_or] using hne

/-- An integer literal is read as a number just as it is read as an integer. -/
theorem number?_of_isInteger {t : Text} (h : isInteger t = true) :
    number? t = Option.map Number.integer <$> integer? t := by
  rw [integer?_of_isInteger h, number?, classify, if_pos h]
  cases integerValue t <;> rfl

/-- Any other text is a decimal or no number, and is never refused. -/
theorem number?_of_not_isInteger {t : Text} (h : ¬ isInteger t = true) :
    number? t = .ok (if isDecimal t then some (.double (decimalValue t)) else none) := by
  rw [number?, classify, if_neg h]
  by_cases hdec : isDecimal t = true
  · rw [if_pos hdec, if_pos hdec]; rfl
  · rw [if_neg hdec, if_neg hdec]; rfl

/-- **A number is refused** exactly if it is an integer literal with too many digits. -/
theorem number?_eq_error_iff {t : Text} {fault : Fault} :
    number? t = .error fault ↔ ∃ n, Overlong t n ∧ fault = .tooManyDigits n := by
  rw [← integer?_eq_error_iff]
  by_cases h : isInteger t = true
  · rw [number?_of_isInteger h]
    cases integer? t <;> simp [Functor.map, Except.map]
  · rw [number?_of_not_isInteger h, integer?_of_not_isInteger h]
    simp

/-- **No number is read** exactly from the texts that are neither kind of literal. -/
theorem number?_eq_none_iff {t : Text} :
    number? t = .ok none ↔ (¬ ∃ negative digits, IsLiteral t negative digits) ∧ ¬ IsDecimal t := by
  rw [exists_isLiteral_iff, ← isDecimal_iff]
  by_cases h : isInteger t = true
  · rw [number?_of_isInteger h, integer?_of_isInteger h]
    cases integerValue t <;> simp [Functor.map, Except.map, h]
  · rw [number?_of_not_isInteger h]
    simp [h]

/-- **A number is an integer** exactly if the text is an integer literal within the limit. -/
theorem number?_eq_integer_iff {t : Text} {v : Int} :
    number? t = .ok (some (.integer v)) ↔ Denotes t v := by
  rw [← integer?_eq_some_iff]
  by_cases h : isInteger t = true
  · rw [number?_of_isInteger h]
    rcases integer? t with fault | _ | w <;> simp [Functor.map, Except.map]
  · rw [number?_of_not_isInteger h, integer?_of_not_isInteger h]
    by_cases hdec : isDecimal t = true <;> simp [hdec]

/-- No text is both kinds of literal: an integer has no point. -/
theorem not_isInteger_of_isDecimal {t : Text} (h : isDecimal t = true) : ¬ isInteger t = true := by
  intro hint
  unfold isDecimal at h
  split at h
  · next whole fraction hparts =>
    obtain ⟨hbody, _⟩ := decimalParts_eq_some hparts
    have hpoint : IsDigit '.' := (isInteger_iff.mp hint).2 '.' (by simp [hbody])
    exact absurd hpoint (by decide)
  · exact absurd h (by decide)

/-- **A number is a decimal** exactly if the text is a decimal literal, however many digits it has. -/
theorem number?_eq_double_iff {t : Text} {d : Double} :
    number? t = .ok (some (.double d)) ↔ IsDecimal t ∧ decimalValue t = d := by
  rw [← isDecimal_iff]
  by_cases h : isInteger t = true
  · rw [number?_of_isInteger h]
    have hnot : ¬ isDecimal t = true := fun hdec => not_isInteger_of_isDecimal hdec h
    rcases integer? t with fault | _ | w <;> simp [Functor.map, Except.map, hnot]
  · rw [number?_of_not_isInteger h]
    by_cases hdec : isDecimal t = true <;> simp [hdec]

/-- The parts of a decimal literal give its value. -/
theorem decimalValue_of_signed {t whole fraction : Text} {negative : Bool}
    (hs : Signed t negative (whole ++ ('.' : CodePoint) :: fraction))
    (hdigits : ∀ c ∈ whole ++ fraction, IsDigit c) :
    decimalValue t =
      .ofRatio negative (positional (whole ++ fraction)) (10 ^ fraction.length) := by
  have hwhole : ∀ c ∈ whole, IsDigit c := fun c hc => hdigits c (List.mem_append_left _ hc)
  have hhead : ∀ c ∈ (whole ++ ('.' : CodePoint) :: fraction).head?, c ≠ '+' ∧ c ≠ '-' := by
    intro c hc
    cases whole with
    | nil =>
      obtain rfl := Option.some.inj hc
      decide
    | cons first whole =>
      obtain rfl := Option.some.inj hc
      exact (hwhole _ List.mem_cons_self).ne_sign
  obtain ⟨hbody, rfl⟩ := (signed_iff hhead).mp hs
  unfold decimalValue
  rw [← hbody, decimalParts_append hwhole]
  dsimp only
  rw [digitsValue_eq_positional, Double.ofDecimal]
  have hup : (-(fraction.length : Int)).toNat = 0 := by omega
  have hdown : (-(-(fraction.length : Int))).toNat = fraction.length := by omega
  rw [hup, hdown]
  show Double.ofRatio _ (positional (whole ++ fraction) * 1) _ = _
  rw [Nat.mul_one]
  rfl

end PartProgram.Numeral
