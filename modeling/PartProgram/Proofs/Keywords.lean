/-
  Keywords in any mixture of cases.

  1. **Program** — the keyword of a control line, and the value of a variable that answers yes or no, are
     put in lower case by the mapping of ALL of Unicode, and then compared with a few words.

  2. **Specification** — `CaseVariant word t`: character by character, `t` has the letter of `word` or its
     ASCII capital.  No other character stands for a letter.

  3. **The crux (`lowered_of_ascii`, `lowered_of_not_ascii`)** — an ASCII character is lowered within
     ASCII.  Any other leaves a character beyond ASCII behind, also where it becomes two; the only
     exception is the Kelvin sign, which becomes a `k`, and no keyword has a `k`.  This is read off the
     table of the case mapping, run by run (`lowerRuns_cases`).

  4. **Sigma** — the sigma at the end of a word has a lower case of its own, which `Text.lower` passes
     over.  No comparison with a keyword can tell (`SigmaForms.eq_iff`).
-/
import Mathlib
import PartProgram.Proofs.Command.AllOrNothing
import PartProgram.Proofs.Text.Columns

namespace PartProgram

/-- The code point with a small ASCII letter made a capital. -/
def CodePoint.toUpper : CodePoint → CodePoint
  | char c => c.toUpper
  | surrogate offset => surrogate offset

theorem CodePoint.toNat_toUpper_le (c : CodePoint) : c.toUpper.toNat ≤ c.toNat := by
  cases c with
  | surrogate offset => exact Nat.le_refl _
  | char c =>
    show c.toUpper.toNat ≤ c.toNat
    by_cases hlower : c.isLower = true
    · rw [Char.toUpper_eq_of_isLower hlower, Char.toNat_ofNat]
      split <;> omega
    · rw [Char.toUpper_eq_of_not_isLower hlower]

/-- The ASCII capitals. -/
def CodePoint.IsCapital (c : CodePoint) : Prop := 'A'.toNat ≤ c.toNat ∧ c.toNat ≤ 'Z'.toNat

theorem isUpper_iff {c : Char} : c.isUpper = true ↔ CodePoint.IsCapital c := by
  simp [CodePoint.IsCapital, Char.isUpper, UInt32.le_iff_toNat_le]

theorem CodePoint.toLower_of_isCapital {c : CodePoint} (h : c.IsCapital) :
    c.toLower = ofNat (c.toNat + 32) := by
  have hlast : 'Z'.toNat + 32 < firstSurrogate := by decide
  cases c with
  | surrogate offset =>
    have hle : firstSurrogate + offset.val ≤ 'Z'.toNat := h.2
    omega
  | char c =>
    have hout : ¬ (firstSurrogate ≤ (char c).toNat + 32 ∧
        (char c).toNat + 32 < firstSurrogate + 0x800) := by
      have hle := h.2
      omega
    rw [toLower, Char.toLower_eq_of_isUpper (isUpper_iff.mpr h), ofNat, dif_neg hout, toNat_char]

theorem CodePoint.toLower_of_not_isCapital {c : CodePoint} (h : ¬ c.IsCapital) : c.toLower = c := by
  cases c with
  | surrogate offset => rfl
  | char c => rw [toLower, Char.toLower_eq_of_not_isUpper fun hupper => h (isUpper_iff.mp hupper)]

namespace Text

/-! ## Case variants -/

/-- `CaseVariant word t` — each character of `t` is the letter of `word` at its place, or the ASCII
    capital of that letter. -/
def CaseVariant (word t : Text) : Prop :=
  List.Forall₂ (fun letter c => c = letter ∨ c = letter.toUpper) word t

/-- `Plain letter` — an ASCII character that is no capital and no `k`. -/
def Plain (letter : CodePoint) : Prop := letter.toNat < 128 ∧ letter.toLower = letter ∧ letter ≠ 'k'

instance (letter : CodePoint) : Decidable (Plain letter) :=
  inferInstanceAs (Decidable (letter.toNat < 128 ∧ letter.toLower = letter ∧ letter ≠ 'k'))

theorem char_toLower_eq_iff {letter c : Char} (h : letter.toLower = letter) :
    c.toLower = letter ↔ c = letter ∨ c = letter.toUpper := by
  constructor
  · rintro rfl
    by_cases hupper : c.isUpper = true
    · refine Or.inr ?_
      rw [Char.toUpper_toLower_eq_toUpper,
        Char.toUpper_eq_of_not_isLower (Char.not_isLower_of_isUpper hupper)]
    · exact Or.inl (Char.toLower_eq_of_not_isUpper hupper).symm
  · rintro (rfl | rfl)
    · exact h
    · rw [Char.toLower_toUpper_eq_toLower, h]

/-- A surrogate has no cases; it is a variant of itself alone. -/
theorem toLower_eq_iff {letter c : CodePoint} (h : letter.toLower = letter) :
    c.toLower = letter ↔ c = letter ∨ c = letter.toUpper := by
  match letter, c with
  | .char letter, .char c =>
    have hletter : letter.toLower = letter := CodePoint.char.inj h
    simp only [CodePoint.toLower, CodePoint.toUpper, CodePoint.char.injEq, char_toLower_eq_iff hletter]
  | .char _, .surrogate _ | .surrogate _, .char _ | .surrogate _, .surrogate _ =>
    simp [CodePoint.toLower, CodePoint.toUpper]

theorem CaseVariant.exists_letter {word t : Text} (h : CaseVariant word t) {c : CodePoint} (hc : c ∈ t) :
    ∃ letter ∈ word, c = letter ∨ c = letter.toUpper := by
  induction h with
  | nil => exact absurd hc List.not_mem_nil
  | @cons letter d word t hd _ ih =>
    rcases List.mem_cons.mp hc with rfl | hc
    · exact ⟨letter, List.mem_cons_self, hd⟩
    · obtain ⟨letter', hmem, h⟩ := ih hc
      exact ⟨letter', List.mem_cons_of_mem letter hmem, h⟩

theorem CaseVariant.ascii {word t : Text} (h : CaseVariant word t)
    (hword : ∀ letter ∈ word, Plain letter) {c : CodePoint} (hc : c ∈ t) : c.toNat < 128 := by
  obtain ⟨letter, hmem, hletter⟩ := h.exists_letter hc
  have hascii := (hword letter hmem).1
  rcases hletter with rfl | rfl
  · exact hascii
  · exact (CodePoint.toNat_toUpper_le letter).trans_lt hascii

/-! ## The lower case of one character -/

/-- The lower case of a character. -/
def lowered (c : CodePoint) : Text := mapCase lowerSequences lowerRuns c

theorem lower_cons (c : CodePoint) (t : Text) : lower (c :: t) = lowered c ++ lower t := rfl

/-- `run.Beyond` — the run begins beyond ASCII, and what its characters become lies beyond ASCII too.  (The
    other bounds keep clear of the numbers that are no code points.) -/
def CaseRun.Beyond (run : CaseRun) : Prop :=
  0x80 ≤ run.first ∧
    ((0x80 ≤ run.first + run.shift ∧ run.last + run.shift < 0xd800) ∨
      (0xe000 ≤ run.first + run.shift ∧ run.last + run.shift < 0x110000))

instance (run : CaseRun) : Decidable run.Beyond :=
  inferInstanceAs (Decidable (0x80 ≤ run.first ∧
    ((0x80 ≤ run.first + run.shift ∧ run.last + run.shift < 0xd800) ∨
      (0xe000 ≤ run.first + run.shift ∧ run.last + run.shift < 0x110000))))

set_option maxRecDepth 2000 in
/-- **The table, run by run**: all runs but two are beyond ASCII, the ASCII capitals themselves and the Kelvin
    sign. -/
theorem lowerRuns_cases : ∀ run ∈ lowerRuns,
    (run.first = 'A'.toNat ∧ run.last = 'Z'.toNat ∧ run.shift = 32) ∨
      (run.first = 0x212a ∧ run.last = 0x212a ∧ run.shift = 'k'.toNat - 0x212a) ∨ run.Beyond := by
  decide

theorem CaseRun.between {run : CaseRun} {n : Nat} (h : run.holds n = true) :
    run.first ≤ n ∧ n ≤ run.last := by
  rw [CaseRun.holds, Bool.and_eq_true, Bool.and_eq_true, decide_eq_true_eq, decide_eq_true_eq] at h
  exact h.1

/-- What a run beyond ASCII makes of a character is beyond ASCII. -/
theorem CaseRun.Beyond.shifted {run : CaseRun} (hrun : run.Beyond) {n : Nat} (h : run.holds n = true) :
    128 ≤ (CodePoint.ofNat (n + run.shift).toNat).toNat := by
  obtain ⟨hfirst, hlast⟩ := CaseRun.between h
  have hbound : (n + run.shift).toNat < 0x110000 := by
    rcases hrun.2 with ⟨_, hhigh⟩ | ⟨_, hhigh⟩ <;> omega
  rw [CodePoint.toNat_ofNat hbound]
  rcases hrun.2 with ⟨hlow, _⟩ | ⟨hlow, _⟩ <;> omega

/-- Any character but the one that becomes two is moved by a run or stays as it is. -/
theorem lowered_cases {c : CodePoint} (h : c.toNat ≠ 0x130) :
    (∃ run ∈ lowerRuns, run.holds c.toNat = true ∧
      lowered c = [CodePoint.ofNat (c.toNat + run.shift).toNat]) ∨
    ((∀ run ∈ lowerRuns, ¬ run.holds c.toNat = true) ∧ lowered c = [c]) := by
  have hnone : lowerSequences.find? (·.1 == c.toNat) = none := by
    simp [lowerSequences, Ne.symm h]
  rw [lowered, mapCase, hnone]
  cases hfind : lowerRuns.find? (·.holds c.toNat) with
  | none => exact Or.inr ⟨List.find?_eq_none.mp hfind, rfl⟩
  | some run =>
    have hholds := List.find?_some hfind
    exact Or.inl ⟨run, List.mem_of_find?_eq_some hfind, hholds, rfl⟩

/-- **ASCII is lowered within ASCII.** -/
theorem lowered_of_ascii {c : CodePoint} (h : c.toNat < 128) : lowered c = [c.toLower] := by
  rcases lowered_cases (show c.toNat ≠ 0x130 by omega) with ⟨run, hrun, hholds, heq⟩ | ⟨hno, heq⟩
  · have hbetween := CaseRun.between hholds
    rcases lowerRuns_cases run hrun with ⟨hfirst, hlast, hshift⟩ | ⟨hfirst, _⟩ | hbeyond
    · have hcapital : c.IsCapital := ⟨hfirst ▸ hbetween.1, hlast ▸ hbetween.2⟩
      rw [heq, CodePoint.toLower_of_isCapital hcapital, hshift]
      rfl
    · omega
    · have hfirst := hbeyond.1
      omega
  · -- not even the run of the capitals holds the character
    have hcapitals := hno ⟨0x41, 0x5a, 1, 32⟩ List.mem_cons_self
    have hnot : ¬ c.IsCapital := fun hcapital =>
      hcapitals (by simpa [CaseRun.holds, Nat.mod_one, CodePoint.IsCapital] using hcapital)
    rw [heq, CodePoint.toLower_of_not_isCapital hnot]

/-- **What is not ASCII is not lowered into ASCII**, but for the sign that becomes a `k`.  A character that
    becomes two leaves at least one behind. -/
theorem lowered_of_not_ascii {c : CodePoint} (h : 128 ≤ c.toNat) :
    lowered c = (['k'] : Text) ∨ ∃ d ∈ lowered c, 128 ≤ d.toNat := by
  by_cases htwo : c.toNat = 0x130
  · obtain rfl : c = CodePoint.ofNat 0x130 := by rw [← htwo, CodePoint.ofNat_toNat]
    exact Or.inr ⟨CodePoint.ofNat 0x307, by decide, by decide⟩
  rcases lowered_cases htwo with ⟨run, hrun, hholds, heq⟩ | ⟨_, heq⟩
  · have hbetween := CaseRun.between hholds
    rcases lowerRuns_cases run hrun with ⟨_, hlast, _⟩ | ⟨hfirst, hlast, hshift⟩ | hbeyond
    · have hz : 'Z'.toNat = 90 := rfl
      omega
    · have hkelvin : c.toNat = 0x212a := by omega
      rw [heq, hshift, hkelvin]
      exact Or.inl rfl
    · rw [heq]
      exact Or.inr ⟨_, List.mem_singleton_self _, hbeyond.shifted hholds⟩
  · rw [heq]
    exact Or.inr ⟨c, List.mem_singleton_self c, h⟩

/-! ## Comparing with keywords -/

/-- **A text in lower case is a keyword exactly if the text is a case variant of it.** -/
theorem lower_eq_iff {word t : Text} (hword : ∀ letter ∈ word, Plain letter) :
    lower t = word ↔ CaseVariant word t := by
  induction t generalizing word with
  | nil =>
    rw [CaseVariant, List.forall₂_nil_right_iff]
    exact eq_comm
  | cons c t ih =>
    rw [lower_cons]
    by_cases hascii : c.toNat < 128
    · rw [lowered_of_ascii hascii, List.singleton_append, CaseVariant, List.forall₂_cons_right_iff]
      constructor
      · rintro rfl
        obtain ⟨hletter, hrest⟩ := List.forall_mem_cons.mp hword
        exact ⟨_, _, (toLower_eq_iff hletter.2.1).mp rfl, (ih hrest).mp rfl, rfl⟩
      · rintro ⟨letter, rest, hc, ht, rfl⟩
        obtain ⟨hletter, hrest⟩ := List.forall_mem_cons.mp hword
        rw [(toLower_eq_iff hletter.2.1).mpr hc, (ih hrest).mpr ht]
    · -- neither side holds: the lower case is no keyword, and the character is no variant of a letter
      apply iff_of_false
      · rintro rfl
        rcases lowered_of_not_ascii (Nat.not_lt.mp hascii) with hk | ⟨d, hd, hbeyond⟩
        · rw [hk] at hword
          exact (hword 'k' List.mem_cons_self).2.2 rfl
        · have hletter := (hword d (List.mem_append_left _ hd)).1
          omega
      · intro h
        exact hascii (h.ascii hword List.mem_cons_self)

/-- `SigmaForms t u` — `u` is `t`, but that a small sigma may have the form of the end of a word. -/
def SigmaForms (t u : Text) : Prop :=
  List.Forall₂ (fun c d => d = c ∨ (c = ('σ' : CodePoint) ∧ d = ('ς' : CodePoint))) t u

/-- A keyword has no sigma, so its forms do not matter. -/
theorem SigmaForms.eq_iff {t u word : Text} (h : SigmaForms t u)
    (hword : ∀ letter ∈ word, letter.toNat < 128) : u = word ↔ t = word := by
  induction h generalizing word with
  | nil => exact Iff.rfl
  | @cons c d t u hd _ ih =>
    cases word with
    | nil => exact iff_of_false (List.cons_ne_nil d u) (List.cons_ne_nil c t)
    | cons letter word =>
      obtain ⟨hletter, hrest⟩ := List.forall_mem_cons.mp hword
      rw [List.cons.injEq, List.cons.injEq, ih hrest]
      apply and_congr_left
      intro _
      rcases hd with rfl | ⟨rfl, rfl⟩
      · exact Iff.rfl
      · refine iff_of_false ?_ ?_
        · rintro rfl
          exact absurd hletter (by decide)
        · rintro rfl
          exact absurd hletter (by decide)

theorem trim_append {before body after : Text} (hbefore : Blanks before) (hbody : IsWord body)
    (hafter : Blanks after) : trim (before ++ body ++ after) = body := by
  obtain ⟨hne, hchars⟩ := hbody
  have hleft : trimLeft (before ++ body ++ after) = body ++ after := by
    obtain ⟨c, rest, rfl⟩ := List.exists_cons_of_ne_nil hne
    have hc := hchars c List.mem_cons_self
    rw [trimLeft, List.append_assoc, List.dropWhile_append_of_pos hbefore, List.cons_append,
      List.dropWhile_cons_of_neg (by simp [hc])]
  have hright : trimRight (body ++ after) = body := by
    obtain ⟨rest, c, rfl⟩ := (List.eq_nil_or_concat' body).resolve_left hne
    have hc := hchars c (by simp)
    have hafter' : ∀ d ∈ after.reverse, isBlank d = true := fun d hd => hafter d (List.mem_reverse.mp hd)
    rw [trimRight, List.reverse_append, List.dropWhile_append_of_pos hafter', List.reverse_concat,
      List.dropWhile_cons_of_neg (by simp [hc])]
    simp
  rw [trim, hleft, hright]

/-- A word is what is left by trimming exactly if there are but blanks around it. -/
theorem trim_eq_iff {t body : Text} (hbody : IsWord body) :
    trim t = body ↔ ∃ before after, Blanks before ∧ Blanks after ∧ t = before ++ body ++ after := by
  constructor
  · rintro rfl
    obtain ⟨after, hafter, heq⟩ := exists_trimRight_append (trimLeft t)
    refine ⟨t.takeWhile isBlank, after, fun c hc => List.mem_takeWhile_imp hc, hafter, ?_⟩
    rw [List.append_assoc, trim, heq, trimLeft, List.takeWhile_append_dropWhile]
  · rintro ⟨before, after, hbefore, hafter, rfl⟩
    exact trim_append hbefore hbody hafter

end Text

open Text (Blanks IsWord CaseVariant SigmaForms)

/-! ## Control lines -/

/-- The words that a text in lower case is compared with. -/
def keywords : List String :=
  ["if", "else", "endif"] ++ Settings.wordsFor true ++ Settings.wordsFor false

theorem keywords_plain {word : String} (h : word ∈ keywords) :
    ∀ letter ∈ word.toText, Text.Plain letter := by
  have hall : keywords.all (·.toText.all (Text.Plain ·)) = true := by decide
  intro letter hletter
  exact of_decide_eq_true (List.all_eq_true.mp (List.all_eq_true.mp hall word h) letter hletter)

theorem lower_eq_keyword_iff {word : String} (h : word ∈ keywords) {t : Text} :
    Text.lower t = word.toText ↔ CaseVariant word.toText t :=
  Text.lower_eq_iff (keywords_plain h)

/-- The kinds of control lines, by their keywords. -/
theorem controlKind_iff (keyword : Text) :
    (Standard.controlKind keyword = .branch ↔ keyword = "if".toText) ∧
    (Standard.controlKind keyword = .alternative ↔ keyword = "else".toText) ∧
    (Standard.controlKind keyword = .branchEnd ↔ keyword = "endif".toText) ∧
    (Standard.controlKind keyword = .otherControl ↔
      keyword ≠ "if".toText ∧ keyword ≠ "else".toText ∧ keyword ≠ "endif".toText) := by
  unfold Standard.controlKind
  split
  next h => subst h; decide
  next hif =>
    split
    next h => subst h; decide
    next helse =>
      split
      next h => subst h; decide
      next hendif =>
        exact ⟨iff_of_false (by decide) hif, iff_of_false (by decide) helse,
          iff_of_false (by decide) hendif, iff_of_true rfl ⟨hif, helse, hendif⟩⟩

/-! ## Answers -/

/-- `Says words value` — with nothing but blanks around it, the value is a case variant of one of the
    words. -/
def Says (words : List String) (value : Text) : Prop :=
  ∃ word ∈ words, ∃ before body after, Blanks before ∧ Blanks after ∧ value = before ++ body ++ after ∧
    CaseVariant word.toText body

/-- A case variant of a keyword is a word: no keyword is empty, and there are no blanks among its letters
    and their capitals. -/
theorem isWord_of_caseVariant {word : String} (h : word ∈ keywords) {t : Text}
    (ht : CaseVariant word.toText t) : IsWord t := by
  have hall : keywords.all (fun word => !word.toText.isEmpty &&
      word.toText.all fun letter => !Text.isBlank letter && !Text.isBlank letter.toUpper) = true := by
    decide
  have hword := List.all_eq_true.mp hall word h
  rw [Bool.and_eq_true, List.all_eq_true] at hword
  obtain ⟨hne, hletters⟩ := hword
  refine ⟨?_, fun c hc => ?_⟩
  · rintro rfl
    rw [List.forall₂_nil_right_iff.mp ht] at hne
    exact absurd hne (by decide)
  · obtain ⟨letter, hmem, hletter⟩ := ht.exists_letter hc
    have hblank := hletters letter hmem
    rw [Bool.and_eq_true, Bool.not_eq_true', Bool.not_eq_true'] at hblank
    rcases hletter with rfl | rfl
    · exact hblank.1
    · exact hblank.2

theorem says_iff {words : List String} (h : ∀ word ∈ words, word ∈ keywords) {value : Text} :
    Says words value ↔ Text.lower value.trim ∈ words.map String.toText := by
  rw [List.mem_map]
  constructor
  · rintro ⟨word, hword, before, body, after, hbefore, hafter, rfl, hbody⟩
    refine ⟨word, hword, ?_⟩
    rw [Text.trim_append hbefore (isWord_of_caseVariant (h word hword) hbody) hafter,
      (lower_eq_keyword_iff (h word hword)).mpr hbody]
  · rintro ⟨word, hword, heq⟩
    have hbody := (lower_eq_keyword_iff (h word hword)).mp heq.symm
    obtain ⟨before, after, hbefore, hafter, hvalue⟩ :=
      (Text.trim_eq_iff (isWord_of_caseVariant (h word hword) hbody)).mp rfl
    exact ⟨word, hword, before, _, after, hbefore, hafter, hvalue, hbody⟩

/-- **Keywords are told by their ASCII case variants alone.**
    (1) For every table and every first token that begins with a colon, the control line is of the kind of
        the keyword that the rest of the token is a case variant of, and of the last kind exactly if it is
        a variant of none; but for this kind the record is made up of what is given and of the
        parameters, and it fails exactly if these do.
    (2) A value answers yes, or no, exactly if with nothing but blanks around it it is a case variant of a
        word for this answer, and it gives no answer exactly if it is neither.
    (3) For each of these words: no variant has a character beyond ASCII in it, and a text has the word
        for its lower case exactly if it is a variant, whichever form a small sigma is given. -/
theorem keywords_ascii :
    (∀ (table : Builders) (raw keyword : Text) (tokens : List Text) (index : Int), ∃ kind : LineKind,
      (kind = .branch ↔ CaseVariant "if".toText keyword) ∧
      (kind = .alternative ↔ CaseVariant "else".toText keyword) ∧
      (kind = .branchEnd ↔ CaseVariant "endif".toText keyword) ∧
      (kind = .otherControl ↔ ¬ CaseVariant "if".toText keyword ∧
        ¬ CaseVariant "else".toText keyword ∧ ¬ CaseVariant "endif".toText keyword) ∧
      Standard.controlLine table raw ((':' :: keyword) :: tokens) index =
        (fun parameters => { index, kind, raw, parameters }) <$>
          table.parameters ((':' :: keyword) :: tokens) 1 none) ∧
    (∀ value : Text,
      (Settings.flag? value = some true ↔ Says ["1", "true", "yes", "on"] value) ∧
      (Settings.flag? value = some false ↔ Says ["0", "false", "no", "off"] value) ∧
      (Settings.flag? value = none ↔
        ¬ Says ["1", "true", "yes", "on"] value ∧ ¬ Says ["0", "false", "no", "off"] value)) ∧
    ∀ word ∈ keywords, ∀ t : Text,
      (CaseVariant word.toText t → ∀ c ∈ t, c.toNat < 128) ∧
      ∀ u, SigmaForms (Text.lower t) u → (u = word.toText ↔ CaseVariant word.toText t) := by
  refine ⟨fun table raw keyword tokens index => ?_, fun value => ?_, fun word hword t => ⟨?_, ?_⟩⟩
  · have hif := lower_eq_keyword_iff (show "if" ∈ keywords by decide) (t := keyword)
    have helse := lower_eq_keyword_iff (show "else" ∈ keywords by decide) (t := keyword)
    have hendif := lower_eq_keyword_iff (show "endif" ∈ keywords by decide) (t := keyword)
    refine ⟨Standard.controlKind (Text.lower keyword), ?_⟩
    rw [← hif, ← helse, ← hendif]
    obtain ⟨hbranch, halternative, hend, hother⟩ := controlKind_iff (Text.lower keyword)
    exact ⟨hbranch, halternative, hend, hother,
      Standard.controlLine_of_keyword table raw keyword tokens index⟩
  · have hyes : Settings.flag? value = some true ↔ Says ["1", "true", "yes", "on"] value :=
      Settings.flag?_eq_some_iff.trans (says_iff (by decide)).symm
    have hno : Settings.flag? value = some false ↔ Says ["0", "false", "no", "off"] value :=
      Settings.flag?_eq_some_iff.trans (says_iff (by decide)).symm
    refine ⟨hyes, hno, ?_⟩
    rw [← hyes, ← hno]
    rcases Settings.flag? value with _ | _ | _ <;> simp
  · intro h c hc
    exact h.ascii (keywords_plain hword) hc
  · intro u hu
    rw [hu.eq_iff fun letter hletter => (keywords_plain hword letter hletter).1]
    exact lower_eq_keyword_iff hword

/-- With a dotted capital, which becomes two characters in lower case, there is no keyword. -/
theorem keywords_ascii_dotted :
    Standard.controlLine .standard [] [[':', CodePoint.ofNat 0x130, 'F']] 0 =
        pure { index := 0, kind := .otherControl } ∧
      ∀ u, SigmaForms (Text.lower "oN".toText) u → u = "on".toText := by
  obtain ⟨hcontrol, _, hword⟩ := keywords_ascii
  have hdotted : ∀ word ∈ keywords, ¬ CaseVariant word.toText [CodePoint.ofNat 0x130, 'F'] := by
    intro word hmem hvariant
    exact absurd ((hword word hmem _).1 hvariant _ List.mem_cons_self) (by decide)
  obtain ⟨kind, _, _, _, hother, heq⟩ := hcontrol .standard [] [CodePoint.ofNat 0x130, 'F'] [] 0
  obtain rfl := hother.mpr
    ⟨hdotted "if" (by decide), hdotted "else" (by decide), hdotted "endif" (by decide)⟩
  refine ⟨heq, fun u hu => ((hword "on" (by decide) _).2 u hu).mpr ?_⟩
  exact .cons (Or.inl rfl) (.cons (Or.inr rfl) .nil)

end PartProgram
