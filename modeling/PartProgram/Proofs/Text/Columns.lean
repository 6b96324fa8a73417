/-
  Words in columns.

  Padding, trimming and joining move words about; they neither make nor break one.  Each of these lemmas
  says what the words of a text are after one of them, so that the words of a whole row can be read off
  from left to right.

  The last section says the same of line ends: none of these operations brings one in.
-/
import PartProgram.Proofs.Text.Lined
import PartProgram.Proofs.Text.Words

namespace PartProgram.Text

/-! ## Words -/

instance (w : Text) : Decidable (IsWord w) := @instDecidableAnd _ _ _ (List.decidableBAll _ w)

theorem blanks_replicate (n : Nat) : Blanks (List.replicate n (' ' : CodePoint)) := by
  intro c hc
  obtain rfl := List.eq_of_mem_replicate hc
  decide

/-- **A blank keeps words apart**: those before it and those behind it are all the words. -/
theorem words_append_cons {c : CodePoint} (hc : isBlank c = true) (t u : Text) :
    words (t ++ c :: u) = words t ++ words u := by
  -- word by word through `t`: behind each word there is a blank, if only the one at the cut
  have h := spaced_words t
  generalize words t = ws at h ⊢
  induction h with
  | blanks hgap => rw [words_append_of_blanks hgap, words_cons_of_blank hc, List.nil_append]
  | @word gap w rest ws hgap hw hend _ ih =>
    have hend' : ∀ d ∈ (rest ++ c :: u).head?, isBlank d = true := by
      intro d hd
      cases rest with
      | nil => exact Option.some.inj hd ▸ hc
      | cons e rest => exact hend d hd
    rw [List.append_assoc, List.append_assoc, words_append_of_blanks hgap, words_append_word hw hend',
      ih, List.cons_append]

theorem words_append_blanks (t : Text) {gap : Text} (hgap : Blanks gap) : words (t ++ gap) = words t := by
  cases gap with
  | nil => rw [List.append_nil]
  | cons c gap =>
    obtain ⟨hc, hrest⟩ := List.forall_mem_cons.mp hgap
    rw [words_append_cons hc, words_of_blanks hrest, List.append_nil]

theorem words_of_isWord {w : Text} (hw : IsWord w) : words w = [w] := by
  have hend : ∀ c ∈ ([] : Text).head?, isBlank c = true := fun _ hc => nomatch hc
  have hone := words_append_word hw hend
  rwa [List.append_nil] at hone

theorem IsWord.append {v w : Text} (hv : IsWord v) (hw : IsWord w) : IsWord (v ++ w) := by
  refine ⟨fun heq => hv.1 (List.append_eq_nil_iff.mp heq).1, fun c hc => ?_⟩
  rcases List.mem_append.mp hc with hc | hc
  · exact hv.2 c hc
  · exact hw.2 c hc

/-- A text is what is left of it by trimming, and blanks. -/
theorem exists_trimRight_append (t : Text) : ∃ gap, Blanks gap ∧ trimRight t ++ gap = t := by
  refine ⟨(t.reverse.takeWhile isBlank).reverse, fun c hc => ?_, ?_⟩
  · exact List.mem_takeWhile_imp (List.mem_reverse.mp hc)
  · rw [trimRight, ← List.reverse_append, List.takeWhile_append_dropWhile, List.reverse_reverse]

theorem words_trimRight (t : Text) : words (trimRight t) = words t := by
  obtain ⟨gap, hgap, heq⟩ := exists_trimRight_append t
  rw [← words_append_blanks (trimRight t) hgap, heq]

theorem words_padLeft_append (width : Nat) (w rest : Text) :
    words (padLeft width w ++ rest) = words (w ++ rest) := by
  rw [padLeft, List.append_assoc, words_append_of_blanks (blanks_replicate _)]

theorem words_padRight_append {width : Nat} {w rest : Text} (hw : IsWord w)
    (hend : ∀ c ∈ rest.head?, isBlank c = true) : words (padRight width w ++ rest) = w :: words rest := by
  have hpadded : ∀ c ∈ (List.replicate (width - w.length) (' ' : CodePoint) ++ rest).head?,
      isBlank c = true := by
    intro c hc
    cases hfill : width - w.length with
    | zero =>
      rw [hfill] at hc
      exact hend c hc
    | succ n =>
      rw [hfill] at hc
      obtain rfl : ' ' = c := Option.some.inj hc
      decide
  rw [padRight, List.append_assoc, words_append_word hw hpadded,
    words_append_of_blanks (blanks_replicate _)]

theorem joined_cons_cons {c : CodePoint} (w w' : Text) (ws : List Text) :
    joined [c] (w :: w' :: ws) = w ++ c :: joined [c] (w' :: ws) := by
  simp [joined, List.intercalate]

theorem joined_singleton {c : CodePoint} (w : Text) : joined [c] [w] = w := by
  simp [joined, List.intercalate]

/-- **Words joined by blanks are those words again.** -/
theorem words_joined {ws : List Text} (h : ∀ w ∈ ws, IsWord w) : words (joined [' '] ws) = ws := by
  induction ws with
  | nil => rfl
  | cons w ws ih =>
    obtain ⟨hw, hws⟩ := List.forall_mem_cons.mp h
    cases ws with
    | nil => rw [joined_singleton, words_of_isWord hw]
    | cons w' ws =>
      rw [joined_cons_cons, words_append_cons (by decide), words_of_isWord hw, ih hws]
      rfl

/-! ## Line ends -/

theorem Unbroken.append {a b : Text} (ha : Unbroken a) (hb : Unbroken b) : Unbroken (a ++ b) :=
  ⟨by simp [ha.1, hb.1], by simp [ha.2, hb.2]⟩

theorem Unbroken.of_subset {a b : Text} (h : Unbroken b) (hsub : ∀ c ∈ a, c ∈ b) : Unbroken a :=
  ⟨fun hc => h.1 (hsub _ hc), fun hc => h.2 (hsub _ hc)⟩

/-- Line ends are blanks, so there are none in words. -/
theorem IsWord.unbroken {w : Text} (h : IsWord w) : Unbroken w :=
  ⟨fun hc => absurd (h.2 _ hc) (by decide), fun hc => absurd (h.2 _ hc) (by decide)⟩

theorem unbroken_replicate (n : Nat) : Unbroken (List.replicate n (' ' : CodePoint)) :=
  ⟨fun hc => absurd (List.eq_of_mem_replicate hc) (by decide),
    fun hc => absurd (List.eq_of_mem_replicate hc) (by decide)⟩

theorem unbroken_padLeft {t : Text} (h : Unbroken t) (width : Nat) : Unbroken (padLeft width t) :=
  (unbroken_replicate _).append h

theorem unbroken_padRight {t : Text} (h : Unbroken t) (width : Nat) : Unbroken (padRight width t) :=
  h.append (unbroken_replicate _)

theorem unbroken_trimRight {t : Text} (h : Unbroken t) : Unbroken (trimRight t) := by
  obtain ⟨gap, _, heq⟩ := exists_trimRight_append t
  exact h.of_subset fun c hc => heq ▸ List.mem_append_left gap hc

theorem unbroken_joined {ws : List Text} (h : ∀ w ∈ ws, Unbroken w) : Unbroken (joined [' '] ws) := by
  induction ws with
  | nil => exact unbroken_nil
  | cons w ws ih =>
    obtain ⟨hw, hws⟩ := List.forall_mem_cons.mp h
    cases ws with
    | nil => rwa [joined_singleton]
    | cons w' ws =>
      rw [joined_cons_cons]
      exact hw.append (unbroken_cons_iff.mpr ⟨by decide, ih hws⟩)

/-- **Rows joined by line feeds are the lines of the text.** -/
theorem lines_joined {rows : List Text} (h : ∀ row ∈ rows, row ≠ [] ∧ Unbroken row) :
    (joined ['\n'] rows).lines = rows := by
  induction rows with
  | nil => rfl
  | cons row rows ih =>
    obtain ⟨⟨hne, hrow⟩, hrows⟩ := List.forall_mem_cons.mp h
    cases rows with
    | nil => rw [joined_singleton, lines_of_no_line_end hne hrow.1 hrow.2]
    | cons row' rows =>
      have hwhole : ¬ SplitsLineEnd ['\n'] (joined ['\n'] (row' :: rows)) := fun hsplit =>
        absurd hsplit.1 (by decide)
      rw [joined_cons_cons, ← List.singleton_append, lines_line hrow .lf hwhole, ih hrows]

end PartProgram.Text
