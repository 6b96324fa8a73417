/-
  The words of a text, against their specification.

  1. **Program** — `words t` splits `t` at every blank and drops the empty pieces.

  2. **Specification** — `Spaced t ws`: `t` is the words `ws` in order, with blanks before, between
     and behind them.  A word is maximal: what follows it is the end of the text or a blank.  The
     relation does not say how the words are found.

  3. **The crux (`words_append_word`)** — a word at the front of a text is the first of its words,
     whole, as soon as a blank or the end follows.  Together with "leading blanks do not count"
     (`words_append_of_blanks`) this gives both directions of `words_eq_iff`: one by induction on the
     spacing, the other by induction on the length of the text.

  The last section reads off what decides the kind of a line: its first character that is not blank.
-/
import Mathlib.Data.List.TakeWhile
import PartProgram.Text.Blank

namespace PartProgram.Text

/-! ## Blanks, words, spacing -/

/-- Nothing but blanks. -/
def Blanks (t : Text) : Prop := ∀ c ∈ t, isBlank c = true

/-- A word: at least one character, and no blank among them. -/
def IsWord (w : Text) : Prop := w ≠ [] ∧ ∀ c ∈ w, isBlank c = false

/-- `Spaced t ws` — the words `ws`, in order and apart from each other, make up `t` together with
    blanks.  The condition on `rest` makes each word a MAXIMAL run. -/
inductive Spaced : Text → List Text → Prop where
  | blanks {gap : Text} (hgap : Blanks gap) : Spaced gap []
  | word {gap w rest : Text} {ws : List Text} (hgap : Blanks gap) (hw : IsWord w)
      (hend : ∀ c ∈ rest.head?, isBlank c = true) (hrest : Spaced rest ws) :
      Spaced (gap ++ (w ++ rest)) (w :: ws)

/-! ## The words of texts put together -/

theorem words_cons_of_blank {c : CodePoint} (hc : isBlank c = true) (t : Text) :
    words (c :: t) = words t := by
  rw [words, words, List.splitOnP_cons_eq_if_modifyHead, if_pos hc]
  rfl

/-- Leading blanks do not count. -/
theorem words_append_of_blanks {gap : Text} (hgap : Blanks gap) (t : Text) :
    words (gap ++ t) = words t := by
  induction gap with
  | nil => rfl
  | cons c gap ih =>
    rw [List.cons_append, words_cons_of_blank (hgap c List.mem_cons_self)]
    exact ih fun d hd => hgap d (List.mem_cons_of_mem c hd)

theorem words_of_blanks {gap : Text} (hgap : Blanks gap) : words gap = [] := by
  have h := words_append_of_blanks hgap []
  rw [List.append_nil] at h
  exact h

/-- A word at the front is the first of the words if it is followed by a blank or by nothing. -/
theorem words_append_word {w rest : Text} (hw : IsWord w)
    (hend : ∀ c ∈ rest.head?, isBlank c = true) : words (w ++ rest) = w :: words rest := by
  obtain ⟨hne, hchars⟩ := hw
  have hkept : ∀ ws : List Text, (w :: ws).filter (fun v => !v.isEmpty) =
      w :: ws.filter (fun v => !v.isEmpty) :=
    fun ws => List.filter_cons_of_pos (by simp [hne])
  cases rest with
  | nil =>
    rw [List.append_nil, words, List.splitOnP_eq_singleton hchars, hkept]
    rfl
  | cons c rest =>
    have hc : isBlank c = true := hend c rfl
    rw [words_cons_of_blank hc, words, words,
      List.splitOnP_append_cons_of_forall_mem hchars c hc, hkept]

/-! ## Program and specification agree -/

theorem words_of_spaced {t : Text} {ws : List Text} (h : Spaced t ws) : words t = ws := by
  induction h with
  | blanks hgap => exact words_of_blanks hgap
  | word hgap hw hend _ ih => rw [words_append_of_blanks hgap, words_append_word hw hend, ih]

/-- What `dropWhile` stops at does not satisfy its test. -/
theorem eq_false_of_mem_head?_dropWhile {p : CodePoint → Bool} {t : Text} {c : CodePoint}
    (hc : c ∈ (t.dropWhile p).head?) : p c = false := by
  have h := List.head?_dropWhile_not p t
  rw [Option.mem_def.mp hc] at h
  exact h

/-- A text that does not begin with a blank begins with a word. -/
theorem exists_word_append {c : CodePoint} (hc : isBlank c = false) (t : Text) :
    ∃ w rest, IsWord w ∧ (∀ d ∈ rest.head?, isBlank d = true) ∧ w ++ rest = c :: t := by
  refine ⟨(c :: t).takeWhile fun d => !isBlank d, (c :: t).dropWhile fun d => !isBlank d,
    ⟨?_, fun d hd => ?_⟩, fun d hd => ?_, List.takeWhile_append_dropWhile⟩
  · simp [hc]
  · simpa using List.mem_takeWhile_imp hd
  · simpa using eq_false_of_mem_head?_dropWhile hd

/-- Every text is spaced into its words.  Strong induction on the length: the leading blanks and the
    first word are cut off, and what is left is shorter because the word is not empty. -/
theorem spaced_words (t : Text) : Spaced t (words t) := by
  induction hn : t.length using Nat.strongRecOn generalizing t with
  | _ n ih =>
    have hgap : Blanks (t.takeWhile isBlank) := fun c hc => List.mem_takeWhile_imp hc
    have ht : t.takeWhile isBlank ++ t.dropWhile isBlank = t := List.takeWhile_append_dropWhile
    cases hbody : t.dropWhile isBlank with
    | nil =>
      rw [hbody, List.append_nil] at ht
      rw [ht] at hgap
      rw [words_of_blanks hgap]
      exact Spaced.blanks hgap
    | cons c body =>
      have hc : isBlank c = false := eq_false_of_mem_head?_dropWhile (by rw [hbody]; rfl)
      obtain ⟨w, rest, hw, hend, hsplit⟩ := exists_word_append hc body
      rw [hbody, ← hsplit] at ht
      have hshort : rest.length < n := by
        have hlen := congrArg List.length ht
        have hpos : 0 < w.length := List.length_pos_iff.mpr hw.1
        rw [List.length_append, List.length_append] at hlen
        omega
      rw [← ht, words_append_of_blanks hgap, words_append_word hw hend]
      exact Spaced.word hgap hw hend (ih rest.length hshort rest rfl)

/-- **The words of a text are its maximal runs of characters that are not blank.** -/
theorem words_eq_iff {t : Text} {ws : List Text} : words t = ws ↔ Spaced t ws :=
  ⟨fun h => h ▸ spaced_words t, words_of_spaced⟩

theorem Spaced.isWord {t : Text} {ws : List Text} (h : Spaced t ws) : ∀ w ∈ ws, IsWord w := by
  induction h with
  | blanks _ => intro w hw; exact absurd hw List.not_mem_nil
  | word _ hw _ _ ih =>
    intro w' hw'
    rcases List.mem_cons.mp hw' with rfl | hmem
    · exact hw
    · exact ih w' hmem

/-! ## The first character that is not blank -/

theorem words_eq_nil_iff {t : Text} : words t = [] ↔ Blanks t := by
  constructor
  · intro h
    cases words_eq_iff.mp h with
    | blanks hgap => exact hgap
  · exact words_of_blanks

/-- The first word begins with `c` exactly when `c` is the first character that is not blank. -/
theorem words_head_iff {t : Text} {c : CodePoint} :
    (∃ w ws, words t = (c :: w) :: ws) ↔
      ∃ gap rest, Blanks gap ∧ isBlank c = false ∧ t = gap ++ c :: rest := by
  constructor
  · rintro ⟨w, ws, h⟩
    cases words_eq_iff.mp h with
    | @word gap _ rest _ hgap hw _ _ =>
      exact ⟨gap, w ++ rest, hgap, hw.2 c List.mem_cons_self, by rw [List.cons_append]⟩
  · rintro ⟨gap, rest, hgap, hc, rfl⟩
    rw [words_append_of_blanks hgap]
    cases hws : words (c :: rest) with
    | nil =>
      have hblank := words_eq_nil_iff.mp hws c List.mem_cons_self
      rw [hc] at hblank
      exact absurd hblank (by decide)
    | cons w ws =>
      -- The gap in front of the first word is empty, since `c` itself is not blank.
      generalize ht : c :: rest = t at hws
      cases words_eq_iff.mp hws with
      | @word gap' w rest' _ hgap' hw _ _ =>
        cases gap' with
        | cons d gap' =>
          rw [List.cons_append, List.cons.injEq] at ht
          have hblank := hgap' d List.mem_cons_self
          rw [← ht.1, hc] at hblank
          exact absurd hblank (by decide)
        | nil =>
          cases w with
          | nil => exact absurd rfl hw.1
          | cons d w =>
            rw [List.nil_append, List.cons_append, List.cons.injEq] at ht
            exact ⟨w, ws, by rw [ht.1]⟩

end PartProgram.Text
