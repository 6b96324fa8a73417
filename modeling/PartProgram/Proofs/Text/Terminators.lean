/-
  Splitting a text into lines loses nothing, and there is one way to do it.

  1. **Program** — `lines` never looks at a line end: it turns all of them into line feeds, splits there
     and drops the last piece if that is empty.

  2. **Specification** — `Terminated t ls ends`: the text is `l₁ e₁ l₂ e₂ … lₖ eₖ`, where the lines hold
     no line end and each terminator is one, except that the last one may be missing behind a line that
     is not empty.  Conditions are on positions; a carriage return and a line feed next to each other
     are ONE terminator.

  3. **The bridge** — such a text is `Lined` by the pairs `lᵢ eᵢ` (`Terminated.lined`), and a text that
     is `Lined` is terminated in this way (`exists_terminated_of_lined`).  Since every text is lined in
     exactly one way, lines and terminators are both determined.

  4. **All other characters are alike (`lines_map`)** — a line is split at carriage returns and line
     feeds only, so exchanging any other characters exchanges them within their lines.
-/
import PartProgram.Proofs.Text.Lined

namespace PartProgram.Text

/-! ## Lines and their terminators -/

/-- `Terminated t ls ends` — the text `t` is made up of the lines `ls`, each of them followed by its own
    terminator of `ends`. -/
structure Terminated (t : Text) (ls ends : List Text) : Prop where
  /-- Every line has its terminator, which may be empty. -/
  paired : ends.length = ls.length
  /-- Nothing of the text is lost. -/
  whole : t = (List.zipWith (· ++ ·) ls ends).flatten
  /-- No line holds a line end. -/
  unbroken : ∀ l ∈ ls, ('\r' : CodePoint) ∉ l ∧ ('\n' : CodePoint) ∉ l
  /-- Every terminator but the last is a line end. -/
  ended : ∀ (i : Nat) (e : Text), ends[i]? = some e → i + 1 < ls.length → LineEnd e
  /-- The last one is a line end too, or it is missing and the last line is not empty. -/
  last : ∀ (i : Nat) (l e : Text), ls[i]? = some l → ends[i]? = some e → i + 1 = ls.length →
    LineEnd e ∨ e = [] ∧ l ≠ []
  /-- A carriage return and a line feed are one terminator. -/
  joint : ∀ i : Nat, ends[i]? = some (['\r'] : Text) → ls[i + 1]? = some [] →
    ends[i + 1]? ≠ some (['\n'] : Text)

section

variable {t body ending rest : Text} {ls ends : List Text}

/-! ## From terminators to lines -/

/-- Behind its first line, a terminated text is terminated. -/
theorem Terminated.tail (h : Terminated t (body :: ls) (ending :: ends)) :
    Terminated (List.zipWith (· ++ ·) ls ends).flatten ls ends where
  paired := Nat.succ.inj h.paired
  whole := rfl
  unbroken l hl := h.unbroken l (List.mem_cons_of_mem body hl)
  ended i e he hi := h.ended (i + 1) e he (by rw [List.length_cons]; omega)
  last i l e hl he hi := h.last (i + 1) l e hl he (by rw [List.length_cons]; omega)
  joint i hcr hl := h.joint (i + 1) hcr hl

/-- The first terminator is a whole one: what follows a carriage return does not begin with a line
    feed. -/
theorem Terminated.not_splitsLineEnd (h : Terminated t (body :: ls) (ending :: ends))
    (hend : LineEnd ending) :
    ¬ SplitsLineEnd ending (List.zipWith (· ++ ·) ls ends).flatten := by
  rintro ⟨hlast, hhead⟩
  obtain rfl : ending = (['\r'] : Text) := by
    cases hend with
    | lf => exact absurd hlast (by decide)
    | crlf => exact absurd hlast (by decide)
    | cr => rfl
  match ls, ends with
  | [], _ => exact nomatch hhead
  | _ :: _, [] => exact absurd h.paired (by simp)
  | [] :: ls, next :: ends =>
    -- the line feed would have to come from the next terminator, and then the two are one
    have hnext : LineEnd next := by
      cases ls with
      | nil =>
        rcases h.last 1 [] next rfl rfl rfl with hnext | ⟨_, hne⟩
        · exact hnext
        · exact absurd rfl hne
      | cons l ls => exact h.ended 1 next rfl (by simp)
    cases hnext with
    | lf => exact h.joint 0 rfl rfl rfl
    | crlf => exact absurd (Option.some.inj hhead) (by decide)
    | cr => exact absurd (Option.some.inj hhead) (by decide)
  | (c :: l) :: ls, next :: ends =>
    -- the line feed would have to stand in the next line
    obtain rfl : c = '\n' := Option.some.inj hhead
    have hline := h.unbroken ('\n' :: l) (by simp)
    exact hline.2 List.mem_cons_self

/-- **A terminated text is lined**, by its lines with their terminators. -/
theorem Terminated.lined (h : Terminated t ls ends) : Lined t (List.zipWith (· ++ ·) ls ends) := by
  rw [h.whole]
  induction ls generalizing t ends with
  | nil => exact Lined.nil
  | cons body ls ih =>
    cases ends with
    | nil => exact absurd h.paired (by simp)
    | cons ending ends =>
      have hbody : Unbroken body := h.unbroken body List.mem_cons_self
      have hrest := ih h.tail
      rw [List.zipWith_cons_cons, List.flatten_cons, List.append_assoc]
      cases ls with
      | nil =>
        rcases h.last 0 body ending rfl rfl rfl with hend | ⟨rfl, hne⟩
        · exact Lined.line hbody hend (h.not_splitsLineEnd hend) hrest
        · -- the last line, without a line end
          simpa using Lined.last hne hbody
      | cons l ls =>
        have hend : LineEnd ending := h.ended 0 ending rfl (by simp)
        exact Lined.line hbody hend (h.not_splitsLineEnd hend) hrest

/-! ## From lines to terminators -/

theorem terminated_nil : Terminated [] [] [] where
  paired := rfl
  whole := rfl
  unbroken l hl := absurd hl List.not_mem_nil
  ended i e he _ := absurd he (by simp)
  last i l e hl _ _ := absurd hl (by simp)
  joint i hcr _ := absurd hcr (by simp)

/-- A line without a line end. -/
theorem terminated_singleton (hne : body ≠ []) (hbody : Unbroken body) :
    Terminated body [body] [[]] where
  paired := rfl
  whole := by simp
  unbroken l hl := List.mem_singleton.mp hl ▸ hbody
  ended i e _ hi := absurd hi (by simp)
  last i l e hl he hi := by
    obtain rfl : i = 0 := by simpa using hi
    exact Or.inr ⟨(Option.some.inj he).symm, Option.some.inj hl ▸ hne⟩
  joint i _ hl := absurd hl (by simp)

/-- A line in front of a terminated text. -/
theorem Terminated.cons (h : Terminated rest ls ends) (hbody : Unbroken body)
    (hend : LineEnd ending) (hwhole : ¬ SplitsLineEnd ending rest) :
    Terminated (body ++ (ending ++ rest)) (body :: ls) (ending :: ends) where
  paired := congrArg Nat.succ h.paired
  whole := by rw [List.zipWith_cons_cons, List.flatten_cons, ← h.whole, List.append_assoc]
  unbroken := List.forall_mem_cons.mpr ⟨hbody, h.unbroken⟩
  ended i e he hi := by
    cases i with
    | zero => exact Option.some.inj he ▸ hend
    | succ i => exact h.ended i e he (by rw [List.length_cons] at hi; omega)
  last i l e hl he hi := by
    cases i with
    | zero => exact Or.inl (Option.some.inj he ▸ hend)
    | succ i => exact h.last i l e hl he (by rw [List.length_cons] at hi; omega)
  joint i hcr hl := by
    cases i with
    | succ i => exact h.joint i hcr hl
    | zero =>
      -- an empty line and a line feed at the front of `rest` would tear the line end apart
      intro hlf
      obtain rfl : ending = (['\r'] : Text) := Option.some.inj hcr
      obtain ⟨ls', rfl⟩ := List.head?_eq_some_iff.mp (List.head?_eq_getElem?.trans hl)
      obtain ⟨ends', rfl⟩ := List.head?_eq_some_iff.mp (List.head?_eq_getElem?.trans hlf)
      have hhead : rest.head? = some ('\n' : CodePoint) := by rw [h.whole]; rfl
      exact hwhole ⟨rfl, hhead⟩

/-- **A lined text is terminated**, each line by what is taken off its end. -/
theorem exists_terminated_of_lined {items : List Text} (h : Lined t items) :
    ∃ ends, Terminated t (items.map chomp) ends := by
  induction h with
  | nil => exact ⟨[], terminated_nil⟩
  | last hne hbody =>
    rw [List.map_singleton, chomp_of_unbroken hbody]
    exact ⟨[[]], terminated_singleton hne hbody⟩
  | @line body ending rest items hbody hend hwhole _ ih =>
    obtain ⟨ends, hends⟩ := ih
    rw [List.map_cons, chomp_line hbody hend]
    exact ⟨ending :: ends, hends.cons hbody hend hwhole⟩

theorem exists_terminated_lines (t : Text) : ∃ ends, Terminated t t.lines ends := by
  have hlined := lined_ownLines t
  rw [hlined.lines_eq]
  exact exists_terminated_of_lined hlined

/-! ## There is one way only -/

/-- A line is what is left of it when its terminator is taken off. -/
theorem Terminated.map_chomp (h : Terminated t ls ends) :
    (List.zipWith (· ++ ·) ls ends).map chomp = ls := by
  induction ls generalizing t ends with
  | nil => rfl
  | cons body ls ih =>
    cases ends with
    | nil => exact absurd h.paired (by simp)
    | cons ending ends =>
      have hbody : Unbroken body := h.unbroken body List.mem_cons_self
      have hchomp : (body ++ ending).chomp = body := by
        cases ls with
        | cons l ls => exact chomp_line hbody (h.ended 0 ending rfl (by simp))
        | nil =>
          rcases h.last 0 body ending rfl rfl rfl with hend | ⟨rfl, _⟩
          · exact chomp_line hbody hend
          · rw [List.append_nil, chomp_of_unbroken hbody]
      rw [List.zipWith_cons_cons, List.map_cons, hchomp, ih h.tail]

theorem Terminated.eq_lines (h : Terminated t ls ends) : ls = t.lines := by
  rw [h.lined.lines_eq, h.map_chomp]

/-- Of lines with their terminators, the lines leave no choice for the terminators. -/
theorem zipWith_append_inj {ends' : List Text} (hlength : ends.length = ls.length)
    (hlength' : ends'.length = ls.length)
    (h : List.zipWith (· ++ ·) ls ends = List.zipWith (· ++ ·) ls ends') : ends = ends' := by
  induction ls generalizing ends ends' with
  | nil =>
    rw [List.length_eq_zero_iff.mp hlength, List.length_eq_zero_iff.mp hlength']
  | cons body ls ih =>
    obtain ⟨e, ends, rfl⟩ := List.exists_cons_of_length_eq_add_one hlength
    obtain ⟨e', ends', rfl⟩ := List.exists_cons_of_length_eq_add_one hlength'
    rw [List.zipWith_cons_cons, List.zipWith_cons_cons, List.cons.injEq] at h
    rw [List.append_cancel_left h.1, ih (Nat.succ.inj hlength) (Nat.succ.inj hlength') h.2]

theorem Terminated.unique {ls' ends' : List Text} (h : Terminated t ls ends)
    (h' : Terminated t ls' ends') : ls = ls' ∧ ends = ends' := by
  obtain rfl : ls = ls' := by rw [h.eq_lines, h'.eq_lines]
  have hitems := (lined_iff.mp h.lined).symm.trans (lined_iff.mp h'.lined)
  exact ⟨rfl, zipWith_append_inj h.paired h'.paired hitems⟩

end

/-! ## All other characters are alike -/

/-- `KeepsLineEnds f` — the exchange `f` of characters neither removes nor makes a carriage return or a
    line feed. -/
def KeepsLineEnds (f : CodePoint → CodePoint) : Prop :=
  ∀ c, (f c = '\r' ↔ c = '\r') ∧ (f c = '\n' ↔ c = '\n')

section

variable {f : CodePoint → CodePoint} (hf : KeepsLineEnds f)

include hf

theorem KeepsLineEnds.unbroken {body : Text} (h : Unbroken body) : Unbroken (body.map f) := by
  constructor
  · intro hmem
    obtain ⟨c, hc, heq⟩ := List.mem_map.mp hmem
    exact h.1 ((hf c).1.mp heq ▸ hc)
  · intro hmem
    obtain ⟨c, hc, heq⟩ := List.mem_map.mp hmem
    exact h.2 ((hf c).2.mp heq ▸ hc)

theorem KeepsLineEnds.lineEnd {ending : Text} (h : LineEnd ending) : ending.map f = ending := by
  have hcr : f '\r' = '\r' := (hf '\r').1.mpr rfl
  have hlf : f '\n' = '\n' := (hf '\n').2.mpr rfl
  cases h with
  | lf => rw [List.map_singleton, hlf]
  | crlf => rw [List.map_cons, List.map_singleton, hcr, hlf]
  | cr => rw [List.map_singleton, hcr]

theorem KeepsLineEnds.lined {t : Text} {items : List Text} (h : Lined t items) :
    Lined (t.map f) (items.map (List.map f)) := by
  induction h with
  | nil => exact Lined.nil
  | last hne hbody => exact Lined.last (by simpa using hne) (hf.unbroken hbody)
  | @line body ending rest items hbody hend hwhole _ ih =>
    have hsplits : ¬ SplitsLineEnd ending (rest.map f) := by
      rintro ⟨hlast, hhead⟩
      rw [List.head?_map, Option.map_eq_some_iff] at hhead
      obtain ⟨c, hc, heq⟩ := hhead
      exact hwhole ⟨hlast, (hf c).2.mp heq ▸ hc⟩
    rw [List.map_append, List.map_append, List.map_cons, List.map_append, hf.lineEnd hend]
    exact Lined.line (hf.unbroken hbody) hend hsplits ih

/-- A line end is taken off as it was. -/
theorem KeepsLineEnds.map_chomp {t : Text} {items : List Text} (h : Lined t items) :
    (items.map (List.map f)).map chomp = (items.map chomp).map (List.map f) := by
  induction h with
  | nil => rfl
  | last _ hbody =>
    rw [List.map_singleton, List.map_singleton, List.map_singleton, List.map_singleton,
      chomp_of_unbroken hbody, chomp_of_unbroken (hf.unbroken hbody)]
  | line hbody hend _ _ ih =>
    rw [List.map_cons, List.map_cons, List.map_cons, List.map_cons, ih, chomp_line hbody hend,
      List.map_append, hf.lineEnd hend, chomp_line (hf.unbroken hbody) hend]

/-- **Exchanged characters stay in their lines.** -/
theorem lines_map (t : Text) : lines (t.map f) = t.lines.map (List.map f) := by
  have hlined := lined_ownLines t
  rw [(hf.lined hlined).lines_eq, hf.map_chomp hlined, hlined.lines_eq]

end

/-! ## Lossless and unique -/

/-- **Splitting into lines is lossless and unique.**  For every text:
    (1) its lines make up the text, with some terminators;
    (2) no other list of lines does, and no other terminators;
    (3) characters other than carriage return and line feed never end a line: a text of nothing else is
        one line, and it makes no difference to the lines which of these characters a text holds. -/
theorem lines_lossless (t : Text) :
    (∃ ends, Terminated t t.lines ends) ∧
    (∀ ls ends, Terminated t ls ends →
      ls = t.lines ∧ ∀ ends', Terminated t ls ends' → ends' = ends) ∧
    (t ≠ [] → Unbroken t → t.lines = [t]) ∧
    (∀ f, KeepsLineEnds f → lines (t.map f) = t.lines.map (List.map f)) := by
  refine ⟨exists_terminated_lines t, fun ls ends h => ⟨h.eq_lines, fun ends' h' => ?_⟩,
    fun hne h => lines_of_no_line_end hne h.1 h.2, fun f hf => lines_map hf t⟩
  exact (h'.unique h).2

-- vertical tab, form feed, next line, line separator
example : lines "a\x0bb\x0cc\u0085d\u2028e\r\r\n\n".toText =
    ["a\x0bb\x0cc\u0085d\u2028e".toText, [], []] := by decide

end PartProgram.Text
