/-
  One line end less.

  `chomp` takes a line end off a text by looking at it from behind.  `WithoutLineEnd t raw` says what
  that means, read from the front: `t` is `raw` and one line end, or `t` has no line end and is `raw`
  itself.  A carriage return and a line feed together are ONE line end, so a single line feed is taken
  only where no carriage return stands in front of it.  A text without any line end is one line.
-/
import PartProgram.Text.LineEnd

namespace PartProgram.Text

/-- `WithoutLineEnd t raw` — `raw` is `t` less its trailing line end, if it has one. -/
inductive WithoutLineEnd : Text → Text → Prop where
  | crlf {raw : Text} : WithoutLineEnd (raw ++ (['\r', '\n'] : Text)) raw
  | lf {raw : Text} (h : raw.getLast? ≠ some ('\r' : CodePoint)) : WithoutLineEnd (raw ++ (['\n'] : Text)) raw
  | cr {raw : Text} : WithoutLineEnd (raw ++ (['\r'] : Text)) raw
  | none {raw : Text} (hcr : raw.getLast? ≠ some ('\r' : CodePoint))
      (hlf : raw.getLast? ≠ some ('\n' : CodePoint)) :
      WithoutLineEnd raw raw

theorem withoutLineEnd_chomp (t : Text) : WithoutLineEnd t t.chomp := by
  unfold chomp
  split
  · next rest heq =>
    have ht : t = rest.reverse ++ (['\r', '\n'] : Text) := by rw [← t.reverse_reverse, heq]; simp
    rw [ht]
    exact WithoutLineEnd.crlf
  · next rest hcrlf heq =>
    have ht : t = rest.reverse ++ (['\n'] : Text) := by rw [← t.reverse_reverse, heq]; simp
    have hcr : rest.reverse.getLast? ≠ some ('\r' : CodePoint) := by
      rw [List.getLast?_reverse]
      cases rest with
      | nil => simp
      | cons c rest =>
        intro hc
        obtain rfl : c = '\r' := Option.some.inj hc
        exact hcrlf rest rfl
    rw [ht]
    exact WithoutLineEnd.lf hcr
  · next rest heq =>
    have ht : t = rest.reverse ++ (['\r'] : Text) := by rw [← t.reverse_reverse, heq]; simp
    rw [ht]
    exact WithoutLineEnd.cr
  · next hcrlf hlf hcr =>
    have hlast : ∀ c, t.getLast? = some c → ∃ rest, t.reverse = c :: rest := by
      intro c hc
      rw [← List.head?_reverse] at hc
      exact List.head?_eq_some_iff.mp hc
    refine WithoutLineEnd.none (fun hc => ?_) (fun hc => ?_)
    · obtain ⟨rest, hrest⟩ := hlast '\r' hc
      exact hcr rest hrest
    · obtain ⟨rest, hrest⟩ := hlast '\n' hc
      exact hlf rest hrest

/-! ## Texts of a single line -/

theorem unify_of_no_return {t : Text} (h : ('\r' : CodePoint) ∉ t) : unify t = t := by
  fun_induction unify t with
  | case1 rest ih => exact absurd List.mem_cons_self h
  | case2 rest _ ih => exact absurd List.mem_cons_self h
  | case3 c rest _ _ ih => rw [ih fun hmem => h (List.mem_cons_of_mem c hmem)]
  | case4 => rfl

/-- A text without line ends is its own and only line, if it is not empty. -/
theorem lines_of_no_line_end {t : Text} (hne : t ≠ []) (hcr : ('\r' : CodePoint) ∉ t)
    (hlf : ('\n' : CodePoint) ∉ t) :
    t.lines = [t] := by
  rw [lines, unify_of_no_return hcr, List.splitOn_eq_singleton hlf, dropLastIfEmpty, if_neg]
  intro hlast
  exact hne (Option.some.inj hlast)

end PartProgram.Text
