/-
  Views of a program by the kinds of its lines.

  1. **Program** — `ofKinds` and `codeLines` filter the lines by two different tests, and `summary` goes
     through all kinds, counts the lines of each and writes the counts down.

  2. **Specification** — by POSITIONS: `places kinds` are the positions of the lines of these kinds, in
     increasing order, and a view is what stands there.  So no line of a kind is left out, none is
     there twice, and equal lines at two positions are there both times.

  3. **Two views make the whole (`merge_filter`)** — merged by their positions, the view of some kinds and the
     view of all others are the program.

  4. **Counts (`sum_occurring`)** — the kinds that occur are the kinds of the lines, each once; so every line
     is counted under one of them and under no other.

  5. **Rows** — the text of the summary is read back: its lines are the rows, and the words of a row are the
     name of the kind and the numeral of the count.
-/
import Mathlib
import PartProgram.Proofs.Report.Rows

namespace PartProgram

open Text (IsWord Unbroken)

namespace Program

/-! ## Positions -/

/-- The lines, each behind its position. -/
def entries (p : Program) : List (Nat × Line) := p.lines.zipIdx.map Prod.swap

/-- The positions of the lines of the given kinds, in order. -/
def places (p : Program) (kinds : List LineKind) : List Nat :=
  (p.entries.filter (kinds.contains ·.2.kind)).map Prod.fst

variable (p : Program) (kinds : List LineKind)

theorem mem_entries {i : Nat} {line : Line} : (i, line) ∈ p.entries ↔ p.lines[i]? = some line := by
  rw [entries, List.mem_map]
  constructor
  · rintro ⟨⟨line', i'⟩, hmem, ⟨⟩⟩
    exact List.mem_zipIdx_iff_getElem?.mp hmem
  · intro h
    exact ⟨(line, i), List.mem_zipIdx_iff_getElem?.mpr h, rfl⟩

theorem map_snd_entries : p.entries.map Prod.snd = p.lines := by
  rw [entries, List.map_map]
  exact List.zipIdx_map_fst 0 p.lines

theorem pairwise_entries : p.entries.Pairwise (·.1 < ·.1) := by
  have hpositions : p.entries.map Prod.fst = List.range' 0 p.size := by
    rw [entries, List.map_map]
    exact List.zipIdx_map_snd 0 p.lines
  apply List.pairwise_map.mp
  rw [hpositions]
  exact List.pairwise_lt_range' 1

theorem ofKinds_eq : p.ofKinds kinds = (p.entries.filter (kinds.contains ·.2.kind)).map Prod.snd := by
  rw [ofKinds, ← p.map_snd_entries, List.filter_map]
  rfl

theorem mem_places {i : Nat} :
    i ∈ p.places kinds ↔ ∃ line, p.lines[i]? = some line ∧ line.kind ∈ kinds := by
  rw [places, List.mem_map]
  constructor
  · rintro ⟨⟨_, line⟩, hentry, rfl⟩
    obtain ⟨hmem, hkind⟩ := List.mem_filter.mp hentry
    exact ⟨line, p.mem_entries.mp hmem, List.contains_iff_mem.mp hkind⟩
  · rintro ⟨line, hline, hkind⟩
    refine ⟨(i, line), List.mem_filter.mpr ⟨p.mem_entries.mpr hline, ?_⟩, rfl⟩
    exact List.contains_iff_mem.mpr hkind

theorem pairwise_places : (p.places kinds).Pairwise (· < ·) :=
  List.pairwise_map.mpr (p.pairwise_entries.filter _)

/-- **A view is what stands at its places.** -/
theorem map_places : (p.places kinds).map (p.lines[·]?) = (p.ofKinds kinds).map some := by
  rw [places, ofKinds_eq, List.map_map, List.map_map]
  apply List.map_congr_left
  intro entry hentry
  exact p.mem_entries.mp (List.mem_filter.mp hentry).1

/-! ## Merging -/

/-- **Two parts of an increasing list, merged, are the list.**  The head of the list is the head of one of
    the parts, and it comes before the head of the other. -/
theorem merge_filter {α : Type} {key : α → Nat} {xs : List α} (h : xs.Pairwise (key · < key ·))
    (q : α → Bool) :
    (xs.filter q).merge (xs.filter (!q ·)) (fun x y => decide (key x ≤ key y)) = xs := by
  induction xs with
  | nil => exact List.nil_merge []
  | cons x xs ih =>
    obtain ⟨hx, hxs⟩ := List.pairwise_cons.mp h
    have hrest := ih hxs
    by_cases hq : q x = true
    · rw [List.filter_cons_of_pos hq, List.filter_cons_of_neg (by simp [hq])]
      cases hother : xs.filter (!q ·) with
      | nil =>
        rw [hother, List.merge_right] at hrest
        rw [List.merge_right, hrest]
      | cons y ys =>
        have hy : y ∈ xs := (List.mem_filter.mp (hother ▸ List.mem_cons_self)).1
        rw [List.cons_merge_cons_pos _ _ _ (decide_eq_true (hx y hy).le), ← hother, hrest]
    · rw [List.filter_cons_of_neg hq, List.filter_cons_of_pos (by simp [hq])]
      cases hother : xs.filter q with
      | nil =>
        rw [hother, List.nil_merge] at hrest
        rw [List.nil_merge, hrest]
      | cons y ys =>
        have hy : y ∈ xs := (List.mem_filter.mp (hother ▸ List.mem_cons_self)).1
        have hlt := hx y hy
        rw [List.cons_merge_cons_neg _ _ _ (by simpa using hlt), ← hother, hrest]

/-- The places of two views, merged in increasing order with what stands there. -/
def merged (kinds others : List LineKind) : List (Nat × Line) :=
  ((p.places kinds).zip (p.ofKinds kinds)).merge ((p.places others).zip (p.ofKinds others))
    fun x y => decide (x.1 ≤ y.1)

theorem zip_places : (p.places kinds).zip (p.ofKinds kinds) = p.entries.filter (kinds.contains ·.2.kind) := by
  rw [places, ofKinds_eq, List.zip_map']
  exact List.map_id _

/-- **A view and the view of all other kinds make up the program.** -/
theorem merged_eq {others : List LineKind} (h : ∀ kind, kind ∈ others ↔ kind ∉ kinds) :
    (p.merged kinds others).map Prod.snd = p.lines := by
  have hothers : p.entries.filter (others.contains ·.2.kind) =
      p.entries.filter (!kinds.contains ·.2.kind) := by
    apply List.filter_congr
    intro entry _
    rw [Bool.eq_iff_iff, List.contains_iff_mem, h, Bool.not_eq_true', ← Bool.not_eq_true,
      List.contains_iff_mem]
  rw [merged, zip_places, zip_places, hothers, merge_filter p.pairwise_entries, map_snd_entries]

/-! ## Views -/

variable {p kinds}

/-- Only which kinds are asked for counts, not how often or in which order. -/
theorem ofKinds_congr {kinds' : List LineKind} (h : ∀ kind, kind ∈ kinds' ↔ kind ∈ kinds) :
    p.ofKinds kinds' = p.ofKinds kinds := by
  apply List.filter_congr
  intro line _
  rw [Bool.eq_iff_iff, List.contains_iff_mem, List.contains_iff_mem, h]

theorem codeLines_eq (p : Program) : p.codeLines = p.ofKinds [.gCode, .mCode, .otherCode] := by
  apply List.filter_congr
  intro line _
  cases line.kind <;> rfl

theorem ofKinds_append (p q : Program) (kinds : List LineKind) :
    (Program.mk (p.lines ++ q.lines)).ofKinds kinds = p.ofKinds kinds ++ q.ofKinds kinds :=
  List.filter_append p.lines q.lines

theorem length_ofKinds (p : Program) (kind : LineKind) :
    (p.ofKinds [kind]).length = (p.lines.map Line.kind).count kind := by
  rw [ofKinds, ← List.countP_eq_length_filter, List.count, List.countP_map]
  apply List.countP_congr
  intro line _
  simp

/-! ## Counts -/

/-- The kinds of which there are lines, in the order of the kinds. -/
def occurring (p : Program) : List LineKind := LineKind.all.filter fun kind => !(p.ofKinds [kind]).isEmpty

theorem mem_occurring {kind : LineKind} : kind ∈ p.occurring ↔ p.ofKinds [kind] ≠ [] := by
  have hall : kind ∈ LineKind.all := by cases kind <;> decide
  simp [occurring, List.mem_filter, hall]

theorem occurring_perm (p : Program) : p.occurring.Perm (p.lines.map Line.kind).dedup := by
  have hall : LineKind.all.Nodup := by decide
  have hnodup : p.occurring.Nodup := hall.filter _
  refine (List.perm_ext_iff_of_nodup hnodup (List.nodup_dedup _)).mpr fun kind => ?_
  rw [mem_occurring, List.mem_dedup, ← List.count_pos_iff, ← length_ofKinds, List.length_pos_iff]

/-- **Every line is counted once.** -/
theorem sum_occurring (p : Program) : (p.occurring.map fun kind => (p.ofKinds [kind]).length).sum = p.size := by
  calc (p.occurring.map fun kind => (p.ofKinds [kind]).length).sum
      = (p.occurring.map fun kind => (p.lines.map Line.kind).count kind).sum := by
        simp only [length_ofKinds]
    _ = ((p.lines.map Line.kind).dedup.map fun kind => (p.lines.map Line.kind).count kind).sum :=
        (p.occurring_perm.map _).sum_eq
    _ = (p.lines.map Line.kind).length := List.sum_map_count_dedup_eq_length _
    _ = p.size := List.length_map _

/-! ## The summary -/

/-- The rows of the summary: one for each kind that occurs, and one for the whole. -/
def summaryRows (p : Program) : List Text :=
  (p.occurring.map fun kind => countRow kind.name (p.ofKinds [kind]).length) ++ [countRow "TOTAL" p.size]

theorem summary_eq (p : Program) : p.summary = Text.joined ['\n'] p.summaryRows := by
  have hcount : ∀ kind, p.lines.countP (·.kind = kind) = (p.ofKinds [kind]).length := by
    intro kind
    rw [length_ofKinds, List.count, List.countP_map]
    rfl
  have hoccurs : ∀ kind, decide ((p.ofKinds [kind]).length ≠ 0) = !(p.ofKinds [kind]).isEmpty := by
    intro kind
    cases p.ofKinds [kind] <;> rfl
  unfold summary summaryRows occurring
  simp only [hcount, List.filter_map, Function.comp_def, List.map_map, hoccurs]

theorem words_countRow {label : String} (h : IsWord label.toText) (count : Nat) :
    (countRow label count).words = [label.toText, Text.ofNat count] := by
  have hnumeral : IsWord (Text.ofNat count) := Text.isWord_ofInt count
  rw [countRow, Text.words_padRight_append h (by rintro c hc; obtain rfl := Option.some.inj hc; decide),
    Text.words_cons_of_blank (by decide), Text.words_of_isWord hnumeral]

theorem unbroken_countRow {label : String} (h : IsWord label.toText) (count : Nat) :
    countRow label count ≠ [] ∧ Unbroken (countRow label count) := by
  have hnumeral : IsWord (Text.ofNat count) := Text.isWord_ofInt count
  refine ⟨List.append_ne_nil_of_right_ne_nil _ (List.cons_ne_nil _ _), ?_⟩
  exact (Text.unbroken_padRight h.unbroken kindWidth).append
    (Text.unbroken_cons_iff.mpr ⟨by decide, hnumeral.unbroken⟩)

theorem isWord_total : IsWord "TOTAL".toText := by decide

theorem lines_summary (p : Program) : p.summary.lines = p.summaryRows := by
  rw [summary_eq]
  apply Text.lines_joined
  intro row hrow
  rcases List.mem_append.mp hrow with hrow | hrow
  · obtain ⟨kind, _, rfl⟩ := List.mem_map.mp hrow
    exact unbroken_countRow kind.isWord_name _
  · rw [List.mem_singleton.mp hrow]
    exact unbroken_countRow isWord_total _

/-- **The summary shows the counts**: the words of its rows are the kinds that occur, with their numbers
    of lines, and the number of all lines. -/
theorem words_lines_summary (p : Program) :
    p.summary.lines.map Text.words =
      (p.occurring.map fun kind => [kind.name.toText, Text.ofNat (p.ofKinds [kind]).length]) ++
        [["TOTAL".toText, Text.ofNat p.size]] := by
  rw [lines_summary, summaryRows, List.map_append, List.map_map, List.map_singleton,
    words_countRow isWord_total]
  congr 1
  apply List.map_congr_left
  intro kind _
  exact words_countRow kind.isWord_name _

end Program

/-- **The views of a program by kinds, and its summary.**  For every program, all kinds asked for, and all
    the others:
    (1) the view of the kinds is what stands at its places: all positions of lines of these kinds, in
        increasing order; whether a kind is asked for once or more often makes no difference;
    (2) merged by position with the view of the others, it is the program;
    (3) the numbered lines are the view of the three kinds of numbered lines;
    (4) the summary has a row for each kind of which the view is not empty, in the order of the kinds, that
        names the kind and shows the length of the view, and a last row that shows the size of the
        program, the sum of the others; nothing else is in it;
    (5) in two programs put together, views are put together, and their lengths added. -/
theorem views_partition (p q : Program) {kinds others : List LineKind}
    (h : ∀ kind, kind ∈ others ↔ kind ∉ kinds) :
    ((p.places kinds).Pairwise (· < ·) ∧
      (∀ i, i ∈ p.places kinds ↔ ∃ line, p.lines[i]? = some line ∧ line.kind ∈ kinds) ∧
      (p.places kinds).map (p.lines[·]?) = (p.ofKinds kinds).map some ∧
      ∀ kinds', (∀ kind, kind ∈ kinds' ↔ kind ∈ kinds) → p.ofKinds kinds' = p.ofKinds kinds) ∧
    (p.merged kinds others).map Prod.snd = p.lines ∧
    p.codeLines = p.ofKinds [.gCode, .mCode, .otherCode] ∧
    (∃ shown : List LineKind, shown.Sublist LineKind.all ∧
      (∀ kind, kind ∈ shown ↔ p.ofKinds [kind] ≠ []) ∧
      p.summary = Text.joined ['\n'] ((shown.map fun kind =>
        Program.countRow kind.name (p.ofKinds [kind]).length) ++ [Program.countRow "TOTAL" p.size]) ∧
      p.summary.lines.map Text.words =
        (shown.map fun kind => [kind.name.toText, Text.ofNat (p.ofKinds [kind]).length]) ++
          [["TOTAL".toText, Text.ofNat p.size]] ∧
      p.size = (shown.map fun kind => (p.ofKinds [kind]).length).sum) ∧
    (Program.mk (p.lines ++ q.lines)).ofKinds kinds = p.ofKinds kinds ++ q.ofKinds kinds ∧
    ∀ kind, ((Program.mk (p.lines ++ q.lines)).ofKinds [kind]).length =
      (p.ofKinds [kind]).length + (q.ofKinds [kind]).length := by
  refine ⟨⟨p.pairwise_places kinds, fun i => p.mem_places kinds, p.map_places kinds,
    fun kinds' => Program.ofKinds_congr⟩, p.merged_eq kinds h, p.codeLines_eq, ?_,
    p.ofKinds_append q kinds, fun kind => ?_⟩
  · exact ⟨p.occurring, List.filter_sublist, fun kind => Program.mem_occurring, p.summary_eq,
      p.words_lines_summary, p.sum_occurring.symm⟩
  · rw [Program.ofKinds_append, List.length_append]

/-- Two comments around a blank line: a kind asked for twice, and all others. -/
theorem views_partition_comments :
    ∃ p : Program, p.lines.map Line.kind = [.comment, .blank, .comment] ∧
      p.ofKinds [.comment, .comment] = p.ofKinds [.comment] ∧
      (p.merged [.comment] (LineKind.all.erase .comment)).map Prod.snd = p.lines := by
  let p : Program := ⟨[{ index := 0, kind := .comment }, { index := 1, kind := .blank },
    { index := 2, kind := .comment }]⟩
  obtain ⟨⟨_, _, _, hset⟩, hmerged, _⟩ := views_partition p p
    (show ∀ kind, kind ∈ LineKind.all.erase .comment ↔ kind ∉ [LineKind.comment] by
      intro kind; cases kind <;> decide)
  exact ⟨p, rfl, hset _ (by simp), hmerged⟩

end PartProgram
