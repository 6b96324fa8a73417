/-
  Texts as lines, each with its own line end.

  1. **Programs** — `lines` turns all line ends into line feeds and splits there; `records` cuts a
     stream behind each line feed; `chomp` takes one line end off a piece.

  2. **Specification** — `Lined t items`: the text `t` is made up of the lines `items`, each of them a
     text without line ends and then a line end of ITS OWN kind, except that the last one may lack it.
     A carriage return and a line feed next to each other are never cut apart.  Every text is lined in
     exactly one way (`lined_iff`), which `ownLines` computes.

  3. **The crux (`unify_append`)** — line ends are unified piece by piece wherever the cut does not go
     through the middle of one.  So a line at the front of a text is the first of its lines, whatever
     its end is (`lines_line`), and everything else is by induction on the lines.

  4. **Results** — the lines of a text are its own lines without their ends (`Lined.lines_eq`); a
     stream with unified line ends hands out the same (`Lined.universal_eq`); a stream with the line
     ends left alone does so exactly if every carriage return is followed by a line feed or by nothing
     (`stream_eq_lines_iff`); and two texts that are put together where a line ends have the lines of
     both (`lines_append`).
-/
import PartProgram.Proofs.Text.LineEnd

namespace PartProgram.Text

/-! ## Lines and their ends -/

/-- Neither a carriage return nor a line feed. -/
def Unbroken (t : Text) : Prop := ('\r' : CodePoint) ∉ t ∧ ('\n' : CodePoint) ∉ t

/-- The three line ends. -/
inductive LineEnd : Text → Prop where
  | lf : LineEnd ['\n']
  | crlf : LineEnd ['\r', '\n']
  | cr : LineEnd ['\r']

/-- `SplitsLineEnd front back` — between the two texts a carriage return and a line feed are torn
    apart. -/
def SplitsLineEnd (front back : Text) : Prop :=
  front.getLast? = some ('\r' : CodePoint) ∧ back.head? = some ('\n' : CodePoint)

/-- `Lined t items` — the lines `items`, in order and each with its own line end, make up `t`.  The
    condition on `rest` makes each line end a WHOLE one. -/
inductive Lined : Text → List Text → Prop where
  | nil : Lined [] []
  | last {body : Text} (hne : body ≠ []) (hbody : Unbroken body) : Lined body [body]
  | line {body ending rest : Text} {items : List Text} (hbody : Unbroken body)
      (hend : LineEnd ending) (hwhole : ¬ SplitsLineEnd ending rest) (hrest : Lined rest items) :
      Lined (body ++ (ending ++ rest)) ((body ++ ending) :: items)

theorem unbroken_nil : Unbroken [] := ⟨List.not_mem_nil, List.not_mem_nil⟩

theorem unbroken_cons_iff {c : CodePoint} {t : Text} :
    Unbroken (c :: t) ↔ (c ≠ '\r' ∧ c ≠ '\n') ∧ Unbroken t := by
  have hsymm : ∀ d : CodePoint, ¬ d = c ↔ c ≠ d := fun d => ⟨Ne.symm, Ne.symm⟩
  simp only [Unbroken, List.mem_cons, not_or, hsymm]
  exact and_and_and_comm

theorem Unbroken.not_splitsLineEnd {front : Text} (h : Unbroken front) (back : Text) :
    ¬ SplitsLineEnd front back := by
  rintro ⟨hlast, _⟩
  exact h.1 (List.mem_of_getLast? hlast)

/-! ## Every text is lined in exactly one way -/

/-- A character put in front of the first piece, or alone if there is none. -/
def onto (c : CodePoint) : List Text → List Text
  | [] => [[c]]
  | first :: others => (c :: first) :: others

/-- The lines of a text, each with its own line end. -/
def ownLines : Text → List Text
  | '\r' :: '\n' :: rest => ['\r', '\n'] :: ownLines rest
  | '\r' :: rest => ['\r'] :: ownLines rest
  | '\n' :: rest => ['\n'] :: ownLines rest
  | c :: rest => onto c (ownLines rest)
  | [] => []

theorem ownLines_return {t : Text} (h : t.head? ≠ some ('\n' : CodePoint)) :
    ownLines ('\r' :: t) = (['\r'] : Text) :: ownLines t := by
  cases t with
  | nil => rfl
  | cons d t =>
    have hd : d ≠ '\n' := fun hd => h (by rw [hd]; rfl)
    simp [ownLines, hd]

theorem ownLines_cons {c : CodePoint} (hcr : c ≠ '\r') (hlf : c ≠ '\n') (t : Text) :
    ownLines (c :: t) = onto c (ownLines t) := by
  simp [ownLines, hcr]

/-- A character that is no line end belongs to the line behind it. -/
theorem Lined.cons {c : CodePoint} (hcr : c ≠ '\r') (hlf : c ≠ '\n') {t : Text} {items : List Text}
    (h : Lined t items) : Lined (c :: t) (onto c items) := by
  cases h with
  | nil => exact Lined.last (by simp) (unbroken_cons_iff.mpr ⟨⟨hcr, hlf⟩, unbroken_nil⟩)
  | last _ hbody => exact Lined.last (by simp) (unbroken_cons_iff.mpr ⟨⟨hcr, hlf⟩, hbody⟩)
  | line hbody hend hwhole hrest =>
    exact Lined.line (unbroken_cons_iff.mpr ⟨⟨hcr, hlf⟩, hbody⟩) hend hwhole hrest

theorem lined_ownLines (t : Text) : Lined t (ownLines t) := by
  fun_induction ownLines t with
  | case1 rest ih => exact Lined.line unbroken_nil .crlf (fun h => absurd h.1 (by decide)) ih
  | case2 rest hnot ih =>
    refine Lined.line unbroken_nil .cr (fun h => ?_) ih
    obtain ⟨rest', hrest'⟩ := List.head?_eq_some_iff.mp h.2
    exact hnot rest' hrest'
  | case3 rest ih => exact Lined.line unbroken_nil .lf (fun h => absurd h.1 (by decide)) ih
  | case4 c rest _ hcr hlf ih => exact ih.cons hcr hlf
  | case5 => exact Lined.nil

/-- A line at the front of a text is the first of its lines. -/
theorem ownLines_line {body ending rest : Text} (hbody : Unbroken body) (hend : LineEnd ending)
    (hwhole : ¬ SplitsLineEnd ending rest) :
    ownLines (body ++ (ending ++ rest)) = (body ++ ending) :: ownLines rest := by
  induction body with
  | nil =>
    cases hend with
    | lf => rfl
    | crlf => rfl
    | cr => exact ownLines_return fun hhead => hwhole ⟨rfl, hhead⟩
  | cons c body ih =>
    obtain ⟨⟨hcr, hlf⟩, hbody⟩ := unbroken_cons_iff.mp hbody
    rw [List.cons_append, ownLines_cons hcr hlf, ih hbody]
    rfl

theorem ownLines_of_unbroken {body : Text} (hne : body ≠ []) (hbody : Unbroken body) :
    ownLines body = [body] := by
  induction body with
  | nil => exact absurd rfl hne
  | cons c body ih =>
    obtain ⟨⟨hcr, hlf⟩, hbody⟩ := unbroken_cons_iff.mp hbody
    rw [ownLines_cons hcr hlf]
    cases body with
    | nil => rfl
    | cons d body =>
      rw [ih (by simp) hbody]
      rfl

/-- **Every text is lined in exactly one way.** -/
theorem lined_iff {t : Text} {items : List Text} : Lined t items ↔ ownLines t = items := by
  constructor
  · intro h
    induction h with
    | nil => rfl
    | last hne hbody => exact ownLines_of_unbroken hne hbody
    | line hbody hend hwhole _ ih => rw [ownLines_line hbody hend hwhole, ih]
  · rintro rfl
    exact lined_ownLines t

/-! ## One line end less -/

/-- What `chomp` leaves is determined by `WithoutLineEnd`. -/
theorem chomp_of_withoutLineEnd {t raw : Text} (h : WithoutLineEnd t raw) : t.chomp = raw := by
  cases h with
  | crlf => simp [chomp]
  | cr => simp [chomp]
  | lf hcr =>
    rw [← List.head?_reverse] at hcr
    unfold chomp
    rw [List.reverse_append]
    cases hrev : raw.reverse with
    | nil => simpa using hrev
    | cons c rest =>
      rw [hrev] at hcr
      have hc : c ≠ '\r' := fun hc => hcr (by rw [hc]; rfl)
      simpa [hc] using congrArg List.reverse hrev.symm
  | none hcr hlf =>
    rw [← List.head?_reverse] at hcr hlf
    unfold chomp
    cases hrev : t.reverse with
    | nil => rfl
    | cons c rest =>
      rw [hrev] at hcr hlf
      have hc : c ≠ '\r' := fun hc => hcr (by rw [hc]; rfl)
      have hc' : c ≠ '\n' := fun hc => hlf (by rw [hc]; rfl)
      simp [hc, hc']

theorem Unbroken.getLast?_ne {t : Text} (h : Unbroken t) :
    t.getLast? ≠ some ('\r' : CodePoint) ∧ t.getLast? ≠ some ('\n' : CodePoint) :=
  ⟨fun hlast => h.1 (List.mem_of_getLast? hlast), fun hlast => h.2 (List.mem_of_getLast? hlast)⟩

theorem chomp_of_unbroken {body : Text} (hbody : Unbroken body) : body.chomp = body :=
  chomp_of_withoutLineEnd (.none hbody.getLast?_ne.1 hbody.getLast?_ne.2)

theorem chomp_line {body ending : Text} (hbody : Unbroken body) (hend : LineEnd ending) :
    (body ++ ending).chomp = body := by
  apply chomp_of_withoutLineEnd
  cases hend with
  | lf => exact .lf hbody.getLast?_ne.1
  | crlf => exact .crlf
  | cr => exact .cr

/-! ## Unified line ends -/

theorem SplitsLineEnd.append_left {front back : Text} (h : SplitsLineEnd front back) (t : Text) :
    SplitsLineEnd (t ++ front) back := by
  refine ⟨?_, h.2⟩
  rw [List.getLast?_append, h.1]
  rfl

theorem unify_return {t : Text} (h : t.head? ≠ some ('\n' : CodePoint)) :
    unify ('\r' :: t) = ('\n' : CodePoint) :: unify t := by
  cases t with
  | nil => rfl
  | cons d t =>
    have hd : d ≠ '\n' := fun hd => h (by rw [hd]; rfl)
    simp [unify, hd]

theorem unify_cons {c : CodePoint} (hcr : c ≠ '\r') (t : Text) : unify (c :: t) = c :: unify t := by
  simp [unify, hcr]

/-- **Line ends are unified piece by piece**, unless one of them is torn apart. -/
theorem unify_append {front back : Text} (h : ¬ SplitsLineEnd front back) :
    unify (front ++ back) = unify front ++ unify back := by
  fun_induction unify front with
  | case1 rest ih =>
    have hrest := ih fun hsplit => h (hsplit.append_left ['\r', '\n'])
    rw [List.cons_append, List.cons_append, unify, hrest, List.cons_append]
  | case2 rest hnot ih =>
    -- behind a carriage return on its own, no line feed may follow from the other side either
    have hhead : (rest ++ back).head? ≠ some ('\n' : CodePoint) := by
      cases rest with
      | nil => exact fun hhead => h ⟨rfl, hhead⟩
      | cons d rest =>
        intro hhead
        obtain rfl : d = '\n' := Option.some.inj hhead
        exact hnot rest rfl
    rw [List.cons_append, unify_return hhead, ih fun hsplit => h (hsplit.append_left ['\r']),
      List.cons_append]
  | case3 c rest _ hcr ih =>
    rw [List.cons_append, unify_cons hcr, ih fun hsplit => h (hsplit.append_left [c]), List.cons_append]
  | case4 => rfl

theorem unify_lineEnd {ending : Text} (h : LineEnd ending) : unify ending = (['\n'] : Text) := by
  cases h with
  | lf => rfl
  | crlf => rfl
  | cr => rfl

/-- A line is unified with a line feed for its end. -/
theorem unify_line {body ending rest : Text} (hbody : Unbroken body) (hend : LineEnd ending)
    (hwhole : ¬ SplitsLineEnd ending rest) :
    unify (body ++ (ending ++ rest)) = body ++ ('\n' : CodePoint) :: unify rest := by
  rw [unify_append (hbody.not_splitsLineEnd _), unify_append hwhole, unify_of_no_return hbody.1,
    unify_lineEnd hend, List.singleton_append]

/-! ## The lines of a text -/

theorem splitOn_feed {body : Text} (h : ('\n' : CodePoint) ∉ body) (t : Text) :
    (body ++ ('\n' : CodePoint) :: t).splitOn ('\n' : CodePoint) = body :: t.splitOn ('\n' : CodePoint) := by
  refine List.splitOnP_append_cons_of_forall_mem (fun c hc => ?_) ('\n' : CodePoint) (by decide) t
  rw [beq_eq_false_iff_ne]
  rintro rfl
  exact h hc

theorem dropLastIfEmpty_cons (piece : Text) {pieces : List Text} (h : pieces ≠ []) :
    dropLastIfEmpty (piece :: pieces) = piece :: dropLastIfEmpty pieces := by
  obtain ⟨first, others, rfl⟩ := List.exists_cons_of_ne_nil h
  unfold dropLastIfEmpty
  rw [List.getLast?_cons_cons, List.dropLast_cons_cons]
  split <;> rfl

/-- **A line at the front of a text is the first of its lines**, without its end. -/
theorem lines_line {body ending rest : Text} (hbody : Unbroken body) (hend : LineEnd ending)
    (hwhole : ¬ SplitsLineEnd ending rest) :
    lines (body ++ (ending ++ rest)) = body :: lines rest := by
  rw [lines, unify_line hbody hend hwhole, splitOn_feed hbody.2,
    dropLastIfEmpty_cons body (List.splitOn_ne_nil _ _), lines]

/-- **The lines of a text** are its own lines without their ends. -/
theorem Lined.lines_eq {t : Text} {items : List Text} (h : Lined t items) :
    t.lines = items.map chomp := by
  induction h with
  | nil => rfl
  | last hne hbody =>
    rw [lines_of_no_line_end hne hbody.1 hbody.2, List.map_singleton, chomp_of_unbroken hbody]
  | line hbody hend hwhole _ ih =>
    rw [lines_line hbody hend hwhole, ih, List.map_cons, chomp_line hbody hend]

/-! ## Streams -/

theorem records_cons {c : CodePoint} (hc : c ≠ '\n') (t : Text) :
    records (c :: t) = onto c (records t) := by
  rw [records, if_neg hc]
  cases records t <;> rfl

/-- What stands before the first line feed is the first piece, together with that line feed. -/
theorem records_feed {front : Text} (h : ('\n' : CodePoint) ∉ front) (t : Text) :
    records (front ++ ('\n' : CodePoint) :: t) = (front ++ (['\n'] : Text)) :: records t := by
  induction front with
  | nil => rfl
  | cons c front ih =>
    obtain ⟨hc, hfront⟩ := not_or.mp (mt List.mem_cons.mpr h)
    rw [List.cons_append, records_cons (Ne.symm hc), ih hfront]
    rfl

theorem records_of_no_feed {t : Text} (hne : t ≠ []) (h : ('\n' : CodePoint) ∉ t) : records t = [t] := by
  induction t with
  | nil => exact absurd rfl hne
  | cons c t ih =>
    obtain ⟨hc, ht⟩ := not_or.mp (mt List.mem_cons.mpr h)
    rw [records_cons (Ne.symm hc)]
    cases t with
    | nil => rfl
    | cons d t =>
      rw [ih (by simp) ht]
      rfl

/-- **A stream with unified line ends** hands out the lines of the text. -/
theorem Lined.universal_eq {t : Text} {items : List Text} (h : Lined t items) :
    (records t.unify).map chomp = items.map chomp := by
  induction h with
  | nil => rfl
  | last hne hbody => rw [unify_of_no_return hbody.1, records_of_no_feed hne hbody.2]
  | line hbody hend hwhole _ ih =>
    rw [unify_line hbody hend hwhole, records_feed hbody.2, List.map_cons, List.map_cons, ih,
      chomp_line hbody .lf, chomp_line hbody hend]

/-- `PairedReturns t` — every carriage return of `t` is followed by a line feed or by nothing. -/
def PairedReturns (t : Text) : Prop :=
  ∀ front back : Text, t = front ++ ('\r' : CodePoint) :: back →
    back = [] ∨ back.head? = some ('\n' : CodePoint)

theorem PairedReturns.of_append {front t : Text} (h : PairedReturns (front ++ t)) :
    PairedReturns t := by
  intro front' back heq
  refine h (front ++ front') back ?_
  rw [heq, List.append_assoc]

/-- Where carriage returns are paired, the pieces of a stream are the lines of the text. -/
theorem Lined.records_eq {t : Text} {items : List Text} (h : Lined t items)
    (hpaired : PairedReturns t) : records t = items := by
  induction h with
  | nil => rfl
  | last hne hbody => exact records_of_no_feed hne hbody.2
  | @line body ending rest items hbody hend hwhole hrest ih =>
    have hbehind : PairedReturns (ending ++ rest) := hpaired.of_append
    have hrecords := ih hbehind.of_append
    cases hend with
    | lf =>
      rw [← hrecords]
      exact records_feed hbody.2 rest
    | crlf =>
      rw [← hrecords]
      have hfront : ('\n' : CodePoint) ∉ body ++ (['\r'] : Text) := by
        simpa using hbody.2
      simpa using records_feed hfront rest
    | cr =>
      -- a carriage return on its own can only be the last character
      have hnil : rest = [] :=
        (hpaired body rest rfl).resolve_right fun hhead => hwhole ⟨rfl, hhead⟩
      subst hnil
      obtain rfl : [] = items := hrecords
      refine records_of_no_feed (by simp) ?_
      simpa using hbody.2

theorem chomp_cons {c : CodePoint} {t : Text} (hne : t ≠ []) (h : c = '\r' → t ≠ (['\n'] : Text)) :
    chomp (c :: t) = c :: chomp t := by
  apply chomp_of_withoutLineEnd
  generalize hraw : chomp t = raw
  have hchomp := withoutLineEnd_chomp t
  rw [hraw] at hchomp
  cases hchomp with
  | crlf => exact @WithoutLineEnd.crlf (c :: raw)
  | cr => exact @WithoutLineEnd.cr (c :: raw)
  | lf hcr =>
    refine @WithoutLineEnd.lf (c :: raw) ?_
    cases raw with
    | nil => simpa using fun hc => h hc rfl
    | cons d raw => rw [List.getLast?_cons_cons]; exact hcr
  | none hcr hlf =>
    obtain ⟨d, t, rfl⟩ := List.exists_cons_of_ne_nil hne
    exact .none (by rw [List.getLast?_cons_cons]; exact hcr)
      (by rw [List.getLast?_cons_cons]; exact hlf)

/-- A carriage return that is followed by something else stays in the piece of a stream, even when
    the line end has been taken off. -/
theorem exists_return_mem_chomp (front back : Text) {c : CodePoint} (hc : c ≠ '\n') :
    ∃ piece ∈ records (front ++ ('\r' : CodePoint) :: c :: back), ('\r' : CodePoint) ∈ piece.chomp := by
  induction front with
  | nil =>
    rw [List.nil_append, records_cons (by decide), records_cons hc]
    cases records back with
    | nil =>
      refine ⟨['\r', c], List.mem_cons_self, ?_⟩
      rw [chomp_cons (by simp) (by simpa using hc)]
      exact List.mem_cons_self
    | cons first others =>
      refine ⟨'\r' :: c :: first, List.mem_cons_self, ?_⟩
      rw [chomp_cons (by simp) (by simp [hc])]
      exact List.mem_cons_self
  | cons d front ih =>
    obtain ⟨piece, hpiece, hmem⟩ := ih
    rw [List.cons_append]
    by_cases hd : d = '\n'
    · subst hd
      exact ⟨piece, List.mem_cons_of_mem _ hpiece, hmem⟩
    · rw [records_cons hd]
      cases hrecords : records (front ++ ('\r' : CodePoint) :: c :: back) with
      | nil => rw [hrecords] at hpiece; exact absurd hpiece List.not_mem_nil
      | cons first others =>
        rw [hrecords] at hpiece
        rcases List.mem_cons.mp hpiece with rfl | hothers
        · -- the piece grows at its front, away from its line end
          refine ⟨d :: piece, List.mem_cons_self, ?_⟩
          have hne : piece ≠ [] := by rintro rfl; exact absurd hmem (by decide)
          have hfeed : piece ≠ (['\n'] : Text) := by rintro rfl; exact absurd hmem (by decide)
          rw [chomp_cons hne fun _ => hfeed]
          exact List.mem_cons_of_mem d hmem
        · exact ⟨piece, List.mem_cons_of_mem _ hothers, hmem⟩

/-- The lines of a text hold no line ends. -/
theorem Lined.unbroken {t : Text} {items : List Text} (h : Lined t items) :
    ∀ item ∈ items, Unbroken item.chomp := by
  induction h with
  | nil => exact fun item hitem => absurd hitem List.not_mem_nil
  | last _ hbody =>
    intro item hitem
    rw [List.mem_singleton.mp hitem, chomp_of_unbroken hbody]
    exact hbody
  | line hbody hend _ _ ih =>
    intro item hitem
    rcases List.mem_cons.mp hitem with rfl | hitem
    · rw [chomp_line hbody hend]
      exact hbody
    · exact ih item hitem

theorem unbroken_of_mem_lines {t raw : Text} (h : raw ∈ t.lines) : Unbroken raw := by
  have hlined := lined_ownLines t
  rw [hlined.lines_eq] at h
  obtain ⟨item, hitem, rfl⟩ := List.mem_map.mp h
  exact hlined.unbroken item hitem

/-- **A stream whose line ends are left alone** hands out the lines of the text exactly if carriage
    returns are paired. -/
theorem stream_eq_lines_iff {t : Text} : (records t).map chomp = t.lines ↔ PairedReturns t := by
  constructor
  · intro heq front back ht
    cases back with
    | nil => exact Or.inl rfl
    | cons c back =>
      by_cases hc : c = '\n'
      · exact Or.inr (by rw [hc]; rfl)
      · -- the carriage return would stay in a line
        obtain ⟨piece, hpiece, hmem⟩ := exists_return_mem_chomp front back hc
        rw [← ht] at hpiece
        have hline : piece.chomp ∈ t.lines := heq ▸ List.mem_map_of_mem hpiece
        exact absurd hmem (unbroken_of_mem_lines hline).1
  · intro hpaired
    have hlined := lined_ownLines t
    rw [hlined.records_eq hpaired, hlined.lines_eq]

/-! ## Two texts put together -/

/-- `Closed t` — the text ends where a line ends: it is empty, or its last character is that of a
    line end. -/
def Closed (t : Text) : Prop :=
  t = [] ∨ t.getLast? = some ('\n' : CodePoint) ∨ t.getLast? = some ('\r' : CodePoint)

theorem Closed.of_append {front t : Text} (h : Closed (front ++ t)) : Closed t := by
  cases t with
  | nil => exact Or.inl rfl
  | cons c t =>
    have hlast : (front ++ c :: t).getLast? = (c :: t).getLast? := by
      rw [List.getLast?_append, List.getLast?_cons]
      rfl
    rcases h with hnil | hend
    · exact absurd hnil (by simp)
    · rw [hlast] at hend
      exact Or.inr hend

theorem Unbroken.not_closed {t : Text} (h : Unbroken t) (hne : t ≠ []) : ¬ Closed t := by
  rintro (hnil | hlf | hcr)
  · exact hne hnil
  · exact h.getLast?_ne.2 hlf
  · exact h.getLast?_ne.1 hcr

/-- **Texts put together where a line ends** are lined like both of them. -/
theorem Lined.append {a b : Text} {as bs : List Text} (ha : Lined a as) (hclosed : Closed a)
    (hcut : ¬ SplitsLineEnd a b) (hb : Lined b bs) : Lined (a ++ b) (as ++ bs) := by
  induction ha with
  | nil => exact hb
  | last hne hbody => exact absurd hclosed (hbody.not_closed hne)
  | @line body ending rest items hbody hend hwhole _ ih =>
    have hbehind : Closed (ending ++ rest) := hclosed.of_append
    have hrest := ih hbehind.of_append fun hsplit =>
      hcut ((hsplit.append_left ending).append_left body)
    rw [List.append_assoc, List.append_assoc, List.cons_append]
    refine Lined.line hbody hend (fun hsplit => ?_) hrest
    -- what follows the line end is the rest of `a` or, if there is none, `b`
    cases rest with
    | nil =>
      rw [List.append_nil] at hcut
      exact hcut (hsplit.append_left body)
    | cons c rest => exact hwhole hsplit

theorem lines_append {a b : Text} (hclosed : Closed a) (hcut : ¬ SplitsLineEnd a b) :
    (a ++ b).lines = a.lines ++ b.lines := by
  have ha := lined_ownLines a
  have hb := lined_ownLines b
  rw [(ha.append hclosed hcut hb).lines_eq, List.map_append, ha.lines_eq, hb.lines_eq]

end PartProgram.Text
