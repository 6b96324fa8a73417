/-
  Searching a program for a record.

  1. **Program** — `contains` stops at the first record that is equal, `count` goes through all of them,
     and `index` looks at those between two bounds, from the first of them on.

  2. **Specification** — ONE look decides all three: at the position that the record itself names.

  3. **Searching any program (`Program.index_cases`)** — the first position between the bounds is found, or
     there is none.  The bounds are those of `Slice.Between`; a start in front of the program counts as its
     front, since no position is below zero.

  4. **The invariant (`Program.Numbered`)** — every record of a program that was read has its own position
     as its index, and equal records have equal indices.  So a record stands at its index or nowhere.  In a
     program that is put together by hand it may stand anywhere, and more than once.
-/
import Mathlib.Data.List.Nodup
import PartProgram.Proofs.ParameterRange
import PartProgram.Proofs.PrintedBack

namespace PartProgram

namespace Program

variable {p : Program} {x : Line}

/-! ## Positions -/

/-- `p.At i x` — at position `i` there is a record that is equal to `x`. -/
def At (p : Program) (i : Nat) (x : Line) : Prop :=
  ∃ line, p.lines[i]? = some line ∧ (line == x) = true

theorem At.lt {i : Nat} (h : p.At i x) : i < p.size := by
  obtain ⟨line, hline, _⟩ := h
  exact (List.getElem?_eq_some_iff.mp hline).1

theorem contains_iff : p.contains x = true ↔ ∃ i, p.At i x := by
  rw [contains, List.any_eq_true]
  constructor
  · rintro ⟨line, hmem, hbeq⟩
    obtain ⟨i, hi⟩ := List.getElem?_of_mem hmem
    exact ⟨i, line, hi, hbeq⟩
  · rintro ⟨i, line, hi, hbeq⟩
    exact ⟨line, List.mem_of_getElem? hi, hbeq⟩

/-- The bounds of a search, counted from the front. -/
theorem index_eq (p : Program) (x : Line) (start : Int) (stop : Option Int) :
    ∃ low high : Nat,
      (∀ i : Nat, i < p.size → (Slice.Between p.size start stop i ↔ low ≤ i ∧ i < high)) ∧
      p.index x start stop =
        match ((p.lines.take high).drop low).findIdx? (· == x) with
        | some k => pure (low + k)
        | none => throw .absentLine := by
  refine ⟨(max 0 (Slice.fromFront p.size start)).toNat,
    stop.elim p.size fun e => (Slice.fromFront p.size e).toNat, fun i hi => ?_, ?_⟩
  · apply and_congr (by omega)
    cases stop with
    | none => exact iff_of_true (fun e he => nomatch he) hi
    | some e =>
      show (∀ e' ∈ some e, (i : Int) < Slice.fromFront p.size e') ↔ i < (Slice.fromFront p.size e).toNat
      simp only [Option.mem_some_iff, forall_eq']
      omega
  · cases stop with
    | none =>
      show _ = match ((p.lines.take p.lines.length).drop _).findIdx? (· == x) with
        | some k => _
        | none => _
      rw [List.take_length]
      rfl
    | some e => rfl

/-- **What a search finds**: the first position between the bounds, or nothing. -/
theorem index_cases (p : Program) (x : Line) (start : Int) (stop : Option Int) :
    (∃ i, p.index x start stop = .ok i ∧ p.At i x ∧ Slice.Between p.size start stop i ∧
      ∀ j < i, Slice.Between p.size start stop j → ¬ p.At j x) ∨
    (p.index x start stop = .error .absentLine ∧
      ∀ i : Nat, Slice.Between p.size start stop i → ¬ p.At i x) := by
  obtain ⟨low, high, hbetween, hindex⟩ := p.index_eq x start stop
  -- the records that are looked at, by their positions in the program
  have hat : ∀ i, low ≤ i → i < high → ((p.lines.take high).drop low)[i - low]? = p.lines[i]? := by
    intro i hlow hhigh
    rw [List.getElem?_drop, show low + (i - low) = i by omega, List.getElem?_take, if_pos hhigh]
  cases hfind : ((p.lines.take high).drop low).findIdx? (· == x) with
  | some k =>
    rw [hfind] at hindex
    obtain ⟨hk, hbeq, hfirst⟩ := List.findIdx?_eq_some_iff_getElem.mp hfind
    have hlength : k < min high p.size - low := by
      rw [List.length_drop, List.length_take] at hk
      exact hk
    have hfound : p.lines[low + k]? = some ((p.lines.take high).drop low)[k] := by
      rw [← hat (low + k) (by omega) (by omega), Nat.add_sub_cancel_left]
      exact List.getElem?_eq_getElem hk
    refine Or.inl ⟨low + k, hindex, ⟨_, hfound, hbeq⟩,
      (hbetween (low + k) (by omega)).mpr (by omega), ?_⟩
    rintro j hj hbounds ⟨line, hline, hequal⟩
    obtain ⟨hlow, hhigh⟩ := (hbetween j (by omega)).mp hbounds
    have hget := (hat j hlow hhigh).trans hline
    obtain ⟨_, rfl⟩ := List.getElem?_eq_some_iff.mp hget
    exact hfirst (j - low) (by omega) hequal
  | none =>
    rw [hfind] at hindex
    refine Or.inr ⟨hindex, ?_⟩
    rintro i hi ⟨line, hline, hbeq⟩
    obtain ⟨hlow, hhigh⟩ := (hbetween i (List.getElem?_eq_some_iff.mp hline).1).mp hi
    have hmem := List.mem_of_getElem? ((hat i hlow hhigh).trans hline)
    have hne := List.findIdx?_eq_none_iff.mp hfind line hmem
    rw [hbeq] at hne
    exact absurd hne (by decide)

/-! ## Numbered programs -/

/-- `p.Numbered` — the index of every record is its position. -/
def Numbered (p : Program) : Prop :=
  ∀ (i : Nat) (line : Line), p.lines[i]? = some line → line.index = i

namespace Numbered

/-- **A record stands at its index or nowhere.** -/
theorem index_of_at (h : p.Numbered) {i : Nat} (hat : p.At i x) : x.index = i := by
  obtain ⟨line, hline, hbeq⟩ := hat
  rw [← (Line.envelope_of_beq hbeq).1]
  exact h i line hline

theorem nodup (h : p.Numbered) : (p.lines.map Line.index).Nodup := by
  apply List.pairwise_iff_getElem.mpr
  intro i j hi hj hlt
  rw [List.length_map] at hi hj
  rw [List.getElem_map, List.getElem_map, h i _ (List.getElem?_eq_getElem hi),
    h j _ (List.getElem?_eq_getElem hj)]
  omega

/-- No record is there twice. -/
theorem count_eq (h : p.Numbered) (x : Line) : p.count x = if p.contains x then 1 else 0 := by
  have hle : p.count x ≤ 1 := calc
    p.lines.countP (· == x)
      ≤ p.lines.countP ((· == x.index) ∘ Line.index) := by
        apply List.countP_mono_left
        intro line _ hbeq
        exact beq_of_eq (Line.envelope_of_beq hbeq).1
    _ = (p.lines.map Line.index).count x.index := List.countP_map.symm
    _ ≤ 1 := List.nodup_iff_count_le_one.mp h.nodup x.index
  have hpos : 0 < p.count x ↔ p.contains x = true := by
    rw [count, contains, List.countP_pos_iff, List.any_eq_true]
  split
  next hcontains =>
    have hcount := hpos.mpr hcontains
    omega
  next hcontains =>
    have hcount := mt hpos.mp hcontains
    omega

/-- **Membership is decided at the index.** -/
theorem contains_iff_at_index (h : p.Numbered) :
    p.contains x = true ↔ 0 ≤ x.index ∧ x.index < p.size ∧ p.At x.index.toNat x := by
  rw [contains_iff]
  constructor
  · rintro ⟨i, hat⟩
    have hindex := h.index_of_at hat
    have hlt := hat.lt
    rw [show x.index.toNat = i by omega]
    exact ⟨by omega, by omega, hat⟩
  · rintro ⟨_, _, hat⟩
    exact ⟨_, hat⟩

section

variable {start : Int} {stop : Option Int}

/-- **A search finds the index, if it is between the bounds.** -/
theorem index_eq_ok_iff (h : p.Numbered) {i : Nat} :
    p.index x start stop = .ok i ↔
      p.contains x = true ∧ Slice.Between p.size start stop x.index ∧ (i : Int) = x.index := by
  constructor
  · intro hfound
    rcases p.index_cases x start stop with ⟨j, hj, hat, hbetween, _⟩ | ⟨hnone, _⟩
    · obtain rfl : j = i := Except.ok.inj (hj.symm.trans hfound)
      have hindex := h.index_of_at hat
      exact ⟨contains_iff.mpr ⟨j, hat⟩, hindex ▸ hbetween, hindex.symm⟩
    · exact nomatch hnone.symm.trans hfound
  · rintro ⟨hcontains, hbetween, hindex⟩
    obtain ⟨j, hat⟩ := contains_iff.mp hcontains
    obtain rfl : j = i := Int.ofNat.inj ((h.index_of_at hat).symm.trans hindex.symm)
    rcases p.index_cases x start stop with ⟨k, hk, hat', _⟩ | ⟨_, hnone⟩
    · obtain rfl : k = j := Int.ofNat.inj ((h.index_of_at hat').symm.trans hindex.symm)
      exact hk
    · exact absurd hat (hnone j (hindex ▸ hbetween))

theorem index_eq_error_iff (h : p.Numbered) :
    p.index x start stop = .error .absentLine ↔
      ¬ (p.contains x = true ∧ Slice.Between p.size start stop x.index) := by
  constructor
  · rintro herror ⟨hcontains, hbetween⟩
    obtain ⟨j, hat⟩ := contains_iff.mp hcontains
    have hfound := h.index_eq_ok_iff.mpr ⟨hcontains, hbetween, (h.index_of_at hat).symm⟩
    exact nomatch herror.symm.trans hfound
  · intro hno
    rcases p.index_cases x start stop with ⟨i, hi, _⟩ | ⟨hnone, _⟩
    · obtain ⟨hcontains, hbetween, _⟩ := h.index_eq_ok_iff.mp hi
      exact absurd ⟨hcontains, hbetween⟩ hno
    · exact hnone

end

end Numbered

/-- The record at a position of the program, as it is asked for. -/
theorem get_of_getElem? {i : Nat} {line : Line} (h : p.lines[i]? = some line)
    (hi : Slice.isPosition i = true) : p.get i = .ok line := by
  have hfront : Slice.fromFront p.lines.length i = i := if_neg (by omega)
  rw [get, Slice.get, hfront, hi, if_neg (by decide), if_neg (by omega), Int.toNat_natCast, h]
  rfl

end Program

/-- **Programs that were read are numbered**, under every table that keeps the envelope. -/
theorem Reader.numbered_of_parse {r : Reader} (h : r.builders.KeepsEnvelope) {source : Source}
    {p : Program} (hp : (r.parse source).result = .ok p) : p.Numbered := by
  obtain ⟨hlength, hat⟩ := envelope_of_parse h hp
  intro i line hline
  obtain ⟨hlt, _⟩ := List.getElem?_eq_some_iff.mp hline
  obtain ⟨line', hline', hindex, _⟩ := hat i _ (List.getElem?_eq_getElem (hlength ▸ hlt))
  obtain rfl := Option.some.inj (hline.symm.trans hline')
  exact hindex

/-- **The index of a record decides where it is.**  For every program that was read under the standard
    table from any source, strictly or not, and every record:
    (1) the record is in the program exactly if its index is a position of the program and the record
        there is equal to it; that is the one which is there when it is asked for by this index;
    (2) it is counted once if it is in the program, and not at all otherwise;
    (3) a search between two bounds finds its index, exactly if it is in the program and its index is
        between the bounds; any other search fails. -/
theorem search_by_index {strict : Bool} {source : Source} {p : Program}
    (hp : ((Reader.mk .standard strict).parse source).result = .ok p) (x : Line) :
    (p.contains x = true ↔ 0 ≤ x.index ∧ x.index < p.size ∧
      ∃ line, p.lines[x.index.toNat]? = some line ∧ (line == x) = true ∧
        (Slice.isPosition x.index = true → p.get x.index = .ok line)) ∧
    p.count x = (if p.contains x then 1 else 0) ∧
    ∀ (start : Int) (stop : Option Int),
      (∀ i : Nat, p.index x start stop = .ok i ↔
        p.contains x = true ∧ Slice.Between p.size start stop x.index ∧ (i : Int) = x.index) ∧
      (p.index x start stop = .error .absentLine ↔
        ¬ (p.contains x = true ∧ Slice.Between p.size start stop x.index)) := by
  have hnumbered := Reader.numbered_of_parse Dialect.keepsEnvelope_standard.builders hp
  refine ⟨?_, hnumbered.count_eq x,
    fun start stop => ⟨fun i => hnumbered.index_eq_ok_iff, hnumbered.index_eq_error_iff⟩⟩
  rw [hnumbered.contains_iff_at_index]
  constructor
  · rintro ⟨hnonneg, hlt, line, hline, hbeq⟩
    refine ⟨hnonneg, hlt, line, hline, hbeq, fun hposition => ?_⟩
    rw [← Int.toNat_of_nonneg hnonneg] at hposition ⊢
    exact Program.get_of_getElem? hline hposition
  · rintro ⟨hnonneg, hlt, line, hline, hbeq, _⟩
    exact ⟨hnonneg, hlt, line, hline, hbeq⟩

/-- The record of the line `N1 X=5` at a position. -/
def Line.sample (index : Int) : Line :=
  { index, kind := .otherCode, raw := "N1 X=5".toText, n := some 1,
    parameters := [.integer "X".toText 5] }

/-- Two lines with the same text: the second is found behind the first, and not before it. -/
theorem search_by_index_twice :
    ∃ p, ((Reader.mk .standard true).parse (.text "N1 X=5\nN1 X=5\n".toText)).result = .ok p ∧
      p.contains (Line.sample 1) = true ∧ p.count (Line.sample 1) = 1 ∧
      p.index (Line.sample 1) (-1) none = .ok 1 ∧
      p.index (Line.sample 1) 0 (some (-1)) = .error .absentLine := by
  have hp : ((Reader.mk .standard true).parse (.text "N1 X=5\nN1 X=5\n".toText)).result =
      .ok ⟨[Line.sample 0, Line.sample 1]⟩ := rfl
  obtain ⟨hcontains, hcount, hindex⟩ := search_by_index hp (Line.sample 1)
  have hmem := hcontains.mpr ⟨by decide, by decide, Line.sample 1, rfl, rfl, fun _ => rfl⟩
  rw [if_pos hmem] at hcount
  exact ⟨_, hp, hmem, hcount, ((hindex (-1) none).1 1).mpr ⟨hmem, by decide, rfl⟩,
    (hindex 0 (some (-1))).2.mpr fun h => absurd h.2 (by decide)⟩

end PartProgram
