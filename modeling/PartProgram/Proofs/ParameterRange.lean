/-
  The parameters of a range of tokens, and those of a line.

  1. **Program** — `parameters tokens start stop` cuts a window out of the tokens, with both bounds moved
     into the list first, and reads one parameter from each token of the window, from left to right.

  2. **Specification** — `Slice.Between length start stop i`: the position `i` lies between the bounds,
     where a bound below zero counts from the end.  NOTHING is moved to say so: a bound outside the list
     has all positions on one side of it.  `Slice.chosen` are the elements at the positions between the
     bounds, and what the token at each of them gives is said by `ParamGrammar` and `Refused`.

  3. **The window (`Slice.window_eq_chosen`)** — inside the list a bound and the bound that was moved into
     it have the same positions before them, so the window is what was chosen.

  4. **Side by side (`Slice.window_append`)** — two windows that meet are one, and so are their
     parameters, with all that is told on the way (`parameters_append`).

  5. **Lines (`parameters_of_build`)** — the parameter tokens of a line are its tokens behind the
     `leading` ones, and the record has one parameter for each of them.  What is written of a parameter
     without a double is again one of its tokens (`written_of_build`).
-/
import PartProgram.Proofs.Dialect.Parameters
import PartProgram.Proofs.LineGrammar
import PartProgram.Proofs.Text.Columns
import PartProgram.Report

namespace PartProgram

/-! ## Windows -/

namespace Slice

variable {α : Type}

/-- `Between length start stop i` — in a list of the given length the position `i` is not before `start`
    and, if there is a stop, before it. -/
def Between (length : Nat) (start : Int) (stop : Option Int) (i : Int) : Prop :=
  fromFront length start ≤ i ∧ ∀ e ∈ stop, i < fromFront length e

instance (length : Nat) (start : Int) (stop : Option Int) (i : Int) :
    Decidable (Between length start stop i) :=
  inferInstanceAs (Decidable (_ ∧ _))

/-- The elements at the positions between two bounds, in order. -/
def chosen (xs : List α) (start : Int) (stop : Option Int) : List α :=
  (xs.zipIdx.filter fun item => decide (Between xs.length start stop item.2)).map Prod.fst

theorem mem_of_mem_chosen {xs : List α} {start : Int} {stop : Option Int} {x : α}
    (h : x ∈ chosen xs start stop) : x ∈ xs := by
  obtain ⟨item, hitem, rfl⟩ := List.mem_map.mp h
  exact List.fst_mem_of_mem_zipIdx (List.mem_filter.mp hitem).1

/-- Elements that are picked by their positions, against elements that are taken and dropped.  The
    positions of the list begin at `k`, so that the induction can go on with the rest of it. -/
theorem filter_zipIdx (xs : List α) (low high k : Nat) :
    ((xs.zipIdx k).filter fun item => decide (low ≤ item.2 ∧ item.2 < high)).map Prod.fst =
      (xs.take (high - k)).drop (low - k) := by
  induction xs generalizing k with
  | nil => simp
  | cons x xs ih =>
    rw [List.zipIdx_cons]
    by_cases hhigh : k < high
    · rw [show high - k = high - (k + 1) + 1 by omega, List.take_succ_cons]
      by_cases hlow : low ≤ k
      · rw [List.filter_cons_of_pos (by simp; omega), List.map_cons, ih (k + 1),
          show low - (k + 1) = 0 by omega, show low - k = 0 by omega]
        rfl
      · rw [List.filter_cons_of_neg (by simp; omega), ih (k + 1),
          show low - k = low - (k + 1) + 1 by omega, List.drop_succ_cons]
    · rw [List.filter_cons_of_neg (by simp; omega), ih (k + 1), show high - (k + 1) = 0 by omega,
        show high - k = 0 by omega, List.take_zero, List.take_zero, List.drop_nil, List.drop_nil]

/-- No position of the list is lost or won by moving a bound into the list. -/
theorem toNat_bound_le_iff {length i : Nat} (hi : i < length) (position : Int) :
    (bound length 0 length position).toNat ≤ i ↔ fromFront length position ≤ i := by
  unfold bound
  generalize fromFront length position = moved
  omega

/-- **The window holds what is chosen.** -/
theorem window_eq_chosen (xs : List α) (start : Int) (stop : Option Int) :
    window xs start stop = chosen xs start stop := by
  let low := (bound xs.length 0 xs.length start).toNat
  let high := ((stop.map (bound xs.length 0 xs.length)).getD xs.length).toNat
  have hbetween : ∀ i : Nat, i < xs.length →
      (Between xs.length start stop i ↔ low ≤ i ∧ i < high) := by
    intro i hi
    apply and_congr (toNat_bound_le_iff hi start).symm
    cases stop with
    | none =>
      show (∀ e ∈ none, (i : Int) < fromFront xs.length e) ↔ i < (xs.length : Int).toNat
      simpa using hi
    | some e =>
      have hstop := toNat_bound_le_iff hi e
      show (∀ e' ∈ some e, (i : Int) < fromFront xs.length e') ↔
        i < (bound xs.length 0 xs.length e).toNat
      constructor
      · intro hall
        have hlt := hall e rfl
        omega
      · intro hlt e' he'
        obtain rfl : e = e' := Option.some.inj he'
        omega
  have hpick := filter_zipIdx xs low high 0
  show (xs.take high).drop low = chosen xs start stop
  rw [Nat.sub_zero, Nat.sub_zero] at hpick
  rw [← hpick, chosen]
  congr 1
  apply List.filter_congr
  intro item hitem
  obtain ⟨_, hlt, _⟩ := List.mem_zipIdx hitem
  rw [decide_eq_decide, hbetween item.2 (by omega)]

/-- A window whose bounds are counted from the front. -/
theorem window_of_nat (xs : List α) (a b : Nat) : window xs a (some b) = (xs.drop a).take (b - a) := by
  have hbound : ∀ k : Nat, (bound xs.length 0 xs.length k).toNat = min xs.length k := by
    intro k
    unfold bound fromFront
    rw [if_neg (by omega)]
    omega
  show (xs.take (bound xs.length 0 xs.length b).toNat).drop (bound xs.length 0 xs.length a).toNat = _
  rw [hbound, hbound, List.drop_take]
  rcases Nat.le_total a xs.length with hle | hle
  · rw [Nat.min_eq_right hle, List.take_eq_take_iff, List.length_drop]
    omega
  · rw [Nat.min_eq_left hle, List.drop_length, List.drop_eq_nil_of_le hle, List.take_nil, List.take_nil]

/-- **Windows that meet are one window.** -/
theorem window_append (xs : List α) {a b c : Nat} (hab : a ≤ b) (hbc : b ≤ c) :
    window xs a (some c) = window xs a (some b) ++ window xs b (some c) := by
  rw [window_of_nat, window_of_nat, window_of_nat, show c - a = b - a + (c - b) by omega,
    List.take_add, List.drop_drop, show a + (b - a) = b by omega]

end Slice

/-! ## The parameters of a range -/

namespace Standard

theorem parameters_eq_mapM (tokens : List Text) (start : Int) (stop : Option Int) :
    Builders.standard.parameters tokens start stop =
      (Slice.chosen tokens start stop).mapM (param .standard) := by
  rw [Builders.standard_parameters, parameters, Slice.window_eq_chosen]

/-- Parameters are read exactly from tokens that are theirs, one by one. -/
theorem result_mapM_param_eq_ok_iff {tokens : List Text} {ps : List Param} :
    (tokens.mapM (param .standard)).result = .ok ps ↔ List.Forall₂ ParamGrammar tokens ps := by
  rw [Attempt.result_mapM_eq_ok_iff]
  simp only [param_eq_ok_iff]

/-- Tokens that are not empty fail exactly by the first of them that is refused. -/
theorem result_mapM_param_eq_error_iff {tokens : List Text} (hne : ∀ token ∈ tokens, token ≠ [])
    {fault : Fault} :
    (tokens.mapM (param .standard)).result = .error fault ↔
      ∃ before token after n, tokens = before ++ token :: after ∧
        (∀ earlier ∈ before, ¬ ∃ m, Refused earlier m) ∧ Refused token n ∧
        fault = .tooManyDigits n := by
  constructor
  · intro h
    obtain ⟨before, token, after, ps, rfl, hps, htoken, _⟩ := Attempt.exists_stop_of_result_mapM h
    have hbefore : ∀ earlier ∈ before, earlier ≠ [] := by
      intro earlier hmem
      exact hne earlier (List.mem_append_left _ hmem)
    obtain ⟨n, hn, rfl⟩ := (param_eq_error_iff (hne token (by simp))).mp htoken
    exact ⟨before, token, after, n, rfl, (exists_mapM_param_ok_iff hbefore).mp ⟨ps, hps⟩, hn, rfl⟩
  · rintro ⟨before, token, after, n, rfl, hbefore, hn, rfl⟩
    apply Attempt.result_mapM_of_stop
    · apply Attempt.exists_result_mapM_eq_ok_iff.mp
      apply (exists_mapM_param_ok_iff _).mpr hbefore
      intro earlier hmem
      exact hne earlier (List.mem_append_left _ hmem)
    · exact (param_eq_error_iff (hne token (by simp))).mpr ⟨n, hn, rfl⟩

/-- **Ranges that meet are read as one**, the first of them first. -/
theorem parameters_append (tokens : List Text) {a b c : Nat} (hab : a ≤ b) (hbc : b ≤ c) :
    Builders.standard.parameters tokens a (some c) = (do
      let ps ← Builders.standard.parameters tokens a (some b)
      let qs ← Builders.standard.parameters tokens b (some c)
      return ps ++ qs) := by
  rw [Builders.standard_parameters, parameters, parameters, parameters,
    Slice.window_append tokens hab hbc, List.mapM_append]

end Standard

/-- **The grammar of parameters.**  For tokens that are not empty, under the standard table:
    (1) for all bounds, parameters are given exactly if there is one for each token between the bounds, in
        order, and each is that of its own token;
    (2) the range fails exactly if one of these tokens is refused, and the first of them tells how;
    (3) a token is that of one parameter only, so that a parameter depends on its own token alone;
    (4) ranges that meet give what the whole range gives, parameters, failures and what is told. -/
theorem parameter_grammar (tokens : List Text) (hne : ∀ token ∈ tokens, token ≠ []) :
    (∀ (start : Int) (stop : Option Int) (ps : List Param),
      (Builders.standard.parameters tokens start stop).result = .ok ps ↔
        List.Forall₂ ParamGrammar (Slice.chosen tokens start stop) ps) ∧
    (∀ (start : Int) (stop : Option Int),
      ((∃ fault, (Builders.standard.parameters tokens start stop).result = .error fault) ↔
        ∃ token ∈ Slice.chosen tokens start stop, ∃ n, Refused token n) ∧
      ∀ fault, (Builders.standard.parameters tokens start stop).result = .error fault ↔
        ∃ before token after n, Slice.chosen tokens start stop = before ++ token :: after ∧
          (∀ earlier ∈ before, ¬ ∃ m, Refused earlier m) ∧ Refused token n ∧
          fault = .tooManyDigits n) ∧
    (∀ token p q, ParamGrammar token p → ParamGrammar token q → p = q) ∧
    ∀ a b c : Nat, a ≤ b → b ≤ c →
      Builders.standard.parameters tokens a (some c) = (do
        let ps ← Builders.standard.parameters tokens a (some b)
        let qs ← Builders.standard.parameters tokens b (some c)
        return ps ++ qs) := by
  have hchosen : ∀ (start : Int) (stop : Option Int),
      ∀ token ∈ Slice.chosen tokens start stop, token ≠ [] :=
    fun start stop token hmem => hne token (Slice.mem_of_mem_chosen hmem)
  refine ⟨fun start stop ps => ?_, fun start stop => ⟨?_, fun fault => ?_⟩,
    fun token p q hp hq => hp.unique hq, fun a b c hab hbc => Standard.parameters_append tokens hab hbc⟩
  · rw [Standard.parameters_eq_mapM]
    exact Standard.result_mapM_param_eq_ok_iff
  · -- the range fails exactly if it does not succeed
    have hok := Standard.exists_mapM_param_ok_iff (hchosen start stop)
    rw [Standard.parameters_eq_mapM]
    cases hresult : ((Slice.chosen tokens start stop).mapM (Standard.param .standard)).result with
    | ok ps =>
      have hnone := hok.mp ⟨ps, hresult⟩
      exact iff_of_false (by simp) fun ⟨token, hmem, hn⟩ => hnone token hmem hn
    | error fault =>
      obtain ⟨before, token, after, n, heq, _, hn, _⟩ :=
        (Standard.result_mapM_param_eq_error_iff (hchosen start stop)).mp hresult
      exact iff_of_true ⟨fault, rfl⟩ ⟨token, by simp [heq], n, hn⟩
  · rw [Standard.parameters_eq_mapM]
    exact Standard.result_mapM_param_eq_error_iff (hchosen start stop)

/-- The last six of seven tokens, one of each kind, with a stop beyond the end: the equals sign counts
    before the letter of a code, the first of two equals signs cuts, and an exponent makes a text. -/
theorem parameter_grammar_last_six :
    (∀ token ∈ ["N1", "G1=5", "M+07", "X=a=b", "=-.5", "Q", "X=1e3"].map String.toText, token ≠ []) ∧
    List.Forall₂ ParamGrammar (["G1=5", "M+07", "X=a=b", "=-.5", "Q", "X=1e3"].map String.toText)
      [.integer "G1".toText 5, .code "M+07".toText (some 7), .text "X".toText "a=b".toText,
        .double [] (.finite true (2 ^ 52) (-53)), .unknown "Q".toText, .text "X".toText "1e3".toText] := by
  have hne : ∀ token ∈ ["N1", "G1=5", "M+07", "X=a=b", "=-.5", "Q", "X=1e3"].map String.toText,
      token ≠ [] := by decide
  have hchosen : Slice.chosen
      (["N1", "G1=5", "M+07", "X=a=b", "=-.5", "Q", "X=1e3"].map String.toText) (-6) (some 99) =
      ["G1=5", "M+07", "X=a=b", "=-.5", "Q", "X=1e3"].map String.toText := by decide
  obtain ⟨hgives, _, _, _⟩ := parameter_grammar _ hne
  rw [← hchosen]
  exact ⟨hne, (hgives (-6) (some 99) _).mp rfl⟩

/-! ## The parameters of a line -/

/-- How many tokens of a numbered line or a control line stand before its parameters: the number and the
    code, the number alone, or the keyword. -/
def LineKind.leading : LineKind → Nat
  | .gCode | .mCode => 2
  | _ => 1

theorem LineKind.leading_pos (kind : LineKind) : 0 < kind.leading := by
  cases kind <;> decide

theorem LineKind.leading_of_isControl {kind : LineKind} (h : kind.isControl = true) :
    kind.leading = 1 := by
  cases kind with
  | branch => rfl
  | alternative => rfl
  | branchEnd => rfl
  | otherControl => rfl
  | _ => exact nomatch h

/-- The words of a numbered line or a control line are the leading ones and its parameter tokens. -/
theorem Grammar.words_eq {raw : Text} {form : Form} {tokens : List Text} {index : Int}
    {ps : List Param} (h : Grammar raw form tokens)
    (hkind : (form.line raw index ps).kind.isCode = true ∨
      (form.line raw index ps).kind.isControl = true) :
    ∃ heads, heads.length = (form.line raw index ps).kind.leading ∧ raw.words = heads ++ tokens := by
  cases h with
  | blank _ => rcases hkind with hkind | hkind <;> exact nomatch hkind
  | comment _ _ => rcases hkind with hkind | hkind <;> exact nomatch hkind
  | text _ _ => rcases hkind with hkind | hkind <;> exact nomatch hkind
  | @gCode first second tokens _ _ hs _ _ => exact ⟨[first, second], rfl, Text.words_of_spaced hs⟩
  | @mCode first second tokens _ _ hs _ _ => exact ⟨[first, second], rfl, Text.words_of_spaced hs⟩
  | @otherCode first tokens _ hs _ _ => exact ⟨[first], rfl, Text.words_of_spaced hs⟩
  | @control keyword tokens hs =>
    refine ⟨[':' :: keyword], ?_, Text.words_of_spaced hs⟩
    exact (LineKind.leading_of_isControl (isControl_controlKind _)).symm

/-- **The parameters of a line** are those of its tokens behind the leading ones, one for each. -/
theorem parameters_of_build {strict : Bool} {raw : Text} {index : Int} {line : Line}
    (h : ((Reader.mk .standard strict).build raw index).result = .ok line)
    (hkind : line.kind.isCode = true ∨ line.kind.isControl = true) :
    ∃ form, Grammar raw form (raw.words.drop line.kind.leading) ∧
      form.line raw index line.parameters = line ∧
      List.Forall₂ ParamGrammar (raw.words.drop line.kind.leading) line.parameters := by
  rcases exists_form_of_build h with ⟨form, tokens, ps, hform, hps, rfl⟩ | ⟨_, rfl⟩
  · obtain ⟨heads, hlength, hwords⟩ := hform.words_eq hkind
    have htokens : raw.words.drop (form.line raw index ps).kind.leading = tokens := by
      rw [hwords, ← hlength, List.drop_left]
    have hread := Standard.result_mapM_param_eq_ok_iff.mp hps
    rw [htokens, hform.parameters_line hread.length_eq index]
    exact ⟨form, hform, rfl, hread⟩
  · rcases hkind with hkind | hkind <;> exact nomatch hkind

/-- Every parameter of a record that is read has a word as its token. -/
theorem exists_token_of_build {strict : Bool} {raw : Text} {index : Int} {line : Line}
    (h : ((Reader.mk .standard strict).build raw index).result = .ok line) :
    ∀ p ∈ line.parameters, ∃ token, Text.IsWord token ∧ ParamGrammar token p := by
  rcases exists_form_of_build h with ⟨form, tokens, ps, hform, hps, rfl⟩ | ⟨_, rfl⟩
  · rw [hform.parameters_line (Attempt.result_mapM_eq_ok_iff.mp hps).length_eq index]
    intro p hp
    obtain ⟨token, hmem, htoken⟩ := Attempt.exists_of_mem_result_mapM hps hp
    exact ⟨token, hform.isWord token hmem, Standard.param_eq_ok_iff.mp htoken⟩
  · exact fun p hp => absurd hp List.not_mem_nil

/-- What is written of a parameter without a double is a word, and the token of the same parameter. -/
theorem written_of_build {strict : Bool} {raw : Text} {index : Int} {line : Line}
    (h : ((Reader.mk .standard strict).build raw index).result = .ok line)
    (hno : ∀ p ∈ line.parameters, p.kind ≠ .double) :
    ∀ p ∈ line.parameters, Text.IsWord p.written ∧ ParamGrammar p.written p := by
  intro p hp
  obtain ⟨token, hword, htoken⟩ := exists_token_of_build h p hp
  exact ⟨htoken.isWord_written hword (hno p hp), htoken.written (hno p hp)⟩

/-- The parameters of a line, written with single blanks, are apart again. -/
theorem Line.words_parameterText {line : Line} (h : ∀ p ∈ line.parameters, Text.IsWord p.written) :
    line.parameterText.words = line.parameters.map Param.written := by
  apply Text.words_joined
  intro w hw
  obtain ⟨p, hp, rfl⟩ := List.mem_map.mp hw
  exact h p hp

end PartProgram
