/-
  What a permissive reader recovers from, and what it does not.

  1. **Recoveries** — a numbered line with a field that is no integer literal becomes plain text; a
     value that is no number literal becomes a text value, and a code whose rest is no integer literal
     keeps its identifier alone (`Fallback`).

  2. **The one exception** — `Overloaded raw n`: reading the line `raw` comes to an integer literal of
     `n` digits, more than 4300, be it in a field or in a parameter token.  Such a literal IS a number
     by its grammar, so no recovery applies to it, and the refusal to convert it is not the fault that
     a permissive reader catches.

  3. **Exactness** — a line fails exactly if it is overloaded
     (`exists_build_permissive_ok_iff`), so a text is read exactly if none of its lines is, and there
     are no other failures (`permissive_recovers`).  `permissive_fails_on_long_number` is a text that
     is not read.
-/
import PartProgram.Proofs.Text.LineEnd
import PartProgram.Proofs.Strictness

namespace PartProgram

open Numeral (Denotes IsLiteral IsDecimal Overlong)

/-- `Overloaded raw n` — an integer literal of `n` digits, more than 4300, stands in the line where a
    number is read: in its first field without a value, or in a parameter token. -/
inductive Overloaded (raw : Text) : Nat → Prop where
  | field {letter : CodePoint} {number : Text} {n : Nat} (h : Faulty raw letter number)
      (hn : Overlong number n) : Overloaded raw n
  | parameter {form : Form} {tokens : List Text} {token : Text} {n : Nat}
      (h : Grammar raw form tokens) (hmem : token ∈ tokens) (hn : Refused token n) : Overloaded raw n

/-- `Fallback token param` — what the token holds to be read as a number is none, and `param` is made
    of the token all the same. -/
inductive Fallback : Text → Param → Prop where
  /-- A key keeps its value as a text. -/
  | value {key value : Text} (hkey : ('=' : CodePoint) ∉ key)
      (hinteger : ¬ ∃ negative digits, IsLiteral value negative digits) (hdecimal : ¬ IsDecimal value) :
      Fallback (key ++ ('=' : CodePoint) :: value) (.text key value)
  /-- A code keeps its identifier alone. -/
  | code {letter : CodePoint} {rest : Text} (hletter : letter = 'G' ∨ letter = 'M')
      (hno : ('=' : CodePoint) ∉ letter :: rest)
      (hinteger : ¬ ∃ negative digits, IsLiteral rest negative digits) :
      Fallback (letter :: rest) (.code (letter :: rest) none)

/-! ## Parameters -/

theorem Fallback.param {token : Text} {param : Param} (h : Fallback token param) :
    (Standard.param .standard token).result = .ok param := by
  cases h with
  | value hkey hinteger hdecimal =>
    rw [Standard.param_value hkey, Numeral.number?_eq_none_iff.mpr ⟨hinteger, hdecimal⟩]
    rfl
  | code hletter hno hinteger =>
    rw [Standard.param_code hletter hno, Numeral.integer?_eq_none_iff.mpr hinteger]
    rfl

/-- **Parameters fall back** in every line that has its record. -/
theorem Grammar.getElem?_parameters {raw : Text} {form : Form} {tokens : List Text} {index : Int}
    {line : Line} (h : Grammar raw form tokens)
    (hline : (Builders.standard.classify raw index).result = .ok line) {j : Nat} {token : Text}
    {param : Param} (htoken : tokens[j]? = some token) (hfall : Fallback token param) :
    line.parameters[j]? = some param := by
  rw [classify_of_grammar h index, ← Attempt.bind_pure_eq_map,
    Attempt.result_bind_eq_ok_iff] at hline
  obtain ⟨ps, hps, hpure⟩ := hline
  obtain ⟨p, hget, hp⟩ := Attempt.getElem?_of_result_mapM hps htoken
  have hlength := (Attempt.result_mapM_eq_ok_iff.mp hps).length_eq
  rw [hfall.param] at hp
  rw [← show form.line raw index ps = line from Except.ok.inj hpure, h.parameters_line hlength, hget,
    Except.ok.inj hp]

/-! ## Lines -/

theorem Faulty.not_denotes {raw : Text} {letter : CodePoint} {number : Text}
    (h : Faulty raw letter number) : ¬ ∃ v, Denotes number v := by
  cases h with
  | number _ hno => exact hno
  | code _ _ _ hno => exact hno

/-- How a line can fail: one of its fields is no number, or it is overloaded. -/
theorem classify_error_cases {raw : Text} {index : Int} {fault : Fault}
    (h : (Builders.standard.classify raw index).result = .error fault) :
    (∃ e, fault = .format e) ∨ ∃ n, Overloaded raw n ∧ fault = .tooManyDigits n := by
  rcases malformed_or_grammar raw with ⟨letter, number, hbad⟩ | ⟨form, tokens, hform⟩
  · rcases Numeral.integer?_cases number with ⟨hno, _⟩ | ⟨v, hv, _⟩ | ⟨n, hn, _⟩
    · rw [classify_of_faulty_text hbad hno index] at h
      exact Or.inl ⟨_, (Except.error.inj h).symm⟩
    · exact absurd ⟨v, hv⟩ hbad.not_denotes
    · rw [classify_of_faulty_overlong hbad hn index] at h
      exact Or.inr ⟨n, Overloaded.field hbad hn, (Except.error.inj h).symm⟩
  · obtain ⟨token, hmem, n, hn, rfl⟩ := hform.exists_refused h
    exact Or.inr ⟨n, Overloaded.parameter hform hmem hn, rfl⟩

theorem classify_of_overloaded {raw : Text} {n : Nat} (h : Overloaded raw n) (index : Int) :
    ∃ m, (Builders.standard.classify raw index).result = .error (.tooManyDigits m) := by
  cases h with
  | field hbad hn =>
    rw [classify_of_faulty_overlong hbad hn index]
    exact ⟨n, rfl⟩
  | @parameter form tokens token n hform hmem hn =>
    cases hresult : (Builders.standard.classify raw index).result with
    | ok line => exact absurd ⟨n, hn⟩ ((hform.built_iff index).mp ⟨line, hresult⟩ token hmem)
    | error fault =>
      -- the token that is refused first is not always this one
      obtain ⟨_, _, m, _, rfl⟩ := hform.exists_refused hresult
      exact ⟨m, rfl⟩

section

variable {raw : Text} {index : Int}

/-- A permissive reader fails only at an overloaded line. -/
theorem overloaded_of_build_permissive_error {fault : Fault}
    (h : (Builders.standard.permissiveReader.build raw index).result = .error fault) :
    ∃ n, Overloaded raw n ∧ fault = .tooManyDigits n := by
  by_cases hformat : ∃ e, (Builders.standard.classify raw index).result = .error (.format e)
  · obtain ⟨e, he⟩ := hformat
    rw [build_demoted_standard he] at h
    exact absurd h (by simp)
  · rw [Reader.build_of_ne fun e he => hformat ⟨e, he⟩, Reader.result_announce] at h
    rcases classify_error_cases h with ⟨e, rfl⟩ | hover
    · exact absurd ⟨e, h⟩ hformat
    · exact hover

/-- **A permissive reader reads a line** exactly if the line is not overloaded. -/
theorem exists_build_permissive_ok_iff :
    (∃ line, (Builders.standard.permissiveReader.build raw index).result = .ok line) ↔
      ¬ ∃ n, Overloaded raw n := by
  constructor
  · rintro ⟨line, hline⟩ ⟨n, hn⟩
    obtain ⟨m, hm⟩ := classify_of_overloaded hn index
    rw [Reader.build_of_ne (by simp [hm]), Reader.result_announce, hm] at hline
    exact absurd hline (by simp)
  · intro hnot
    cases hresult : (Builders.standard.permissiveReader.build raw index).result with
    | ok line => exact ⟨line, rfl⟩
    | error fault =>
      obtain ⟨n, hn, _⟩ := overloaded_of_build_permissive_error hresult
      exact absurd ⟨n, hn⟩ hnot

/-- **A malformed line that is read is plain text.** -/
theorem eq_text_of_malformed {line : Line} (h : Malformed raw)
    (hline : (Builders.standard.permissiveReader.build raw index).result = .ok line) :
    line = { index, kind := .text, raw } := by
  obtain ⟨fault, hfault⟩ := classify_of_malformed h index
  rcases classify_error_cases (congrArg Attempt.result hfault) with ⟨e, rfl⟩ | ⟨n, hn, _⟩
  · rw [build_demoted_standard (congrArg Attempt.result hfault)] at hline
    exact (Except.ok.inj hline).symm
  · exact absurd ⟨n, hn⟩ (exists_build_permissive_ok_iff.mp ⟨line, hline⟩)

/-- A line with a form is read as the table classifies it. -/
theorem classify_of_build_permissive {form : Form} {tokens : List Text} {line : Line}
    (h : Grammar raw form tokens)
    (hline : (Builders.standard.permissiveReader.build raw index).result = .ok line) :
    (Builders.standard.classify raw index).result = .ok line := by
  rwa [Reader.build_of_ne h.ne_format, Reader.result_announce] at hline

end

/-! ## Texts -/

/-- A text is read exactly if each of its lines is: no fault follows the last one. -/
theorem exists_parse_text_ok_iff {r : Reader} {t : Text} :
    (∃ p, (r.parse (.text t)).result = .ok p) ↔
      ∀ (i : Nat) (raw : Text), t.lines[i]? = some raw → ∃ line, (r.build raw i).result = .ok line := by
  rw [← Reader.exists_result_buildAll_eq_ok_iff]
  constructor
  · rintro ⟨p, hp⟩
    exact ⟨p.lines, (Reader.result_parse_eq_ok_iff.mp hp).1⟩
  · rintro ⟨lines, hlines⟩
    exact ⟨⟨lines⟩, Reader.result_parse_eq_ok_iff.mpr ⟨hlines, rfl⟩⟩

/-- **A permissive reader recovers from everything but overlong integers.**  For every text:
    (1) it is read exactly if none of its lines is overloaded;
    (2) it fails in no other way than by an overloaded line;
    (3) in the program that is returned there is one record for each line; a malformed line is plain
        text, and a parameter token without a number has fallen back;
    (4) reading a number gives none for what is no literal, and fails for overlong integers only. -/
theorem permissive_recovers (t : Text) :
    ((∃ p, (Builders.standard.permissiveReader.parse (.text t)).result = .ok p) ↔
      ∀ raw ∈ t.lines, ¬ ∃ n, Overloaded raw n) ∧
    (∀ fault, (Builders.standard.permissiveReader.parse (.text t)).result = .error fault →
      ∃ raw ∈ t.lines, ∃ n, Overloaded raw n ∧ fault = .tooManyDigits n) ∧
    (∀ p, (Builders.standard.permissiveReader.parse (.text t)).result = .ok p →
      p.lines.length = t.lines.length ∧
      ∀ (i : Nat) (raw : Text), t.lines[i]? = some raw →
        (Malformed raw → p.lines[i]? = some { index := i, kind := .text, raw }) ∧
        ∀ form tokens, Grammar raw form tokens →
          ∃ line, p.lines[i]? = some line ∧ line.Shows form ∧
            ∀ (j : Nat) (token : Text) (param : Param), tokens[j]? = some token →
              Fallback token param → line.parameters[j]? = some param) ∧
    (∀ s : Text,
      (∀ v, Numeral.integer? s = .ok (some v) ↔ Denotes s v) ∧
      (Numeral.integer? s = .ok none ↔ ¬ ∃ negative digits, IsLiteral s negative digits) ∧
      (Numeral.number? s = .ok none ↔
        (¬ ∃ negative digits, IsLiteral s negative digits) ∧ ¬ IsDecimal s) ∧
      ∀ fault,
        (Numeral.integer? s = .error fault ↔ ∃ n, Overlong s n ∧ fault = .tooManyDigits n) ∧
        (Numeral.number? s = .error fault ↔ ∃ n, Overlong s n ∧ fault = .tooManyDigits n)) := by
  refine ⟨?_, fun fault hfault => ?_, fun p hp => ?_, fun s => ?_⟩
  · rw [exists_parse_text_ok_iff]
    constructor
    · intro hall raw hmem
      obtain ⟨i, hi⟩ := List.mem_iff_getElem?.mp hmem
      exact exists_build_permissive_ok_iff.mp (hall i raw hi)
    · intro hnot i raw hi
      exact exists_build_permissive_ok_iff.mpr (hnot raw (List.mem_of_getElem? hi))
  · rcases Reader.result_parse_eq_error_iff.mp hfault with ⟨i, raw, lines, hstop⟩ | ⟨_, hending⟩
    · exact ⟨raw, List.mem_of_getElem? hstop.position,
        overloaded_of_build_permissive_error hstop.fails⟩
    · exact absurd hending (by simp [Source.ending])
  · obtain ⟨hlength, hat⟩ :=
      Reader.getElem?_of_buildAll_ok (Reader.result_parse_eq_ok_iff.mp hp).1
    refine ⟨hlength, fun i raw hi => ?_⟩
    obtain ⟨line, hget, hline⟩ := hat i raw hi
    rw [Nat.zero_add] at hline
    refine ⟨fun hbad => ?_, fun form tokens hform => ?_⟩
    · rw [hget, eq_text_of_malformed hbad hline]
    · have hclassify := classify_of_build_permissive hform hline
      exact ⟨line, hget, hform.shows hclassify, fun j token param htoken hfall =>
        hform.getElem?_parameters hclassify htoken hfall⟩
  · exact ⟨fun v => Numeral.integer?_eq_some_iff, Numeral.integer?_eq_none_iff,
      Numeral.number?_eq_none_iff, fun fault =>
        ⟨Numeral.integer?_eq_error_iff, Numeral.number?_eq_error_iff⟩⟩

/-! ## A text that is not read -/

theorem overlong_replicate {n : Nat} (hn : 4300 < n) : Overlong (List.replicate n ('0' : CodePoint)) n := by
  refine ⟨hn, false, List.replicate n ('0' : CodePoint), ⟨Numeral.Signed.plain, ?_, fun c hc => ?_⟩, by simp⟩
  · intro hnil
    have hzero : n = 0 := by simpa using hnil
    omega
  · obtain rfl := List.eq_of_mem_replicate hc
    decide

/-- A line number of nothing but zeros is one word on one line. -/
theorem spaced_zeros (n : Nat) :
    Text.Spaced ('N' :: List.replicate n ('0' : CodePoint)) ['N' :: List.replicate n ('0' : CodePoint)] := by
  have hword : Text.IsWord ('N' :: List.replicate n ('0' : CodePoint)) := by
    refine ⟨by simp, fun c hc => ?_⟩
    rcases List.mem_cons.mp hc with rfl | hc
    · decide
    · obtain rfl := List.eq_of_mem_replicate hc
      decide
  have hblanks : Text.Blanks [] := fun c hc => absurd hc List.not_mem_nil
  simpa using Text.Spaced.word hblanks hword (by simp) (Text.Spaced.blanks hblanks)

theorem lines_zeros (n : Nat) :
    Text.lines ('N' :: List.replicate n ('0' : CodePoint)) =
      [('N' : CodePoint) :: List.replicate n ('0' : CodePoint)] :=
  Text.lines_of_no_line_end (by simp) (by simp [List.mem_replicate]) (by simp [List.mem_replicate])

/-- With too many zeros it is refused, although its value is zero. -/
theorem parse_zeros {n : Nat} (hn : 4300 < n) :
    (Builders.standard.permissiveReader.parse (.text ('N' :: List.replicate n ('0' : CodePoint)))).result =
      .error (.tooManyDigits n) := by
  have hover := overlong_replicate hn
  have hbad : Faulty ('N' :: List.replicate n ('0' : CodePoint)) 'N' (List.replicate n ('0' : CodePoint)) :=
    Faulty.number (spaced_zeros n) fun ⟨v, hv⟩ => hv.not_overlong n hover
  have hclassify := classify_of_faulty_overlong hbad hover 0
  have hstop : Builders.standard.permissiveReader.StopsAt
      (Source.text ('N' :: List.replicate n ('0' : CodePoint))).rawLines 0
      ('N' :: List.replicate n ('0' : CodePoint)) [] (.tooManyDigits n) := by
    refine ⟨?_, rfl, ?_⟩
    · show (Text.lines _)[0]? = _
      rw [lines_zeros]
      rfl
    · show (Builders.standard.permissiveReader.build _ 0).result = _
      rw [Reader.build_of_ne (by simp [hclassify]), Reader.result_announce, hclassify]
      rfl
  rw [hstop.parse]

/-- **A permissive reader does fail**: this line number has one digit too many. -/
theorem permissive_fails_on_long_number :
    (Builders.standard.permissiveReader.parse (.text ('N' :: List.replicate 4301 ('0' : CodePoint)))).result =
      .error (.tooManyDigits 4301) :=
  parse_zeros (by omega)

end PartProgram
