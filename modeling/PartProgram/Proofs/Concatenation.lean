/-
  Programs put together.

  1. **Places** — a line read at another place gives the same record with another index:
     `line.moved k` stands `k` places further on, and so does the malformed line that
     `fault.moved k` tells of.  Nothing else about a record or a fault depends on the place.

  2. **One line (`result_build_moved`)** — reading a line `k` places further on moves its outcome, be
     it a record, a fault, or the plain text that a permissive reader makes of a malformed line.

  3. **All lines (`result_buildAll_moved`)** — so it is for the lines of a program, by induction.

  4. **Two programs (`parse_append`)** — a text that ends where a line ends can be followed by another
     one: its lines come first, and those of the other text are moved by their number.
-/
import PartProgram.Proofs.Text.Lined
import PartProgram.Proofs.Recovery

namespace PartProgram

/-! ## Another place -/

/-- The record of the same line, `k` places further on. -/
def Line.moved (k : Int) (line : Line) : Line := { line with index := line.index + k }

/-- The error of the same line, `k` places further on. -/
def FormatError.moved (k : Int) (e : FormatError) : FormatError := { e with index := e.index + k }

/-- The fault of the same line, `k` places further on: only a malformed line knows its place. -/
def Fault.moved (k : Int) : Fault → Fault
  | .format e => .format (e.moved k)
  | fault => fault

/-- What comes out for the same lines, `k` places further on; `f` moves the records. -/
def movedOutcome {α : Type} (k : Int) (f : α → α) : Except Fault α → Except Fault α
  | .ok a => .ok (f a)
  | .error fault => .error (fault.moved k)

theorem Fault.moved_of_ne {fault : Fault} (h : ∀ e, fault ≠ .format e) (k : Int) :
    fault.moved k = fault := by
  cases fault with
  | format e => exact absurd rfl (h e)
  | _ => rfl

/-- What is a malformed line at one place was one at the other. -/
theorem exists_format_of_moved {α : Type} {k : Int} {f : α → α} {x : Except Fault α}
    {e : FormatError} (h : movedOutcome k f x = .error (.format e)) :
    ∃ e', x = .error (.format e') := by
  cases x with
  | ok a => exact absurd h (by simp [movedOutcome])
  | error fault =>
    by_cases hformat : ∃ e', fault = .format e'
    · obtain ⟨e', rfl⟩ := hformat
      exact ⟨e', rfl⟩
    · have hne : ∀ e', fault ≠ .format e' := fun e' he' => hformat ⟨e', he'⟩
      rw [movedOutcome, Fault.moved_of_ne hne] at h
      exact absurd (Except.error.inj h) (hne e)

theorem Form.line_moved (form : Form) (raw : Text) (index k : Int) (ps : List Param) :
    form.line raw (index + k) ps = (form.line raw index ps).moved k := by
  cases form <;> rfl

/-! ## One line -/

/-- The standard table builds a line alike at every place. -/
theorem result_classify_moved (raw : Text) (index k : Int) :
    (Builders.standard.classify raw (index + k)).result =
      movedOutcome k (Line.moved k) (Builders.standard.classify raw index).result := by
  rcases malformed_or_grammar raw with ⟨letter, number, hbad⟩ | ⟨form, tokens, hform⟩
  · rcases Numeral.integer?_cases number with ⟨hno, _⟩ | ⟨v, hv, _⟩ | ⟨n, hn, _⟩
    · -- the error of the field holds the index
      rw [classify_of_faulty_text hbad hno, classify_of_faulty_text hbad hno]
      rfl
    · exact absurd ⟨v, hv⟩ hbad.not_denotes
    · rw [classify_of_faulty_overlong hbad hn, classify_of_faulty_overlong hbad hn]
      rfl
  · rw [classify_of_grammar hform, classify_of_grammar hform, Attempt.result_map, Attempt.result_map]
    cases hps : (tokens.mapM (Standard.param .standard)).result with
    | ok ps => exact congrArg Except.ok (form.line_moved raw index k ps)
    | error fault =>
      -- the fault of a parameter knows nothing of the line
      obtain ⟨token, hmem, htoken⟩ := Attempt.exists_of_result_mapM_eq_error hps
      obtain ⟨n, _, rfl⟩ := (Standard.param_eq_error_iff (hform.ne_nil token hmem)).mp htoken
      rfl

/-- **A line is read alike at every place**, by strict and by permissive readers. -/
theorem result_build_moved (strict : Bool) (raw : Text) (index k : Int) :
    ((Reader.mk .standard strict).build raw (index + k)).result =
      movedOutcome k (Line.moved k) ((Reader.mk .standard strict).build raw index).result := by
  have hmoved := result_classify_moved raw index k
  by_cases hformat : ∃ e, (Builders.standard.classify raw index).result = .error (.format e)
  · obtain ⟨e, he⟩ := hformat
    rw [he] at hmoved
    cases strict with
    | true => rw [build_strict_format_iff.mpr hmoved, build_strict_format_iff.mpr he]; rfl
    | false => rw [build_demoted_standard hmoved, build_demoted_standard he]; rfl
  · -- a line that is not malformed here is not malformed there either
    have hthere : ∀ e, (Builders.standard.classify raw (index + k)).result ≠ .error (.format e) :=
      fun e he => hformat (exists_format_of_moved (hmoved.symm.trans he))
    have hhere : ∀ e, (Builders.standard.classify raw index).result ≠ .error (.format e) :=
      fun e he => hformat ⟨e, he⟩
    rw [Reader.build_of_ne hthere, Reader.build_of_ne hhere, Reader.result_announce,
      Reader.result_announce, hmoved]

/-! ## All lines -/

/-- **Lines are read alike at every place.** -/
theorem result_buildAll_moved (strict : Bool) (raws : List Text) (start k : Nat) :
    ((Reader.mk .standard strict).buildAll (start + k) raws).result =
      movedOutcome k (List.map (Line.moved k))
        ((Reader.mk .standard strict).buildAll start raws).result := by
  induction raws generalizing start with
  | nil => rfl
  | cons raw raws ih =>
    have hline := result_build_moved strict raw start k
    have hrest := ih (start + 1)
    rw [Nat.add_right_comm] at hrest
    rw [Reader.buildAll_cons, Reader.buildAll_cons, Int.natCast_add]
    cases hbuild : ((Reader.mk .standard strict).build raw start).result with
    | error fault =>
      rw [hbuild] at hline
      rw [Attempt.bind_of_error hline, Attempt.bind_of_error hbuild]
      rfl
    | ok line =>
      rw [hbuild] at hline
      rw [Attempt.bind_of_ok hline, Attempt.bind_of_ok hbuild, Attempt.result_map,
        Attempt.result_map, hrest]
      cases ((Reader.mk .standard strict).buildAll (start + 1) raws).result <;> rfl

/-! ## Two programs -/

/-- A text is read as its lines are: no fault follows the last one. -/
theorem Reader.result_parse_text (r : Reader) (t : Text) :
    (r.parse (.text t)).result = Program.mk <$> (r.buildAll 0 t.lines).result := by
  cases h : (r.buildAll 0 t.lines).result with
  | ok lines => exact Reader.result_parse_eq_ok_iff.mpr ⟨h, rfl⟩
  | error fault => exact congrArg Attempt.result (@Reader.parse_of_error r (.text t) fault h)

/-- The lines of two texts are read one text after the other. -/
theorem result_parse_append {a b : Text} (strict : Bool) (hclosed : Text.Closed a)
    (hcut : ¬ Text.SplitsLineEnd a b) :
    ((Reader.mk .standard strict).parse (.text (a ++ b))).result =
      match ((Reader.mk .standard strict).parse (.text a)).result with
      | .error fault => .error fault
      | .ok p =>
        match ((Reader.mk .standard strict).parse (.text b)).result with
        | .error fault => .error (fault.moved p.size)
        | .ok q => .ok ⟨p.lines ++ q.lines.map (Line.moved p.size)⟩ := by
  rw [Reader.result_parse_text, Reader.result_parse_text, Reader.result_parse_text,
    Text.lines_append hclosed hcut, Reader.buildAll_append]
  cases ha : ((Reader.mk .standard strict).buildAll 0 a.lines).result with
  | error fault => rw [Attempt.bind_of_error ha]; rfl
  | ok lines =>
    have hsize : lines.length = a.lines.length := (Reader.getElem?_of_buildAll_ok ha).1
    rw [Attempt.bind_of_ok ha, Attempt.result_map, result_buildAll_moved, ← hsize]
    cases ((Reader.mk .standard strict).buildAll 0 b.lines).result <;> rfl

/-- **Reading respects concatenation.**  If `a` ends where a line ends and no line end is torn apart
    between `a` and `b`, then under the standard table, strictly and permissively:
    (1) where both texts are programs, `a ++ b` is the program of their records, those of `b` with the
        number of those of `a` added to their index;
    (2) where `a` fails, `a ++ b` fails in the same way;
    (3) where only `b` fails, and at a malformed line, `a ++ b` fails at the same line, with the number
        of records of `a` added to its index;
    (4) where only `b` fails in another way, `a ++ b` fails in the same way. -/
theorem parse_append (strict : Bool) (a b : Text) (hclosed : Text.Closed a)
    (hcut : ¬ Text.SplitsLineEnd a b) :
    (∀ p q, ((Reader.mk .standard strict).parse (.text a)).result = .ok p →
      ((Reader.mk .standard strict).parse (.text b)).result = .ok q →
      ((Reader.mk .standard strict).parse (.text (a ++ b))).result =
        .ok ⟨p.lines ++ q.lines.map fun line => { line with index := line.index + p.size }⟩) ∧
    (∀ fault, ((Reader.mk .standard strict).parse (.text a)).result = .error fault →
      ((Reader.mk .standard strict).parse (.text (a ++ b))).result = .error fault) ∧
    (∀ p e, ((Reader.mk .standard strict).parse (.text a)).result = .ok p →
      ((Reader.mk .standard strict).parse (.text b)).result = .error (.format e) →
      ((Reader.mk .standard strict).parse (.text (a ++ b))).result =
        .error (.format { e with index := e.index + p.size })) ∧
    (∀ p fault, ((Reader.mk .standard strict).parse (.text a)).result = .ok p →
      ((Reader.mk .standard strict).parse (.text b)).result = .error fault →
      (∀ e, fault ≠ .format e) →
      ((Reader.mk .standard strict).parse (.text (a ++ b))).result = .error fault) := by
  have happend := result_parse_append strict hclosed hcut
  refine ⟨fun p q ha hb => ?_, fun fault ha => ?_, fun p e ha hb => ?_, fun p fault ha hb hne => ?_⟩
  · rw [happend, ha, hb]
    rfl
  · rw [happend, ha]
  · rw [happend, ha, hb]
    rfl
  · rw [happend, ha, hb]
    exact congrArg Except.error (Fault.moved_of_ne hne p.size)

/-- A line that ends with a carriage return, then a comment and a line number that is no number: the
    malformed line is told of as the third one. -/
theorem parse_append_bad_number :
    ((Reader.mk .standard true).parse (.text "N1 G2\r;c\r\nNx".toText)).result =
        .error (.format (.notInteger ['N'] "Nx".toText "Nx".toText 2)) ∧
      ((Reader.mk .standard false).parse (.text "N1 G2\r;c\r\nNx".toText)).result =
        .ok ⟨[{ index := 0, kind := .gCode, raw := "N1 G2".toText, n := some 1, code := some 2 },
          { index := 1, kind := .comment, raw := ";c".toText, comment := some ";c".toText },
          { index := 2, kind := .text, raw := "Nx".toText }]⟩ := by
  have hclosed : Text.Closed "N1 G2\r".toText := Or.inr (Or.inr (by decide))
  have hcut : ¬ Text.SplitsLineEnd "N1 G2\r".toText ";c\r\nNx".toText :=
    fun h => absurd h.2 (by decide)
  have ha : ∀ strict, ((Reader.mk .standard strict).parse (.text "N1 G2\r".toText)).result =
      .ok ⟨[{ index := 0, kind := .gCode, raw := "N1 G2".toText, n := some 1, code := some 2 }]⟩ := by
    intro strict
    rfl
  constructor
  · exact (parse_append true _ _ hclosed hcut).2.2.1 _ (.notInteger ['N'] "Nx".toText "Nx".toText 1)
      (ha true) rfl
  · exact (parse_append false _ _ hclosed hcut).1 _
      ⟨[{ index := 0, kind := .comment, raw := ";c".toText, comment := some ";c".toText },
        { index := 1, kind := .text, raw := "Nx".toText }]⟩ (ha false) rfl

end PartProgram
