/-
  The envelope of a record: the position and the raw text of its line.

  1. **Specification** — `Enveloped raw index x`: if `x` gives a record at all, then one of the line `raw`
     at the position `index`.  A table keeps the envelope if each of its six line builders does; nothing
     is asked of the three that build parameters, and every entry is free to fail.

  2. **Open recursion** — the entries of a dialect call each other through the table in use, so the most
     that can be asked of an entry is that it keeps the envelope whenever the table it is given does
     (`Dialect.KeepsEnvelope`).  That is enough: the table in use keeps it, by induction on how deep calls
     may be nested (`Dialect.KeepsEnvelope.buildersTo`).  The standard entries are of this kind, so any
     of them may be replaced by others of this kind.

  3. **One line (`enveloped_build`)** — both ways to a record end in the table: `classify`, and `textLine`
     for a malformed line under a permissive reader.

  4. **All lines (`Reader.envelope_of_parse`)** — the lines are numbered in the order of the source.
-/
import PartProgram.Dialect.Standard
import PartProgram.Proofs.Reading

namespace PartProgram

/-! ## Specification -/

/-- `Enveloped raw index x` — if `x` gives a record, then one of the line `raw` at position `index`. -/
def Enveloped (raw : Text) (index : Int) (x : Attempt Line) : Prop :=
  ∀ line, x.result = .ok line → line.index = index ∧ line.raw = raw

/-- Every line builder of the table that gives a record gives it the envelope it was given. -/
structure Builders.KeepsEnvelope (b : Builders) : Prop where
  classify : ∀ raw index, Enveloped raw index (b.classify raw index)
  blank : ∀ raw index, Enveloped raw index (b.blank raw index)
  comment : ∀ raw index, Enveloped raw index (b.comment raw index)
  codeLine : ∀ raw tokens index, Enveloped raw index (b.codeLine raw tokens index)
  controlLine : ∀ raw tokens index, Enveloped raw index (b.controlLine raw tokens index)
  textLine : ∀ raw index, Enveloped raw index (b.textLine raw index)

/-- Every line builder of the dialect keeps the envelope as long as the table it is given does. -/
def Dialect.KeepsEnvelope (d : Dialect) : Prop :=
  ∀ table : Builders, table.KeepsEnvelope → (d.instantiate table).KeepsEnvelope

/-! ## Attempts -/

namespace Enveloped

variable {raw : Text} {index : Int}

theorem of_pure {line : Line} (hindex : line.index = index) (hraw : line.raw = raw) :
    Enveloped raw index (pure line) := by
  intro line' h
  obtain rfl : line = line' := Except.ok.inj h
  exact ⟨hindex, hraw⟩

theorem of_fail (fault : Fault) : Enveloped raw index (Attempt.fail fault) :=
  fun _ h => nomatch h

/-- Only the last step of an attempt matters. -/
theorem bind {α : Type} (x : Attempt α) {f : α → Attempt Line}
    (h : ∀ a, Enveloped raw index (f a)) : Enveloped raw index (x >>= f) := by
  intro line hline
  obtain ⟨a, _, ha⟩ := Attempt.result_bind_eq_ok_iff.mp hline
  exact h a line ha

end Enveloped

/-! ## Open recursion -/

theorem Builders.keepsEnvelope_tooDeep : Builders.tooDeep.KeepsEnvelope where
  classify _ _ := .of_fail _
  blank _ _ := .of_fail _
  comment _ _ := .of_fail _
  codeLine _ _ _ := .of_fail _
  controlLine _ _ _ := .of_fail _
  textLine _ _ := .of_fail _

namespace Dialect.KeepsEnvelope

variable {d : Dialect}

theorem buildersTo (h : d.KeepsEnvelope) (depth : Nat) : (d.buildersTo depth).KeepsEnvelope := by
  induction depth with
  | zero => exact Builders.keepsEnvelope_tooDeep
  | succ depth ih => exact h (d.buildersTo depth) ih

/-- **A dialect whose entries keep the envelope** has a table that does. -/
theorem builders (h : d.KeepsEnvelope) : d.builders.KeepsEnvelope :=
  h.buildersTo nestingLimit

end Dialect.KeepsEnvelope

/-! ## The standard entries -/

namespace Standard

theorem enveloped_comment (table : Builders) (raw : Text) (index : Int) :
    Enveloped raw index (comment table raw index) := by
  unfold comment
  split
  · exact .of_fail _
  · exact .of_pure rfl rfl

theorem enveloped_codeLine (table : Builders) (raw : Text) (tokens : List Text) (index : Int) :
    Enveloped raw index (codeLine table raw tokens index) := by
  unfold codeLine
  split
  · exact .of_fail _
  · refine .bind _ fun n => ?_
    split
    · exact .of_pure rfl rfl
    · exact .of_fail _
    · split
      · exact .bind _ fun code => .bind _ fun parameters => .of_pure rfl rfl
      · exact .bind _ fun parameters => .of_pure rfl rfl

theorem enveloped_controlLine (table : Builders) (raw : Text) (tokens : List Text) (index : Int) :
    Enveloped raw index (controlLine table raw tokens index) := by
  unfold controlLine
  split
  · exact .of_fail _
  · exact .bind _ fun parameters => .of_pure rfl rfl

theorem enveloped_classifyTokens {table : Builders} (h : table.KeepsEnvelope) (raw : Text)
    (tokens : List Text) (index : Int) :
    Enveloped raw index (classifyTokens table raw tokens index) := by
  unfold classifyTokens
  split
  · exact h.blank raw index
  · split
    · exact h.comment raw index
    · exact h.codeLine raw _ index
    · exact h.controlLine raw _ index
    · exact h.textLine raw index

theorem enveloped_classify {table : Builders} (h : table.KeepsEnvelope) (raw : Text)
    (index : Int) : Enveloped raw index (classify table raw index) := by
  unfold classify
  split
  · exact h.blank raw index
  · exact h.comment raw index
  · exact enveloped_classifyTokens h raw raw.words index

end Standard

theorem Dialect.keepsEnvelope_standard : Dialect.standard.KeepsEnvelope := fun table h =>
  { classify := Standard.enveloped_classify h
    blank := fun _ _ => .of_pure rfl rfl
    comment := Standard.enveloped_comment table
    codeLine := Standard.enveloped_codeLine table
    controlLine := Standard.enveloped_controlLine table
    textLine := fun _ _ => .of_pure rfl rfl }

/-! ## Reading -/

namespace Reader

variable {r : Reader}

/-- **A line keeps its envelope**, also one that is taken as plain text because it is malformed. -/
theorem enveloped_build (h : r.builders.KeepsEnvelope) (raw : Text) (index : Int) :
    Enveloped raw index (r.build raw index) := by
  intro line hline
  rcases classify_or_textLine_of_build hline with hclassify | htext
  · exact h.classify raw index line hclassify
  · exact h.textLine raw index line htext

/-- **All lines keep their envelope**: the records are those of the lines of the source, in order. -/
theorem envelope_of_parse (h : r.builders.KeepsEnvelope) {source : Source} {p : Program}
    (hp : (r.parse source).result = .ok p) :
    p.lines.length = source.rawLines.length ∧
      ∀ (i : Nat) (raw : Text), source.rawLines[i]? = some raw →
        ∃ line, p.lines[i]? = some line ∧ line.index = i ∧ line.raw = raw := by
  obtain ⟨hlines, _⟩ := result_parse_eq_ok_iff.mp hp
  obtain ⟨hlength, hat⟩ := getElem?_of_buildAll_ok hlines
  refine ⟨hlength, fun i raw hraw => ?_⟩
  obtain ⟨line, hget, hbuild⟩ := hat i raw hraw
  rw [Nat.zero_add] at hbuild
  exact ⟨line, hget, enveloped_build h raw i line hbuild⟩

end Reader

/-- **The envelope survives every dialect.**  A dialect whose entries keep it has a table that keeps it.
    Under every table that keeps it, every reader gives for every source either a program with one record
    for each line, in order and with the position and the raw text of that line, or no program: then a
    line could not be read, or the source itself failed. -/
theorem envelope_kept :
    (∀ d : Dialect, d.KeepsEnvelope → d.builders.KeepsEnvelope) ∧
    ∀ b : Builders, b.KeepsEnvelope → ∀ (strict : Bool) (source : Source),
      (∃ p, ((Reader.mk b strict).parse source).result = .ok p ∧
        p.lines.length = source.rawLines.length ∧
        ∀ (i : Nat) (raw : Text), source.rawLines[i]? = some raw →
          ∃ line, p.lines[i]? = some line ∧ line.index = i ∧ line.raw = raw) ∨
      ∃ fault, ((Reader.mk b strict).parse source).result = .error fault ∧
        ((∃ i raw lines, (Reader.mk b strict).StopsAt source.rawLines i raw lines fault) ∨
          source.ending = some fault) := by
  refine ⟨fun d hd => hd.builders, fun b hb strict source => ?_⟩
  cases hresult : ((Reader.mk b strict).parse source).result with
  | ok p => exact Or.inl ⟨p, rfl, Reader.envelope_of_parse hb hresult⟩
  | error fault =>
    refine Or.inr ⟨fault, rfl, ?_⟩
    exact (Reader.result_parse_eq_error_iff.mp hresult).imp_right And.right

/-- The standard dialect, but for blank lines, which are taken as empty comments, and for parameters
    with a value, which are refused. -/
def Dialect.remarking : Dialect :=
  { Dialect.standard with
    blank := fun _ raw index => pure { index, kind := .comment, raw, comment := some ([';'] : Text) }
    valueParam := fun _ _ => .fail .outOfRange }

theorem Dialect.keepsEnvelope_remarking : Dialect.remarking.KeepsEnvelope := fun table h =>
  { Dialect.keepsEnvelope_standard table h with
    blank := fun _ _ => .of_pure rfl rfl }

/-- A blank line that is taken as a comment, and a malformed line that is taken as plain text; with a
    parameter in it, a line cannot be read. -/
theorem envelope_kept_remarking :
    (∃ p, ((Reader.mk Dialect.remarking.builders false).parse
        (.text "N1 G0\n   \nNx\n".toText)).result = .ok p ∧
      p.lines.map Line.kind = [.gCode, .comment, .text] ∧
      (∃ line, p.lines[1]? = some line ∧ line.index = 1 ∧ line.raw = "   ".toText) ∧
      ∃ line, p.lines[2]? = some line ∧ line.index = 2 ∧ line.raw = "Nx".toText) ∧
    ∃ fault, ((Reader.mk Dialect.remarking.builders false).parse
      (.text "N1 G0 X=5".toText)).result = .error fault := by
  have hkeeps := envelope_kept.1 Dialect.remarking Dialect.keepsEnvelope_remarking
  constructor
  · rcases envelope_kept.2 _ hkeeps false (.text "N1 G0\n   \nNx\n".toText) with
      ⟨p, hp, _, hat⟩ | ⟨fault, hfault, _⟩
    · exact ⟨p, hp, by cases hp; rfl, hat 1 _ rfl, hat 2 _ rfl⟩
    · exact nomatch hfault
  · rcases envelope_kept.2 _ hkeeps false (.text "N1 G0 X=5".toText) with
      ⟨p, hp, _⟩ | ⟨fault, hfault, _⟩
    · exact nomatch hp
    · exact ⟨fault, hfault⟩

end PartProgram
