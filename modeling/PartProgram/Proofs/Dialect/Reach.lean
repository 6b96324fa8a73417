/-
  Which entries of a table a line reaches.

  1. **Specification** — `Reaches raw entry`: by the characters of the line ALONE, reading it by the
     standard table comes to the entry.  Every line comes to `classify`, and by its first character that
     is not blank to one of the five line builders; lines that get as far as their parameters come to
     `parameters`, and by their tokens to the two builders of a parameter.

  2. **Open recursion** — entries call each other through the table in use, so an entry that is REPLACED
     is called by those that are not.  What an entry calls is said once, for EVERY table that it may be
     given (`Grammar.calls_parameters`, `codeLine_calls_nothing`): each one calls at most one other,
     and `parameters` one for each token.

  3. **Soundness (`classify_eq_of_keeps`)** — follow the calls four deep: a table that keeps what the line
     reaches builds the line as the standard table does, whatever the rest of it is.

  4. **Exactness (`fails_of_reaches`)** — nothing less would do: a table in which an entry that the line
     reaches always fails, fails on the line in that way.

  5. **Values (`Grammar.classify_valuing`)** — with another builder of key and value in the table, the
     parameters of the tokens with an equals sign are what that one makes of them, and all else stays.
-/
import PartProgram.Proofs.LineGrammar

namespace PartProgram

open Text (Blanks Spaced words)

/-! ## Replacing entries of a table -/

/-- The entries of a table. -/
inductive Entry where
  | classify
  | blank
  | comment
  | codeLine
  | controlLine
  | textLine
  | parameters
  | codeParam
  | valueParam
deriving DecidableEq, Repr

namespace Dialect

/-- `d`, but with the chosen entries of `other`. -/
def replacing (d : Dialect) (chosen : List Entry) (other : Dialect) : Dialect where
  classify := if .classify ∈ chosen then other.classify else d.classify
  blank := if .blank ∈ chosen then other.blank else d.blank
  comment := if .comment ∈ chosen then other.comment else d.comment
  codeLine := if .codeLine ∈ chosen then other.codeLine else d.codeLine
  controlLine := if .controlLine ∈ chosen then other.controlLine else d.controlLine
  textLine := if .textLine ∈ chosen then other.textLine else d.textLine
  parameters := if .parameters ∈ chosen then other.parameters else d.parameters
  codeParam := if .codeParam ∈ chosen then other.codeParam else d.codeParam
  valueParam := if .valueParam ∈ chosen then other.valueParam else d.valueParam

/-- The dialect all of whose entries fail. -/
def failing (fault : Fault) : Dialect where
  classify _ _ _ := .fail fault
  blank _ _ _ := .fail fault
  comment _ _ _ := .fail fault
  codeLine _ _ _ _ := .fail fault
  controlLine _ _ _ _ := .fail fault
  textLine _ _ _ := .fail fault
  parameters _ _ _ _ := .fail fault
  codeParam _ _ := .fail fault
  valueParam _ _ := .fail fault

/-- The standard dialect, but with `f` to build the parameter of a key and a value. -/
def valuing (f : Builders → Text → Attempt Param) : Dialect := { standard with valueParam := f }

/-- The table in use, four calls deep: the one that a builder of a parameter is given. -/
def innermost (d : Dialect) : Builders := d.buildersTo (nestingLimit - 4)

/-- `d.Keeps entry` — the entry is the standard one. -/
def Keeps (d : Dialect) : Entry → Prop
  | .classify => d.classify = Standard.classify
  | .blank => d.blank = Standard.blank
  | .comment => d.comment = Standard.comment
  | .codeLine => d.codeLine = Standard.codeLine
  | .controlLine => d.controlLine = Standard.controlLine
  | .textLine => d.textLine = Standard.textLine
  | .parameters => d.parameters = Standard.parameters
  | .codeParam => d.codeParam = Standard.codeParam
  | .valueParam => d.valueParam = Standard.valueParam

theorem keeps_replacing {chosen : List Entry} {entry : Entry} (h : entry ∉ chosen) (other : Dialect) :
    (standard.replacing chosen other).Keeps entry := by
  cases entry <;> exact if_neg h

theorem keeps_valuing (f : Builders → Text → Attempt Param) {entry : Entry} (h : entry ≠ .valueParam) :
    (valuing f).Keeps entry := by
  cases entry with
  | valueParam => exact absurd rfl h
  | _ => rfl

end Dialect

/-! ## Specification -/

/-- `Leads raw c` — the first character of the line that is not blank is `c`. -/
def Leads (raw : Text) (c : CodePoint) : Prop :=
  ∃ gap rest, Blanks gap ∧ Text.isBlank c = false ∧ raw = gap ++ c :: rest

/-- `form.AsksFor tokens` — a line of the form asks for its parameters, of which there may be none.  A
    numbered line without a code does so only if something follows its number. -/
def Form.AsksFor (tokens : List Text) : Form → Prop
  | .gCode _ _ | .mCode _ _ | .control => True
  | .otherCode _ => tokens ≠ []
  | .blank | .comment _ | .text => False

/-- A token that is a code unless it has an equals sign. -/
def Coded (token : Text) : Prop := token.head? = some ('G' : CodePoint) ∨ token.head? = some ('M' : CodePoint)

/-- `Reaches raw entry` — reading the line `raw` comes to the entry. -/
def Reaches (raw : Text) : Entry → Prop
  | .classify => True
  | .blank => Blanks raw
  | .comment => Leads raw ';'
  | .codeLine => Leads raw 'N'
  | .controlLine => Leads raw ':'
  | .textLine => ∃ c, Leads raw c ∧ c ≠ ';' ∧ c ≠ 'N' ∧ c ≠ ':'
  | .parameters => ∃ form tokens, Grammar raw form tokens ∧ form.AsksFor tokens
  | .codeParam => ∃ form tokens, Grammar raw form tokens ∧
      ∃ token ∈ tokens, ('=' : CodePoint) ∉ token ∧ Coded token
  | .valueParam => ∃ form tokens, Grammar raw form tokens ∧ ∃ token ∈ tokens, ('=' : CodePoint) ∈ token

theorem leads_of_spaced {raw word : Text} {c : CodePoint} {others : List Text}
    (h : Spaced raw ((c :: word) :: others)) : Leads raw c :=
  Text.words_head_iff.mp ⟨word, others, Text.words_of_spaced h⟩

theorem leads_of_field {raw first : Text} {others : List Text} {letter : CodePoint} {v : Int}
    (h : Spaced raw (first :: others)) (hfield : Field letter first v) : Leads raw letter := by
  obtain ⟨literal, rfl, _⟩ := hfield
  exact leads_of_spaced h

theorem Leads.words {raw : Text} {c : CodePoint} (h : Leads raw c) :
    ∃ word others, raw.words = (c :: word) :: others :=
  Text.words_head_iff.mpr h

/-- Every line reaches one of the line builders. -/
theorem exists_reaches_line (raw : Text) :
    Reaches raw .blank ∨ Reaches raw .comment ∨ Reaches raw .codeLine ∨ Reaches raw .controlLine ∨
      Reaches raw .textLine := by
  cases hws : raw.words with
  | nil => exact Or.inl (Text.words_eq_nil_iff.mp hws)
  | cons first others =>
    have hs : Spaced raw (first :: others) := Text.words_eq_iff.mp hws
    cases first with
    | nil => exact absurd rfl (hs.isWord [] List.mem_cons_self).1
    | cons c word =>
      have hlead : Leads raw c := leads_of_spaced hs
      by_cases hsemicolon : c = ';'
      · subst hsemicolon
        exact Or.inr (Or.inl hlead)
      by_cases hn : c = 'N'
      · subst hn
        exact Or.inr (Or.inr (Or.inl hlead))
      by_cases hcolon : c = ':'
      · subst hcolon
        exact Or.inr (Or.inr (Or.inr (Or.inl hlead)))
      exact Or.inr (Or.inr (Or.inr (Or.inr ⟨c, hlead, hsemicolon, hn, hcolon⟩)))

theorem Grammar.tokens_eq_nil {raw : Text} {form : Form} {tokens : List Text}
    (h : Grammar raw form tokens) (hno : ¬ form.AsksFor tokens) : tokens = [] := by
  cases h with
  | blank _ => rfl
  | comment _ _ => rfl
  | text _ _ => rfl
  | gCode _ _ _ => exact absurd trivial hno
  | mCode _ _ _ => exact absurd trivial hno
  | control _ => exact absurd trivial hno
  | otherCode _ _ _ => exact not_not.mp hno

/-! ## What an entry calls -/

theorem Coded.param {token : Text} (h : Coded token) (hno : ('=' : CodePoint) ∉ token) (table : Builders) :
    Standard.param table token = table.codeParam token := by
  cases token with
  | nil => simp [Coded] at h
  | cons letter rest =>
    have hletter : letter = 'G' ∨ letter = 'M' := by simpa [Coded] using h
    exact Standard.param_calls_codeParam hletter hno table

/-- A numbered line that does not get as far as its parameters makes no use of the table. -/
theorem codeLine_calls_nothing {raw : Text} (hlead : Reaches raw .codeLine)
    (hno : ¬ Reaches raw .parameters) (table table' : Builders) (index : Int) :
    Standard.codeLine table raw raw.words index = Standard.codeLine table' raw raw.words index := by
  obtain ⟨number, others, hws⟩ := Leads.words hlead
  have hs : Spaced raw (('N' :: number) :: others) := Text.words_eq_iff.mp hws
  rw [hws]
  cases others with
  | nil => rfl
  | cons second tokens =>
    cases second with
    | nil => rfl
    | cons letter rest =>
      by_cases hnumber : ∃ n, Numeral.Denotes number n
      · obtain ⟨n, hn⟩ := hnumber
        have hfield : Field 'N' ('N' :: number) n := ⟨number, rfl, hn⟩
        by_cases hletter : letter = 'G' ∨ letter = 'M'
        · -- with a value, the code would be followed by parameters
          have hcode : ¬ ∃ code, Numeral.Denotes rest code := by
            rintro ⟨code, hcode⟩
            rcases hletter with rfl | rfl
            · exact hno ⟨_, _, .gCode hs hfield ⟨rest, rfl, hcode⟩, trivial⟩
            · exact hno ⟨_, _, .mCode hs hfield ⟨rest, rfl, hcode⟩, trivial⟩
          obtain ⟨fault, hfault⟩ := Standard.fieldNumber_of_not_denotes hcode [letter] letter raw index
          rw [Standard.codeLine_of_code table hletter, Standard.codeLine_of_code table' hletter, hfault]
          rfl
        · have hother : Grammar raw (.otherCode n) ((letter :: rest) :: tokens) := by
            refine .otherCode hs hfield ?_
            intro second hsecond
            obtain rfl : letter :: rest = second := Option.some.inj hsecond
            simpa [not_or] using hletter
          exact absurd ⟨_, _, hother, List.cons_ne_nil _ _⟩ hno
      · obtain ⟨fault, hfault⟩ := Standard.fieldNumber_of_not_denotes hnumber ['N'] 'N' raw index
        show (Standard.fieldNumber ['N'] ('N' :: number) raw index >>= _) =
          (Standard.fieldNumber ['N'] ('N' :: number) raw index >>= _)
        rw [hfault]
        rfl

/-- A line that gets as far as its parameters asks the table for those of its last words, and fills its
    form with them. -/
theorem Grammar.calls_parameters {raw : Text} {form : Form} {tokens : List Text}
    (h : Grammar raw form tokens) (hasks : form.AsksFor tokens) :
    ∃ k : Nat, raw.words.drop k = tokens ∧
      ((Reaches raw .codeLine ∧ ∀ table index, Standard.codeLine table raw raw.words index =
          (fun ps => form.line raw index ps) <$> table.parameters raw.words k none) ∨
        Reaches raw .controlLine ∧ ∀ table index, Standard.controlLine table raw raw.words index =
          (fun ps => form.line raw index ps) <$> table.parameters raw.words k none) := by
  cases h with
  | blank _ => exact hasks.elim
  | comment _ _ => exact hasks.elim
  | text _ _ => exact hasks.elim
  | gCode hs hn hcode =>
    refine ⟨2, by rw [Text.words_of_spaced hs]; rfl, Or.inl ⟨leads_of_field hs hn, ?_⟩⟩
    exact codeLine_of_fields (Or.inl rfl) hs hn hcode
  | mCode hs hn hcode =>
    refine ⟨2, by rw [Text.words_of_spaced hs]; rfl, Or.inl ⟨leads_of_field hs hn, ?_⟩⟩
    exact codeLine_of_fields (Or.inr rfl) hs hn hcode
  | otherCode hs hn hother =>
    refine ⟨1, by rw [Text.words_of_spaced hs]; rfl, Or.inl ⟨leads_of_field hs hn, ?_⟩⟩
    intro table index
    obtain ⟨number, rfl, hnumber⟩ := hn
    cases tokens with
    | nil => exact absurd rfl hasks
    | cons second tokens =>
      cases second with
      | nil => exact absurd rfl (hs.isWord [] (by simp)).1
      | cons letter rest =>
        have hletter : ¬ (letter = 'G' ∨ letter = 'M') := by
          simpa [not_or] using hother (letter :: rest) rfl
        rw [Text.words_of_spaced hs, Standard.codeLine_of_no_code table hletter,
          Standard.fieldNumber_of_denotes hnumber, pure_bind]
        rfl
  | control hs =>
    have hws := Text.words_of_spaced hs
    refine ⟨1, by rw [hws]; rfl, Or.inr ⟨leads_of_spaced hs, ?_⟩⟩
    intro table index
    rw [hws, Standard.controlLine_of_keyword]
    simp only [Form.line, hws, List.headD_cons, List.drop_one, List.tail_cons]

/-! ## Following the calls -/

namespace Dialect

variable {d : Dialect} {raw : Text}

theorem Keeps.classify_to (h : d.Keeps .classify) (n : Nat) (raw : Text) (index : Int) :
    (d.buildersTo (n + 1)).classify raw index = Standard.classify (d.buildersTo n) raw index := by
  show d.classify (d.buildersTo n) raw index = _
  rw [show d.classify = Standard.classify from h]

theorem Keeps.codeLine_to (h : d.Keeps .codeLine) (n : Nat) (raw : Text) (tokens : List Text)
    (index : Int) :
    (d.buildersTo (n + 1)).codeLine raw tokens index =
      Standard.codeLine (d.buildersTo n) raw tokens index := by
  show d.codeLine (d.buildersTo n) raw tokens index = _
  rw [show d.codeLine = Standard.codeLine from h]

theorem Keeps.controlLine_to (h : d.Keeps .controlLine) (n : Nat) (raw : Text) (tokens : List Text)
    (index : Int) :
    (d.buildersTo (n + 1)).controlLine raw tokens index =
      Standard.controlLine (d.buildersTo n) raw tokens index := by
  show d.controlLine (d.buildersTo n) raw tokens index = _
  rw [show d.controlLine = Standard.controlLine from h]

theorem Keeps.parameters_to (h : d.Keeps .parameters) (n : Nat) (tokens : List Text) (k : Nat) :
    (d.buildersTo (n + 1)).parameters tokens k none =
      (tokens.drop k).mapM (Standard.param (d.buildersTo n)) := by
  show d.parameters (d.buildersTo n) tokens k none = _
  rw [show d.parameters = Standard.parameters from h, Standard.parameters_calls]

end Dialect

/-- Three calls deep, a line that gets as far as its parameters asks for them. -/
theorem Grammar.classify_asks {raw : Text} {form : Form} {tokens : List Text}
    (h : Grammar raw form tokens) (hasks : form.AsksFor tokens) :
    ∃ k : Nat, raw.words.drop k = tokens ∧ ∀ d : Dialect, d.Keeps .classify →
      (Reaches raw .codeLine → d.Keeps .codeLine) →
      (Reaches raw .controlLine → d.Keeps .controlLine) → ∀ (n : Nat) (index : Int),
        (d.buildersTo (n + 3)).classify raw index =
          (fun ps => form.line raw index ps) <$>
            (d.buildersTo (n + 1)).parameters raw.words k none := by
  obtain ⟨k, hdrop, ⟨hlead, hcalls⟩ | ⟨hlead, hcalls⟩⟩ := h.calls_parameters hasks
  · refine ⟨k, hdrop, ?_⟩
    intro d hclassify hcode _ n index
    obtain ⟨word, others, hws⟩ := Leads.words hlead
    rw [hclassify.classify_to, Standard.classify_calls_codeLine hws, (hcode hlead).codeLine_to, hcalls]
  · refine ⟨k, hdrop, ?_⟩
    intro d hclassify _ hcontrol n index
    obtain ⟨word, others, hws⟩ := Leads.words hlead
    rw [hclassify.classify_to, Standard.classify_calls_controlLine hws,
      (hcontrol hlead).controlLine_to, hcalls]

/-- Four calls deep, it has a parameter for each of its tokens. -/
theorem Grammar.classify_eq_mapM {raw : Text} {form : Form} {tokens : List Text}
    (h : Grammar raw form tokens) (hasks : form.AsksFor tokens) {d : Dialect}
    (hd : ∀ entry, entry ≠ .codeParam → entry ≠ .valueParam → Reaches raw entry → d.Keeps entry)
    (n : Nat) (index : Int) :
    (d.buildersTo (n + 4)).classify raw index =
      (fun ps => form.line raw index ps) <$> tokens.mapM (Standard.param (d.buildersTo (n + 1))) := by
  obtain ⟨k, hdrop, hclassify⟩ := h.classify_asks hasks
  have hfirst : d.Keeps .classify := hd .classify (by decide) (by decide) trivial
  have hcode : Reaches raw .codeLine → d.Keeps .codeLine := hd .codeLine (by decide) (by decide)
  have hcontrol : Reaches raw .controlLine → d.Keeps .controlLine :=
    hd .controlLine (by decide) (by decide)
  have hparameters : d.Keeps .parameters :=
    hd .parameters (by decide) (by decide) ⟨form, tokens, h, hasks⟩
  rw [hclassify d hfirst hcode hcontrol (n + 1) index, hparameters.parameters_to, hdrop]

/-! ## Entries that are not reached -/

/-- The parameter of a token, if the table keeps what the token asks for. -/
theorem param_eq_of_keeps {d : Dialect} {token : Text}
    (hvalue : ('=' : CodePoint) ∈ token → d.Keeps .valueParam)
    (hcode : ('=' : CodePoint) ∉ token → Coded token → d.Keeps .codeParam) (n : Nat) :
    Standard.param (d.buildersTo (n + 1)) token = Standard.param .standard token := by
  by_cases heq : ('=' : CodePoint) ∈ token
  · rw [Standard.param_calls_valueParam heq, Standard.param_calls_valueParam heq]
    show d.valueParam (d.buildersTo n) token = _
    rw [show d.valueParam = Standard.valueParam from hvalue heq]
    rfl
  by_cases hcoded : Coded token
  · rw [hcoded.param heq, hcoded.param heq]
    show d.codeParam (d.buildersTo n) token = _
    rw [show d.codeParam = Standard.codeParam from hcode heq hcoded]
    rfl
  · cases token with
    | nil => rfl
    | cons letter rest =>
      have hletter : ¬ (letter = 'G' ∨ letter = 'M') := by simpa [Coded] using hcoded
      rw [Standard.param_calls_nothing hletter heq, Standard.param_calls_nothing hletter heq]

/-- **A table that keeps what a line reaches** builds the line as the standard table does. -/
theorem classify_eq_of_keeps {d : Dialect} {raw : Text}
    (h : ∀ entry, Reaches raw entry → d.Keeps entry) (index : Int) :
    d.builders.classify raw index = Builders.standard.classify raw index := by
  have hclassify : d.Keeps .classify := h .classify trivial
  by_cases hreach : Reaches raw .parameters
  · obtain ⟨form, tokens, hform, hasks⟩ := hreach
    rw [classify_of_grammar hform index]
    show (d.buildersTo (996 + 4)).classify raw index = _
    rw [hform.classify_eq_mapM hasks fun entry _ _ => h entry]
    congr 1
    refine Attempt.mapM_congr ?_
    intro token hmem
    refine param_eq_of_keeps ?_ ?_ 996
    · intro heq
      exact h .valueParam ⟨form, tokens, hform, token, hmem, heq⟩
    · intro hno hcoded
      exact h .codeParam ⟨form, tokens, hform, token, hmem, hno, hcoded⟩
  · -- what is left is settled by a line builder alone
    show (d.buildersTo (999 + 1)).classify raw index = _
    rw [hclassify.classify_to, Builders.standard_classify]
    rcases exists_reaches_line raw with hline | hline | hline | hline | hline
    · have hblank : d.blank = Standard.blank := h .blank hline
      have hws := Text.words_of_blanks hline
      rw [Standard.classify_calls_blank hws, Standard.classify_calls_blank hws]
      show d.blank _ raw index = _
      rw [hblank]
      rfl
    · have hcomment : d.comment = Standard.comment := h .comment hline
      obtain ⟨word, others, hws⟩ := Leads.words hline
      rw [Standard.classify_calls_comment hws, Standard.classify_calls_comment hws]
      show d.comment _ raw index = _
      rw [hcomment]
      rfl
    · have hcode : d.codeLine = Standard.codeLine := h .codeLine hline
      obtain ⟨word, others, hws⟩ := Leads.words hline
      rw [Standard.classify_calls_codeLine hws, Standard.classify_calls_codeLine hws,
        Builders.standard_codeLine]
      show d.codeLine _ raw raw.words index = _
      rw [hcode]
      exact codeLine_calls_nothing hline hreach _ _ index
    · obtain ⟨word, others, hws⟩ := Leads.words hline
      exact absurd ⟨_, _, .control (Text.words_eq_iff.mp hws), trivial⟩ hreach
    · have htext : d.textLine = Standard.textLine := h .textLine hline
      obtain ⟨c, hlead, hc⟩ := hline
      obtain ⟨word, others, hws⟩ := hlead.words
      rw [Standard.classify_calls_textLine hws hc, Standard.classify_calls_textLine hws hc]
      show d.textLine _ raw index = _
      rw [htext]
      rfl

/-! ## Entries that are reached -/

/-- A line fails in a given way as soon as the parameter of one of its tokens does, if the other ones are
    those of the standard table. -/
theorem Grammar.fails_of_param {raw : Text} {form : Form} {tokens : List Text}
    (h : Grammar raw form tokens) (hread : ∀ token ∈ tokens, ¬ ∃ n, Refused token n) {d : Dialect}
    (hd : ∀ entry, entry ≠ .codeParam → entry ≠ .valueParam → d.Keeps entry) {n : Nat} {fault : Fault}
    (hall : ∀ token ∈ tokens, Standard.param (d.buildersTo (n + 1)) token = .fail fault ∨
      Standard.param (d.buildersTo (n + 1)) token = Standard.param .standard token)
    (hsome : ∃ token ∈ tokens, Standard.param (d.buildersTo (n + 1)) token = .fail fault)
    (index : Int) : ((d.buildersTo (n + 4)).classify raw index).result = .error fault := by
  have hasks : form.AsksFor tokens := by
    by_contra hno
    obtain ⟨token, hmem, _⟩ := hsome
    rw [h.tokens_eq_nil hno] at hmem
    exact absurd hmem List.not_mem_nil
  have hbuilt : ∀ token ∈ tokens, ∃ p, (Standard.param .standard token).result = .ok p :=
    Attempt.exists_result_mapM_eq_ok_iff.mp ((Standard.exists_mapM_param_ok_iff h.ne_nil).mpr hread)
  have hfail : (tokens.mapM (Standard.param (d.buildersTo (n + 1)))).result = .error fault := by
    refine Attempt.result_mapM_eq_error ?_ ?_
    · intro token hmem
      rcases hall token hmem with hfault | hsame
      · exact Or.inr (by rw [hfault]; rfl)
      · exact Or.inl (by rw [hsame]; exact hbuilt token hmem)
    · obtain ⟨token, hmem, hfault⟩ := hsome
      exact ⟨token, hmem, by rw [hfault]; rfl⟩
  rw [h.classify_eq_mapM hasks fun entry hcode hvalue _ => hd entry hcode hvalue, Attempt.result_map,
    hfail]
  rfl

/-- **A line fails with an entry that it reaches**: nothing that is reached is reached for nothing. -/
theorem fails_of_reaches {raw : Text}
    (hread : ∀ form tokens, Grammar raw form tokens → ∀ token ∈ tokens, ¬ ∃ n, Refused token n)
    {entry : Entry} (h : Reaches raw entry) (index : Int) (fault : Fault) :
    ((Dialect.standard.replacing [entry] (.failing fault)).builders.classify raw index).result =
      .error fault := by
  generalize hd : Dialect.standard.replacing [entry] (.failing fault) = d
  have hkeeps : ∀ other, other ≠ entry → d.Keeps other := by
    intro other hne
    rw [← hd]
    exact Dialect.keeps_replacing (by simpa using hne) _
  -- the calls before the one that fails are those of the standard table
  have hto : entry ≠ .classify →
      d.builders.classify raw index = Standard.classify (d.buildersTo 999) raw index := by
    intro hne
    exact (hkeeps .classify hne.symm).classify_to 999 raw index
  cases entry with
  | classify =>
    subst hd
    rfl
  | blank =>
    rw [hto (by decide), Standard.classify_calls_blank (Text.words_of_blanks h)]
    subst hd
    rfl
  | comment =>
    obtain ⟨word, others, hws⟩ := Leads.words h
    rw [hto (by decide), Standard.classify_calls_comment hws]
    subst hd
    rfl
  | codeLine =>
    obtain ⟨word, others, hws⟩ := Leads.words h
    rw [hto (by decide), Standard.classify_calls_codeLine hws]
    subst hd
    rfl
  | controlLine =>
    obtain ⟨word, others, hws⟩ := Leads.words h
    rw [hto (by decide), Standard.classify_calls_controlLine hws]
    subst hd
    rfl
  | textLine =>
    obtain ⟨c, hlead, hc⟩ := h
    obtain ⟨word, others, hws⟩ := hlead.words
    rw [hto (by decide), Standard.classify_calls_textLine hws hc]
    subst hd
    rfl
  | parameters =>
    obtain ⟨form, tokens, hform, hasks⟩ := h
    obtain ⟨k, _, hclassify⟩ := hform.classify_asks hasks
    show ((d.buildersTo (997 + 3)).classify raw index).result = _
    rw [hclassify d (hkeeps _ (by decide)) (fun _ => hkeeps _ (by decide))
      (fun _ => hkeeps _ (by decide))]
    subst hd
    rfl
  | codeParam =>
    have hfails : ∀ token, ('=' : CodePoint) ∉ token → Coded token →
        Standard.param (d.buildersTo 997) token = .fail fault := by
      intro token hno hcoded
      rw [hcoded.param hno]
      subst hd
      rfl
    obtain ⟨form, tokens, hform, token, hmem, hno, hcoded⟩ := h
    refine hform.fails_of_param (hread form tokens hform) (fun other hcode _ => hkeeps other hcode) ?_
      ⟨token, hmem, hfails token hno hcoded⟩ index
    intro token' _
    by_cases hother : ('=' : CodePoint) ∉ token' ∧ Coded token'
    · exact Or.inl (hfails token' hother.1 hother.2)
    · refine Or.inr (param_eq_of_keeps (fun _ => hkeeps _ (by decide)) ?_ 996)
      intro hno' hcoded'
      exact absurd ⟨hno', hcoded'⟩ hother
  | valueParam =>
    have hfails : ∀ token, ('=' : CodePoint) ∈ token →
        Standard.param (d.buildersTo 997) token = .fail fault := by
      intro token heq
      rw [Standard.param_calls_valueParam heq]
      subst hd
      rfl
    obtain ⟨form, tokens, hform, token, hmem, heq⟩ := h
    refine hform.fails_of_param (hread form tokens hform) (fun other _ hvalue => hkeeps other hvalue) ?_
      ⟨token, hmem, hfails token heq⟩ index
    intro token' _
    by_cases heq' : ('=' : CodePoint) ∈ token'
    · exact Or.inl (hfails token' heq')
    · exact Or.inr (param_eq_of_keeps (fun h => absurd h heq') (fun _ _ => hkeeps _ (by decide)) 996)

/-! ## Another builder of key and value -/

theorem classify_valuing_of_not_reaches {raw : Text} (h : ¬ Reaches raw .valueParam)
    (f : Builders → Text → Attempt Param) (index : Int) :
    (Dialect.valuing f).builders.classify raw index = Builders.standard.classify raw index := by
  refine classify_eq_of_keeps ?_ index
  intro entry hreach
  refine Dialect.keeps_valuing f ?_
  rintro rfl
  exact h hreach

/-- **With another builder of key and value**, a line has the parameters that this one makes of its tokens
    with an equals sign, and otherwise those that it always has. -/
theorem Grammar.classify_valuing {raw : Text} {form : Form} {tokens : List Text}
    (h : Grammar raw form tokens) (f : Builders → Text → Attempt Param) (index : Int) :
    (Dialect.valuing f).builders.classify raw index =
      (fun ps => form.line raw index ps) <$> tokens.mapM fun token =>
        if ('=' : CodePoint) ∈ token then f (Dialect.valuing f).innermost token
        else Standard.param .standard token := by
  by_cases hasks : form.AsksFor tokens
  · show ((Dialect.valuing f).buildersTo (996 + 4)).classify raw index = _
    rw [h.classify_eq_mapM hasks fun entry _ hvalue _ => Dialect.keeps_valuing f hvalue]
    congr 1
    refine Attempt.mapM_congr ?_
    intro token _
    by_cases heq : ('=' : CodePoint) ∈ token
    · rw [if_pos heq, Standard.param_calls_valueParam heq]
      rfl
    · rw [if_neg heq]
      exact param_eq_of_keeps (fun h => absurd h heq) (fun _ _ => Dialect.keeps_valuing f (by decide)) 996
  · -- without tokens, no builder of parameters is come to
    obtain rfl : tokens = [] := h.tokens_eq_nil hasks
    have hno : ¬ Reaches raw .valueParam := by
      rintro ⟨form', tokens', h', token, hmem, _⟩
      rw [← (h.unique h').2] at hmem
      exact absurd hmem List.not_mem_nil
    rw [classify_valuing_of_not_reaches hno, classify_of_grammar h index]
    rfl

theorem exists_grammar_of_classify_valuing {raw : Text} {f : Builders → Text → Attempt Param}
    {index : Int} {line : Line}
    (hline : ((Dialect.valuing f).builders.classify raw index).result = .ok line) :
    ∃ form tokens, Grammar raw form tokens := by
  rcases malformed_or_grammar raw with hbad | hform
  · have hno : ¬ Reaches raw .valueParam := by
      rintro ⟨form, tokens, h, _⟩
      exact h.not_malformed hbad
    obtain ⟨fault, hfault⟩ := classify_of_malformed hbad index
    rw [classify_valuing_of_not_reaches hno, hfault] at hline
    exact absurd hline (by simp)
  · exact hform

/-- The record of a line with a form holds the parameters of its tokens, one for each. -/
theorem Grammar.parameters_eq {raw : Text} {form : Form} {tokens : List Text}
    (h : Grammar raw form tokens) {g : Text → Attempt Param} {index : Int} {line : Line}
    (hline : ((fun ps => form.line raw index ps) <$> tokens.mapM g).result = .ok line) :
    (tokens.mapM g).result = .ok line.parameters ∧ line = form.line raw index line.parameters := by
  rw [← Attempt.bind_pure_eq_map, Attempt.result_bind_eq_ok_iff] at hline
  obtain ⟨ps, hps, hpure⟩ := hline
  obtain rfl : form.line raw index ps = line := Except.ok.inj hpure
  rw [h.parameters_line (Attempt.result_mapM_eq_ok_iff.mp hps).length_eq]
  exact ⟨hps, rfl⟩

/-- Records of one form differ in nothing but their parameters. -/
theorem Form.line_parameters (form : Form) (raw : Text) (index : Int) (ps ps' : List Param) :
    form.line raw index ps' =
      { form.line raw index ps with parameters := (form.line raw index ps').parameters } := by
  cases form <;> rfl

/-- **Replacing entries of a table** affects the lines that reach them, and no others.  For every line:
    (1) whichever entries are replaced, and by whatever: if the line reaches none of them, then it has the
        record, the fault and the events that it has under the standard table;
    (2) if none of its parameter tokens is refused, the entries it reaches are exactly those with which
        it fails, if they alone are replaced by one that always fails;
    (3) with `f` for the builder of key and value, the parameter of each token with an equals sign is
        what `f` makes of the token, every other one is that of the standard table, and so is all else
        in the record. -/
theorem replacement_reach (raw : Text) (index : Int) :
    (∀ (chosen : List Entry) (other : Dialect), (∀ entry ∈ chosen, ¬ Reaches raw entry) →
      (Dialect.standard.replacing chosen other).builders.classify raw index =
        Builders.standard.classify raw index) ∧
    ((∀ form tokens, Grammar raw form tokens → ∀ token ∈ tokens, ¬ ∃ n, Refused token n) →
      ∀ entry, Reaches raw entry ↔ ∀ fault,
        ((Dialect.standard.replacing [entry] (.failing fault)).builders.classify raw index).result =
          .error fault) ∧
    ∀ f : Builders → Text → Attempt Param,
      (∀ form tokens, Grammar raw form tokens →
        (Dialect.valuing f).builders.classify raw index =
          (fun ps => form.line raw index ps) <$> tokens.mapM fun token =>
            if ('=' : CodePoint) ∈ token then f (Dialect.valuing f).innermost token
            else Standard.param .standard token) ∧
      ∀ line, ((Dialect.valuing f).builders.classify raw index).result = .ok line →
        ∃ form tokens, Grammar raw form tokens ∧ line.parameters.length = tokens.length ∧
          (∀ (i : Nat) (token : Text), tokens[i]? = some token →
            ∃ p, line.parameters[i]? = some p ∧
              (('=' : CodePoint) ∈ token → (f (Dialect.valuing f).innermost token).result = .ok p) ∧
              (('=' : CodePoint) ∉ token → (Standard.param .standard token).result = .ok p)) ∧
          ∀ line', (Builders.standard.classify raw index).result = .ok line' →
            line' = { line with parameters := line'.parameters } ∧
            ∀ (i : Nat) (token : Text), tokens[i]? = some token → ('=' : CodePoint) ∉ token →
              line.parameters[i]? = line'.parameters[i]? := by
  have hunreached : ∀ (chosen : List Entry) (other : Dialect), (∀ entry ∈ chosen, ¬ Reaches raw entry) →
      (Dialect.standard.replacing chosen other).builders.classify raw index =
        Builders.standard.classify raw index := by
    intro chosen other hno
    refine classify_eq_of_keeps ?_ index
    intro entry hreach
    exact Dialect.keeps_replacing (fun hmem => hno entry hmem hreach) other
  refine ⟨hunreached, ?_, ?_⟩
  · intro hread entry
    refine ⟨fun hreach fault => fails_of_reaches hread hreach index fault, fun hfails => ?_⟩
    -- if it were not reached, the line would fail in two ways at once
    by_contra hno
    have hone := hfails .outOfRange
    have htwo := hfails .emptyToken
    rw [hunreached [entry] _ (by simpa using hno)] at hone htwo
    exact absurd (hone.symm.trans htwo) (by simp)
  · intro f
    refine ⟨fun form tokens h => h.classify_valuing f index, fun line hline => ?_⟩
    obtain ⟨form, tokens, h⟩ := exists_grammar_of_classify_valuing hline
    rw [h.classify_valuing f index] at hline
    obtain ⟨hps, heq⟩ := h.parameters_eq hline
    have hat : ∀ (i : Nat) (token : Text), tokens[i]? = some token →
        ∃ p, line.parameters[i]? = some p ∧
          (('=' : CodePoint) ∈ token → (f (Dialect.valuing f).innermost token).result = .ok p) ∧
          (('=' : CodePoint) ∉ token → (Standard.param .standard token).result = .ok p) := by
      intro i token htoken
      obtain ⟨p, hget, hp⟩ := Attempt.getElem?_of_result_mapM hps htoken
      refine ⟨p, hget, ?_, ?_⟩
      · intro hvalue
        rwa [if_pos hvalue] at hp
      · intro hno
        rwa [if_neg hno] at hp
    refine ⟨form, tokens, h, (Attempt.result_mapM_eq_ok_iff.mp hps).length_eq.symm, hat, ?_⟩
    intro line' hline'
    rw [classify_of_grammar h index] at hline'
    obtain ⟨hps', heq'⟩ := h.parameters_eq hline'
    constructor
    · calc line'
          = form.line raw index line'.parameters := heq'
        _ = { form.line raw index line.parameters with
              parameters := (form.line raw index line'.parameters).parameters } :=
            form.line_parameters raw index line.parameters line'.parameters
        _ = { line with parameters := line'.parameters } := by rw [← heq, ← heq']
    · intro i token htoken hno
      obtain ⟨p, hget, _, hp⟩ := hat i token htoken
      obtain ⟨p', hget', hp'⟩ := Attempt.getElem?_of_result_mapM hps' htoken
      rw [hget, hget', Except.ok.inj ((hp hno).symm.trans hp')]

/-- A numbered line with a value and a code for parameters: it reaches the builder of codes but not that of
    comments, and with text for every value only its first parameter changes. -/
theorem replacement_reach_text_values :
    (Dialect.standard.replacing [.comment] (.failing .outOfRange)).builders.classify
        "N1 G1 X=5 G2".toText 7 = Builders.standard.classify "N1 G1 X=5 G2".toText 7 ∧
    ((Dialect.standard.replacing [.codeParam] (.failing .outOfRange)).builders.classify
        "N1 G1 X=5 G2".toText 7).result = .error .outOfRange ∧
    ∃ line line' : Line,
      ((Dialect.valuing fun _ token => pure (.text (token.cut '=').1 (token.cut '=').2)).builders.classify
        "N1 G1 X=5 G2".toText 7).result = .ok line ∧
      (Builders.standard.classify "N1 G1 X=5 G2".toText 7).result = .ok line' ∧
      line.parameters[0]? = some (.text ['X'] ['5']) ∧
      line'.parameters[0]? = some (.integer ['X'] 5) ∧
      line.parameters[1]? = line'.parameters[1]? := by
  have hws : Text.words "N1 G1 X=5 G2".toText =
      ["N1".toText, "G1".toText, "X=5".toText, "G2".toText] := by decide
  have hone : Numeral.Denotes ['1'] 1 := Numeral.integer?_eq_some_iff.mp rfl
  have hform : Grammar "N1 G1 X=5 G2".toText (.gCode 1 1) ["X=5".toText, "G2".toText] :=
    .gCode (Text.words_eq_iff.mp hws) ⟨['1'], rfl, hone⟩ ⟨['1'], rfl, hone⟩
  have hstandard : ∃ line', (Builders.standard.classify "N1 G1 X=5 G2".toText 7).result = .ok line' ∧
      line'.parameters[0]? = some (.integer ['X'] 5) := ⟨_, rfl, rfl⟩
  obtain ⟨line', hline', hfirst'⟩ := hstandard
  have hread := (hform.built_iff 7).mp ⟨line', hline'⟩
  obtain ⟨hunreached, hexact, hvaluing⟩ := replacement_reach "N1 G1 X=5 G2".toText 7
  refine ⟨hunreached [.comment] _ ?_, (hexact ?_ .codeParam).mp ?_ .outOfRange, ?_⟩
  · rintro entry hmem hreach
    obtain rfl : entry = .comment := List.mem_singleton.mp hmem
    obtain ⟨word, others, hsemicolon⟩ := Leads.words hreach
    rw [hws] at hsemicolon
    exact absurd hsemicolon (by simp [String.toText])
  · intro form tokens h
    rw [← (hform.unique h).2]
    exact hread
  · exact ⟨_, _, hform, "G2".toText, by simp, by decide, Or.inl rfl⟩
  · obtain ⟨line, hline⟩ : ∃ line, ((Dialect.valuing fun _ token =>
        pure (.text (token.cut '=').1 (token.cut '=').2)).builders.classify
          "N1 G1 X=5 G2".toText 7).result = .ok line := ⟨_, rfl⟩
    obtain ⟨_, hrecord⟩ := hvaluing fun _ token => pure (.text (token.cut '=').1 (token.cut '=').2)
    obtain ⟨form, tokens, h, _, hat, hrest⟩ := hrecord line hline
    obtain ⟨_, rfl⟩ := hform.unique h
    obtain ⟨p, hp, hvalue, _⟩ := hat 0 _ rfl
    refine ⟨line, line', hline, hline', ?_, hfirst', (hrest line' hline').2 1 _ rfl (by decide)⟩
    rw [hp]
    exact congrArg some (Except.ok.inj (hvalue (by decide))).symm

end PartProgram
