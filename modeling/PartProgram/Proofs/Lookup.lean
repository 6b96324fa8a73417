/-
  Looking up the parameters of a line.

  1. **Program** — `param? id` searches the parameters of a record for the identifier, and `number? id`
     takes the value of what was found, unless that is a text.

  2. **Specification** — said of the tokens of the RAW line, without a record: a token has a `Text.key`, the
     text before its first equals sign or else the whole token; `FirstWith tokens id token` is the first
     token with the key; and `Carries token value` is the number that the token shows by its characters,
     exact or as the nearest double.

  3. **Tokens and parameters (`rel_find?`)** — the identifier of a parameter is the key of its token, so
     both searches stop at the same place.

  4. **The first one decides (`Line.number?_eq_some_iff`)** — a token that carries no number is found all the
     same, and what stands behind it is not looked at.
-/
import PartProgram.Proofs.Double.Nearest
import PartProgram.Proofs.ParameterRange

namespace PartProgram

open Numeral (Denotes DenotesDouble)

/-! ## Keys and numbers of tokens -/

/-- The text before the first equals sign, or the whole token if there is none. -/
def Text.key (token : Text) : Text := token.takeWhile (· != ('=' : CodePoint))

/-- `FirstWith tokens id token` — `token` has the key `id`, and none of the tokens before it has. -/
def FirstWith (tokens : List Text) (id token : Text) : Prop :=
  ∃ before after, tokens = before ++ token :: after ∧ token.key = id ∧
    ∀ earlier ∈ before, earlier.key ≠ id

/-- `Carries token value` — the token shows the number: behind its first equals sign, or, of an integer,
    behind the letter of a code. -/
inductive Carries : Text → Value → Prop where
  | integer {name literal : Text} {v : Int} (hname : ('=' : CodePoint) ∉ name) (hv : Denotes literal v) :
      Carries (name ++ ('=' : CodePoint) :: literal) (.integer v)
  | double {name literal : Text} {d : Double} (hname : ('=' : CodePoint) ∉ name)
      (hd : DenotesDouble literal d) :
      Carries (name ++ ('=' : CodePoint) :: literal) (.double d)
  | code {letter : CodePoint} {literal : Text} {v : Int} (hletter : letter = 'G' ∨ letter = 'M')
      (hplain : ('=' : CodePoint) ∉ letter :: literal) (hv : Denotes literal v) :
      Carries (letter :: literal) (.integer v)

theorem Text.key_of_not_mem {token : Text} (h : ('=' : CodePoint) ∉ token) : token.key = token := by
  apply List.takeWhile_eq_self_iff.mpr
  intro c hc
  exact bne_iff_ne.mpr fun heq => h (heq ▸ hc)

theorem Text.key_append {name value : Text} (h : ('=' : CodePoint) ∉ name) :
    Text.key (name ++ ('=' : CodePoint) :: value) = name := by
  have hname : ∀ c ∈ name, (c != '=') = true := fun c hc => bne_iff_ne.mpr fun heq => h (heq ▸ hc)
  rw [Text.key, List.takeWhile_append_of_pos hname, List.takeWhile_cons_of_neg (by decide), List.append_nil]

theorem firstWith_iff {tokens : List Text} {id token : Text} :
    FirstWith tokens id token ↔ tokens.find? (Text.key · == id) = some token := by
  rw [List.find?_eq_some_iff_append, beq_iff_eq]
  constructor
  · rintro ⟨before, after, heq, hkey, hbefore⟩
    exact ⟨hkey, before, after, heq, fun t ht => by simpa using hbefore t ht⟩
  · rintro ⟨hkey, before, after, heq, hbefore⟩
    exact ⟨before, after, heq, hkey, fun t ht => by simpa using hbefore t ht⟩

theorem FirstWith.unique {tokens : List Text} {id token token' : Text} (h : FirstWith tokens id token)
    (h' : FirstWith tokens id token') : token = token' :=
  Option.some.inj ((firstWith_iff.mp h).symm.trans (firstWith_iff.mp h'))

theorem not_firstWith {tokens : List Text} {id : Text} (h : ∀ token ∈ tokens, token.key ≠ id)
    (token : Text) : ¬ FirstWith tokens id token := by
  rintro ⟨before, after, rfl, hkey, _⟩
  exact h token (by simp) hkey

/-- The value of a parameter if that is a number. -/
def Param.number? (p : Param) : Option Value := if p.kind = .text then none else p.value

namespace ParamGrammar

variable {token : Text} {p : Param}

/-- The identifier of a parameter is the key of its token. -/
theorem identifier_eq (h : ParamGrammar token p) : p.identifier = token.key := by
  cases h with
  | integer hkey _ => exact (Text.key_append hkey).symm
  | double hkey _ => exact (Text.key_append hkey).symm
  | text hkey _ _ => exact (Text.key_append hkey).symm
  | code _ hplain _ => exact (Text.key_of_not_mem hplain).symm
  | bareCode _ hplain _ => exact (Text.key_of_not_mem hplain).symm
  | unknown _ hplain => exact (Text.key_of_not_mem hplain).symm

/-- **The number of a parameter is the one that its token carries.** -/
theorem number?_eq_some_iff (h : ParamGrammar token p) {value : Value} :
    p.number? = some value ↔ Carries token value := by
  constructor
  · intro hvalue
    cases h with
    | integer hkey hv =>
      obtain rfl := Option.some.inj hvalue
      exact .integer hkey hv
    | double hkey hdec =>
      obtain rfl := Option.some.inj hvalue
      exact .double hkey (Numeral.denotesDouble_iff.mpr ⟨hdec, rfl⟩)
    | code hletter hplain hv =>
      obtain rfl := Option.some.inj hvalue
      exact .code hletter hplain hv
    | text _ _ _ => exact nomatch hvalue
    | bareCode _ _ _ => exact nomatch hvalue
    | unknown _ _ => exact nomatch hvalue
  · -- the token is that of one parameter only
    intro hcarries
    cases hcarries with
    | integer hname hv => rw [h.unique (.integer hname hv)]; rfl
    | double hname hd =>
      obtain ⟨hdec, rfl⟩ := Numeral.denotesDouble_iff.mp hd
      rw [h.unique (.double hname hdec)]
      rfl
    | code hletter hplain hv => rw [h.unique (.code hletter hplain hv)]; rfl

end ParamGrammar

/-! ## Searching -/

/-- **Both searches stop at the same place.** -/
theorem rel_find? {tokens : List Text} {ps : List Param} (h : List.Forall₂ ParamGrammar tokens ps)
    (id : Text) :
    Option.Rel ParamGrammar (tokens.find? (Text.key · == id)) (ps.find? (·.identifier == id)) := by
  induction h with
  | nil => exact .none
  | @cons token p tokens ps hp _ ih =>
    rw [List.find?_cons, List.find?_cons, hp.identifier_eq]
    cases token.key == id with
    | true => exact .some hp
    | false => exact ih

namespace Line

variable {tokens : List Text} {line : Line}

theorem number?_eq (line : Line) (id : Text) :
    line.number? id = (line.param? id).bind Param.number? := by
  unfold number?
  cases line.param? id <;> rfl

/-- No token has the key, or the parameter of the first one that has it is found. -/
theorem param?_cases (h : List.Forall₂ ParamGrammar tokens line.parameters) (id : Text) :
    (line.param? id = none ∧ ∀ token ∈ tokens, token.key ≠ id) ∨
    ∃ token p, line.param? id = some p ∧ FirstWith tokens id token ∧ ParamGrammar token p := by
  have hrel := rel_find? h id
  simp only [firstWith_iff]
  cases htokens : tokens.find? (Text.key · == id) with
  | none =>
    rw [htokens] at hrel
    have hkeys : ∀ token ∈ tokens, token.key ≠ id := by simpa using htokens
    cases hparams : line.parameters.find? (·.identifier == id) with
    | none => exact Or.inl ⟨hparams, hkeys⟩
    | some p => rw [hparams] at hrel; exact nomatch hrel
  | some token =>
    rw [htokens] at hrel
    cases hparams : line.parameters.find? (·.identifier == id) with
    | none => rw [hparams] at hrel; exact nomatch hrel
    | some p =>
      rw [hparams] at hrel
      cases hrel with
      | some hp => exact Or.inr ⟨token, p, hparams, rfl, hp⟩

theorem param?_eq_none_iff (h : List.Forall₂ ParamGrammar tokens line.parameters) {id : Text} :
    line.param? id = none ↔ ∀ token ∈ tokens, token.key ≠ id := by
  rcases param?_cases h id with ⟨hnone, hkeys⟩ | ⟨token, p, hp, hfirst, _⟩
  · exact iff_of_true hnone hkeys
  · refine iff_of_false ?_ fun hkeys => not_firstWith hkeys token hfirst
    rw [hp]
    exact nofun

/-- **The parameter of the first token with the key is found.** -/
theorem param?_eq_some_iff (h : List.Forall₂ ParamGrammar tokens line.parameters) {id : Text}
    {p : Param} :
    line.param? id = some p ↔ ∃ token, FirstWith tokens id token ∧ ParamGrammar token p := by
  rcases param?_cases h id with ⟨hnone, hkeys⟩ | ⟨token, q, hq, hfirst, hgrammar⟩
  · rw [hnone]
    exact iff_of_false nofun fun ⟨token, hfirst, _⟩ => not_firstWith hkeys token hfirst
  · rw [hq]
    constructor
    · intro hp
      obtain rfl := Option.some.inj hp
      exact ⟨token, hfirst, hgrammar⟩
    · rintro ⟨token', hfirst', hgrammar'⟩
      obtain rfl := hfirst.unique hfirst'
      rw [hgrammar.unique hgrammar']

/-- **The number that the first token with the key carries is found.** -/
theorem number?_eq_some_iff (h : List.Forall₂ ParamGrammar tokens line.parameters) {id : Text}
    {value : Value} :
    line.number? id = some value ↔ ∃ token, FirstWith tokens id token ∧ Carries token value := by
  rw [number?_eq]
  rcases param?_cases h id with ⟨hnone, hkeys⟩ | ⟨token, p, hp, hfirst, hgrammar⟩
  · rw [hnone]
    exact iff_of_false nofun fun ⟨token, hfirst, _⟩ => not_firstWith hkeys token hfirst
  · rw [hp, Option.bind_some, hgrammar.number?_eq_some_iff]
    constructor
    · intro hcarries
      exact ⟨token, hfirst, hcarries⟩
    · rintro ⟨token', hfirst', hcarries⟩
      obtain rfl := hfirst.unique hfirst'
      exact hcarries

theorem number?_eq_none_iff (h : List.Forall₂ ParamGrammar tokens line.parameters) {id : Text} :
    line.number? id = none ↔
      ∀ token, FirstWith tokens id token → ¬ ∃ value, Carries token value := by
  rw [Option.eq_none_iff_forall_ne_some]
  constructor
  · rintro hnone token hfirst ⟨value, hcarries⟩
    exact hnone value ((number?_eq_some_iff h).mpr ⟨token, hfirst, hcarries⟩)
  · intro hnone value hvalue
    obtain ⟨token, hfirst, hcarries⟩ := (number?_eq_some_iff h).mp hvalue
    exact hnone token hfirst ⟨value, hcarries⟩

end Line

/-- **Looking up by identifier.**  For every raw line of which the standard table makes a numbered line or
    a control line, and every identifier, with the tokens of the line behind the leading ones:
    (1) no parameter is found exactly if no token has the identifier for its key;
    (2) otherwise it is the parameter of the first token that has;
    (3) the number found is the one that this first token carries, an exact integer or the nearest double;
    (4) none is found exactly if there is no such token or it carries none: in particular, a first
        parameter with a text hides all others, and a text is never found. -/
theorem number_lookup {raw : Text} {index : Int} {line : Line}
    (h : (Builders.standard.classify raw index).result = .ok line)
    (hkind : line.kind.isCode = true ∨ line.kind.isControl = true) (id : Text) :
    (line.param? id = none ↔ ∀ token ∈ raw.words.drop line.kind.leading, token.key ≠ id) ∧
    (∀ p, line.param? id = some p ↔
      ∃ token, FirstWith (raw.words.drop line.kind.leading) id token ∧ ParamGrammar token p) ∧
    (∀ value, line.number? id = some value ↔
      ∃ token, FirstWith (raw.words.drop line.kind.leading) id token ∧ Carries token value) ∧
    (line.number? id = none ↔
      ∀ token, FirstWith (raw.words.drop line.kind.leading) id token →
        ¬ ∃ value, Carries token value) ∧
    (∀ p, line.param? id = some p → p.kind = .text → line.number? id = none) ∧
    ∀ text, line.number? id ≠ some (.text text) := by
  have hbuild := Reader.result_build_of_classify (r := Reader.mk .standard true) h
  obtain ⟨_, _, _, hread⟩ := parameters_of_build hbuild hkind
  refine ⟨Line.param?_eq_none_iff hread, fun p => Line.param?_eq_some_iff hread,
    fun value => Line.number?_eq_some_iff hread, Line.number?_eq_none_iff hread, ?_, ?_⟩
  · intro p hp htext
    rw [Line.number?_eq, hp, Option.bind_some, Param.number?, if_pos htext]
  · intro text htext
    obtain ⟨token, _, hcarries⟩ := (Line.number?_eq_some_iff hread).mp htext
    exact nomatch hcarries

/-- A text that hides a number behind it, a code that is its own key, and a decimal. -/
theorem number_lookup_hidden :
    ∃ line, (Builders.standard.classify "N1 G1 X=a X=5 M+07 Y=-.5".toText 0).result = .ok line ∧
      line.number? "X".toText = none ∧ line.number? "M+07".toText = some (.integer 7) ∧
      ∃ d, line.number? "Y".toText = some (.double d) ∧ DenotesDouble "-.5".toText d := by
  have hlookup := number_lookup
    (show (Builders.standard.classify "N1 G1 X=a X=5 M+07 Y=-.5".toText 0).result = .ok _ from rfl)
    (Or.inl rfl)
  have hseven : Denotes "+07".toText 7 :=
    ⟨false, "07".toText, ⟨.plus, by decide, Numeral.all_isDigit_iff.mp rfl⟩, by decide, rfl⟩
  have hhalf : DenotesDouble "-.5".toText (Numeral.decimalValue "-.5".toText) :=
    Numeral.denotesDouble_iff.mpr
      ⟨⟨true, [], ['5'], .minus, Numeral.all_isDigit_iff.mp rfl, by decide⟩, rfl⟩
  obtain ⟨_, _, _, _, htext, _⟩ := hlookup "X".toText
  obtain ⟨_, _, hcode, _⟩ := hlookup "M+07".toText
  obtain ⟨_, _, hdecimal, _⟩ := hlookup "Y".toText
  refine ⟨_, rfl, htext _ rfl rfl, (hcode _).mpr ?_, _, (hdecimal _).mpr ?_, hhalf⟩
  · exact ⟨_, ⟨["X=a".toText, "X=5".toText], ["Y=-.5".toText], rfl, rfl, by decide⟩,
      .code (Or.inr rfl) (by decide) hseven⟩
  · exact ⟨_, ⟨["X=a".toText, "X=5".toText, "M+07".toText], [], rfl, rfl, by decide⟩,
      Carries.double (show ('=' : CodePoint) ∉ "Y".toText by decide) hhalf⟩

end PartProgram
