/-
  Which programs are written as JSON documents.

  1. **Program** — `Program.toJson` and `Json.render`.  An infinite double is spelled out, and there is no
     such word in JSON.

  2. **Specification** — `Document t j`, and `Each P j`: every double in the value `j` has the property
     `P`.  A decimal literal `Overflows` if its digits, as an integer, reach the overflow of doubles times
     the power of ten of its places; nothing is rounded to say so.

  3. **Finite doubles (`Each.shown`)** — by induction on the value, as for values without doubles.

  4. **Infinite ones (`stalls_of_sound`)** — the lexer stops at the name of an infinity.  The induction
     carries TWO ways to fail at once: there is an infinity in the value itself, or what follows the value
     cannot be lexed; with the second one the failure of an item is passed on by all items before it.

  5. **Lines (`doubles_of_build`)** — the doubles of a record are exactly those of the decimal literals in
     the parameter tokens of its line.  A literal that overflows is still a literal, and its double is an
     infinity.

  6. So a program is written as a document exactly if none of its literals overflows (`json_valid_iff`),
     and one that overflows is an input that is shown as no document (`json_invalid_beyond_range`).
-/
import PartProgram.Proofs.Json.Numbers
import PartProgram.Proofs.Text.Columns

namespace PartProgram

namespace Json

/-! ## Doubles in a value -/

/-- `Each P j` — every double in the value has the property. -/
inductive Each (P : Double → Prop) : Json → Prop where
  | null : Each P .null
  | integer (n : Int) : Each P (.integer n)
  | double {d : Double} (h : P d) : Each P (.double d)
  | string (t : Text) : Each P (.string t)
  | array {items : List Json} (h : ∀ j ∈ items, Each P j) : Each P (.array items)
  | object {members : List (Text × Json)} (h : ∀ member ∈ members, Each P member.2) :
      Each P (.object members)

section

variable {P : Double → Prop}

theorem each_double_iff {d : Double} : Each P (.double d) ↔ P d := by
  constructor
  · intro h
    cases h with
    | double h => exact h
  · exact .double

theorem each_array_iff {items : List Json} : Each P (.array items) ↔ ∀ j ∈ items, Each P j := by
  constructor
  · intro h
    cases h with
    | array h => exact h
  · exact .array

theorem each_object_iff {members : List (Text × Json)} :
    Each P (.object members) ↔ ∀ member ∈ members, Each P member.2 := by
  constructor
  · intro h
    cases h with
    | object h => exact h
  · exact .object

end

/-- **A value with finite doubles** is shown as its tokens. -/
theorem Each.shown {j : Json} (hsound : Each Double.Sound j)
    (hfinite : Each (·.isFinite = true) j) : Shown j := by
  induction hsound with
  | null => exact Plain.null.shown
  | integer n => exact (Plain.integer n).shown
  | string t => exact (Plain.string t).shown
  | @double d hd =>
    cases d with
    | infinite _ => exact nomatch each_double_iff.mp hfinite
    | finite negative m e =>
      exact shown_token (by rw [joinPairs, tokens]) fun _ => by rw [renderAt]; exact spells_render hd
  | array _ ih => exact shown_array fun j hj => ih j hj (each_array_iff.mp hfinite j hj)
  | object _ ih =>
    exact shown_object fun member hm => ih member hm (each_object_iff.mp hfinite member hm)

/-! ## Where the lexer stops -/

section

variable {rest : Text}

theorem lex_mark {c : CodePoint} (hc : isMark c = true) (rest : Text) :
    lex (c :: rest) = (lex rest).map (.mark c :: ·) :=
  lex_of_spells (.mark hc) fun hword => nomatch hword

theorem lex_newLine (level : Nat) (rest : Text) : lex (newLine level ++ rest) = lex rest :=
  lex_append_gap (fun _ => isGap_of_mem_newLine) rest

/-- A key and its colon do not help. -/
theorem lex_key_of_none (key : Text) (h : lex rest = none) :
    lex (renderString key ++ (": ".toText ++ rest)) = none := by
  have hblank : ∀ c ∈ ([' '] : Text), isGap c = true := List.all_eq_true.mp rfl
  have hcolon : lex (": ".toText ++ rest) = none := by
    show lex (':' :: (([' '] : Text) ++ rest)) = none
    rw [lex_mark (by decide), lex_append_gap hblank, h]
    rfl
  rw [lex_of_spells (spells_renderString key) (fun hword => nomatch hword), hcolon]
  rfl

/-- The lexer stops at a word that is no token. -/
theorem lex_of_unknown_word {w : Text} (hchars : ∀ c ∈ w, isWordChar c = true) (hne : w ≠ [])
    (hword : word? w = none) (hend : EndsWord rest) : lex (w ++ rest) = none := by
  obtain ⟨first, others, rfl⟩ := List.exists_cons_of_ne_nil hne
  obtain ⟨hfirst, hothers⟩ := List.forall_mem_cons.mp hchars
  obtain ⟨hgap, hmark, hquote⟩ := isGap_of_isWordChar hfirst
  obtain ⟨htake, _⟩ := takeWhile_append_stop hothers hend
  have htoken : token? first (others ++ rest) = none := by
    unfold token?
    rw [if_neg (by rw [hmark]; decide), if_neg hquote]
    dsimp only
    rw [htake, hword]
    rfl
  rw [List.cons_append, lex, if_neg (by rw [hgap]; decide), htoken]

end

/-- `Stalls j` — if there is an infinity in `j`, or if what follows cannot be lexed, then neither can
    what is rendered of `j` with what follows. -/
def Stalls (j : Json) : Prop :=
  ∀ (level : Nat) (rest : Text), EndsWord rest →
    ¬ Each (·.isFinite = true) j ∨ lex rest = none → lex (j.renderAt level ++ rest) = none

theorem stalls_token {j : Json} {token : Token} (hfinite : Each (·.isFinite = true) j)
    (h : ∀ level, Spells (j.renderAt level) token) : Stalls j := by
  intro level rest hend hbad
  have hrest : lex rest = none := hbad.resolve_left (not_not_intro hfinite)
  rw [lex_of_spells (h level) fun _ => hend, hrest]
  rfl

theorem stalls_infinite (negative : Bool) : Stalls (.double (.infinite negative)) := by
  intro level rest hend _
  have hword := word?_infinite negative
  rw [renderAt]
  refine lex_of_unknown_word (List.all_eq_true.mp ?_) ?_ hword hend
  · cases negative <;> rfl
  · cases negative <;> decide

theorem lex_renderItems {items : List Json} (h : ∀ j ∈ items, Stalls j) (level : Nat) {rest : Text}
    (hend : EndsWord rest)
    (hbad : (∃ j ∈ items, ¬ Each (·.isFinite = true) j) ∨ lex rest = none) :
    lex (renderItems level items ++ rest) = none := by
  induction items with
  | nil =>
    rcases hbad with ⟨j, hj, _⟩ | hrest
    · exact absurd hj List.not_mem_nil
    · rwa [renderItems]
  | cons item items ih =>
    obtain ⟨hitem, hitems⟩ := List.forall_mem_cons.mp h
    have hstalls : lex (item.renderAt (level + 1) ++ (renderItems level items ++ rest)) = none := by
      refine hitem (level + 1) _ (endsWord_renderItems level items hend) ?_
      rcases hbad with ⟨j, hj, hinfinite⟩ | hrest
      · rcases List.mem_cons.mp hj with rfl | hj
        · exact Or.inl hinfinite
        · exact Or.inr (ih hitems (Or.inl ⟨j, hj, hinfinite⟩))
      · exact Or.inr (ih hitems (Or.inr hrest))
    rw [renderItems]
    simp only [List.cons_append, List.append_assoc]
    rw [lex_mark (by decide), lex_newLine, hstalls]
    rfl

theorem lex_renderMembers {members : List (Text × Json)} (h : ∀ member ∈ members, Stalls member.2)
    (level : Nat) {rest : Text} (hend : EndsWord rest)
    (hbad : (∃ member ∈ members, ¬ Each (·.isFinite = true) member.2) ∨ lex rest = none) :
    lex (renderMembers level members ++ rest) = none := by
  induction members with
  | nil =>
    rcases hbad with ⟨j, hj, _⟩ | hrest
    · exact absurd hj List.not_mem_nil
    · rwa [renderMembers]
  | cons member members ih =>
    obtain ⟨key, value⟩ := member
    obtain ⟨hvalue, hmembers⟩ := List.forall_mem_cons.mp h
    have hstalls : lex (value.renderAt (level + 1) ++ (renderMembers level members ++ rest)) = none := by
      refine hvalue (level + 1) _ (endsWord_renderMembers level members hend) ?_
      rcases hbad with ⟨other, hm, hinfinite⟩ | hrest
      · rcases List.mem_cons.mp hm with rfl | hm
        · exact Or.inl hinfinite
        · exact Or.inr (ih hmembers (Or.inl ⟨other, hm, hinfinite⟩))
      · exact Or.inr (ih hmembers (Or.inr hrest))
    rw [renderMembers]
    simp only [List.cons_append, List.append_assoc]
    rw [lex_mark (by decide), lex_newLine, lex_key_of_none key hstalls]
    rfl

/-- The items of an array follow its bracket as others follow a comma. -/
theorem stalls_array {items : List Json} (h : ∀ j ∈ items, Stalls j) : Stalls (.array items) := by
  intro level rest hend hbad
  have hbad' : (∃ j ∈ items, ¬ Each (·.isFinite = true) j) ∨
      lex (newLine level ++ (']' :: rest : Text)) = none := by
    rw [each_array_iff] at hbad
    push Not at hbad
    refine hbad.imp_right fun hrest => ?_
    rw [lex_newLine, lex_mark (by decide), hrest]
    rfl
  have hlex := lex_renderItems h level (endsWord_newLine level (']' :: rest)) hbad'
  cases items with
  | nil =>
    rw [renderItems, List.nil_append, lex_newLine] at hlex
    rw [renderAt]
    show lex ('[' :: ']' :: rest) = none
    rw [lex_mark (by decide), hlex]
    rfl
  | cons first items =>
    rw [renderItems] at hlex
    rw [renderAt]
    simp only [List.cons_append, List.append_assoc, List.nil_append] at hlex ⊢
    rw [lex_mark (by decide), Option.map_eq_none_iff] at hlex
    rw [lex_mark (by decide), hlex]
    rfl

theorem stalls_object {members : List (Text × Json)} (h : ∀ member ∈ members, Stalls member.2) :
    Stalls (.object members) := by
  intro level rest hend hbad
  have hbad' : (∃ member ∈ members, ¬ Each (·.isFinite = true) member.2) ∨
      lex (newLine level ++ ('\x7d' :: rest : Text)) = none := by
    rw [each_object_iff] at hbad
    push Not at hbad
    refine hbad.imp_right fun hrest => ?_
    rw [lex_newLine, lex_mark (by decide), hrest]
    rfl
  have hlex := lex_renderMembers h level (endsWord_newLine level ('\x7d' :: rest)) hbad'
  cases members with
  | nil =>
    rw [renderMembers, List.nil_append, lex_newLine] at hlex
    rw [renderAt]
    show lex ('\x7b' :: '\x7d' :: rest) = none
    rw [lex_mark (by decide), hlex]
    rfl
  | cons member members =>
    obtain ⟨key, first⟩ := member
    rw [renderMembers] at hlex
    rw [renderAt]
    simp only [List.cons_append, List.append_assoc, List.nil_append] at hlex ⊢
    rw [lex_mark (by decide), Option.map_eq_none_iff] at hlex
    rw [lex_mark (by decide), hlex]
    rfl

/-- **What is rendered of a value with an infinity cannot be lexed.** -/
theorem stalls_of_sound {j : Json} (h : Each Double.Sound j) : Stalls j := by
  induction h with
  | null => exact stalls_token .null fun _ => by rw [renderAt]; exact .null
  | integer n => exact stalls_token (.integer n) fun _ => by rw [renderAt]; exact spells_ofInt n
  | string t => exact stalls_token (.string t) fun _ => by rw [renderAt]; exact spells_renderString t
  | @double d hd =>
    cases d with
    | infinite negative => exact stalls_infinite negative
    | finite negative m e =>
      exact stalls_token (.double rfl) fun _ => by rw [renderAt]; exact spells_render hd
  | array _ ih => exact stalls_array ih
  | object _ ih => exact stalls_object ih

/-- **A value is written as a document** exactly if all its doubles are finite. -/
theorem exists_document_iff {j : Json} (h : Each Double.Sound j) :
    (∃ j', Document (j.render ++ (['\n'] : Text)) j') ↔ Each (·.isFinite = true) j := by
  constructor
  · rintro ⟨j', hdocument⟩
    by_contra hinfinite
    have hend : EndsWord ['\n'] := endsWord_cons (by decide) []
    have hlex := stalls_of_sound h 0 ['\n'] hend (Or.inl hinfinite)
    exact absurd ((lex_of_lexes hdocument).symm.trans hlex) (by simp)
  · intro hfinite
    exact ⟨j.joinPairs, (h.shown hfinite).document⟩

end Json

/-! ## Literals that overflow -/

namespace Numeral

/-- `Overflows t` — the decimal literal is at least the midpoint behind the greatest double. -/
def Overflows (t : Text) : Prop :=
  ∃ negative whole fraction, Signed t negative (whole ++ ('.' : CodePoint) :: fraction) ∧
    (∀ c ∈ whole ++ fraction, IsDigit c) ∧
    Double.overflow * 10 ^ fraction.length ≤ positional (whole ++ fraction)

theorem sound_decimalValue {t : Text} (h : IsDecimal t) : (decimalValue t).Sound := by
  obtain ⟨negative, whole, fraction, hs, hdigits, _⟩ := h
  rw [decimalValue_of_signed hs hdigits]
  exact Double.sound_ofRatio (Nat.pow_pos (by decide))

/-- **A decimal literal has a finite double** exactly if it does not overflow. -/
theorem isFinite_decimalValue_iff {t : Text} (h : IsDecimal t) :
    (decimalValue t).isFinite = true ↔ ¬ Overflows t := by
  constructor
  · rintro hfinite ⟨negative, whole, fraction, hs, hdigits, hover⟩
    rw [decimalValue_of_signed hs hdigits,
      Double.isFinite_ofRatio_iff (Nat.pow_pos (by decide))] at hfinite
    omega
  · intro hwithin
    obtain ⟨negative, whole, fraction, hs, hdigits, _⟩ := h
    rw [decimalValue_of_signed hs hdigits, Double.isFinite_ofRatio_iff (Nat.pow_pos (by decide))]
    by_contra hover
    exact hwithin ⟨negative, whole, fraction, hs, hdigits, Nat.not_lt.mp hover⟩

end Numeral

/-! ## Lines -/

/-- `HoldsDecimal raw literal` — the decimal literal stands behind the first equals sign of a parameter
    token of the line. -/
def HoldsDecimal (raw literal : Text) : Prop :=
  ∃ form tokens key, Grammar raw form tokens ∧ key ++ ('=' : CodePoint) :: literal ∈ tokens ∧
    ('=' : CodePoint) ∉ key ∧ Numeral.IsDecimal literal

/-- `p.HasDouble P` — if the parameter is a double, its value is there and has the property. -/
def Param.HasDouble (P : Double → Prop) (p : Param) : Prop :=
  p.kind = .double → ∃ d, p.doubleValue = some d ∧ P d

/-- **The doubles of a record** are those of the decimal literals of its line. -/
theorem doubles_of_build {strict : Bool} {raw : Text} {index : Int} {line : Line}
    (h : ((Reader.mk .standard strict).build raw index).result = .ok line) (P : Double → Prop) :
    (∀ p ∈ line.parameters, p.HasDouble P) ↔
      ∀ literal, HoldsDecimal raw literal → P (Numeral.decimalValue literal) := by
  rcases exists_form_of_build h with ⟨form, tokens, ps, hform, hps, rfl⟩ | ⟨hbad, rfl⟩
  · rw [hform.parameters_line (Attempt.result_mapM_eq_ok_iff.mp hps).length_eq index]
    constructor
    · rintro hall literal ⟨form', tokens', key, hform', hmem, hkey, hdec⟩
      obtain ⟨rfl, rfl⟩ := hform.unique hform'
      obtain ⟨j, hj⟩ := List.mem_iff_getElem?.mp hmem
      obtain ⟨p, hp, hread⟩ := Attempt.getElem?_of_result_mapM hps hj
      obtain rfl := (Standard.param_eq_ok_iff.mp hread).unique (.double hkey hdec)
      obtain ⟨d, hd, hP⟩ := hall _ (List.mem_of_getElem? hp) rfl
      rwa [Option.some.inj hd]
    · intro hall p hp hkind
      obtain ⟨token, hmem, hread⟩ := Attempt.exists_of_mem_result_mapM hps hp
      cases Standard.param_eq_ok_iff.mp hread with
      | double hkey hdec => exact ⟨_, rfl, hall _ ⟨form, tokens, _, hform, hmem, hkey, hdec⟩⟩
      | integer _ _ => exact nomatch hkind
      | text _ _ _ => exact nomatch hkind
      | code _ _ _ => exact nomatch hkind
      | bareCode _ _ _ => exact nomatch hkind
      | unknown _ _ => exact nomatch hkind
  · constructor
    · rintro _ literal ⟨form, tokens, key, hform, _⟩
      exact absurd hbad hform.not_malformed
    · exact fun _ p hp => absurd hp List.not_mem_nil

/-! ## Programs -/

section

variable {P : Double → Prop}

theorem Param.each_toJson_iff {p : Param} (h : p.WellFormed) : Json.Each P p.toJson ↔ p.HasDouble P := by
  have hvalue : Json.Each P p.toJson ↔ Json.Each P (Value.toJson p.value) := by
    simp [Param.toJson, Json.each_object_iff, Json.Each.string]
  rw [hvalue]
  obtain ⟨kind, identifier, intValue, doubleValue, textValue⟩ := p
  have hpayload := h.payload
  cases kind with
  | double =>
    obtain ⟨d, rfl⟩ := Option.isSome_iff_exists.mp hpayload.2.1
    simp [HasDouble, Param.value, Value.toJson, Json.each_double_iff]
  | text =>
    refine iff_of_true ?_ (by rintro ⟨⟩)
    cases textValue with
    | none => exact .null
    | some t => exact .string t
  | _ =>
    refine iff_of_true ?_ (by rintro ⟨⟩)
    cases intValue with
    | none => exact .null
    | some n => exact .integer n

theorem Json.each_ofInt? (n : Option Int) : Json.Each P (Json.ofInt? n) := by
  cases n with
  | none => exact .null
  | some n => exact .integer n

theorem Json.each_ofText? (t : Option Text) : Json.Each P (Json.ofText? t) := by
  cases t with
  | none => exact .null
  | some t => exact .string t

/-- Of a well formed record, only the parameters can hold doubles. -/
theorem Line.each_toJson_iff {line : Line} (h : line.WellFormed) :
    Json.Each P line.toJson ↔ ∀ p ∈ line.parameters, p.HasDouble P := by
  have hparams : Json.Each P line.toJson ↔ ∀ p ∈ line.parameters, Json.Each P p.toJson := by
    obtain ⟨index, kind, raw, n, code, parameters, comment⟩ := line
    have hfields := h.fields
    cases kind <;> cases code <;>
      simp_all [Line.toJson, LineKind.isCode, LineKind.isControl, Json.each_object_iff,
        Json.each_array_iff, Json.Each.integer, Json.Each.string, Json.each_ofInt?, Json.each_ofText?]
  rw [hparams]
  exact forall₂_congr fun p hp => Param.each_toJson_iff (h.parameters p hp)

theorem Program.each_toJson_iff {p : Program} (h : ∀ line ∈ p.lines, line.WellFormed) :
    Json.Each P p.toJson ↔ ∀ line ∈ p.lines, ∀ param ∈ line.parameters, param.HasDouble P := by
  rw [Program.toJson, Json.each_array_iff, List.forall_mem_map]
  exact forall₂_congr fun line hmem => Line.each_toJson_iff (h line hmem)

end

/-- Every double of the program is finite. -/
def Program.IsFinite (p : Program) : Prop :=
  ∀ line ∈ p.lines, ∀ param ∈ line.parameters, param.kind = .double →
    ∃ d, param.doubleValue = some d ∧ d.isFinite = true

section

variable {strict : Bool} {source : Source} {p : Program}

/-- What holds of the doubles of every line that is read holds of those of the program. -/
theorem doubles_of_parse (h : ((Reader.mk .standard strict).parse source).result = .ok p)
    (P : Double → Prop) :
    (∀ line ∈ p.lines, ∀ param ∈ line.parameters, param.HasDouble P) ↔
      ∀ raw ∈ source.rawLines, ∀ literal, HoldsDecimal raw literal → P (Numeral.decimalValue literal) := by
  obtain ⟨hlines, _⟩ := Reader.result_parse_eq_ok_iff.mp h
  constructor
  · intro hall raw hraw
    obtain ⟨j, hj⟩ := List.mem_iff_getElem?.mp hraw
    obtain ⟨line, hline, hbuild⟩ := (Reader.getElem?_of_buildAll_ok hlines).2 j raw hj
    exact (doubles_of_build hbuild P).mp (hall line (List.mem_of_getElem? hline))
  · intro hall line hline
    obtain ⟨j, raw, hraw, hbuild⟩ := Reader.exists_build_of_mem hlines hline
    exact (doubles_of_build hbuild P).mpr (hall raw (List.mem_of_getElem? hraw))

/-- All doubles that are read are sound. -/
theorem sound_of_parse (h : ((Reader.mk .standard strict).parse source).result = .ok p) :
    Json.Each Double.Sound p.toJson ∧
      (Json.Each (·.isFinite = true) p.toJson ↔ p.IsFinite) := by
  have hwell := wellFormed_of_parse h
  rw [Program.each_toJson_iff hwell, Program.each_toJson_iff hwell, doubles_of_parse h]
  refine ⟨?_, Iff.rfl⟩
  rintro raw _ literal ⟨_, _, _, _, _, _, hdec⟩
  exact Numeral.sound_decimalValue hdec

end

/-- **Which programs are written as JSON documents.**  For every source of any kind that is read under the
    standard table, by a reader strict or permissive:
    (1) the doubles of the program are finite exactly if no decimal literal in a parameter of its lines
        overflows;
    (2) what is written of the program is a JSON document exactly if its doubles are finite;
    (3) it is then the document of the program itself, doubles and all: its one value is the array of the
        records with their pairs of surrogates put together, a decoder finds the array of the records
        itself exactly if no line holds a pair, and the records are rebuilt from that array;
    (4) this is what the command shows in the style of JSON. -/
theorem json_valid_iff {strict : Bool} {source : Source} {p : Program}
    (h : ((Reader.mk .standard strict).parse source).result = .ok p) :
    (p.IsFinite ↔
      ∀ raw ∈ source.rawLines, ∀ literal, HoldsDecimal raw literal → ¬ Numeral.Overflows literal) ∧
    ((∃ j, Json.Document (p.toJson.render ++ (['\n'] : Text)) j) ↔ p.IsFinite) ∧
    (p.IsFinite →
      (∀ j, Json.Document (p.toJson.render ++ (['\n'] : Text)) j ↔
        j = (Json.array (p.lines.map Line.toJson)).joinPairs) ∧
      (Json.decode (p.toJson.render ++ (['\n'] : Text)) = some (.array (p.lines.map Line.toJson)) ↔
        ∀ line ∈ p.lines, ¬ line.raw.HoldsPair) ∧
      (p.lines.map Line.toJson).mapM Line.ofJson? = some p.lines) ∧
    ∀ t output, Command.Dumps .json t p output → t.lines.length ≤ 10 ^ Numeral.digitLimit →
      output = p.toJson.render ++ (['\n'] : Text) := by
  obtain ⟨hsound, hfinite⟩ := sound_of_parse h
  refine ⟨?_, ?_, fun hall => ?_, fun t output hdump hsize => hdump.output_eq hsize⟩
  · refine (doubles_of_parse h (·.isFinite = true)).trans ?_
    refine forall₂_congr fun raw _ => forall₂_congr fun literal hholds => ?_
    obtain ⟨_, _, _, _, _, _, hdec⟩ := hholds
    exact Numeral.isFinite_decimalValue_iff hdec
  · rw [Json.exists_document_iff hsound, hfinite]
  · obtain ⟨hvalues, hdecode⟩ :=
      Program.values_of_shown (hsound.shown (hfinite.mpr hall)) (infix_of_parse h)
    exact ⟨hvalues, hdecode, mapM_lineOfJson? (wellFormed_of_parse h)⟩

/-- A tenth, which is no double, and a literal without digits behind its point. -/
theorem json_valid_iff_tenth :
    ∃ p, ((Reader.mk .standard true).parse (.text "N1 X=-0.1 Y=1.".toText)).result = .ok p ∧
      p.IsFinite ∧ (∃ j, Json.Document (p.toJson.render ++ (['\n'] : Text)) j) ∧
      Json.decode (p.toJson.render ++ (['\n'] : Text)) = some (.array (p.lines.map Line.toJson)) := by
  have hparse : ((Reader.mk .standard true).parse (.text "N1 X=-0.1 Y=1.".toText)).result =
      .ok ⟨[{ index := 0, kind := .otherCode, raw := "N1 X=-0.1 Y=1.".toText, n := some 1
              parameters := [.double ['X'] (.finite true 7205759403792794 (-56)),
                .double ['Y'] (.finite false (2 ^ 52) (-52))] }]⟩ := rfl
  obtain ⟨_, hdocument, hdecode, _⟩ := json_valid_iff hparse
  refine ⟨_, hparse, ?finite, hdocument.mpr ?finite, (hdecode ?finite).2.1.mpr ?none⟩
  case none => exact List.forall_mem_singleton.mpr (Text.not_holdsPair_chars _)
  intro line hline param hparam _
  obtain rfl := List.mem_singleton.mp hline
  rcases List.mem_cons.mp hparam with rfl | hparam
  · exact ⟨_, rfl, rfl⟩
  · obtain rfl := List.mem_singleton.mp hparam
    exact ⟨_, rfl, rfl⟩

/-! ## A literal that overflows -/

theorem Numeral.IsDecimal.isWord {t : Text} (h : IsDecimal t) : Text.IsWord t := by
  obtain ⟨negative, whole, fraction, hs, hdigits, _⟩ := h
  have hbody : Text.IsWord (whole ++ ('.' : CodePoint) :: fraction) := by
    refine ⟨by simp, fun c hc => ?_⟩
    rcases List.mem_append.mp hc with hc | hc
    · exact Text.isBlank_of_isDigit (hdigits c (List.mem_append_left _ hc))
    · rcases List.mem_cons.mp hc with rfl | hc
      · decide
      · exact Text.isBlank_of_isDigit (hdigits c (List.mem_append_right _ hc))
  cases hs with
  | plain => exact hbody
  | plus => exact ⟨by simp, List.forall_mem_cons.mpr ⟨by decide, hbody.2⟩⟩
  | minus => exact ⟨by simp, List.forall_mem_cons.mpr ⟨by decide, hbody.2⟩⟩

theorem lines_decimal {literal : Text} (h : Numeral.IsDecimal literal) :
    Text.lines ("N1 X=".toText ++ literal) = ["N1 X=".toText ++ literal] := by
  have hunbroken : Text.Unbroken ("N1 X=".toText ++ literal) :=
    Text.Unbroken.append ⟨by decide, by decide⟩ h.isWord.unbroken
  exact Text.lines_of_no_line_end (List.cons_ne_nil _ _) hunbroken.1 hunbroken.2

/-- **A decimal literal is read**, however many digits it has. -/
theorem parse_decimal {literal : Text} (h : Numeral.IsDecimal literal) :
    ((Reader.mk .standard true).parse (.text ("N1 X=".toText ++ literal))).result =
      .ok ⟨[{ index := 0, kind := .otherCode, raw := "N1 X=".toText ++ literal, n := some 1
              parameters := [.double ['X'] (Numeral.decimalValue literal)] }]⟩ := by
  have hkeyed : ParamGrammar ('X' :: '=' :: literal) (.double ['X'] (Numeral.decimalValue literal)) :=
    .double (by decide : ('=' : CodePoint) ∉ (['X'] : Text)) h
  have hword : Text.IsWord ('X' :: '=' :: literal) := by
    refine ⟨by simp, List.forall_mem_cons.mpr ⟨by decide, List.forall_mem_cons.mpr ⟨by decide, ?_⟩⟩⟩
    exact h.isWord.2
  have hspaced : Text.Spaced ("N1 X=".toText ++ literal) [['N', '1'], 'X' :: '=' :: literal] := by
    have hnone : Text.Blanks [] := fun c hc => absurd hc List.not_mem_nil
    have hlast : Text.Spaced (([' '] : Text) ++ (('X' :: '=' :: literal : Text) ++ []))
        ['X' :: '=' :: literal] :=
      .word (List.all_eq_true.mp rfl) hword (by simp) (.blanks hnone)
    rw [List.append_nil] at hlast
    have hnumber : Text.IsWord ['N', '1'] :=
      ⟨by simp, List.forall_mem_cons.mpr ⟨by decide, List.forall_mem_singleton.mpr (by decide)⟩⟩
    have hgap : ∀ c ∈ (' ' :: 'X' :: '=' :: literal : Text).head?, Text.isBlank c = true := by
      intro c hc
      obtain rfl := Option.some.inj hc
      decide
    exact .word hnone hnumber hgap hlast
  have hone : Numeral.IsLiteral ['1'] false ['1'] :=
    ⟨.plain, by decide, List.forall_mem_singleton.mpr (by decide)⟩
  have hform : Grammar ("N1 X=".toText ++ literal) (.otherCode 1) ['X' :: '=' :: literal] :=
    .otherCode hspaced ⟨['1'], rfl, false, ['1'], hone, by decide, rfl⟩ (by simp)
  have hbuild : ((Reader.mk .standard true).build ("N1 X=".toText ++ literal) 0).result =
      .ok { index := 0, kind := .otherCode, raw := "N1 X=".toText ++ literal, n := some 1
            parameters := [.double ['X'] (Numeral.decimalValue literal)] } := by
    have hps : (([('X' :: '=' :: literal : Text)] : List Text).mapM (Standard.param .standard)).result =
        .ok [.double ['X'] (Numeral.decimalValue literal)] :=
      Attempt.result_mapM_eq_ok_iff.mpr (.cons (Standard.param_eq_ok_iff.mpr hkeyed) .nil)
    rw [hform.build_eq, Reader.result_announce, Attempt.result_map, hps]
    rfl
  rw [Reader.result_parse_eq_ok_iff]
  refine ⟨?_, rfl⟩
  show ((Reader.mk .standard true).buildAll 0 (Text.lines _)).result = _
  rw [lines_decimal h, Reader.buildAll_cons, Attempt.result_bind_eq_ok_iff]
  exact ⟨_, hbuild, rfl⟩

/-- A one and 309 zeros, with a point behind them. -/
def beyondRange : Text := ('1' : CodePoint) :: List.replicate 309 ('0' : CodePoint) ++ ".0".toText

theorem overflows_beyondRange : Numeral.IsDecimal beyondRange ∧ Numeral.Overflows beyondRange := by
  have hs : Numeral.Signed beyondRange false
      ((('1' : CodePoint) :: List.replicate 309 ('0' : CodePoint)) ++ ('.' : CodePoint) :: ['0']) := .plain
  have hdigits : ∀ c ∈ (('1' : CodePoint) :: List.replicate 309 ('0' : CodePoint)) ++ (['0'] : Text),
      Numeral.IsDigit c := by
    rw [List.forall_mem_append, List.forall_mem_cons]
    exact ⟨⟨by decide, Json.isDigit_zeros⟩, List.forall_mem_singleton.mpr (by decide)⟩
  refine ⟨⟨false, _, _, hs, hdigits, List.cons_ne_nil _ _⟩, false, _, _, hs, hdigits, ?_⟩
  have hle : Double.overflow ≤ 10 ^ 309 := by
    unfold Double.overflow
    decide +kernel
  rw [Numeral.positional_append, Numeral.positional, Numeral.positional_zeros, List.length_replicate]
  generalize Double.overflow = bound at hle ⊢
  generalize 10 ^ 309 = power at hle ⊢
  show bound * 10 ≤ (1 * power + 0) * 10 + 0
  omega

/-- **Not every program is written as a document**: the command takes this file, the one double in it is
    infinite, and what is shown is not JSON. -/
theorem json_invalid_beyond_range :
    ∃ p output d, Command.Dumps .json ("N1 X=".toText ++ beyondRange) p output ∧
      p.lines.map Line.parameters = [[.double ['X'] d]] ∧ d.isFinite = false ∧
      ¬ ∃ j, Json.Document output j := by
  obtain ⟨hdec, hover⟩ := overflows_beyondRange
  have hparse := parse_decimal hdec
  have hchars : "N1 X=".toText ++ beyondRange =
      ("N1 X=1".toList ++ List.replicate 309 '0' ++ ".0".toList).map .char := by
    rw [List.map_append, List.map_append, List.map_replicate]
    rfl
  have hplan : Command.plan {} ["--json".toText, "a".toText] = .ok { style := .json, .. } := rfl
  have hruns : ∀ p,
      ((Reader.mk .standard true).parse (.text ("N1 X=".toText ++ beyondRange))).result = .ok p →
        ∃ output, Command.Dumps .json ("N1 X=".toText ++ beyondRange) p output := by
    rw [hchars]
    exact fun p hp => ⟨_, Command.Dumps.of_chars hplan hp⟩
  obtain ⟨output, hdump⟩ := hruns _ hparse
  have hsize : (Text.lines ("N1 X=".toText ++ beyondRange)).length ≤ 10 ^ Numeral.digitLimit := by
    rw [lines_decimal hdec]
    exact Numeral.le_pow_digitLimit (by decide)
  have hinfinite : (Numeral.decimalValue beyondRange).isFinite = false := by
    rw [← Bool.not_eq_true, Numeral.isFinite_decimalValue_iff hdec, not_not]
    exact hover
  refine ⟨_, output, Numeral.decimalValue beyondRange, hdump, rfl, hinfinite, ?_⟩
  obtain ⟨hsound, hfinite⟩ := sound_of_parse hparse
  rw [show output = _ from hdump.output_eq hsize]
  show ¬ ∃ j, Json.Document (Json.render (Program.toJson _) ++ (['\n'] : Text)) j
  rw [Json.exists_document_iff hsound, hfinite]
  intro hall
  obtain ⟨d, hd, hfinite⟩ := hall _ List.mem_cons_self _ List.mem_cons_self rfl
  rw [← Option.some.inj hd, hinfinite] at hfinite
  exact nomatch hfinite

end PartProgram
