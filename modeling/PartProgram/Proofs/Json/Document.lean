/-
  The JSON of a program is decoded back to the program.

  1. **Program** — `Json.render` writes a value over several lines, with strings in printable ASCII;
     `Program.toJson` makes an array of the records.

  2. **Specification** — `Document t j`, the grammar of documents, and its decoder; `j.joinPairs` is `j`
     with the pairs of surrogates in its texts put together, which is all that a string can spell.

  3. **Numbers** — the numeral of an integer has no needless zero (`isWhole_ofNat`).

  4. **Documents (`Shown.document`)** — by induction on the value, for every level of indentation and for
     whatever follows: what is rendered lexes into the tokens of the value with its pairs put together
     (`Plain.shown`).  Doubles are left out, and so are objects that have a key twice; `Plain` says both.

  5. **Records** — the object of a line is a part of one fixed list of members (`exists_toJson_eq`), which
     is why no key stands in it twice.  All its texts stand in the line, so there is no pair in them if
     there is none in the line (`Program.joinPairs_toJson_iff`).

  6. So the document that the command shows has ONE value, which is the array of the records exactly if no
     line holds a pair, and from the records' objects the records themselves are rebuilt (`json_decodes`).
     Where a line holds a pair, it is another program that is shown in the same way
     (`json_shows_pair_as_character`).
-/
import PartProgram.Encoding.Escaped
import PartProgram.Proofs.Command.AllOrNothing
import PartProgram.Proofs.Json.Strings
import PartProgram.Proofs.WellFormed

namespace PartProgram

namespace Json

open Numeral (IsDigit IsLiteral positional)

/-! ## Integers -/

theorem isWhole_ofNat (n : Nat) : IsWhole (Text.ofNat n) where
  digit _ := Numeral.isDigit_of_mem_ofNat
  ne_nil := Text.ofNat_ne_nil n
  zero := Numeral.ofNat_eq_zero

theorem spells_ofInt (v : Int) : Spells (Text.ofInt v) (.integer v) := by
  cases v with
  | ofNat n =>
    have hspells : Spells (minus false ++ Text.ofNat n) _ := .integer (isWhole_ofNat n)
    rwa [Numeral.positional_ofNat] at hspells
  | negSucc n =>
    have hspells : Spells (minus true ++ Text.ofNat (n + 1)) _ := .integer (isWhole_ofNat (n + 1))
    rwa [Numeral.positional_ofNat] at hspells

/-! ## Lexing what is rendered -/

section

variable {rest : Text} {more : List Token}

theorem Lexes.skip {gap : Text} (hgap : ∀ c ∈ gap, isGap c = true) (h : Lexes rest more) :
    Lexes (gap ++ rest) more := by
  have happend : ∀ gap' : Text, (∀ c ∈ gap', isGap c = true) → ∀ c ∈ gap ++ gap', isGap c = true := by
    intro gap' hgap' c hc
    rcases List.mem_append.mp hc with hc | hc
    · exact hgap c hc
    · exact hgap' c hc
  cases h with
  | gap hgap' => exact .gap (happend _ hgap')
  | token hgap' hs hend hrest =>
    rw [← List.append_assoc]
    exact .token (happend _ hgap') hs hend hrest

/-- A token right at the front. -/
theorem Lexes.front {s : Text} {token : Token} (hs : Spells s token)
    (hend : token.isWord = true → ∀ c ∈ rest.head?, isWordChar c = false) (h : Lexes rest more) :
    Lexes (s ++ rest) (token :: more) := by
  have hgap : ∀ c ∈ ([] : Text), isGap c = true := fun _ hc => absurd hc List.not_mem_nil
  exact .token hgap hs hend h

theorem Lexes.mark {c : CodePoint} (hc : isMark c = true) (h : Lexes rest more) :
    Lexes (c :: rest) (.mark c :: more) :=
  .front (.mark hc) (fun hword => nomatch hword) h

theorem Lexes.string (t : Text) (h : Lexes rest more) :
    Lexes (renderString t ++ rest) (.string t.joinPairs :: more) :=
  .front (spells_renderString t) (fun hword => nomatch hword) h

/-- A key, with its colon and a blank. -/
theorem Lexes.key (key : Text) (h : Lexes rest more) :
    Lexes (renderString key ++ (": ".toText ++ rest)) (.string key.joinPairs :: .mark ':' :: more) := by
  have hblank : ∀ c ∈ ([' '] : Text), isGap c = true := List.all_eq_true.mp rfl
  exact ((h.skip hblank).mark (by decide)).string key

theorem isGap_of_mem_newLine {level : Nat} {c : CodePoint} (h : c ∈ newLine level) : isGap c = true := by
  rcases List.mem_cons.mp h with rfl | h
  · decide
  · obtain rfl := List.eq_of_mem_replicate h
    decide

theorem Lexes.newLine (level : Nat) (h : Lexes rest more) : Lexes (newLine level ++ rest) more :=
  h.skip fun _ => isGap_of_mem_newLine

end

/-! ## Values with pairs put together -/

mutual

/-- The value with the pairs of surrogates in its texts put together. -/
def joinPairs : Json → Json
  | null => null
  | integer n => integer n
  | double d => double d
  | string t => string t.joinPairs
  | array items => array (joinItems items)
  | object members => object (joinMembers members)

/-- The items of an array with their pairs put together. -/
def joinItems : List Json → List Json
  | [] => []
  | item :: rest => joinPairs item :: joinItems rest

/-- The members of an object with their pairs put together. -/
def joinMembers : List (Text × Json) → List (Text × Json)
  | [] => []
  | (key, value) :: rest => (key.joinPairs, joinPairs value) :: joinMembers rest

end

theorem joinPairs_string_iff {t : Text} : (string t).joinPairs = string t ↔ ¬ t.HoldsPair := by
  rw [joinPairs, string.injEq, Text.joinPairs_eq_self_iff]

theorem joinPairs_array_iff {items : List Json} :
    (array items).joinPairs = array items ↔ ∀ j ∈ items, j.joinPairs = j := by
  rw [joinPairs, array.injEq]
  induction items with
  | nil => simp [joinItems]
  | cons item items ih => rw [joinItems, List.cons.injEq, ih, List.forall_mem_cons]

theorem joinPairs_object_iff {members : List (Text × Json)} :
    (object members).joinPairs = object members ↔
      ∀ member ∈ members, member.1.joinPairs = member.1 ∧ member.2.joinPairs = member.2 := by
  rw [joinPairs, object.injEq]
  induction members with
  | nil => simp [joinMembers]
  | cons member members ih =>
    obtain ⟨key, value⟩ := member
    rw [joinMembers, List.cons.injEq, ih, Prod.mk.injEq, List.forall_mem_cons]

mutual

/-- **A value is written like the value with its pairs put together.** -/
theorem renderAt_joinPairs (level : Nat) : ∀ j : Json, j.joinPairs.renderAt level = j.renderAt level
  | null => by rw [joinPairs]
  | integer _ => by rw [joinPairs]
  | double _ => by rw [joinPairs]
  | string t => by rw [joinPairs, renderAt, renderAt, renderString_joinPairs]
  | array [] => by rw [joinPairs, joinItems]
  | array (first :: items) => by
    rw [joinPairs, joinItems, renderAt, renderAt, renderAt_joinPairs (level + 1) first,
      renderItems_joinItems level items]
  | object [] => by rw [joinPairs, joinMembers]
  | object ((key, first) :: members) => by
    rw [joinPairs, joinMembers, renderAt, renderAt, renderString_joinPairs,
      renderAt_joinPairs (level + 1) first, renderMembers_joinMembers level members]

theorem renderItems_joinItems (level : Nat) :
    ∀ items, renderItems level (joinItems items) = renderItems level items
  | [] => by rw [joinItems]
  | item :: items => by
    rw [joinItems, renderItems, renderItems, renderAt_joinPairs (level + 1) item,
      renderItems_joinItems level items]

theorem renderMembers_joinMembers (level : Nat) :
    ∀ members, renderMembers level (joinMembers members) = renderMembers level members
  | [] => by rw [joinMembers]
  | (key, value) :: members => by
    rw [joinMembers, renderMembers, renderMembers, renderString_joinPairs,
      renderAt_joinPairs (level + 1) value, renderMembers_joinMembers level members]

end

/-! ## Documents -/

/-- `Plain j` — all decoders agree on `j`: there are no doubles in it, and no object has a key TWICE. -/
inductive Plain : Json → Prop where
  | null : Plain .null
  | integer (n : Int) : Plain (.integer n)
  | string (t : Text) : Plain (.string t)
  | array {items : List Json} (h : ∀ j ∈ items, Plain j) : Plain (.array items)
  | object {members : List (Text × Json)} (hkeys : (members.map Prod.fst).Nodup)
      (h : ∀ member ∈ members, Plain member.2) : Plain (.object members)

/-- The text ends a word in front of it. -/
def EndsWord (rest : Text) : Prop := ∀ c ∈ rest.head?, isWordChar c = false

/-- `Shown j` — at every level, what is rendered of `j` lexes into the tokens of `j` with its pairs put
    together, before everything that ends a word. -/
def Shown (j : Json) : Prop :=
  ∀ (level : Nat) (rest : Text) (more : List Token), EndsWord rest → Lexes rest more →
    Lexes (j.renderAt level ++ rest) (j.joinPairs.tokens ++ more)

theorem endsWord_cons {c : CodePoint} (h : isWordChar c = false) (rest : Text) : EndsWord (c :: rest) := by
  intro d hd
  obtain rfl := Option.some.inj hd
  exact h

theorem endsWord_newLine (level : Nat) (rest : Text) : EndsWord (newLine level ++ rest) :=
  endsWord_cons (by decide) _

theorem endsWord_renderItems (level : Nat) (items : List Json) {rest : Text} (h : EndsWord rest) :
    EndsWord (renderItems level items ++ rest) := by
  cases items with
  | nil => rwa [renderItems]
  | cons item items =>
    rw [renderItems]
    exact endsWord_cons (by decide) _

theorem endsWord_renderMembers (level : Nat) (members : List (Text × Json)) {rest : Text}
    (h : EndsWord rest) : EndsWord (renderMembers level members ++ rest) := by
  cases members with
  | nil => rwa [renderMembers]
  | cons member members =>
    rw [renderMembers]
    exact endsWord_cons (by decide) _

theorem lexes_renderItems {items : List Json} (h : ∀ j ∈ items, Shown j) (level : Nat) {rest : Text}
    {more : List Token} (hend : EndsWord rest) (hrest : Lexes rest more) :
    Lexes (renderItems level items ++ rest) (itemTokens (joinItems items) ++ more) := by
  induction items with
  | nil => rwa [renderItems, joinItems, itemTokens]
  | cons item items ih =>
    obtain ⟨hitem, hitems⟩ := List.forall_mem_cons.mp h
    have hthen := hitem (level + 1) _ _ (endsWord_renderItems level items hend) (ih hitems)
    rw [renderItems, joinItems, itemTokens]
    simp only [List.cons_append, List.append_assoc]
    exact (hthen.newLine (level + 1)).mark (by decide)

theorem lexes_renderMembers {members : List (Text × Json)} (h : ∀ member ∈ members, Shown member.2)
    (level : Nat) {rest : Text} {more : List Token} (hend : EndsWord rest) (hrest : Lexes rest more) :
    Lexes (renderMembers level members ++ rest) (memberTokens (joinMembers members) ++ more) := by
  induction members with
  | nil => rwa [renderMembers, joinMembers, memberTokens]
  | cons member members ih =>
    obtain ⟨key, value⟩ := member
    obtain ⟨hvalue, hmembers⟩ := List.forall_mem_cons.mp h
    have hthen := hvalue (level + 1) _ _ (endsWord_renderMembers level members hend) (ih hmembers)
    rw [renderMembers, joinMembers, memberTokens]
    simp only [List.cons_append, List.append_assoc]
    exact ((hthen.key key).newLine (level + 1)).mark (by decide)

theorem shown_array {items : List Json} (h : ∀ j ∈ items, Shown j) : Shown (.array items) := by
  intro level rest more hend hrest
  cases items with
  | nil =>
    rw [renderAt, joinPairs, joinItems, tokens]
    exact (hrest.mark (by decide)).mark (by decide)
  | cons first items =>
    obtain ⟨hfirst, hitems⟩ := List.forall_mem_cons.mp h
    -- from the end backwards: the bracket on its own line, the other items, the first one
    have hclose := (hrest.mark (by decide : isMark ']' = true)).newLine level
    have hend' := endsWord_newLine level (']' :: rest)
    have hthen := hfirst (level + 1) _ _ (endsWord_renderItems level items hend')
      (lexes_renderItems hitems level hend' hclose)
    rw [renderAt, joinPairs, joinItems, tokens]
    simp only [List.cons_append, List.append_assoc, List.nil_append]
    exact (hthen.newLine (level + 1)).mark (by decide)

theorem shown_object {members : List (Text × Json)} (h : ∀ member ∈ members, Shown member.2) :
    Shown (.object members) := by
  intro level rest more hend hrest
  cases members with
  | nil =>
    rw [renderAt, joinPairs, joinMembers, tokens]
    exact (hrest.mark (by decide)).mark (by decide)
  | cons member members =>
    obtain ⟨key, first⟩ := member
    obtain ⟨hfirst, hmembers⟩ := List.forall_mem_cons.mp h
    have hclose := (hrest.mark (by decide : isMark '\x7d' = true)).newLine level
    have hend' := endsWord_newLine level ('\x7d' :: rest)
    have hthen := hfirst (level + 1) _ _ (endsWord_renderMembers level members hend')
      (lexes_renderMembers hmembers level hend' hclose)
    rw [renderAt, joinPairs, joinMembers, tokens]
    simp only [List.cons_append, List.append_assoc, List.nil_append]
    exact ((hthen.key key).newLine (level + 1)).mark (by decide)

/-- A value of one token is shown by what spells the token. -/
theorem shown_token {j : Json} {token : Token} (htokens : j.joinPairs.tokens = [token])
    (h : ∀ level, Spells (j.renderAt level) token) : Shown j := by
  intro level rest more hend hrest
  rw [htokens]
  exact .front (h level) (fun _ => hend) hrest

/-- **What is rendered of a value lexes into its tokens**, but for pairs. -/
theorem Plain.shown {j : Json} (h : j.Plain) : Shown j := by
  induction h with
  | null => exact shown_token (by rw [joinPairs, tokens]) fun _ => by rw [renderAt]; exact .null
  | integer n =>
    exact shown_token (by rw [joinPairs, tokens]) fun _ => by rw [renderAt]; exact spells_ofInt n
  | string t =>
    exact shown_token (by rw [joinPairs, tokens]) fun _ => by rw [renderAt]; exact spells_renderString t
  | array _ ih => exact shown_array ih
  | object _ _ ih => exact shown_object ih

/-- **A rendered value is a document**, with the line feed behind it. -/
theorem Shown.document {j : Json} (h : Shown j) :
    Document (j.render ++ (['\n'] : Text)) j.joinPairs := by
  have hend : EndsWord ['\n'] := endsWord_cons (by decide) []
  have hgap : ∀ c ∈ (['\n'] : Text), isGap c = true := List.all_eq_true.mp rfl
  have hlexes := h 0 ['\n'] [] hend (.gap hgap)
  rwa [List.append_nil] at hlexes

end Json

/-! ## Programs -/

theorem Value.plain_toJson {value : Option Value} (h : ∀ d, value ≠ some (.double d)) :
    (Value.toJson value).Plain := by
  match value, h with
  | some (.integer n), _ => exact .integer n
  | some (.double d), h => exact absurd rfl (h d)
  | some (.text t), _ => exact .string t
  | none, _ => exact .null

theorem Param.plain_toJson {p : Param} (h : p.kind ≠ .double) : p.toJson.Plain := by
  have hvalue : (Value.toJson p.value).Plain := by
    refine Value.plain_toJson fun d hd => ?_
    obtain ⟨kind, identifier, intValue, doubleValue, textValue⟩ := p
    cases kind with
    | double => exact h rfl
    | text => cases textValue <;> exact nomatch hd
    | _ => cases intValue <;> exact nomatch hd
  have hkeys : ["type".toText, "identifier".toText, "value".toText].Nodup := by decide
  refine .object hkeys ?_
  simp only [List.forall_mem_cons]
  exact ⟨.string _, .string _, hvalue, fun _ hm => absurd hm List.not_mem_nil⟩

theorem Json.plain_ofInt? (n : Option Int) : (Json.ofInt? n).Plain := by
  cases n with
  | none => exact .null
  | some n => exact .integer n

theorem Json.plain_ofText? (t : Option Text) : (Json.ofText? t).Plain := by
  cases t with
  | none => exact .null
  | some t => exact .string t

/-- Everything that the object of a line may have, in order. -/
def Line.members (line : Line) : List (Text × Json) :=
  [("index".toText, .integer line.index), ("type".toText, .string line.kind.tag.toText),
    ("raw".toText, .string line.raw)] ++ [("comment".toText, Json.ofText? line.comment)] ++
    [("n".toText, Json.ofInt? line.n), ("code".toText, Json.ofInt? line.code)] ++
    [("parameters".toText, .array (line.parameters.map Param.toJson))]

/-- Of these some are left out. -/
theorem Line.exists_toJson_eq (line : Line) :
    ∃ members, line.toJson = .object members ∧ members.Sublist line.members := by
  refine ⟨_, rfl, List.Sublist.append (List.Sublist.append (List.Sublist.append (List.Sublist.refl _) ?_)
    ?_) ?_⟩
  · split
    · exact List.Sublist.refl _
    · exact List.nil_sublist _
  · split
    · cases line.code with
      | none => exact .cons_cons _ (List.nil_sublist _)
      | some code => exact List.Sublist.refl _
    · exact List.nil_sublist _
  · split
    · exact List.Sublist.refl _
    · exact List.nil_sublist _

/-- **The object of a record is plain**, unless a parameter is a double. -/
theorem Line.plain_toJson {line : Line} (h : ∀ param ∈ line.parameters, param.kind ≠ .double) :
    line.toJson.Plain := by
  have hparams : (Json.array (line.parameters.map Param.toJson)).Plain := by
    refine .array fun j hj => ?_
    obtain ⟨param, hmem, rfl⟩ := List.mem_map.mp hj
    exact Param.plain_toJson (h param hmem)
  have hmembers : ∀ member ∈ line.members, member.2.Plain := by
    unfold Line.members
    simp only [List.forall_mem_append, List.forall_mem_cons, List.not_mem_nil, false_imp_iff,
      implies_true, and_true]
    exact ⟨⟨⟨⟨.integer _, .string _, .string _⟩, Json.plain_ofText? _⟩, Json.plain_ofInt? _,
      Json.plain_ofInt? _⟩, hparams⟩
  have hkeys : (line.members.map Prod.fst).Nodup :=
    (by decide : ["index".toText, "type".toText, "raw".toText, "comment".toText, "n".toText,
      "code".toText, "parameters".toText].Nodup)
  obtain ⟨members, heq, hsub⟩ := line.exists_toJson_eq
  rw [heq]
  exact .object (hkeys.sublist (hsub.map _)) fun member hmem => hmembers member (hsub.subset hmem)

theorem Program.plain_toJson {p : Program}
    (h : ∀ line ∈ p.lines, ∀ param ∈ line.parameters, param.kind ≠ .double) : p.toJson.Plain := by
  refine .array fun j hj => ?_
  obtain ⟨line, hmem, rfl⟩ := List.mem_map.mp hj
  exact Line.plain_toJson (h line hmem)

/-! ## Records with pairs -/

theorem Value.joinPairs_toJson {value : Option Value} (h : ∀ t, value = some (.text t) → ¬ t.HoldsPair) :
    (Value.toJson value).joinPairs = Value.toJson value := by
  match value, h with
  | some (.integer n), _ => rw [Value.toJson, Json.joinPairs]
  | some (.double d), _ => rw [Value.toJson, Json.joinPairs]
  | some (.text t), h => exact Json.joinPairs_string_iff.mpr (h t rfl)
  | none, _ => rw [Value.toJson, Json.joinPairs]

theorem Param.joinPairs_toJson {p : Param} (h : ∀ s ∈ p.excerpts, ¬ s.HoldsPair) :
    p.toJson.joinPairs = p.toJson := by
  have hkind : ¬ Text.HoldsPair p.kind.tag.toText := Text.not_holdsPair_chars _
  have hidentifier := h p.identifier List.mem_cons_self
  have hvalue := Value.joinPairs_toJson fun t ht => h t (mem_excerpts_of_value ht)
  refine Json.joinPairs_object_iff.mpr ?_
  simp only [List.forall_mem_cons]
  exact ⟨⟨by decide, Json.joinPairs_string_iff.mpr hkind⟩,
    ⟨by decide, Json.joinPairs_string_iff.mpr hidentifier⟩, ⟨by decide, hvalue⟩,
    List.forall_mem_nil _⟩

theorem Json.joinPairs_ofInt? (n : Option Int) : (Json.ofInt? n).joinPairs = Json.ofInt? n := by
  cases n <;> rw [ofInt?, joinPairs]

/-- **The object of a record has no pair in it** exactly if its line has none. -/
theorem Line.joinPairs_toJson_iff {line : Line} (h : ∀ s ∈ line.excerpts, s <:+: line.raw) :
    line.toJson.joinPairs = line.toJson ↔ ¬ line.raw.HoldsPair := by
  constructor
  · intro heq
    have hraw := Json.joinPairs_object_iff.mp heq ("raw".toText, .string line.raw) (by simp)
    exact Json.joinPairs_string_iff.mp hraw.2
  · intro hno
    have hexcerpts : ∀ s ∈ line.excerpts, ¬ s.HoldsPair := fun s hs hpair =>
      hno (hpair.mono (h s hs))
    obtain ⟨hcomment, hparams⟩ := List.forall_mem_append.mp hexcerpts
    have hkind : ¬ Text.HoldsPair line.kind.tag.toText := Text.not_holdsPair_chars _
    have hcomment' : (Json.ofText? line.comment).joinPairs = Json.ofText? line.comment := by
      cases hfound : line.comment with
      | none => rw [Json.ofText?, Json.joinPairs]
      | some found =>
        exact Json.joinPairs_string_iff.mpr (hcomment found (Option.mem_toList.mpr hfound))
    have hparams' : (Json.array (line.parameters.map Param.toJson)).joinPairs =
        Json.array (line.parameters.map Param.toJson) := by
      rw [Json.joinPairs_array_iff, List.forall_mem_map]
      exact fun p hp => Param.joinPairs_toJson fun s hs =>
        hparams s (List.mem_flatMap.mpr ⟨p, hp, hs⟩)
    have hmembers : ∀ member ∈ line.members,
        member.1.joinPairs = member.1 ∧ member.2.joinPairs = member.2 := by
      unfold Line.members
      simp only [List.forall_mem_append, List.forall_mem_cons, List.not_mem_nil, false_imp_iff,
        implies_true, and_true]
      exact ⟨⟨⟨⟨⟨by decide, by rw [Json.joinPairs]⟩,
        ⟨by decide, Json.joinPairs_string_iff.mpr hkind⟩,
        ⟨by decide, Json.joinPairs_string_iff.mpr hno⟩⟩, ⟨by decide, hcomment'⟩⟩,
        ⟨by decide, Json.joinPairs_ofInt? _⟩, ⟨by decide, Json.joinPairs_ofInt? _⟩⟩,
        ⟨by decide, hparams'⟩⟩
    obtain ⟨members, heq, hsub⟩ := line.exists_toJson_eq
    rw [heq]
    exact Json.joinPairs_object_iff.mpr fun member hmem => hmembers member (hsub.subset hmem)

theorem Program.joinPairs_toJson_iff {p : Program}
    (h : ∀ line ∈ p.lines, ∀ s ∈ line.excerpts, s <:+: line.raw) :
    p.toJson.joinPairs = p.toJson ↔ ∀ line ∈ p.lines, ¬ line.raw.HoldsPair := by
  rw [Program.toJson, Json.joinPairs_array_iff, List.forall_mem_map]
  exact forall₂_congr fun line hmem => Line.joinPairs_toJson_iff (h line hmem)

/-- Well formed records are rebuilt from their objects. -/
theorem mapM_lineOfJson? {lines : List Line} (h : ∀ line ∈ lines, line.WellFormed) :
    (lines.map Line.toJson).mapM Line.ofJson? = some lines := by
  induction lines with
  | nil => rfl
  | cons line lines ih =>
    obtain ⟨hline, hlines⟩ := List.forall_mem_cons.mp h
    rw [List.map_cons, List.mapM_cons, hline.ofJson?_toJson, ih hlines]
    rfl

/-- **The value of a program's document**, and when it is the array of the records. -/
theorem Program.values_of_shown {p : Program} (hshown : Json.Shown p.toJson)
    (h : ∀ line ∈ p.lines, ∀ s ∈ line.excerpts, s <:+: line.raw) :
    (∀ j, Json.Document (p.toJson.render ++ (['\n'] : Text)) j ↔ j = p.toJson.joinPairs) ∧
      (Json.decode (p.toJson.render ++ (['\n'] : Text)) = some p.toJson ↔
        ∀ line ∈ p.lines, ¬ line.raw.HoldsPair) := by
  have hdocument := hshown.document
  refine ⟨fun j => ⟨fun hj => hj.unique hdocument, fun hj => hj ▸ hdocument⟩, ?_⟩
  rw [Json.decode_of_document hdocument, Option.some.injEq, joinPairs_toJson_iff h]

/-- **The JSON of a program is decoded back to the program**, unless there is a pair of surrogates in it.
    For a text that is read into a program without doubles, by a reader strict or permissive, what a run of
    the command in the style of JSON shows is printable ASCII and line feeds, and
    (1) it is a JSON document, with ONE value: the array of the records, in which the pairs of surrogates are
        put together;
    (2) this is the array of the records itself, which a decoder finds, exactly if in no line a high
        surrogate is directly followed by a low one;
    (3) in the array no object has a key twice, and from its items all records are rebuilt, in order. -/
theorem json_decodes {t : Text} {p : Program} {output : Text} (h : Command.Dumps .json t p output)
    (hsize : t.lines.length ≤ 10 ^ Numeral.digitLimit)
    (hno : ∀ line ∈ p.lines, ∀ param ∈ line.parameters, param.kind ≠ .double) :
    (∀ c ∈ output, c = '\n' ∨ 0x20 ≤ c.toNat ∧ c.toNat ≤ 0x7e) ∧
      (∀ j, Json.Document output j ↔ j = (Json.array (p.lines.map Line.toJson)).joinPairs) ∧
      ((∀ line ∈ p.lines, ¬ line.raw.HoldsPair) →
        ∀ j, Json.Document output j ↔ j = .array (p.lines.map Line.toJson)) ∧
      (Json.decode output = some (.array (p.lines.map Line.toJson)) ↔
        ∀ line ∈ p.lines, ¬ line.raw.HoldsPair) ∧
      (Json.array (p.lines.map Line.toJson)).Plain ∧
      (p.lines.map Line.toJson).mapM Line.ofJson? = some p.lines := by
  obtain ⟨_, hparse⟩ := h.exists_parse
  have hplain : p.toJson.Plain := p.plain_toJson hno
  obtain rfl : output = p.toJson.render ++ (['\n'] : Text) := h.output_eq hsize
  obtain ⟨hvalues, hdecode⟩ := Program.values_of_shown hplain.shown (infix_of_parse hparse)
  refine ⟨?_, hvalues, fun hno' => ?_, hdecode, hplain, mapM_lineOfJson? (wellFormed_of_parse hparse)⟩
  · exact Text.Ascii.append (p.toJson.ascii_renderAt 0) (by decide)
  · rwa [(Program.joinPairs_toJson_iff (infix_of_parse hparse)).mpr hno'] at hvalues

/-- A quote, a character beyond the first 65536, a negative integer and an unknown word. -/
theorem json_decodes_pair :
    ∃ p output, Command.Dumps .json ";\x22😀\nN1 X=-5 Q".toText p output ∧
      p.lines.map Line.comment = [some ";\x22😀".toText, none] ∧
      Json.decode output = some (.array (p.lines.map Line.toJson)) ∧
      (p.lines.map Line.toJson).mapM Line.ofJson? = some p.lines := by
  have hparse : ((Reader.mk .standard true).parse (.text ";\x22😀\nN1 X=-5 Q".toText)).result =
      .ok ⟨[{ index := 0, kind := .comment, raw := ";\x22😀".toText
              comment := some ";\x22😀".toText },
            { index := 1, kind := .otherCode, raw := "N1 X=-5 Q".toText, n := some 1
              parameters := [.integer ['X'] (-5), .unknown ['Q']] }]⟩ := rfl
  have h := Command.Dumps.of_chars
    (rfl : Command.plan {} ["--json".toText, "a".toText] = .ok { style := .json, .. }) hparse
  have hsize : (Text.lines ";\x22😀\nN1 X=-5 Q".toText).length ≤ 10 ^ Numeral.digitLimit :=
    Numeral.le_pow_digitLimit (by decide)
  obtain ⟨_, _, _, hdecode, _, hrebuilt⟩ := json_decodes h hsize (by decide)
  refine ⟨_, _, h, rfl, hdecode.mpr ?_, hrebuilt⟩
  simp only [List.forall_mem_cons]
  exact ⟨Text.not_holdsPair_chars _, Text.not_holdsPair_chars _, List.forall_mem_nil _⟩

/-- A line with a pair, in code points. -/
def pairLine : Text := ['N', '2', ' ', 'T', '=', .ofNat 0xd83d, .ofNat 0xde00]

/-- The bytes of the line, in which the pair is escaped: `N2 T=\ud83d\ude00`. -/
def pairBytes : List UInt8 :=
  [78, 50, 32, 84, 61, 92, 117, 100, 56, 51, 100, 92, 117, 100, 101, 48, 48]

theorem decode_pairBytes : Encoding.Escaped.decode pairBytes = .ok { text := pairLine } := by
  unfold Encoding.Escaped.decode pairBytes pairLine
  iterate 7 refine Encoding.decodeWith_point rfl ?_
  exact Encoding.decodeWith.eq_1 ..

/-- **A pair is shown as one character.**  Of a file with two surrogates, spelled out one by one, the JSON
    is the same as of a file with the one character that they make; a decoder gives back the record of the
    character, which is not that of the pair. -/
theorem json_shows_pair_as_character :
    ∃ p output, Command.Dumps .json pairLine p output ∧
      output = (Command.run {} (Storage.host ⟨[(["a".toText], .file pairBytes)]⟩ [])
        ["--json".toText, "--encoding".toText, "raw_unicode_escape".toText, "a".toText]).output ∧
      output = (Command.run {} (Command.oneFile "N2 T=😀".toList) ["--json".toText, "a".toText]).output ∧
      (∀ line ∈ p.lines, ∀ param ∈ line.parameters, param.kind ≠ .double) ∧
      ¬ Json.Document output (.array (p.lines.map Line.toJson)) ∧
      Json.decode output ≠ some (.array (p.lines.map Line.toJson)) := by
  have hspells : (Storage.host ⟨[(["a".toText], .file pairBytes)]⟩ []).Spells
      "raw_unicode_escape".toText pairBytes pairLine :=
    ⟨by decide, Encoding.escaped.decode, rfl, congrArg (Except.mapError Fault.decode) decode_pairBytes⟩
  have hparse : ((Reader.mk .standard true).parse (.text pairLine)).result =
      .ok ⟨[{ index := 0, kind := .otherCode, raw := pairLine, n := some 2
              parameters := [.text ['T'] [CodePoint.ofNat 0xd83d, CodePoint.ofNat 0xde00]] }]⟩ := rfl
  have hplan : Command.plan {} ["--json".toText, "--encoding".toText, "raw_unicode_escape".toText,
      "a".toText] = .ok { style := .json, .. } := rfl
  have h : Command.Dumps .json pairLine _ _ := .intro hplan rfl (.file (by decide) rfl rfl hspells) hparse
  have hsize : pairLine.lines.length ≤ 10 ^ Numeral.digitLimit := Numeral.le_pow_digitLimit (by decide)
  -- the other file
  have hparse' : ((Reader.mk .standard true).parse (.text ("N2 T=😀".toList.map .char))).result =
      .ok ⟨[{ index := 0, kind := .otherCode, raw := "N2 T=😀".toText, n := some 2
              parameters := [.text ['T'] "😀".toText] }]⟩ := rfl
  have hplan' : Command.plan {} ["--json".toText, "a".toText] = .ok { style := .json, .. } := rfl
  have h' := Command.Dumps.of_chars hplan' hparse'
  have houtput' := h'.output_eq (Numeral.le_pow_digitLimit (by decide))
  have hpair : pairLine.HoldsPair := ⟨"N2 T=".toText, _, _, [], rfl, by decide, by decide⟩
  refine ⟨_, _, h, rfl, ?_, by decide, ?_⟩
  · rw [h.output_eq hsize, houtput']
    show Json.renderAt 0 (Program.toJson _) ++ _ = Json.renderAt 0 (Program.toJson _) ++ _
    rw [← Json.renderAt_joinPairs]
    rfl
  · rw [h.output_eq hsize]
    obtain ⟨_, hiff⟩ :=
      Program.values_of_shown (Program.plain_toJson (by decide)).shown (infix_of_parse hparse)
    have hno : Json.decode _ ≠ some (.array _) := fun hdecode => hiff.mp hdecode _ List.mem_cons_self hpair
    exact ⟨fun hdocument => hno (Json.decode_of_document hdocument), hno⟩

end PartProgram
