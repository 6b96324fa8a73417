/-
  The grammar of JSON documents, and its decoder.

  1. **Program** — `Json.decode`, see there.

  2. **Specification** — `Document t j`: the text `t` is a JSON document with the value `j`.
     `Spells s token` is the spelling of one token: strings with their escapes, code units and pairs of
     surrogates, of which the halves are never taken apart; numbers without needless zeros.
     `Lexes t tokens` puts the spellings one behind another, with white space before and behind them; a
     word runs up to the next gap, mark or quote.  Which tokens a value has (`Json.tokens`) leaves no
     choice.

  3. **The lexer (`lex_of_lexes`)** — token by token.  A spelling is never empty and never begins with
     white space, so it is found where the gap before it ends.

  4. **The machine (`run_tokens`)** — by induction on the value: whatever is open around it, its tokens
     end with the value itself and leave open what was open before.

  5. So every document is decoded to its value (`decode_of_document`).
-/
import PartProgram.Proofs.Json.Decoder

namespace PartProgram.Json

open Numeral (IsDigit IsLiteral positional)

/-! ## Spellings -/

/-- `SpellsChar s rest c` — in a string, `s` before `rest` stands for the code point `c`. -/
inductive SpellsChar : Text → Text → CodePoint → Prop where
  /-- The character itself. -/
  | plain {rest : Text} {c : CodePoint} (hc : 0x20 ≤ c.toNat) (hquote : c ≠ '\x22')
      (hescape : c ≠ '\\') : SpellsChar [c] rest c
  /-- An escape of one letter. -/
  | short {rest : Text} {letter c : CodePoint} (h : short? letter = some c) :
      SpellsChar ['\\', letter] rest c
  /-- A code unit, unless it is the first half of a pair. -/
  | unit {rest : Text} {a b c d : CodePoint} {u : Nat} (hu : unit? [a, b, c, d] = some u)
      (halone : isHigh u = true → low? rest = none) :
      SpellsChar ['\\', 'u', a, b, c, d] rest (CodePoint.ofNat u)
  /-- Two code units that are a pair. -/
  | pair {rest : Text} {a b c d a' b' c' d' : CodePoint} {u v : Nat}
      (hu : unit? [a, b, c, d] = some u) (hv : unit? [a', b', c', d'] = some v)
      (hhigh : isHigh u = true) (hlow : isLow v = true) :
      SpellsChar ['\\', 'u', a, b, c, d, '\\', 'u', a', b', c', d'] rest (ofPair u v)

/-- `SpellsText s t` — between quotes, `s` stands for the text `t`. -/
inductive SpellsText : Text → Text → Prop where
  | nil : SpellsText [] []
  | cons {s s' t : Text} {c : CodePoint} (hc : SpellsChar s s' c) (ht : SpellsText s' t) :
      SpellsText (s ++ s') (c :: t)

/-- Digits with no needless zero in front. -/
structure IsWhole (digits : Text) : Prop where
  digit : ∀ c ∈ digits, IsDigit c
  ne_nil : digits ≠ []
  zero : digits.head? = some ('0' : CodePoint) → digits = (['0'] : Text)

/-- The sign of a number: a minus or nothing. -/
def minus (negative : Bool) : Text := if negative then ['-'] else []

/-- A number with its sign. -/
def signed (negative : Bool) (n : Nat) : Int := if negative then -(n : Int) else n

/-- `SpellsOrder s order` — `s` is the exponent of a number. -/
inductive SpellsOrder : Text → Int → Prop where
  | none : SpellsOrder [] 0
  | some {c : CodePoint} {literal digits : Text} {negative : Bool} (hc : c = 'e' ∨ c = 'E')
      (h : IsLiteral literal negative digits) :
      SpellsOrder (c :: literal) (signed negative (positional digits))

/-- `SpellsScale s fraction order` — `s` is what makes a number one that is no integer: a point and
    digits, an exponent, or both. -/
inductive SpellsScale : Text → Text → Int → Prop where
  | point {fraction s : Text} {order : Int} (hdigits : ∀ c ∈ fraction, IsDigit c) (hne : fraction ≠ [])
      (horder : SpellsOrder s order) : SpellsScale ('.' :: (fraction ++ s)) fraction order
  | order {s : Text} {order : Int} (hne : s ≠ []) (horder : SpellsOrder s order) :
      SpellsScale s [] order

/-- `Spells s token` — the token is written `s`. -/
inductive Spells : Text → Token → Prop where
  | mark {c : CodePoint} (h : isMark c = true) : Spells [c] (.mark c)
  | null : Spells "null".toText .null
  | string {s t : Text} (h : SpellsText s t) : Spells ('\x22' :: (s ++ (['\x22'] : Text))) (.string t)
  | integer {negative : Bool} {digits : Text} (h : IsWhole digits) :
      Spells (minus negative ++ digits) (.integer (signed negative (positional digits)))
  | double {negative : Bool} {whole s fraction : Text} {order : Int} (h : IsWhole whole)
      (hscale : SpellsScale s fraction order) :
      Spells (minus negative ++ (whole ++ s))
        (.double (.ofDecimal negative (positional (whole ++ fraction)) (order - fraction.length)))

/-- Words have to be kept apart; marks and strings have not. -/
def Token.isWord : Token → Bool
  | .mark _ | .string _ => false
  | .null | .integer _ | .double _ => true

/-- `Lexes t tokens` — the text is the tokens in order, with white space anywhere between them.  The
    condition on `rest` makes each word a MAXIMAL run. -/
inductive Lexes : Text → List Token → Prop where
  | gap {gap : Text} (hgap : ∀ c ∈ gap, isGap c = true) : Lexes gap []
  | token {gap s rest : Text} {token : Token} {tokens : List Token} (hgap : ∀ c ∈ gap, isGap c = true)
      (hs : Spells s token)
      (hend : token.isWord = true → ∀ c ∈ rest.head?, isWordChar c = false)
      (hrest : Lexes rest tokens) : Lexes (gap ++ (s ++ rest)) (token :: tokens)

mutual

/-- The tokens of a value. -/
def tokens : Json → List Token
  | null => [.null]
  | integer n => [.integer n]
  | double d => [.double d]
  | string t => [.string t]
  | array [] => [.mark '[', .mark ']']
  | array (first :: rest) => .mark '[' :: (tokens first ++ (itemTokens rest ++ [.mark ']']))
  | object [] => [.mark '\x7b', .mark '\x7d']
  | object ((key, first) :: rest) =>
    .mark '\x7b' :: .string key :: .mark ':' ::
      (tokens first ++ (memberTokens rest ++ [.mark '\x7d']))

/-- The tokens of the items of an array after the first one. -/
def itemTokens : List Json → List Token
  | [] => []
  | item :: rest => .mark ',' :: (tokens item ++ itemTokens rest)

/-- The tokens of the members of an object after the first one. -/
def memberTokens : List (Text × Json) → List Token
  | [] => []
  | (key, value) :: rest => .mark ',' :: .string key :: .mark ':' :: (tokens value ++ memberTokens rest)

end

/-- `Document t j` — the text is a JSON document with the value `j`. -/
def Document (t : Text) (j : Json) : Prop := Lexes t j.tokens

/-! ## Strings -/

/-- A quote is no digit, so the four digits of a code unit do not reach beyond it. -/
theorem unit?_append_quote (t rest : Text) : unit? (t ++ ('\x22' : CodePoint) :: rest) = unit? t := by
  have hquote : hexDigit? '\x22' = none := by decide
  match t with
  | _ :: _ :: _ :: _ :: _ => rfl
  | [] | [_] | [_, _] | [_, _, _] =>
    rcases rest with _ | ⟨_, _ | ⟨_, _ | ⟨_, rest⟩⟩⟩ <;> simp [unit?, hquote]

theorem low?_append_quote (s rest : Text) : low? (s ++ ('\x22' : CodePoint) :: rest) = low? s := by
  match s with
  | [] => rfl
  | [a] => by_cases ha : a = '\\' <;> simp [low?, ha]
  | a :: b :: s =>
    by_cases hmark : a = '\\' ∧ b = 'u'
    · obtain ⟨rfl, rfl⟩ := hmark
      exact congrArg (Option.filter isLow) (unit?_append_quote s rest)
    · rw [not_and] at hmark
      by_cases ha : a = '\\' <;> simp [low?, ha, hmark]

/-- A spelling is found by the decoder where it stands. -/
theorem char?_of_spells {s s' : Text} {c : CodePoint} (h : SpellsChar s s' c) (rest : Text) :
    ∃ first others, s = first :: others ∧ first ≠ '\x22' ∧
      char? first (others ++ (s' ++ ('\x22' : CodePoint) :: rest)) = some (c, others.length) := by
  cases h with
  | plain hc hquote hescape =>
    refine ⟨c, [], rfl, hquote, ?_⟩
    rw [char?, if_neg hescape, if_neg (Nat.not_lt.mpr hc)]
    rfl
  | @short _ letter c h =>
    refine ⟨'\\', [letter], rfl, by decide, ?_⟩
    have hletter : letter ≠ 'u' := by
      rintro rfl
      exact nomatch h
    show (if letter = 'u' then _ else (short? letter).map (·, 1)) = _
    rw [if_neg hletter, h]
    rfl
  | @unit _ a b c d u hu halone =>
    refine ⟨'\\', ['u', a, b, c, d], rfl, by decide, ?_⟩
    have hlone : (if isHigh u = true then low? (s' ++ ('\x22' : CodePoint) :: rest) else none) = none := by
      rw [low?_append_quote]
      split
      next hhigh => exact halone hhigh
      next => rfl
    show (unit? [a, b, c, d]).map (ofUnit · (s' ++ ('\x22' : CodePoint) :: rest)) = _
    rw [hu, Option.map_some, ofUnit, hlone]
    rfl
  | @pair _ a b c d a' b' c' d' u v hu hv hhigh hlow =>
    refine ⟨'\\', ['u', a, b, c, d, '\\', 'u', a', b', c', d'], rfl, by decide, ?_⟩
    generalize s' ++ ('\x22' : CodePoint) :: rest = behind
    have hsecond : low? ('\\' :: 'u' :: a' :: b' :: c' :: d' :: behind) = some v := by
      show (unit? [a', b', c', d']).filter isLow = some v
      rw [hv, Option.filter_some, if_pos hlow]
    show (unit? [a, b, c, d]).map (ofUnit · ('\\' :: 'u' :: a' :: b' :: c' :: d' :: behind)) = _
    rw [hu, Option.map_some, ofUnit, if_pos hhigh, hsecond]
    rfl

theorem string?_of_spells {s t : Text} (h : SpellsText s t) (rest : Text) :
    string? (s ++ ('\x22' : CodePoint) :: rest) = some (t, s.length + 1) := by
  induction h with
  | nil =>
    rw [List.nil_append, string?, if_pos rfl]
    rfl
  | @cons s s' t c hc _ ih =>
    obtain ⟨first, others, rfl, hquote, hchar⟩ := char?_of_spells hc rest
    rw [List.append_assoc, List.cons_append, string?, if_neg hquote, hchar]
    dsimp only
    rw [List.drop_left, ih, Option.map_some, Option.some.injEq, Prod.mk.injEq]
    refine ⟨rfl, ?_⟩
    simp only [List.length_append, List.length_cons]
    omega

/-! ## Numbers -/

/-- What is taken from the front ends where the test fails. -/
theorem takeWhile_append_stop {p : CodePoint → Bool} {t rest : Text} (ht : ∀ c ∈ t, p c = true)
    (hrest : ∀ c ∈ rest.head?, p c = false) :
    (t ++ rest).takeWhile p = t ∧ (t ++ rest).dropWhile p = rest := by
  rw [List.takeWhile_append_of_pos ht, List.dropWhile_append_of_pos ht]
  cases rest with
  | nil => simp
  | cons c rest => simp [hrest c rfl]

theorem exponent?_of_spells {s : Text} {order : Int} (h : SpellsOrder s order) :
    exponent? s = some order := by
  cases h with
  | none => rfl
  | @some c literal digits negative hc hliteral =>
    obtain ⟨hinteger, rfl, rfl⟩ := Numeral.isLiteral_iff.mp hliteral
    rw [exponent?, if_pos ⟨hc, hinteger⟩, Numeral.digitsValue_eq_positional]
    rfl

theorem SpellsOrder.head_not_digit {s : Text} {order : Int} (h : SpellsOrder s order) :
    ∀ c ∈ s.head?, c.isDigit = false ∧ c ≠ '.' := by
  intro c hc
  cases h with
  | none => exact nomatch hc
  | some hletter _ =>
    obtain rfl := Option.some.inj hc
    rcases hletter with rfl | rfl <;> decide

theorem scale?_of_spells {s fraction : Text} {order : Int} (h : SpellsScale s fraction order) :
    scale? s = some (fraction, order) := by
  unfold scale?
  cases h with
  | @point fraction s order hdigits hne horder =>
    have hdigits' : ∀ c ∈ fraction, CodePoint.isDigit c = true :=
      fun c hc => Numeral.isDigit_iff.mpr (hdigits c hc)
    obtain ⟨htake, hdrop⟩ :=
      takeWhile_append_stop hdigits' fun c hc => (horder.head_not_digit c hc).1
    rw [if_pos (by rfl), List.tail_cons]
    dsimp only
    rw [htake, hdrop, if_neg hne, exponent?_of_spells horder]
    rfl
  | order _ horder =>
    have hpoint : ¬ s.head? = some ('.' : CodePoint) := fun hc => (horder.head_not_digit '.' hc).2 rfl
    rw [if_neg hpoint, exponent?_of_spells horder]
    rfl

theorem SpellsScale.ne_nil {s fraction : Text} {order : Int} (h : SpellsScale s fraction order) :
    s ≠ [] := by
  cases h with
  | point _ _ _ => exact List.cons_ne_nil _ _
  | order hne _ => exact hne

theorem SpellsScale.head_not_digit {s fraction : Text} {order : Int} (h : SpellsScale s fraction order) :
    ∀ c ∈ s.head?, c.isDigit = false := by
  intro c hc
  cases h with
  | point _ _ _ =>
    obtain rfl := Option.some.inj hc
    decide
  | order _ horder => exact (horder.head_not_digit c hc).1

/-- A number falls into its sign, the digits in front and the rest. -/
theorem number?_eq {whole s : Text} (h : IsWhole whole) (hs : ∀ c ∈ s.head?, c.isDigit = false)
    (negative : Bool) :
    number? (minus negative ++ (whole ++ s)) =
      if s = [] then some (.integer (signed negative (positional whole)))
      else (scale? s).map fun (fraction, order) =>
        .double (.ofDecimal negative (positional (whole ++ fraction)) (order - fraction.length)) := by
  have hsign : Numeral.isNegative (minus negative ++ (whole ++ s)) = negative := by
    cases negative with
    | true => rfl
    | false =>
      obtain ⟨c, digits, rfl⟩ := List.exists_cons_of_ne_nil h.ne_nil
      have hc : c ≠ '-' := (h.digit c List.mem_cons_self).ne_sign.2
      simpa [Numeral.isNegative, minus] using hc
  have hbody : (if negative = true then (minus negative ++ (whole ++ s)).tail
      else minus negative ++ (whole ++ s)) = whole ++ s := by
    cases negative <;> rfl
  have hkept : ¬ (whole = [] ∨ (whole.head? = some ('0' : CodePoint) ∧ whole ≠ (['0'] : Text))) := by
    rintro (hnil | ⟨hzero, hne⟩)
    · exact h.ne_nil hnil
    · exact hne (h.zero hzero)
  have hdigits : ∀ c ∈ whole, CodePoint.isDigit c = true := fun c hc => Numeral.isDigit_iff.mpr (h.digit c hc)
  obtain ⟨htake, hdrop⟩ := takeWhile_append_stop hdigits hs
  unfold number?
  simp only [hsign, hbody, htake, hdrop, if_neg hkept, Numeral.digitsValue_eq_positional]
  rfl

/-! ## Words -/

theorem isWordChar_eq_false_iff {c : CodePoint} :
    isWordChar c = false ↔
      c ∈ ([' ', '\t', '\n', '\r', '[', ']', '\x7b', '\x7d', ',', ':', '\x22'] : Text) := by
  rw [isWordChar, Bool.not_eq_false']
  simp [isGap, isMark, or_assoc]

theorem isWordChar_of_isDigit {c : CodePoint} (h : IsDigit c) : isWordChar c = true := by
  have hspecial : ∀ d ∈ ([' ', '\t', '\n', '\r', '[', ']', '\x7b', '\x7d', ',', ':', '\x22'] : Text),
      ¬ IsDigit d := by simp [IsDigit]
  by_contra hno
  exact hspecial c (isWordChar_eq_false_iff.mp (Bool.not_eq_true _ ▸ hno)) h

theorem isWordChar_of_mem_minus {negative : Bool} {c : CodePoint} (h : c ∈ minus negative) :
    isWordChar c = true := by
  cases negative with
  | false => exact absurd h List.not_mem_nil
  | true =>
    obtain rfl := List.mem_singleton.mp h
    decide

theorem SpellsOrder.isWordChar {s : Text} {order : Int} (h : SpellsOrder s order) :
    ∀ c ∈ s, isWordChar c = true := by
  cases h with
  | none => exact fun _ hc => absurd hc List.not_mem_nil
  | @some letter literal digits negative hletter hliteral =>
    obtain ⟨hsigned, _, hdigits⟩ := hliteral
    intro c hc
    rcases List.mem_cons.mp hc with rfl | hc
    · rcases hletter with rfl | rfl <;> decide
    · cases hsigned with
      | plain => exact isWordChar_of_isDigit (hdigits c hc)
      | plus =>
        rcases List.mem_cons.mp hc with rfl | hc
        · decide
        · exact isWordChar_of_isDigit (hdigits c hc)
      | minus =>
        rcases List.mem_cons.mp hc with rfl | hc
        · decide
        · exact isWordChar_of_isDigit (hdigits c hc)

theorem SpellsScale.isWordChar {s fraction : Text} {order : Int} (h : SpellsScale s fraction order) :
    ∀ c ∈ s, isWordChar c = true := by
  cases h with
  | order _ horder => exact horder.isWordChar
  | point hdigits _ horder =>
    intro c hc
    rcases List.mem_cons.mp hc with rfl | hc
    · decide
    · rcases List.mem_append.mp hc with hc | hc
      · exact isWordChar_of_isDigit (hdigits c hc)
      · exact horder.isWordChar c hc

/-- No number is spelled like a word of letters. -/
theorem IsWhole.ne_null {whole : Text} (h : IsWhole whole) (negative : Bool) (s : Text) :
    minus negative ++ (whole ++ s) ≠ "null".toText := by
  intro heq
  have hhead := congrArg List.head? heq
  cases negative with
  | true => exact absurd (Option.some.inj hhead) (by decide)
  | false =>
    obtain ⟨c, digits, rfl⟩ := List.exists_cons_of_ne_nil h.ne_nil
    obtain rfl : c = 'n' := Option.some.inj hhead
    exact absurd (h.digit 'n' List.mem_cons_self) (by decide)

/-- A word is spelled by characters of words, and it is found by its spelling. -/
theorem word?_of_spells {s : Text} {token : Token} (h : Spells s token) (hword : token.isWord = true) :
    (∀ c ∈ s, isWordChar c = true) ∧ s ≠ [] ∧ word? s = some token := by
  cases h with
  | mark _ => exact nomatch hword
  | string _ => exact nomatch hword
  | null => exact ⟨List.all_eq_true.mp rfl, by decide, rfl⟩
  | @integer negative digits h =>
    refine ⟨fun c hc => ?_, by simp [h.ne_nil], ?_⟩
    · rcases List.mem_append.mp hc with hc | hc
      · exact isWordChar_of_mem_minus hc
      · exact isWordChar_of_isDigit (h.digit c hc)
    · -- a number with nothing behind its digits
      have hend : ∀ c ∈ ([] : Text).head?, c.isDigit = false := fun _ hc => nomatch hc
      have hnumber := number?_eq h hend negative
      rw [if_pos rfl] at hnumber
      rw [← List.append_nil digits, word?, if_neg (h.ne_null negative []), hnumber, List.append_nil]
  | @double negative whole s fraction order h hscale =>
    refine ⟨fun c hc => ?_, by simp [h.ne_nil], ?_⟩
    · rcases List.mem_append.mp hc with hc | hc
      · exact isWordChar_of_mem_minus hc
      · rcases List.mem_append.mp hc with hc | hc
        · exact isWordChar_of_isDigit (h.digit c hc)
        · exact hscale.isWordChar c hc
    · rw [word?, if_neg (h.ne_null negative s), number?_eq h hscale.head_not_digit negative,
        if_neg hscale.ne_nil, scale?_of_spells hscale]
      rfl

/-! ## Tokens -/

theorem isGap_of_isWordChar {c : CodePoint} (h : isWordChar c = true) :
    isGap c = false ∧ isMark c = false ∧ c ≠ '\x22' := by
  simpa [isWordChar, and_assoc] using h

/-- **A spelling is found by the lexer**, if a word that it spells ends there. -/
theorem token?_of_spells {s : Text} {token : Token} (h : Spells s token) {rest : Text}
    (hend : token.isWord = true → ∀ c ∈ rest.head?, isWordChar c = false) :
    ∃ first others, s = first :: others ∧ isGap first = false ∧
      token? first (others ++ rest) = some (token, others.length) := by
  by_cases hword : token.isWord = true
  · obtain ⟨hchars, hne, htoken⟩ := word?_of_spells h hword
    obtain ⟨first, others, rfl⟩ := List.exists_cons_of_ne_nil hne
    obtain ⟨hfirst, hothers⟩ := List.forall_mem_cons.mp hchars
    obtain ⟨hgap, hmark, hquote⟩ := isGap_of_isWordChar hfirst
    obtain ⟨htake, _⟩ := takeWhile_append_stop hothers (hend hword)
    refine ⟨first, others, rfl, hgap, ?_⟩
    unfold token?
    rw [if_neg (by rw [hmark]; decide), if_neg hquote]
    dsimp only
    rw [htake, htoken]
    rfl
  · cases h with
    | null => exact absurd rfl hword
    | integer _ => exact absurd rfl hword
    | double _ _ => exact absurd rfl hword
    | @mark c hmark =>
      have hgap : ∀ d ∈ (['[', ']', '\x7b', '\x7d', ',', ':'] : Text), isGap d = false := by simp [isGap]
      refine ⟨c, [], rfl, hgap c (List.contains_iff_mem.mp hmark), ?_⟩
      rw [token?, if_pos hmark]
      rfl
    | @string s t hs =>
      refine ⟨'\x22', s ++ (['\x22'] : Text), rfl, by decide, ?_⟩
      rw [token?, if_neg (by decide), if_pos rfl, List.append_assoc, List.singleton_append,
        string?_of_spells hs, List.length_append]
      rfl

/-- White space in front does not count. -/
theorem lex_append_gap {gap : Text} (hgap : ∀ c ∈ gap, isGap c = true) (t : Text) :
    lex (gap ++ t) = lex t := by
  induction gap with
  | nil => rfl
  | cons c gap ih =>
    obtain ⟨hc, hrest⟩ := List.forall_mem_cons.mp hgap
    rw [List.cons_append, lex, if_pos hc, ih hrest]

/-- A spelling at the front gives its token, whatever becomes of the rest. -/
theorem lex_of_spells {s : Text} {token : Token} (h : Spells s token) {rest : Text}
    (hend : token.isWord = true → ∀ c ∈ rest.head?, isWordChar c = false) :
    lex (s ++ rest) = (lex rest).map (token :: ·) := by
  obtain ⟨first, others, rfl, hfirst, htoken⟩ := token?_of_spells h hend
  rw [List.cons_append, lex, if_neg (by rw [hfirst]; decide), htoken]
  dsimp only
  rw [List.drop_left]

/-- **A text is lexed into the tokens that it spells.** -/
theorem lex_of_lexes {t : Text} {tokens : List Token} (h : Lexes t tokens) : lex t = some tokens := by
  induction h with
  | gap hgap =>
    have hlex := lex_append_gap hgap []
    rw [List.append_nil] at hlex
    rw [hlex, lex]
  | @token gap s rest token tokens hgap hs hend _ ih =>
    rw [lex_append_gap hgap, lex_of_spells hs hend, ih, Option.map_some]

/-! ## Values -/

/-- Induction on values: for arrays and objects from all that is in them. -/
@[elab_as_elim]
theorem inductionOn {motive : Json → Prop} (hnull : motive .null) (hinteger : ∀ n, motive (.integer n))
    (hdouble : ∀ d, motive (.double d)) (hstring : ∀ t, motive (.string t))
    (harray : ∀ items, (∀ j ∈ items, motive j) → motive (.array items))
    (hobject : ∀ members, (∀ member ∈ members, motive member.2) → motive (.object members))
    (j : Json) : motive j :=
  match j with
  | .null => hnull
  | .integer n => hinteger n
  | .double d => hdouble d
  | .string t => hstring t
  | .array items =>
    harray items fun j _ => inductionOn hnull hinteger hdouble hstring harray hobject j
  | .object members =>
    hobject members fun m _ => inductionOn hnull hinteger hdouble hstring harray hobject m.2
termination_by sizeOf j
decreasing_by
  · next hmem =>
    have hlt := List.sizeOf_lt_of_mem hmem
    simp only [Json.array.sizeOf_spec]
    omega
  · next hmem =>
    have hlt := List.sizeOf_lt_of_mem hmem
    obtain ⟨key, value⟩ := m
    simp only [Json.object.sizeOf_spec, Prod.mk.sizeOf_spec] at hlt ⊢
    omega

theorem run_append (state : State) (tokens tokens' : List Token) :
    run state (tokens ++ tokens') = run state tokens >>= fun state' => run state' tokens' :=
  List.foldlM_append

theorem run_cons (state : State) (token : Token) (tokens : List Token) :
    run state (token :: tokens) = step state token >>= fun state' => run state' tokens :=
  List.foldlM_cons

/-- The tokens of a value begin with one that begins a value. -/
theorem exists_tokens_eq_cons (j : Json) :
    ∃ token tokens, j.tokens = token :: tokens ∧ ∀ frames, step (.firstItem frames) token =
      step (.value (.items [] :: frames)) token := by
  match j with
  | .null => exact ⟨_, _, by rw [tokens], fun _ => rfl⟩
  | .integer n => exact ⟨_, _, by rw [tokens], fun _ => rfl⟩
  | .double d => exact ⟨_, _, by rw [tokens], fun _ => rfl⟩
  | .string t => exact ⟨_, _, by rw [tokens], fun _ => rfl⟩
  | .array [] => exact ⟨_, _, by rw [tokens], fun _ => rfl⟩
  | .array (first :: rest) => exact ⟨_, _, by rw [tokens], fun _ => rfl⟩
  | .object [] => exact ⟨_, _, by rw [tokens], fun _ => rfl⟩
  | .object ((key, first) :: rest) => exact ⟨_, _, by rw [tokens], fun _ => rfl⟩

/-- The first item of an array is read like any other. -/
theorem run_firstItem (j : Json) (frames : List Frame) :
    run (.firstItem frames) j.tokens = run (.value (.items [] :: frames)) j.tokens := by
  obtain ⟨token, tokens, heq, hstep⟩ := j.exists_tokens_eq_cons
  rw [heq, run_cons, run_cons, hstep]

/-- `Reads j` — the tokens of `j` are read as `j`, whatever is open around it. -/
def Reads (j : Json) : Prop := ∀ frames, run (.value frames) j.tokens = some (.ended j frames)

theorem run_itemTokens {items : List Json} (h : ∀ j ∈ items, Reads j) (first : Json) (done : List Json)
    (frames : List Frame) :
    run (.ended first (.items done :: frames)) (itemTokens items ++ [.mark ']']) =
      some (.ended (.array (done.reverse ++ first :: items)) frames) := by
  induction items generalizing first done with
  | nil =>
    rw [itemTokens, List.nil_append]
    simp [run, step]
  | cons item items ih =>
    obtain ⟨hitem, hitems⟩ := List.forall_mem_cons.mp h
    rw [itemTokens, List.cons_append, run_cons]
    show run (.value (.items (first :: done) :: frames)) _ = _
    rw [List.append_assoc, run_append, hitem]
    show run (.ended item (.items (first :: done) :: frames)) _ = _
    rw [ih hitems, List.reverse_cons, List.append_assoc]
    rfl

theorem run_memberTokens {members : List (Text × Json)} (h : ∀ member ∈ members, Reads member.2)
    (key : Text) (value : Json) (done : List (Text × Json)) (frames : List Frame) :
    run (.ended value (.member done key :: frames)) (memberTokens members ++ [.mark '\x7d']) =
      some (.ended (.object (done.reverse ++ (key, value) :: members)) frames) := by
  induction members generalizing key value done with
  | nil =>
    rw [memberTokens, List.nil_append]
    simp [run, step]
  | cons member members ih =>
    obtain ⟨key', value'⟩ := member
    obtain ⟨hvalue, hmembers⟩ := List.forall_mem_cons.mp h
    rw [memberTokens, List.cons_append, List.cons_append, List.cons_append, run_cons]
    show run (.value (.member ((key, value) :: done) key' :: frames)) _ = _
    rw [List.append_assoc, run_append, hvalue]
    show run (.ended value' (.member ((key, value) :: done) key' :: frames)) _ = _
    rw [ih hmembers, List.reverse_cons, List.append_assoc]
    rfl

/-- **The tokens of a value are read as that value.** -/
theorem run_tokens (j : Json) : Reads j := by
  induction j using inductionOn with
  | hnull => exact fun frames => by rw [tokens]; rfl
  | hinteger n => exact fun frames => by rw [tokens]; rfl
  | hdouble d => exact fun frames => by rw [tokens]; rfl
  | hstring t => exact fun frames => by rw [tokens]; rfl
  | harray items ih =>
    intro frames
    cases items with
    | nil => rw [tokens]; rfl
    | cons first rest =>
      obtain ⟨hfirst, hrest⟩ := List.forall_mem_cons.mp ih
      rw [tokens, run_cons]
      show run (.firstItem frames) _ = _
      rw [run_append, run_firstItem, hfirst]
      exact run_itemTokens hrest first [] frames
  | hobject members ih =>
    intro frames
    cases members with
    | nil => rw [tokens]; rfl
    | cons member rest =>
      obtain ⟨key, first⟩ := member
      obtain ⟨hfirst, hrest⟩ := List.forall_mem_cons.mp ih
      rw [tokens, run_cons]
      show run (.value (.member [] key :: frames)) _ = _
      rw [run_append, hfirst]
      exact run_memberTokens hrest key first [] frames

/-- **Every document is decoded to its value.** -/
theorem decode_of_document {t : Text} {j : Json} (h : Document t j) : decode t = some j := by
  unfold decode
  rw [lex_of_lexes h]
  show (run (.value []) j.tokens >>= _) = _
  rw [j.run_tokens []]
  rfl

/-- A document has one value. -/
theorem Document.unique {t : Text} {j j' : Json} (h : Document t j) (h' : Document t j') : j = j' :=
  Option.some.inj ((decode_of_document h).symm.trans (decode_of_document h'))

end PartProgram.Json
