/-
  Reading JSON documents.

  1. **Tokens** — `lex` takes a text apart into marks, strings and words.  Strings are read with their
     escapes (`char?`), where the two halves of a pair of surrogates are one character and any other
     surrogate stands for itself; a word is a number or null (`word?`).

  2. **Values** — a machine takes the tokens one by one (`step`).  What is open around the value that it
     reads is kept on a stack of frames.

  3. `decode` puts the two together.  It reads all of JSON but the two truth values, for which there is no
     `Json`.
-/
import PartProgram.Json.Basic
import PartProgram.Proofs.Literal

namespace PartProgram.Json

/-! ## Strings -/

/-- The value of a hexadecimal digit. -/
def hexDigit? (c : CodePoint) : Option Nat :=
  if '0'.toNat ≤ c.toNat ∧ c.toNat ≤ '9'.toNat then some (c.toNat - '0'.toNat)
  else if 'a'.toNat ≤ c.toNat ∧ c.toNat ≤ 'f'.toNat then some (c.toNat - 'a'.toNat + 10)
  else if 'A'.toNat ≤ c.toNat ∧ c.toNat ≤ 'F'.toNat then some (c.toNat - 'A'.toNat + 10)
  else none

/-- The code unit of the four hexadecimal digits at the front. -/
def unit? : Text → Option Nat
  | a :: b :: c :: d :: _ => do
    return 0x1000 * (← hexDigit? a) + 0x100 * (← hexDigit? b) + 0x10 * (← hexDigit? c) +
      (← hexDigit? d)
  | _ => none

/-- The character that an escape of one letter stands for. -/
def short? : CodePoint → Option CodePoint
  | '\x22' => some ('\x22' : CodePoint)
  | '\\' => some ('\\' : CodePoint)
  | '/' => some ('/' : CodePoint)
  | 'b' => some ('\x08' : CodePoint)
  | 'f' => some ('\x0c' : CodePoint)
  | 'n' => some ('\n' : CodePoint)
  | 'r' => some ('\r' : CodePoint)
  | 't' => some ('\t' : CodePoint)
  | _ => none

/-- The first half of a pair of surrogates. -/
def isHigh (unit : Nat) : Bool := 0xd800 ≤ unit && unit ≤ 0xdbff

/-- The second half of a pair of surrogates. -/
def isLow (unit : Nat) : Bool := 0xdc00 ≤ unit && unit ≤ 0xdfff

/-- The character of a pair of surrogates. -/
def ofPair (high low : Nat) : CodePoint :=
  CodePoint.ofNat (0x10000 + (high - 0xd800) * 0x400 + (low - 0xdc00))

/-- The second half of a pair, if its escape stands at the front. -/
def low? : Text → Option Nat
  | '\\' :: 'u' :: t => (unit? t).filter isLow
  | _ => none

/-- The code point of a code unit before `rest`, and the length of its escapes behind the backslash.  A
    first half takes along the second half that follows it. -/
def ofUnit (unit : Nat) (rest : Text) : CodePoint × Nat :=
  match if isHigh unit then low? rest else none with
  | some low => (ofPair unit low, 11)
  | none => (CodePoint.ofNat unit, 5)

/-- The code point of the escape at the front, behind its backslash, and the length of the escape. -/
def escape? : Text → Option (CodePoint × Nat)
  | [] => none
  | letter :: t =>
    if letter = 'u' then (unit? t).map (ofUnit · (t.drop 4))
    else (short? letter).map (·, 1)

/-- The character of a string that begins with `c`, and the number of characters behind `c` that belong
    to it. -/
def char? (c : CodePoint) (rest : Text) : Option (CodePoint × Nat) :=
  if c = '\\' then escape? rest else if c.toNat < 0x20 then none else some (c, 0)

/-- The string that ends with the next quote, and its length with the quote. -/
def string? : Text → Option (Text × Nat)
  | [] => none
  | c :: rest =>
    if c = '\x22' then some ([], 1)
    else match char? c rest with
      | none => none
      | some (d, extra) =>
        (string? (rest.drop extra)).map fun (text, length) => (d :: text, length + extra + 1)
termination_by t => t.length
decreasing_by simp only [List.length_drop, List.length_cons]; omega

/-! ## Numbers -/

/-- The exponent of a number; none is that of zero. -/
def exponent? : Text → Option Int
  | [] => some 0
  | c :: literal =>
    if (c = 'e' ∨ c = 'E') ∧ Numeral.isInteger literal then
      let digits := Text.digitsValue (Numeral.unsigned literal)
      some (if Numeral.isNegative literal then -(digits : Int) else digits)
    else none

/-- The digits behind the point, if there is one, and the exponent. -/
def scale? (t : Text) : Option (Text × Int) :=
  if t.head? = some ('.' : CodePoint) then
    let fraction := t.tail.takeWhile CodePoint.isDigit
    if fraction = [] then none
    else (exponent? (t.tail.dropWhile CodePoint.isDigit)).map (fraction, ·)
  else (exponent? t).map ([], ·)

/-- A token of a document. -/
inductive Token where
  /-- A bracket, a brace, a comma or a colon. -/
  | mark (c : CodePoint)
  | null
  | integer (value : Int)
  | double (value : Double)
  | string (value : Text)

/-- The number that a word spells.  Without a point and an exponent it is an integer. -/
def number? (t : Text) : Option Token :=
  let negative := Numeral.isNegative t
  let body := if negative then t.tail else t
  let whole := body.takeWhile CodePoint.isDigit
  let rest := body.dropWhile CodePoint.isDigit
  if whole = [] ∨ (whole.head? = some ('0' : CodePoint) ∧ whole ≠ (['0'] : Text)) then none
  else if rest = [] then
    let digits := Text.digitsValue whole
    some (.integer (if negative then -(digits : Int) else digits))
  else
    (scale? rest).map fun (fraction, order) =>
      .double (.ofDecimal negative (Text.digitsValue (whole ++ fraction)) (order - fraction.length))

/-! ## Tokens -/

/-- White space between tokens. -/
def isGap (c : CodePoint) : Bool := c = ' ' || c = '\t' || c = '\n' || c = '\r'

/-- A token of one character. -/
def isMark (c : CodePoint) : Bool := (['[', ']', '\x7b', '\x7d', ',', ':'] : Text).contains c

/-- A character that neither stands between words nor is a token of its own. -/
def isWordChar (c : CodePoint) : Bool := !(isGap c || isMark c || c = '\x22')

/-- The token of a word. -/
def word? (w : Text) : Option Token := if w = "null".toText then some .null else number? w

/-- The token that begins with `c`, and the number of characters behind `c` that belong to it. -/
def token? (c : CodePoint) (rest : Text) : Option (Token × Nat) :=
  if isMark c then some (.mark c, 0)
  else if c = '\x22' then (string? rest).map fun (text, length) => (.string text, length)
  else
    let others := rest.takeWhile isWordChar
    (word? (c :: others)).map (·, others.length)

/-- The tokens of a text. -/
def lex : Text → Option (List Token)
  | [] => some []
  | c :: rest =>
    if isGap c then lex rest
    else match token? c rest with
      | none => none
      | some (token, extra) => (lex (rest.drop extra)).map (token :: ·)
termination_by t => t.length
decreasing_by
  · simp only [List.length_cons]; omega
  · simp only [List.length_drop, List.length_cons]; omega

/-! ## Values -/

/-- What is open around a value: an array with the items before it, last one first, or an object with
    the members before it and the key of the value. -/
inductive Frame where
  | items (done : List Json)
  | member (done : List (Text × Json)) (key : Text)

/-- What has been read so far. -/
inductive State where
  /-- A value comes next. -/
  | value (frames : List Frame)
  /-- The first item of an array comes next, or its end. -/
  | firstItem (frames : List Frame)
  /-- The first key of an object comes next, or its end. -/
  | firstKey (frames : List Frame)
  /-- Another key comes next. -/
  | key (done : List (Text × Json)) (frames : List Frame)
  /-- The colon behind a key comes next. -/
  | colon (done : List (Text × Json)) (key : Text) (frames : List Frame)
  /-- A value has just ended. -/
  | ended (value : Json) (frames : List Frame)

/-- A value begins with the token. -/
def start (frames : List Frame) : Token → Option State
  | .null => some (.ended .null frames)
  | .integer n => some (.ended (.integer n) frames)
  | .double d => some (.ended (.double d) frames)
  | .string t => some (.ended (.string t) frames)
  | .mark '[' => some (.firstItem frames)
  | .mark '\x7b' => some (.firstKey frames)
  | .mark _ => none

/-- One token further. -/
def step : State → Token → Option State
  | .value frames, token => start frames token
  | .firstItem frames, .mark ']' => some (.ended (.array []) frames)
  | .firstItem frames, token => start (.items [] :: frames) token
  | .firstKey frames, .mark '\x7d' => some (.ended (.object []) frames)
  | .firstKey frames, .string key => some (.colon [] key frames)
  | .key done frames, .string key => some (.colon done key frames)
  | .colon done key frames, .mark ':' => some (.value (.member done key :: frames))
  | .ended j (.items done :: frames), .mark ',' => some (.value (.items (j :: done) :: frames))
  | .ended j (.items done :: frames), .mark ']' => some (.ended (.array (j :: done).reverse) frames)
  | .ended j (.member done key :: frames), .mark ',' => some (.key ((key, j) :: done) frames)
  | .ended j (.member done key :: frames), .mark '\x7d' =>
    some (.ended (.object ((key, j) :: done).reverse) frames)
  | _, _ => none

/-- The state after several tokens. -/
def run (state : State) (tokens : List Token) : Option State := tokens.foldlM step state

/-- The value of a document. -/
def decode (t : Text) : Option Json := do
  let tokens ← lex t
  match ← run (.value []) tokens with
  | .ended j [] => some j
  | _ => none

end PartProgram.Json
