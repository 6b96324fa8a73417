/-
  The standard dialect.

  A line is taken by its first character that is not blank: a semicolon makes a comment, an `N` a
  numbered line, a colon a control line; a line without such a character is blank, and any other is
  plain text.  The tokens of a line are its words.

  A numbered line is `N` and an integer, then a code (`G` or `M` and an integer), then parameters;
  if the second token begins with another character there is no code and it is a parameter as well.
  A control line is a keyword behind a colon, in any mixture of cases, then parameters.

  A parameter token with an equals sign is a key and a value, whatever it begins with.  Without one
  it is a code if it begins with `G` or `M`, and otherwise an unknown word.
-/
import PartProgram.Slice
import PartProgram.Text.Case
import PartProgram.Dialect.Basic

namespace PartProgram

namespace Standard

/-! ## Parameters -/

/-- A code parameter: the number is kept only if the rest of the token is an integer literal. -/
def codeParam (_ : Builders) (token : Text) : Attempt Param := do
  return .code token (← Numeral.integer? (token.drop 1))

/-- A key and a value, cut at the first equals sign.  A value that is not a number is told. -/
def valueParam (_ : Builders) (token : Text) : Attempt Param := do
  let (identifier, value) := token.cut '='
  match ← Numeral.number? value with
  | some (.double d) => return .double identifier d
  | some (.integer n) => return .integer identifier n
  | none =>
    Attempt.report (.textValue identifier value)
    return .text identifier value

/-- The parameter of one token. -/
def param (table : Builders) (token : Text) : Attempt Param :=
  if token.contains '=' then table.valueParam token
  else match token with
    | [] => .fail .emptyToken
    | letter :: _ =>
      if letter = 'G' ∨ letter = 'M' then table.codeParam token else pure (.unknown token)

/-- The parameters of the tokens from `start` up to `stop`, one for each, in order. -/
def parameters (table : Builders) (tokens : List Text) (start : Int) (stop : Option Int) :
    Attempt (List Param) :=
  (Slice.window tokens start stop).mapM (param table)

/-! ## Lines -/

/-- A blank line has nothing but its envelope. -/
def blank (_ : Builders) (raw : Text) (index : Int) : Attempt Line :=
  pure { index, kind := .blank, raw }

/-- A line of plain text has nothing but its envelope. -/
def textLine (_ : Builders) (raw : Text) (index : Int) : Attempt Line :=
  pure { index, kind := .text, raw }

/-- A comment runs from the first semicolon to the end of the line. -/
def comment (_ : Builders) (raw : Text) (index : Int) : Attempt Line :=
  match raw.dropWhile (· != (';' : CodePoint)) with
  | [] => .fail .noSemicolon
  | found => pure { index, kind := .comment, raw, comment := some found }

/-- The number behind the first letter of a token that is a field of a numbered line.  The index has at most
    4300 digits, as every position of a line has, so that an error can tell it. -/
def fieldNumber (field token raw : Text) (index : Int) : Attempt Int := do
  match ← Numeral.integer? (token.drop 1) with
  | some value => return value
  | none => .fail (.format (.notInteger field token raw index))

/-- A numbered line. -/
def codeLine (table : Builders) (raw : Text) (tokens : List Text) (index : Int) : Attempt Line := do
  match tokens with
  | [] => .fail .outOfRange
  | first :: rest =>
    let n ← fieldNumber ['N'] first raw index
    match rest with
    | [] => return { index, kind := .otherCode, raw, n }
    | [] :: _ => .fail .emptyToken
    | (letter :: digits) :: _ =>
      if letter = 'G' ∨ letter = 'M' then
        let code ← fieldNumber [letter] (letter :: digits) raw index
        let parameters ← table.parameters tokens 2 none
        return { index, kind := if letter = 'G' then .gCode else .mCode, raw, n, code, parameters }
      else
        let parameters ← table.parameters tokens 1 none
        return { index, kind := .otherCode, raw, n, parameters }

/-- The kind of a control line, by its keyword in lower case. -/
def controlKind (keyword : Text) : LineKind :=
  if keyword = "if".toText then .branch
  else if keyword = "else".toText then .alternative
  else if keyword = "endif".toText then .branchEnd
  else .otherControl

/-- A control line: the first character of the first token is taken for the colon. -/
def controlLine (table : Builders) (raw : Text) (tokens : List Text) (index : Int) :
    Attempt Line := do
  match tokens with
  | [] => .fail .outOfRange
  | first :: _ =>
    let parameters ← table.parameters tokens 1 none
    return { index, kind := controlKind (Text.lower (first.drop 1)), raw, parameters }

/-- The record of a line with the given tokens, by the first character of the first one. -/
def classifyTokens (table : Builders) (raw : Text) (tokens : List Text) (index : Int) :
    Attempt Line :=
  match tokens with
  | [] => table.blank raw index
  | first :: _ =>
    match first.head? with
    | some (';' : CodePoint) => table.comment raw index
    | some ('N' : CodePoint) => table.codeLine raw tokens index
    | some (':' : CodePoint) => table.controlLine raw tokens index
    | _ => table.textLine raw index

/-- The record of a line, by its first character that is not blank.  An empty line and a leading
    semicolon are settled without looking for tokens. -/
def classify (table : Builders) (raw : Text) (index : Int) : Attempt Line :=
  match raw.head? with
  | none => table.blank raw index
  | some (';' : CodePoint) => table.comment raw index
  | some _ => classifyTokens table raw raw.words index

end Standard

/-- The standard dialect. -/
def Dialect.standard : Dialect where
  classify := Standard.classify
  blank := Standard.blank
  comment := Standard.comment
  codeLine := Standard.codeLine
  controlLine := Standard.controlLine
  textLine := Standard.textLine
  parameters := Standard.parameters
  codeParam := Standard.codeParam
  valueParam := Standard.valueParam

end PartProgram
