/-
  Templates.

  A template is a text with markers, for each of which an operand is put.  A marker is a percent
  sign, then a name in parentheses, flags, a width, a precision behind a point and one of the
  letters `h`, `l` and `L`, which mean nothing; all of these may be missing.  Last comes the letter
  of a conversion.  Two percent signs next to each other are no marker but a percent sign.

  1. `pieces` cuts a template into characters and markers, whether or not they make sense.
  2. `Operand` is what can be put for a marker, and `convert` gives its text.  That is made of runs,
     because a marker can ask for a column of any width.
  3. `fill` goes through the pieces from left to right, and the first thing that is wrong ends it.
     Operands are taken in order, and then none may be left over; or they are facts that markers
     name, and then a marker without a name stands for the whole table of facts.
-/
import PartProgram.Text.Quoted
import PartProgram.Text.Run

namespace PartProgram.Template

/-- Why a template cannot be filled. -/
inductive Error where
  /-- A marker breaks off at the end of the template. -/
  | incomplete
  /-- The name in a marker is not closed. -/
  | incompleteName
  /-- A width is beyond all bounds. -/
  | widthTooBig
  /-- A precision is beyond all bounds. -/
  | precisionTooBig
  /-- A precision is too large for integers. -/
  | precisionTooLarge
  /-- A marker has a name, and the operands have none. -/
  | unnamedOperands
  /-- There is no fact of that name. -/
  | unknownFact (name : Text)
  /-- There is no operand left for a marker. -/
  | tooFewOperands
  /-- There are operands left at the end. -/
  | tooManyOperands
  /-- An operand was asked for a width or a precision and is not a number. -/
  | notMeasure
  /-- There is no conversion of that letter, which stands at the given position. -/
  | unknownConversion (letter : CodePoint) (position : Nat)
  /-- The conversion takes integers, and the operand is of another type. -/
  | notInteger (letter : CodePoint) (type : Text)
  /-- The conversion takes numbers, and the operand is of another type. -/
  | notNumber (letter : CodePoint) (type : Text)
  /-- The conversion takes fractions, and the operand is of another type. -/
  | notFraction (type : Text)
  /-- The conversion takes a character, and the operand is none. -/
  | notCharacter
deriving DecidableEq, Repr

/-- The wording of an error. -/
def Error.message : Error → Text
  | incomplete => "incomplete format".toText
  | incompleteName => "incomplete format key".toText
  | widthTooBig => "width too big".toText
  | precisionTooBig => "precision too big".toText
  | precisionTooLarge => "precision too large".toText
  | unnamedOperands => "format requires a mapping".toText
  | unknownFact name => name.quoted
  | tooFewOperands => "not enough arguments for format string".toText
  | tooManyOperands => "not all arguments converted during string formatting".toText
  | notMeasure => "* wants int".toText
  | unknownConversion letter position =>
    let shown := if 31 ≤ letter.toNat ∧ letter.toNat ≤ 126 then letter else '?'
    "unsupported format character \x27".toText ++ shown :: "\x27 (0x".toText ++
      Text.ofNatHex 1 letter.toNat ++ ") at index ".toText ++ Text.ofNat position
  | notInteger letter type =>
    ('%' : CodePoint) :: letter :: " format: an integer is required, not ".toText ++ type
  | notNumber letter type =>
    ('%' : CodePoint) :: letter :: " format: a real number is required, not ".toText ++ type
  | notFraction type => "must be real number, not ".toText ++ type
  | notCharacter => "%c requires int or char".toText

/-! ## Pieces -/

/-- A width or a precision. -/
inductive Measure where
  | given (n : Nat)
  /-- The next operand gives it. -/
  | asked
deriving DecidableEq, Repr

/-- A marker, as it is written. -/
structure Marker where
  name : Option Text := none
  flags : Text
  width : Option Measure
  precision : Option Measure
  /-- The letter of the conversion; none if the template ends before it. -/
  conversion : Option CodePoint
  /-- The position of that letter. -/
  position : Nat
deriving DecidableEq, Repr

/-- A piece of a template. -/
inductive Piece where
  | char (c : CodePoint)
  | marker (m : Marker)
  /-- A marker with a name that is not closed. -/
  | openName
deriving DecidableEq, Repr

/-- How many characters there are up to the parenthesis that closes the given number of open ones,
    itself included. -/
def lengthToClose : (depth : Nat) → Text → Option Nat
  | 0, _ => some 0
  | _ + 1, [] => none
  | depth + 1, c :: rest =>
    (lengthToClose (if c = ')' then depth else if c = '(' then depth + 2 else depth + 1) rest).map
      (· + 1)

/-- The measure at the front, if there is one, and what follows it. -/
def Measure.scan : Text → Option Measure × Text
  | '*' :: rest => (some .asked, rest)
  | t =>
    let digits := t.takeWhile CodePoint.isDigit
    if digits.isEmpty then (none, t)
    else (some (.given (Text.digitsValue digits)), t.drop digits.length)

/-- The precision at the front, if there is one, and what follows it.  The point alone means
    zero. -/
def Measure.scanPrecision : Text → Option Measure × Text
  | '.' :: rest => ((scan rest).1.getD (.given 0), (scan rest).2)
  | t => (none, t)

/-- What follows the letter at the front that means nothing, if there is one. -/
def afterSize : Text → Text
  | 'h' :: rest => rest
  | 'l' :: rest => rest
  | 'L' :: rest => rest
  | t => t

/-- The marker at the front, behind its name if it has one, and its length.  The front stands at the
    given position. -/
def Marker.scan (position : Nat) (t : Text) : Marker × Nat :=
  let flags := t.takeWhile "-+ #0".toText.contains
  let (width, rest) := Measure.scan (t.drop flags.length)
  let (precision, rest) := Measure.scanPrecision rest
  let rest := afterSize rest
  let length := t.length - rest.length
  ({ flags, width, precision, conversion := rest.head?, position := position + length }, length + 1)

/-- The pieces of a template that stands at the given position. -/
def pieces (position : Nat) : Text → List Piece
  | [] => []
  | '%' :: '%' :: rest => .char '%' :: pieces (position + 2) rest
  | '%' :: '(' :: rest =>
    match lengthToClose 1 rest with
    | none => [.openName]
    | some length =>
      let (marker, more) := Marker.scan (position + 2 + length) (rest.drop length)
      .marker { marker with name := some (rest.take (length - 1)) } ::
        pieces (position + 2 + length + more) (rest.drop (length + more))
  | '%' :: rest =>
    let (marker, more) := Marker.scan (position + 1) rest
    .marker marker :: pieces (position + 1 + more) (rest.drop more)
  | c :: rest => .char c :: pieces (position + 1) rest
termination_by t => t.length
decreasing_by all_goals simp only [List.length_drop, List.length_cons]; omega

/-! ## Operands -/

/-- What can be put for a marker. -/
inductive Operand where
  | text (t : Text)
  /-- Yes or no; as a number, one or zero. -/
  | flag (value : Bool)
  | absent
  | texts (items : List Text)
  /-- Anything else: the name of its type and its description. -/
  | object (type description : Text)
deriving DecidableEq, Repr

namespace Operand

/-- The operand as it is quoted. -/
def quoted : Operand → Text
  | text t => t.quoted
  | flag true => "True".toText
  | flag false => "False".toText
  | absent => PartProgram.absent
  | texts items => ('[' : CodePoint) :: Text.joined ", ".toText (items.map Text.quoted) ++ ([']'] : Text)
  | object _ description => description

/-- The operand as it is shown: a text as itself, anything else as it is quoted. -/
def shown : Operand → Text
  | text t => t
  | operand => operand.quoted

/-- The name of the type. -/
def typeName : Operand → Text
  | text _ => "str".toText
  | flag _ => "bool".toText
  | absent => "NoneType".toText
  | texts _ => "list".toText
  | object type _ => type

/-- The number that the operand is.  It has one digit, so it is the same in all bases, and nothing
    has to be rounded. -/
def number? : Operand → Option Nat
  | flag value => some value.toNat
  | _ => none

/-- The whole of a table of facts. -/
def table (facts : List (Text × Operand)) : Operand :=
  let entries := facts.map fun (name, operand) => name.quoted ++ ": ".toText ++ operand.quoted
  object "dict".toText (('\x7b' : CodePoint) :: Text.joined ", ".toText entries ++ (['\x7d'] : Text))

end Operand

/-! ## Conversions -/

/-- The greatest width that can be written. -/
def maxWidth : Nat := 9223372036854775807

/-- The greatest precision that can be written. -/
def maxPrecision : Nat := 2147483647

/-- The greatest precision of integers: there is room for a sign and a mark beside the digits. -/
def maxIntegerPrecision : Nat := maxPrecision - 3

/-- `body` in a column of the given width, to the right unless the flags say to the left. -/
def column (flags : Text) (width : Option Nat) (body : List Run) : List Run :=
  let padding := Run.copies ' ' (width.getD 0 - Run.total body)
  if flags.contains '-' then body ++ [padding] else padding :: body

/-- The digits with leading zeros up to the given width. -/
def zeroPadded (width : Nat) (digits : List Run) : List Run :=
  .copies '0' (width - Run.total digits) :: digits

/-- A number that is not negative in a column: the sign that the flags ask for, a mark, and the
    digits.  If the flags say so, zeros behind the mark fill the column. -/
def numberColumn (flags : Text) (width : Option Nat) (mark : Text) (digits : List Run) : List Run :=
  let sign : Text := if flags.contains '+' then ['+'] else if flags.contains ' ' then [' '] else []
  let front := sign ++ mark
  let filled := if flags.contains '0' && !flags.contains '-' then width.getD 0 else 0
  column flags width (.text front :: zeroPadded (filled - front.length) digits)

/-- An integer with leading zeros up to the precision, in a column. -/
def integerColumn (flags : Text) (width precision : Option Nat) (mark : Text) (n : Nat) :
    Except Error (List Run) :=
  if maxIntegerPrecision < precision.getD 0 then throw .precisionTooLarge
  else pure (numberColumn flags width mark (zeroPadded (precision.getD 0) [.text (Text.ofNat n)]))

/-- A digit with so many zeros behind a point; without zeros there is no point unless it is asked
    for. -/
def fraction (digit : Text) (places : Nat) (point : Bool) : List Run :=
  .text digit :: (if places = 0 && !point then [] else [.text ['.'], .copies '0' places])

/-- A digit as the conversion of the given letter writes fractions: with six places unless the
    precision says otherwise; with an exponent; or with significant places only.  Before an exponent
    the digit is counted with the places behind it; with the greatest precision that count is out of
    range, and there are no places. -/
def fractionDigits (letter : CodePoint) (flags : Text) (precision : Option Nat) (digit : Text) :
    List Run :=
  let places := precision.getD 6
  let placesBeforeExponent := if places < maxPrecision then places else 0
  let point := flags.contains '#'
  match letter with
  | 'e' => fraction digit placesBeforeExponent point ++ [.text "e+00".toText]
  | 'E' => fraction digit placesBeforeExponent point ++ [.text "E+00".toText]
  | 'g' | 'G' => if point then fraction digit (max 1 places - 1) true else [.text digit]
  | _ => fraction digit places point

/-- The text of an operand for a marker with the given letter, width and precision. -/
def convert (m : Marker) (letter : CodePoint) (width precision : Option Nat) (operand : Operand) :
    Except Error (List Run) :=
  let cut (t : Text) : List Run := match precision with
    | some n => [.text (t.take n)]
    | none => [.text t]
  match letter with
  | 's' => pure (column m.flags width (cut operand.shown))
  | 'r' => pure (column m.flags width (cut operand.quoted))
  | 'a' => pure (column m.flags width (cut operand.quoted.inAscii))
  | 'c' =>
    match operand, operand.number? with
    | .text [c], _ => pure (column m.flags width [.text [c]])
    | _, some n => pure (column m.flags width [.text [CodePoint.ofNat n]])
    | _, none => throw .notCharacter
  | 'd' | 'i' | 'u' =>
    match operand.number? with
    | some n => integerColumn m.flags width precision [] n
    | none => throw (.notNumber letter operand.typeName)
  | 'o' | 'x' | 'X' =>
    match operand.number? with
    | some n =>
      let mark : Text := if m.flags.contains '#' then ['0', letter] else []
      integerColumn m.flags width precision mark n
    | none => throw (.notInteger letter operand.typeName)
  | 'e' | 'E' | 'f' | 'F' | 'g' | 'G' =>
    match operand.number? with
    | some n =>
      let digits := fractionDigits letter m.flags precision (Text.ofNat n)
      pure (numberColumn m.flags width [] digits)
    | none => throw (.notFraction operand.typeName)
  | _ => throw (.unknownConversion letter m.position)

/-! ## Filling -/

/-- The operands for a template. -/
inductive Operands where
  | inOrder (operands : List Operand)
  | named (facts : List (Text × Operand))
deriving DecidableEq, Repr

/-- The next of the waiting operands, and the others. -/
def next : List Operand → Except Error (Operand × List Operand)
  | [] => throw .tooFewOperands
  | operand :: waiting => pure (operand, waiting)

/-- A measure, and the operands that still wait.  A number that is written must not be beyond the
    bound. -/
def measure (bound : Nat) (tooBig : Error) (waiting : List Operand) :
    Option Measure → Except Error (Option Nat × List Operand)
  | none => pure (none, waiting)
  | some (.given n) => if bound < n then throw tooBig else pure (some n, waiting)
  | some .asked => do
    let (operand, waiting) ← next waiting
    match operand.number? with
    | some n => pure (some n, waiting)
    | none => throw .notMeasure

/-- The operands that wait for a marker: those that waited before, or the fact that it names. -/
def Marker.candidates (m : Marker) (operands : Operands) (waiting : List Operand) :
    Except Error (List Operand) :=
  match m.name, operands with
  | none, _ => pure waiting
  | some _, .inOrder _ => throw .unnamedOperands
  | some name, .named facts =>
    match facts.lookup name with
    | some operand => pure [operand]
    | none => throw (.unknownFact name)

/-- The text for a marker, and the operands that still wait. -/
def Marker.fill (m : Marker) (operands : Operands) (waiting : List Operand) :
    Except Error (List Run × List Operand) := do
  let waiting ← m.candidates operands waiting
  let (width, waiting) ← measure maxWidth .widthTooBig waiting m.width
  let (precision, waiting) ← measure maxPrecision .precisionTooBig waiting m.precision
  match m.conversion with
  | none => throw .incomplete
  | some letter =>
    let (operand, waiting) ← next waiting
    return (← convert m letter width precision operand, waiting)

/-- The text of the pieces, with the given operands waiting. -/
def fillPieces (operands : Operands) (waiting : List Operand) :
    List Piece → Except Error (List Run)
  | [] =>
    match operands with
    | .inOrder _ => if waiting.isEmpty then pure [] else throw .tooManyOperands
    | .named _ => pure []
  | .char c :: rest => return .text [c] :: (← fillPieces operands waiting rest)
  | .openName :: _ =>
    match operands with
    | .inOrder _ => throw .unnamedOperands
    | .named _ => throw .incompleteName
  | .marker m :: rest => do
    let (runs, waiting) ← m.fill operands waiting
    return runs ++ (← fillPieces operands waiting rest)

/-- The text of a template with its operands, as runs. -/
def fill (template : Text) (operands : Operands) : Except Error (List Run) :=
  let waiting := match operands with
    | .inOrder operands => operands
    | .named facts => [.table facts]
  fillPieces operands waiting (pieces 0 template)

end PartProgram.Template
