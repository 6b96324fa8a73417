/-
  The options of the command.

  Options may stand before and behind the path.  A long option may be shortened to any beginning
  that is its alone, and takes its value behind an equals sign or as the next argument; short ones
  may be joined behind one hyphen.  Two hyphens make operands of all that follows.

  1. `Argument.of` tells what an argument is by itself.
  2. `Options.Draft.take` goes through the arguments from left to right and does what they ask for.
     Whatever is wrong there, and the wish for help, ends the command at once.
  3. At the end the path must be there, and nothing may be left over.
-/
import PartProgram.Report
import PartProgram.Settings
import PartProgram.Text.Digit

namespace PartProgram

/-- The options. -/
inductive Flag where
  | help
  | json
  | summary
  | permissive
  | encoding
  | verbose
  | quiet
  | logLevel
deriving DecidableEq, Repr

namespace Flag

/-- All options, in the order in which they are listed. -/
def all : List Flag := [help, json, summary, permissive, encoding, verbose, quiet, logLevel]

/-- The spellings of an option, the short one first. -/
def spellings : Flag → List String
  | help => ["-h", "--help"]
  | json => ["--json"]
  | summary => ["--summary"]
  | permissive => ["--permissive"]
  | encoding => ["--encoding"]
  | verbose => ["-v", "--verbose"]
  | quiet => ["-q", "--quiet"]
  | logLevel => ["--log-level"]

/-- Does the option take a value? -/
def takesValue : Flag → Bool
  | encoding | logLevel => true
  | _ => false

/-- The option by all its spellings. -/
def title (flag : Flag) : Text := Text.joined ['/'] (flag.spellings.map String.toText)

/-- Every spelling with its option, in order. -/
def spelled : List (Text × Flag) :=
  all.flatMap fun flag => flag.spellings.map fun spelling => (spelling.toText, flag)

/-- The option of a spelling. -/
def ofSpelling? (t : Text) : Option Flag := (spelled.find? (·.1 == t)).map (·.2)

end Flag

/-- Why the command ends before it has begun. -/
inductive Options.Stop where
  /-- Help is asked for. -/
  | help
  /-- The arguments make no sense. -/
  | misuse (message : Text)
deriving DecidableEq, Repr

/-- What an argument is. -/
inductive Argument where
  | operand (t : Text)
  /-- The two hyphens that make operands of all that follows. -/
  | separator
  /-- An option, with the value that is attached to it; a short one may have others joined to it. -/
  | option (flag : Flag) (short : Bool) (attached : Option Text)
  | unknown (t : Text)
deriving DecidableEq, Repr

namespace Argument

/-- Two hyphens. -/
def hyphens : Text := ['-', '-']

/-- Does the text look like a negative number?  A line feed at its end does not count. -/
def isNegativeNumber (t : Text) : Bool :=
  let t := if t.getLast? = some ('\n' : CodePoint) then t.dropLast else t
  match t with
  | '-' :: body =>
    let fraction := body.dropWhile Text.isDecimalDigit
    (!body.isEmpty && fraction.isEmpty) ||
      (match fraction with
        | '.' :: digits => !digits.isEmpty && digits.all Text.isDecimalDigit
        | _ => false)
  | _ => false

/-- An argument that begins with a hyphen and is no option: numbers and texts with a blank are
    operands all the same. -/
def ofHyphened (t : Text) : Argument :=
  if isNegativeNumber t || t.contains ' ' then .operand t else .unknown t

/-- What an argument is that stands before any separator. -/
def of (t : Text) : Except Options.Stop Argument :=
  if t.head? ≠ some ('-' : CodePoint) then pure (.operand t)
  else match Flag.ofSpelling? t with
    | some flag => pure (.option flag (!hyphens.isPrefixOf t) none)
    | none =>
      if t.length = 1 then pure (.operand t)
      else
        let (name, value) := t.cut '='
        let attached := if t.contains '=' then some value else none
        match Flag.ofSpelling? name, hyphens.isPrefixOf t with
        | some flag, long => pure (.option flag (!long) attached)
        | none, true =>
          match Flag.spelled.filter (name.isPrefixOf ·.1) with
          | [] => pure (ofHyphened t)
          | [(_, flag)] => pure (.option flag false attached)
          | several =>
            throw (.misuse ("ambiguous option: ".toText ++ t ++ " could match ".toText ++
              Text.joined ", ".toText (several.map (·.1))))
        | none, false =>
          match Flag.ofSpelling? (t.take 2) with
          | some flag => pure (.option flag true (some (t.drop 2)))
          | none => pure (ofHyphened t)

/-- What each of the arguments is. -/
def ofAll : List Text → Except Options.Stop (List Argument)
  | [] => pure []
  | t :: rest =>
    if t = hyphens then pure (.separator :: rest.map .operand)
    else return (← of t) :: (← ofAll rest)

end Argument

/-- What the command is asked to do. -/
structure Options where
  path : Text
  style : ReportStyle
  permissive : Bool
  /-- The name of the encoding; none if it was given without one. -/
  encoding : Option Text
  verbose : Nat
  quiet : Bool
  logLevel : Option Text
deriving DecidableEq, Repr

namespace Options

/-- What has been asked for so far. -/
structure Draft where
  path : Option Text := none
  style : ReportStyle := .rows
  permissive : Bool := false
  encoding : Option Text
  verbose : Nat := 0
  quiet : Bool := false
  logLevel : Option Text := none
  /-- The arguments that nobody wanted, in order. -/
  leftovers : List Text := []

/-- The complaint about an option. -/
def complaint {α : Type} (flag : Flag) (message : Text) : Except Stop α :=
  throw (.misuse ("argument ".toText ++ flag.title ++ ": ".toText ++ message))

/-- The complaint about a value for an option that takes none. -/
def needless {α : Type} (flag : Flag) (value : Text) : Except Stop α :=
  complaint flag ("ignored explicit argument ".toText ++ value.quoted)

namespace Draft

/-- The draft with another style, unless a different one has been asked for before. -/
def choose (d : Draft) (flag : Flag) (style : ReportStyle) (rival : Flag)
    (rivalStyle : ReportStyle) : Except Stop Draft :=
  if d.style = rivalStyle then complaint flag ("not allowed with argument ".toText ++ rival.title)
  else pure { d with style }

/-- The draft after an option that takes no value. -/
def switch (d : Draft) : Flag → Except Stop Draft
  | .help => throw .help
  | .json => d.choose .json .json .summary .summary
  | .summary => d.choose .summary .summary .json .json
  | .permissive => pure { d with permissive := true }
  | .verbose => pure { d with verbose := d.verbose + 1 }
  | .quiet => pure { d with quiet := true }
  | .encoding | .logLevel => pure d

/-- The draft after several options that take no value. -/
def switchAll (d : Draft) : List Flag → Except Stop Draft
  | [] => pure d
  | flag :: flags => do (← d.switch flag).switchAll flags

/-- The draft after an option with its value.  Two hyphens are no value. -/
def assign (d : Draft) (flag : Flag) (value : Text) : Except Stop Draft :=
  let given := if value = Argument.hyphens then none else some value
  match flag with
  | .encoding => pure { d with encoding := given }
  | .logLevel =>
    if given.all fun name => (Level.ofName? name).isSome then pure { d with logLevel := given }
    else
      complaint flag ("invalid choice: ".toText ++ value.quoted ++ " (choose from ".toText ++
        Text.joined ", ".toText (Level.all.map fun level => Text.quoted level.name.toText) ++ ([')'] : Text))
  | _ => pure d

/-- The short options that are joined to `flag`, with it. -/
def joinedFlags (flag : Flag) : Text → Except Stop (List Flag)
  | [] => pure [flag]
  | letter :: rest =>
    match Flag.ofSpelling? ['-', letter] with
    | some next => return flag :: (← joinedFlags next rest)
    | none => needless flag (letter :: rest)

/-- The draft after all the arguments. -/
def take (d : Draft) : List Argument → Except Stop Draft
  | [] => pure d
  | .operand t :: .separator :: rest =>
    if d.path.isNone then { d with path := some t }.take rest
    else { d with leftovers := d.leftovers ++ [t, Argument.hyphens] }.take rest
  | .separator :: .operand t :: rest =>
    if d.path.isNone then { d with path := some t }.take rest
    else { d with leftovers := d.leftovers ++ [Argument.hyphens, t] }.take rest
  | .operand t :: rest =>
    if d.path.isNone then { d with path := some t }.take rest
    else { d with leftovers := d.leftovers ++ [t] }.take rest
  | .separator :: rest => { d with leftovers := d.leftovers ++ [Argument.hyphens] }.take rest
  | .unknown t :: rest => { d with leftovers := d.leftovers ++ [t] }.take rest
  | .option flag _ none :: .operand value :: rest =>
    if flag.takesValue then do (← d.assign flag value).take rest
    else do (← d.switch flag).take (.operand value :: rest)
  | .option flag _ none :: rest =>
    if flag.takesValue then complaint flag "expected one argument".toText
    else do (← d.switch flag).take rest
  | .option flag short (some value) :: rest =>
    if flag.takesValue then do (← d.assign flag value).take rest
    else if short && !value.isEmpty then do
      (← d.switchAll (← joinedFlags flag value)).take rest
    else needless flag value

/-- The options, if the path is there and nothing is left over. -/
def finish (d : Draft) : Except Stop Options :=
  match d.path with
  | none => throw (.misuse "the following arguments are required: path".toText)
  | some path =>
    if d.leftovers.isEmpty then
      pure
        { path, style := d.style, permissive := d.permissive, encoding := d.encoding
          verbose := d.verbose, quiet := d.quiet, logLevel := d.logLevel }
    else throw (.misuse ("unrecognized arguments: ".toText ++ Text.joined [' '] d.leftovers))

end Draft

/-- The options that the arguments give. -/
def ofArguments (settings : Settings) (arguments : List Text) : Except Stop Options := do
  let draft : Draft := { encoding := some settings.encoding }
  (← draft.take (← Argument.ofAll arguments)).finish

end Options

end PartProgram
