/-
  The command.

  `Command.plan` reads the arguments: they give either what to do or the end of the command.
  `Command.execute` then takes the input and shows the program.  Nothing is shown of a program that
  cannot be read to its end.

  A malformed line, an input that cannot be opened and one that cannot be decoded are told in the
  log, and the command ends with 1.  Any other fault is not the command's to handle and escapes
  from it.

  What is printed goes to a console, which may not take all characters (`Outcome.onto`).  The
  command prints piece by piece, so that it has shown the pieces before the one that is refused.
-/
import PartProgram.Command.Options
import PartProgram.Command.Usage
import PartProgram.Host

namespace PartProgram

/-- How the command ended. -/
structure Outcome where
  /-- The exit code, unless a fault escaped. -/
  code : Option Nat
  /-- What was printed, one text for each time. -/
  prints : List Text := []
  /-- The records that were sent to the log, whatever its level. -/
  records : List Record := []
  /-- What was written beside the output. -/
  errors : Text := []
  escaped : Option Fault := none
deriving DecidableEq, Repr

/-- All that was printed. -/
def Outcome.output (o : Outcome) : Text := o.prints.flatten

namespace Command

/-- The path that stands for the standard input. -/
def standardInput : Text := ['-']

/-- What the command is asked to do, or how it ends at once. -/
def plan (settings : Settings) (arguments : List Text) : Except Outcome Options :=
  match Options.ofArguments settings arguments with
  | .ok options => pure options
  | .error .help =>
    match Usage.help settings.encoding with
    | .ok text => throw { code := some 0, prints := [text] }
    | .error fault => throw { code := none, escaped := some fault }
  | .error (.misuse message) => throw { code := some 2, errors := Usage.misuse message }

/-- The lines of the input. -/
def feed (host : Host) (options : Options) : Except Fault Feed :=
  if options.path = standardInput then return (← host.standard).feed
  else host.feed options.path options.encoding

/-- The reader of the command. -/
def reader (settings : Settings) (options : Options) : Reader :=
  settings.reader (if options.permissive then some false else none)

/-- The program of the input. -/
def program (settings : Settings) (host : Host) (options : Options) : Attempt Program := do
  let supply ← feed host options
  (reader settings options).parse (.feed supply)

/-- What the command tells about a fault that it handles. -/
def complaint? (path : Text) (fault : Fault) : Option Text :=
  match fault with
  | .format e => some e.message
  | .decode _ | .notFound _ | .isDirectory _ | .notDirectory _ | .nameTooLong _ | .system _ _ _ =>
    some ("Failed to read ".toText ++ path ++ ": ".toText ++ fault.message)
  | _ => none

/-- The level of the log. -/
def level (settings : Settings) (options : Options) : Level :=
  (settings.level options.logLevel options.verbose options.quiet).2

/-- The log of records at a level. -/
def log (level : Level) (records : List Record) : Text :=
  (records.filter (·.reaches level.rank)).flatMap Record.row

/-- What the command does with its input. -/
def execute (settings : Settings) (host : Host) (options : Options) : Outcome :=
  let attempt := program settings host options
  let ended (events : List Event) (outcome : Outcome) : Outcome :=
    let records := events.map Event.record
    { outcome with records, errors := log (level settings options) records }
  match attempt.result with
  | .ok program =>
    let report := Report.of program options.style
    ended attempt.events
      { code := if report.fault.isNone then some 0 else none
        prints := report.prints
        escaped := report.fault }
  | .error fault =>
    match complaint? options.path fault with
    | some message => ended (attempt.events ++ [.failed message]) { code := some 1 }
    | none => ended attempt.events { code := none, escaped := some fault }

/-- The command on a host. -/
def run (settings : Settings) (host : Host) (arguments : List Text) : Outcome :=
  match plan settings arguments with
  | .error outcome => outcome
  | .ok options => execute settings host options

end Command

/-! ## Consoles -/

/-- Where output is shown.  Its encoding may not have all characters. -/
structure Console where
  /-- The name of the encoding. -/
  codec : Text
  takes : CodePoint → Bool
  /-- Why the other characters are refused. -/
  reason : Text

namespace Console

/-- The console that writes UTF-8: it takes all characters, and no surrogates. -/
def utf8 : Console where
  codec := "utf-8".toText
  takes
    | .char _ => true
    | .surrogate _ => false
  reason := "surrogates not allowed".toText

/-- Why a text is refused, if it is: the first characters in it that are not taken. -/
def refusal? (console : Console) (t : Text) : Option EncodeError :=
  let rest := t.dropWhile console.takes
  if rest.isEmpty then none
  else some
    { codec := console.codec, chars := rest.takeWhile (!console.takes ·)
      start := t.length - rest.length, reason := console.reason }

/-- The texts that are shown, up to the first one that is refused, and why that is so. -/
def shown (console : Console) : List Text → List Text × Option EncodeError
  | [] => ([], none)
  | t :: rest =>
    match console.refusal? t with
    | some e => ([], some e)
    | none => (t :: (console.shown rest).1, (console.shown rest).2)

end Console

/-- The outcome of the command on a console: what it refuses ends the command. -/
def Outcome.onto (console : Console) (o : Outcome) : Outcome :=
  match console.shown o.prints with
  | (_, none) => o
  | (prints, some e) => { o with code := none, prints, escaped := some (.encode e) }

end PartProgram
