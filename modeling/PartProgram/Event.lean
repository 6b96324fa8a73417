/-
  Events of a run.

  What a run has to tell is kept as a list of events, and worded only when it is shown: each event
  has a log record with a level, the name of the log that it belongs to, and a message.
-/
import PartProgram.Level
import PartProgram.Line

namespace PartProgram

/-- Something worth telling. -/
inductive Event where
  /-- A key has a value that is not a number. -/
  | textValue (identifier value : Text)
  /-- A line has its record. -/
  | lineParsed (index : Int) (kind : LineKind)
  /-- A malformed line is taken as plain text. -/
  | demoted (index : Int) (detail : Text)
  /-- A whole program has been read. -/
  | parsed (count : Nat)
  /-- A program has been read from a file. -/
  | loaded (count : Nat) (path : Text)
  /-- A level was asked for that does not exist. -/
  | unknownLevel (name fallback : Text)
  /-- The command failed. -/
  | failed (message : Text)
deriving DecidableEq, Repr

/-- An event in words. -/
structure Record where
  level : Level
  log : Text
  message : Text
deriving DecidableEq, Repr

namespace Event

/-- The log of the line and parameter builders. -/
def builderLog : Text := "gparse.gcode.builders".toText

/-- The log of the reader. -/
def readerLog : Text := "gparse.gcode.parser".toText

/-- The log of the settings. -/
def settingsLog : Text := "gparse.config".toText

/-- The log of the command. -/
def commandLog : Text := "gparse.cli.dump".toText

/-- The record of an event. -/
def record : Event → Record
  | textValue identifier value =>
    { level := .trace, log := builderLog
      message := "value_param_text identifier=".toText ++ identifier ++ " value=".toText ++
        value.quoted }
  | lineParsed index kind =>
    { level := .trace, log := readerLog
      message := "line_parsed index=".toText ++ Text.ofInt index ++ " type=".toText ++
        kind.name.toText }
  | demoted index detail =>
    { level := .warning, log := readerLog
      message := "Treating line ".toText ++ Text.ofInt index ++ " as text: ".toText ++ detail }
  | parsed count =>
    { level := .debug, log := readerLog
      message := "Parsed ".toText ++ Text.ofNat count ++ " lines".toText }
  | loaded count path =>
    { level := .info, log := readerLog
      message := "Loaded ".toText ++ Text.ofNat count ++ " lines from ".toText ++ path }
  | unknownLevel name fallback =>
    { level := .warning, log := settingsLog
      message := "Unknown log level ".toText ++ name.quoted ++ ", falling back to ".toText ++
        fallback }
  | failed message => { level := .error, log := commandLog, message }

end Event

namespace Record

/-- Is the record of the rank or above? -/
def reaches (rank : Int) (r : Record) : Bool := rank ≤ r.level.rank

/-- The message of a template and its arguments.  Without arguments it is the template itself. -/
def wording (template : Text) (arguments : List Text) : Except Fault Text :=
  if arguments.isEmpty then pure template
  else
    ((Template.fill template (.inOrder (arguments.map .text))).map Run.expand).mapError .template

/-- The trace record of any log, if the log is kept at a rank that the record reaches.  Only then is
    its message worded, so only then can the wording fail. -/
def trace? (rank : Int) (log template : Text) (arguments : List Text) :
    Except Fault (Option Record) :=
  if rank ≤ Level.trace.rank then
    return some { level := .trace, log, message := ← wording template arguments }
  else pure none

/-- The record as a line of a log. -/
def row (r : Record) : Text :=
  r.level.name.toText ++ (' ' : CodePoint) :: r.log ++ ": ".toText ++ r.message ++ (['\n'] : Text)

end Record

end PartProgram
