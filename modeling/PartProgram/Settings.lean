/-
  Settings.

  What the environment lays down: whether everything is traced, whether readers are strict, the
  encoding of files and the log level.  The last one gives way to what a command asks for; see
  `Settings.level` for who wins.
-/
import PartProgram.Event
import PartProgram.Text.Case

namespace PartProgram

/-- The version of the library. -/
def version : String := "0.1.0"

/-- The settings of the environment. -/
structure Settings where
  /-- Is everything traced, unless a command says otherwise? -/
  traceAll : Bool := false
  /-- Are readers strict, unless they are told otherwise? -/
  strict : Bool := true
  /-- The name of the encoding of files. -/
  encoding : Text := "utf-8".toText
  /-- The name of the log level. -/
  logLevel : Text := "WARNING".toText
deriving DecidableEq, Repr

namespace Settings

/-- The words for yes. -/
def yesWords : List String := ["1", "true", "yes", "on"]

/-- The words for no. -/
def noWords : List String := ["0", "false", "no", "off"]

/-- The answer that a word gives, in any mixture of cases and with blanks around it. -/
def flag? (word : Text) : Option Bool :=
  let word := Text.lower word.trim
  if yesWords.any (·.toText == word) then some true
  else if noWords.any (·.toText == word) then some false
  else none

/-- The answer of a variable that may not be set or make no sense. -/
def flag (word : Option Text) (default : Bool) : Bool := (word.bind flag?).getD default

/-- The settings of an environment. -/
def ofEnvironment (lookup : String → Option Text) : Settings :=
  let default : Settings := {}
  { traceAll := flag (lookup "GPARSE_TRACE") default.traceAll
    strict := flag (lookup "GPARSE_STRICT") default.strict
    encoding := (lookup "GPARSE_ENCODING").getD default.encoding
    logLevel := Text.upper (Text.trim ((lookup "GPARSE_LOG_LEVEL").getD default.logLevel)) }

/-- The level without an explicit name: forced tracing unless quiet, then the count of requests to
    be more verbose, then quiet, then the environment, then warnings. -/
def unnamedLevel (s : Settings) (verbose : Int) (quiet : Bool) : Level :=
  if s.traceAll && !quiet then .trace
  else if 3 ≤ verbose then .trace
  else if verbose = 2 then .debug
  else if verbose = 1 then .info
  else if quiet then .error
  else (Level.ofName? s.logLevel).getD .warning

/-- The log level.  A known name wins over everything; an unknown one is told, and passed over. -/
def level (s : Settings) (name : Option Text) (verbose : Int) (quiet : Bool) :
    List Event × Level :=
  match name with
  | none | some [] => ([], s.unnamedLevel verbose quiet)
  | some name =>
    match Level.ofName? (Text.upper name) with
    | some level => ([], level)
    | none =>
      ([.unknownLevel (Text.upper name) s.logLevel], s.unnamedLevel verbose quiet)

end Settings

end PartProgram
