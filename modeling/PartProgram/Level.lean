/-
  Log levels.

  Six levels, ordered by rank; a log kept at a level holds the records of that rank and above.
-/
import PartProgram.Text.Basic

namespace PartProgram

/-- The level of a log record. -/
inductive Level where
  | trace
  | debug
  | info
  | warning
  | error
  | critical
deriving DecidableEq, Repr

namespace Level

/-- All levels, from the most to the least talkative. -/
def all : List Level := [trace, debug, info, warning, error, critical]

/-- The name of a level. -/
def name : Level → String
  | trace => "TRACE"
  | debug => "DEBUG"
  | info => "INFO"
  | warning => "WARNING"
  | error => "ERROR"
  | critical => "CRITICAL"

/-- The rank of a level. -/
def rank : Level → Nat
  | trace => 5
  | debug => 10
  | info => 20
  | warning => 30
  | error => 40
  | critical => 50

/-- The level with a given name. -/
def ofName? (t : Text) : Option Level := all.find? (·.name.toText == t)

end Level

end PartProgram
