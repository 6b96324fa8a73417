/-
  The command line.
-/
import PartProgram.Command.Run
import PartProgram.Storage

namespace PartProgram.CommandLine

/-- The text as a string, with surrogates written by their codes. -/
def string (t : Text) : String :=
  let chars : CodePoint → List Char
    | .char c => [c]
    | .surrogate offset => '\\' :: 'u' :: Nat.toDigits 16 (CodePoint.surrogate offset).toNat
  String.ofList (t.flatMap chars)

/-- The settings of the process environment. -/
def readSettings : IO Settings := do
  let names := ["GPARSE_TRACE", "GPARSE_STRICT", "GPARSE_ENCODING", "GPARSE_LOG_LEVEL"]
  let values ← names.mapM fun name => return (name, ← IO.getEnv name)
  return .ofEnvironment fun name => (values.lookup name).join.map String.toText

/-- All the bytes of a stream. -/
partial def readAll (stream : IO.FS.Stream) (sofar : ByteArray) : IO ByteArray := do
  let chunk ← stream.read 65536
  if chunk.isEmpty then return sofar else readAll stream (sofar ++ chunk)

/-- The bytes of a file, or the reason why there are none. -/
def readFile (path : Text) : IO (Except Fault (List UInt8)) := do
  if path.contains '\x00' then return .error .nulInPath
  try
    let bytes ← IO.FS.readBinFile (string path)
    return .ok bytes.toList
  catch
    | .inappropriateType _ code _ =>
      -- The number of the error may come with either sign.
      return .error (if code = 21 ∨ code = 0 - 21 then .isDirectory path else .notDirectory path)
    | .invalidArgument _ _ _ => return .error (.nameTooLong path)
    | _ => return .error (.notFound path)

/-- Shows an outcome and gives the exit code. -/
def present (outcome : Outcome) : IO UInt32 := do
  let outcome := outcome.onto .utf8
  IO.print (string outcome.output)
  IO.eprint (string outcome.errors)
  match outcome.escaped with
  | some fault => IO.eprintln (string fault.message)
  | none => pure ()
  return (outcome.code.getD 1).toUInt32

/-- The host of a command that reads one input. -/
def hostOf (path : Text) : IO Host := do
  if path = Command.standardInput then
    let bytes ← readAll (← IO.getStdin) .empty
    return Storage.host {} bytes.toList
  else
    let input ← readFile path
    return { Storage.host {} [] with read := fun _ => input }

/-- Does what the arguments ask for and gives the exit code. -/
def run (arguments : List Text) : IO UInt32 := do
  let settings ← readSettings
  match Command.plan settings arguments with
  | .error outcome => present outcome
  | .ok options => present (Command.execute settings (← hostOf options.path) options)

end PartProgram.CommandLine

/-- Parses a program and prints its line records. -/
def main (arguments : List String) : IO UInt32 :=
  PartProgram.CommandLine.run (arguments.map String.toText)
