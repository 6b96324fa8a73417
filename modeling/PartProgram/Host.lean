/-
  The host.

  What a program finds around it: the bytes of files by their paths, decoders by the names of their
  encodings, and the text of the standard input.  Nothing is laid down about them here, so what is
  said of a program holds on every host.

  Reading a program from a file means: see that the encoding has a name, find the file, look up the
  encoding, decode the bytes, and read the lines; the first of these that fails gives the fault.
-/
import PartProgram.Dialect.Standard
import PartProgram.Encoding.Basic
import PartProgram.Reader
import PartProgram.Settings

namespace PartProgram

/-- What a program finds around it. -/
structure Host where
  /-- The bytes of the file at a path, or the reason why there are none. -/
  read : Text → Except Fault (List UInt8)
  /-- The decoder of the encoding with a name. -/
  codec : Text → Except Fault (List UInt8 → Except Fault Encoding.Decoded)
  /-- The text of the standard input. -/
  standard : Except Fault Encoding.Decoded

/-- The name of an encoding as it can be passed on: it must be given, and hold no NUL. -/
def Encoding.checkName : Option Text → Except Fault Text
  | none => throw .missingEncoding
  | some name => if name.contains '\x00' then throw .nulInEncoding else pure name

/-- The lines of the file at a path, in the encoding of a name. -/
def Host.feed (host : Host) (path : Text) (encoding : Option Text) : Except Fault Feed := do
  let name ← Encoding.checkName encoding
  let bytes ← host.read path
  let decode ← host.codec name
  return (← decode bytes).feed

namespace Settings

/-- A reader with the standard dialect; how strict it is can be left to the settings. -/
def reader (s : Settings) (strict : Option Bool) : Reader :=
  { builders := Dialect.standard.builders, strict := strict.getD s.strict }

/-- The name of the encoding of a file: that of the settings, unless another one is given. -/
def encodingName (s : Settings) : Option Text → Text
  | none | some [] => s.encoding
  | some name => name

/-- The program in a file. -/
def parseFile (s : Settings) (host : Host) (path : Text) (encoding : Option Text)
    (strict : Option Bool) : Attempt Program := do
  let supply ← host.feed path (some (s.encodingName encoding))
  let program ← (s.reader strict).parse (.feed supply)
  Attempt.report (.loaded program.size path)
  return program

end Settings

end PartProgram
