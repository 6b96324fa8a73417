/-
  Files.

  A tree of directories and files below the directory that a command runs in, and what is found at
  the end of a path.  Of what lies outside of that directory nothing is known, except that there are
  directories above it.  Together with the encodings of the library such a tree makes a host.
-/
import PartProgram.Encoding.Name
import PartProgram.Host

namespace PartProgram

/-- What stands at a place of the tree. -/
inductive Node where
  | file (bytes : List UInt8)
  | directory
deriving DecidableEq, Repr

/-- The files and directories, each with the names that lead to it from the working directory. -/
structure Storage where
  entries : List (List Text × Node) := []
deriving DecidableEq, Repr

namespace Storage

/-- What stands at a place.  The working directory is there, and so is every directory with
    something in it. -/
def node? (s : Storage) (place : List Text) : Option Node :=
  match s.entries.find? (·.1 == place) with
  | some (_, node) => some node
  | none => if place.isEmpty || s.entries.any (place.isPrefixOf ·.1) then some .directory else none

/-- The size of a code point in bytes of a path.  A surrogate stands for a byte that is no part of any
    character. -/
def pointSize : CodePoint → Nat
  | .char c => c.utf8Size
  | .surrogate _ => 1

/-- The size of a text in bytes of a path. -/
def byteSize (t : Text) : Nat := t.foldl (fun size c => size + pointSize c) 0

/-- The most bytes of a name. -/
def maxName : Nat := 255

/-- The most bytes of a path. -/
def maxPath : Nat := 4095

/-- Where a path has led so far. -/
inductive Place where
  /-- The names that lead there from the working directory. -/
  | inside (names : List Text)
  /-- A directory outside of the working directory. -/
  | outside
  /-- Nothing is there. -/
  | nowhere
deriving DecidableEq, Repr

/-- What stands at a place. -/
def at? (s : Storage) : Place → Option Node
  | .inside names => s.node? names
  | .outside => some .directory
  | .nowhere => none

/-- Where a name leads from a directory.  An empty name and a single dot stay there, and two dots go
    up. -/
def Place.enter (place : Place) (name : Text) : Place :=
  if name = [] ∨ name = (['.'] : Text) then place
  else match place with
    | inside names =>
      if name ≠ (['.', '.'] : Text) then inside (names ++ [name])
      else if names.isEmpty then outside
      else inside names.dropLast
    | outside => if name = (['.', '.'] : Text) then outside else nowhere
    | nowhere => nowhere

/-- What is found by going on from a place through the given names. -/
def walk (s : Storage) (path : Text) (place : Place) : List Text → Except Fault Node
  | [] => match s.at? place with
    | some node => pure node
    | none => throw (.notFound path)
  | name :: names =>
    match s.at? place with
    | some .directory =>
      if maxName < byteSize name then throw (.nameTooLong path)
      else s.walk path (place.enter name) names
    | some (.file _) => throw (.notDirectory path)
    | none => throw (.notFound path)

/-- The bytes of the file at a path.  A path that begins with a slash starts outside. -/
def read (s : Storage) (path : Text) : Except Fault (List UInt8) := do
  if path.contains '\x00' then throw .nulInPath
  if path.isEmpty then throw (.notFound path)
  if maxPath < byteSize path then throw (.nameTooLong path)
  let start : Place := if path.head? = some ('/' : CodePoint) then .outside else .inside []
  match ← s.walk path start (path.splitOn ('/' : CodePoint)) with
  | .file bytes => pure bytes
  | .directory => throw (.isDirectory path)

end Storage

/-- The host with these files, the encodings of the library, and the bytes of the standard input, which is
    always UTF-8. -/
def Storage.host (s : Storage) (standard : List UInt8) : Host where
  read := s.read
  codec name := return (← Encoding.ofName name).decode
  standard := Encoding.utf8.decode standard

end PartProgram
