/-
  What can go wrong.

  A `Fault` is the cause of a failure, and `Fault.message` is its wording; nothing else in the
  library words an error.  Of all faults only a malformed field of a numbered line (`FormatError`)
  can be recovered from: a permissive reader takes such a line as plain text.
-/
import PartProgram.Text.Template

namespace PartProgram

/-- A numbered line with a malformed field, or whatever else a dialect refuses in that way.  The wording of
    an error has the index in it, and is meant for one that can be written: no position of a line has more
    than 4300 digits, and for a longer index there is no such error. -/
structure FormatError where
  /-- What is wrong, without the place. -/
  detail : Text
  /-- The index of the line. -/
  index : Int
  /-- The line itself. -/
  raw : Text
  /-- The field at fault: `N`, or the letter of the code. -/
  field : Text
deriving DecidableEq, Repr

namespace FormatError

/-- The error of a field whose number is not an integer. -/
def notInteger (field token raw : Text) (index : Int) : FormatError :=
  { detail := field ++ " field ".toText ++ token.quoted ++ " is not an integer".toText
    index, raw, field }

/-- The error with its place. -/
def message (e : FormatError) : Text :=
  "GCODE FORMAT ERROR: line ".toText ++ Text.ofInt e.index ++ ": ".toText ++ e.detail

end FormatError

/-- The bytes that a decoder could not read, and where they stand. -/
structure DecodeError where
  /-- The name of the encoding. -/
  codec : Text
  /-- The bytes at fault, at least one. -/
  bytes : List UInt8
  /-- The position of the first of them. -/
  start : Nat
  reason : Text
deriving DecidableEq, Repr

namespace DecodeError

/-- The wording: a single byte is shown, of several only the range. -/
def message (e : DecodeError) : Text :=
  ('\x27' : CodePoint) :: e.codec ++ "\x27 codec can\x27t decode ".toText ++
    (match e.bytes with
      | [byte] => "byte 0x".toText ++ Text.ofNatHex 2 byte.toNat ++ " in position ".toText ++
          Text.ofNat e.start
      | bytes => "bytes in position ".toText ++ Text.ofNat e.start ++
          ('-' : CodePoint) :: Text.ofNat (e.start + bytes.length - 1)) ++
    ": ".toText ++ e.reason

end DecodeError

/-- The characters that an encoder could not write, and where they stand. -/
structure EncodeError where
  /-- The name of the encoding. -/
  codec : Text
  /-- The characters at fault, at least one. -/
  chars : Text
  /-- The position of the first of them. -/
  start : Nat
  reason : Text
deriving DecidableEq, Repr

namespace EncodeError

/-- The wording: a single character is shown by its code, of several only the range. -/
def message (e : EncodeError) : Text :=
  ('\x27' : CodePoint) :: e.codec ++ "\x27 codec can\x27t encode ".toText ++
    (match e.chars with
      | [c] => "character \x27".toText ++ Text.codeEscape c ++ "\x27 in position ".toText ++
          Text.ofNat e.start
      | chars => "characters in position ".toText ++ Text.ofNat e.start ++
          ('-' : CodePoint) :: Text.ofNat (e.start + chars.length - 1)) ++
    ": ".toText ++ e.reason

end EncodeError

/-- The cause of a failure. -/
inductive Fault where
  /-- A line is malformed. -/
  | format (e : FormatError)
  /-- An integer literal has more digits than are read. -/
  | tooManyDigits (count : Nat)
  /-- An integer has more digits than are written. -/
  | tooLongToWrite
  /-- A comment was asked for, and there is no semicolon. -/
  | noSemicolon
  /-- The first character of an empty token was asked for. -/
  | emptyToken
  /-- A token or line was asked for that is not there. -/
  | outOfRange
  /-- A position is too far away to be one in any list. -/
  | positionTooBig
  /-- A slice has step zero. -/
  | zeroStep
  /-- The line searched for is not in the program. -/
  | absentLine
  /-- There is no kind of line of that name. -/
  | unknownLineKind (name : Text)
  /-- There is no kind of parameter of that name. -/
  | unknownParamKind (name : Text)
  /-- There is no table entry of that name. -/
  | unknownEntry (name : Text)
  /-- The table itself is named among its entries. -/
  | tableAsEntry
  /-- The entries of a table call each other without end. -/
  | nestingTooDeep
  /-- The input is not in its encoding. -/
  | decode (e : DecodeError)
  /-- The output cannot be written in its encoding. -/
  | encode (e : EncodeError)
  /-- A UTF-16 input does not begin with its byte order mark. -/
  | noByteOrderMark
  /-- There is no encoding of that name. -/
  | unknownEncoding (name : Text)
  /-- The encoding was given without a name. -/
  | missingEncoding
  /-- The name of an encoding holds a NUL. -/
  | nulInEncoding
  /-- A path holds a NUL. -/
  | nulInPath
  /-- There is no file at the path. -/
  | notFound (path : Text)
  /-- The path leads to a directory. -/
  | isDirectory (path : Text)
  /-- The path leads through something that is not a directory. -/
  | notDirectory (path : Text)
  /-- The path, or a name in it, is too long. -/
  | nameTooLong (path : Text)
  /-- The file system refuses the path for any other reason, which has a number and a text. -/
  | system (number : Nat) (text path : Text)
  /-- A template cannot be filled. -/
  | template (e : Template.Error)
deriving DecidableEq, Repr

namespace Fault

/-- An error of the file system: its number, its text and the path. -/
def systemMessage (number : Nat) (text path : Text) : Text :=
  "[Errno ".toText ++ Text.ofNat number ++ "] ".toText ++ text ++ ": ".toText ++ path.quoted

/-- The wording of a fault. -/
def message : Fault → Text
  | format e => e.message
  | tooManyDigits count =>
    "Exceeds the limit (4300 digits) for integer string conversion: value has ".toText ++
      Text.ofNat count ++
      " digits; use sys.set_int_max_str_digits() to increase the limit".toText
  | tooLongToWrite =>
    ("Exceeds the limit (4300 digits) for integer string conversion; " ++
      "use sys.set_int_max_str_digits() to increase the limit").toText
  | noSemicolon => "substring not found".toText
  | emptyToken => "string index out of range".toText
  | outOfRange => "list index out of range".toText
  | positionTooBig => "cannot fit \x27int\x27 into an index-sized integer".toText
  | zeroStep => "slice step cannot be zero".toText
  | absentLine => []
  | unknownLineKind name => name.quoted ++ " is not a valid LineType".toText
  | unknownParamKind name => name.quoted ++ " is not a valid ParamType".toText
  | unknownEntry name =>
    "LineBuilders.__init__() got an unexpected keyword argument \x27".toText ++ name ++ (['\x27'] : Text)
  | tableAsEntry => "LineBuilders.replace() got multiple values for argument \x27self\x27".toText
  | nestingTooDeep => "maximum recursion depth exceeded".toText
  | decode e => e.message
  | encode e => e.message
  | noByteOrderMark => "UTF-16 stream does not start with BOM".toText
  | unknownEncoding name => "unknown encoding: ".toText ++ name
  | missingEncoding => "open() argument \x27encoding\x27 must be str or None, not list".toText
  | nulInEncoding => "embedded null character".toText
  | nulInPath => "embedded null byte".toText
  | notFound path => systemMessage 2 "No such file or directory".toText path
  | isDirectory path => systemMessage 21 "Is a directory".toText path
  | notDirectory path => systemMessage 20 "Not a directory".toText path
  | nameTooLong path => systemMessage 36 "File name too long".toText path
  | system number text path => systemMessage number text path
  | template e => e.message

end Fault

end PartProgram
