/-
  Bytes to text.

  A decoder reads as many characters as it can.  A byte that cannot be part of any character is a
  fault at once.  A character that is cut off by the end of the input is a fault too, but only when
  the text before it is used up: it is `pending`, and its positions are counted from its own first
  byte.

  `decodeWith` runs the step function of an encoding over the bytes.
-/
import PartProgram.Source

namespace PartProgram.Encoding

/-- What stands at the front of the bytes. -/
inductive Step where
  /-- Some characters, with the given number of bytes after their first one. -/
  | text (t : Text) (more : Nat)
  /-- So many bytes that are no character. -/
  | bad (length : Nat) (reason : String)
  /-- The bytes run out within a character; so many of them are at fault. -/
  | cutOff (length : Nat) (reason : String)

/-- The text that has been read, and the fault that waits behind it. -/
structure Decoded where
  text : Text
  pending : Option DecodeError := none

/-- The text of the bytes, of which the first one stands at `position`. -/
def decodeWith (codec : String) (step : UInt8 → List UInt8 → Step) (position : Nat) :
    List UInt8 → Except DecodeError Decoded
  | [] => .ok { text := [] }
  | first :: rest =>
    match step first rest with
    | .text t more => do
      let decoded ← decodeWith codec step (position + 1 + more) (rest.drop more)
      return { decoded with text := t ++ decoded.text }
    | .bad length reason =>
      .error
        { codec := codec.toText, bytes := (first :: rest).take length, start := position
          reason := reason.toText }
    | .cutOff length reason =>
      .ok
        { text := []
          pending := some
            { codec := codec.toText, bytes := (first :: rest).take length, start := 0
              reason := reason.toText } }
termination_by bytes => bytes.length
decreasing_by simp only [List.length_drop, List.length_cons]; omega

/-- The items of decoded text, with all line ends turned into line feeds.  Before a pending fault
    only the lines that are complete are handed out; whether a carriage return at the end is one
    half of a line end cannot be known there. -/
def Decoded.feed (d : Decoded) : Feed :=
  match d.pending with
  | none => .universal d.text
  | some e =>
    let certain := if d.text.getLast? = some ('\r' : CodePoint) then d.text.dropLast else d.text
    { items := (Feed.universal certain).items.filter (·.getLast? = some ('\n' : CodePoint))
      ending := some (.decode e) }

end PartProgram.Encoding
