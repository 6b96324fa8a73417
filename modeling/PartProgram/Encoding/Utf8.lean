/-
  UTF-8.

  The first byte of a character tells how many more follow and in which range the second one lies;
  the others lie in `80`–`bf`.  The bytes at fault in a broken character are those that fit so far.
-/
import PartProgram.Encoding.Basic

namespace PartProgram.Encoding.Utf8

/-- How many bytes follow a first byte that is not ASCII. -/
def followers (first : UInt8) : Nat :=
  if first < 0xe0 then 1 else if first < 0xf0 then 2 else 3

/-- The range of the second byte: shorter encodings, surrogates and code points beyond the last one
    are left out. -/
def secondRange (first : UInt8) : UInt8 × UInt8 :=
  if first = 0xe0 then (0xa0, 0xbf)
  else if first = 0xed then (0x80, 0x9f)
  else if first = 0xf0 then (0x90, 0xbf)
  else if first = 0xf4 then (0x80, 0x8f)
  else (0x80, 0xbf)

/-- The bytes that can follow a first byte, as far as they fit. -/
def fitting (first : UInt8) (rest : List UInt8) : List UInt8 :=
  match rest.take (followers first) with
  | [] => []
  | second :: others =>
    let (low, high) := secondRange first
    if low ≤ second && second ≤ high then
      second :: others.takeWhile fun b => 0x80 ≤ b && b ≤ 0xbf
    else []

/-- The code point of a first byte and all its followers. -/
def codePoint (first : UInt8) (others : List UInt8) : Nat :=
  let lead := first.toNat % Nat.pow 2 (6 - others.length)
  others.foldl (fun code b => code * 64 + b.toNat % 64) lead

/-- What stands at the front of UTF-8 bytes. -/
def step (first : UInt8) (rest : List UInt8) : Step :=
  if first < 0x80 then .text [CodePoint.ofNat first.toNat] 0
  else if first < 0xc2 || 0xf4 < first then .bad 1 "invalid start byte"
  else
    let others := fitting first rest
    if others.length = followers first then
      .text [CodePoint.ofNat (codePoint first others)] others.length
    else if others.length = rest.length then .cutOff (others.length + 1) "unexpected end of data"
    else if first = 0xed ∧ rest.length = 1 ∧ rest.all (fun b => 0xa0 ≤ b && b ≤ 0xbf) then
      .cutOff 1 "invalid continuation byte"
    else .bad (others.length + 1) "invalid continuation byte"

/-- The text of UTF-8 bytes. -/
def decode (bytes : List UInt8) : Except DecodeError Decoded := decodeWith "utf-8" step 0 bytes

/-- The byte order mark. -/
def mark : List UInt8 := [0xef, 0xbb, 0xbf]

/-- The text of UTF-8 bytes behind an optional byte order mark, which is not counted in positions.
    Nothing but a part of the mark is an empty text. -/
def decodeMarked (bytes : List UInt8) : Except DecodeError Decoded :=
  if bytes.isPrefixOf mark then .ok { text := [] }
  else if mark.isPrefixOf bytes then decode (bytes.drop mark.length)
  else decode bytes

end PartProgram.Encoding.Utf8
