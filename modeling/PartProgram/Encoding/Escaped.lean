/-
  Escaped code points.

  A byte is the character of its number, but a backslash and a `u` or a `U` stand before the number of
  any code point at all, in four or in eight hexadecimal digits.  So this encoding gives texts with
  surrogates in them, also with two of them next to each other.
-/
import PartProgram.Encoding.Basic

namespace PartProgram.Encoding.Escaped

/-- The value of a byte as a hexadecimal digit. -/
def digit? (b : UInt8) : Option Nat :=
  if 0x30 ≤ b && b ≤ 0x39 then some (b.toNat - 0x30)
  else if 0x41 ≤ b && b ≤ 0x46 then some (b.toNat - 0x37)
  else if 0x61 ≤ b && b ≤ 0x66 then some (b.toNat - 0x57)
  else none

/-- The number of the last code point. -/
def lastPoint : Nat := 0x10ffff

/-- The code point of so many digits behind a backslash and a letter. -/
def escape (count : Nat) (reason : String) (rest : List UInt8) : Step :=
  let digits := (rest.take count).takeWhile (digit? · |>.isSome)
  let number := (digits.filterMap digit?).foldl (fun value digit => 16 * value + digit) 0
  if digits.length = count then
    if number ≤ lastPoint then .text [CodePoint.ofNat number] (1 + count)
    else .bad (2 + count) "\\Uxxxxxxxx out of range"
  else if digits.length = rest.length then .cutOff (2 + digits.length) reason
  else .bad (2 + digits.length) reason

/-- What stands at the front of escaped bytes.  A backslash takes the byte behind it along, so that of
    two backslashes the second one begins nothing. -/
def step (first : UInt8) (rest : List UInt8) : Step :=
  match rest with
  | second :: others =>
    if first ≠ 0x5c then .text [CodePoint.ofNat first.toNat] 0
    else if second = 0x75 then escape 4 "truncated \\uXXXX escape" others
    else if second = 0x55 then escape 8 "truncated \\UXXXXXXXX escape" others
    else .text ['\\', CodePoint.ofNat second.toNat] 1
  | [] => .text [CodePoint.ofNat first.toNat] 0

/-- The text of escaped bytes. -/
def decode (bytes : List UInt8) : Except DecodeError Decoded :=
  decodeWith "rawunicodeescape" step 0 bytes

end PartProgram.Encoding.Escaped
