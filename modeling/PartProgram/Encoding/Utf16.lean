/-
  UTF-16.

  Units of two bytes, in either order; a high and a low surrogate together are one character.  The
  order is given by the name of the encoding or by the byte order mark that the input begins with.
-/
import PartProgram.Encoding.Basic

namespace PartProgram.Encoding.Utf16

/-- The order of the two bytes of a unit. -/
inductive Order where
  | little
  | big
deriving DecidableEq, Repr

/-- The name of UTF-16 in an order. -/
def Order.codec : Order → String
  | little => "utf-16-le"
  | big => "utf-16-be"

/-- The unit of two bytes. -/
def Order.unit (order : Order) (a b : UInt8) : Nat :=
  match order with
  | little => a.toNat + 256 * b.toNat
  | big => 256 * a.toNat + b.toNat

/-- What stands at the front of UTF-16 bytes. -/
def step (order : Order) (first : UInt8) : List UInt8 → Step
  | [] => .cutOff 1 "truncated data"
  | second :: rest =>
    let unit := order.unit first second
    if unit < 0xd800 || 0xdfff < unit then .text [CodePoint.ofNat unit] 1
    else if 0xdc00 ≤ unit then .bad 2 "illegal encoding"
    else match rest with
      | third :: fourth :: _ =>
        let next := order.unit third fourth
        if 0xdc00 ≤ next && next ≤ 0xdfff then
          .text [CodePoint.ofNat (0x10000 + (unit - 0xd800) * 0x400 + (next - 0xdc00))] 3
        else .bad 2 "illegal UTF-16 surrogate"
      | _ => .cutOff (2 + rest.length) "unexpected end of data"

/-- The text of UTF-16 bytes in an order, of which the first one stands at `position`. -/
def decodeFrom (order : Order) (position : Nat) (bytes : List UInt8) :
    Except DecodeError Decoded :=
  decodeWith order.codec (step order) position bytes

/-- The text of UTF-16 bytes in an order. -/
def decode (order : Order) (bytes : List UInt8) : Except DecodeError Decoded :=
  decodeFrom order 0 bytes

/-- The text of UTF-16 bytes behind their byte order mark, which is counted in positions.  Without
    the mark no character is accepted. -/
def decodeMarked (bytes : List UInt8) : Except Fault Decoded :=
  match bytes with
  | 0xff :: 0xfe :: rest => (decodeFrom .little 2 rest).mapError .decode
  | 0xfe :: 0xff :: rest => (decodeFrom .big 2 rest).mapError .decode
  | _ => do
    let decoded ← (decode .little bytes).mapError .decode
    if decoded.text.isEmpty then return decoded else throw .noByteOrderMark

end PartProgram.Encoding.Utf16
