/-
# Texts as bytes

The UTF-8 form of a text, and two readers of it: a strict one for files, and a lenient one for
addresses, which puts the replacement character for whatever is no UTF-8. A half of a surrogate pair
has no UTF-8 form. In a path some halves stand for bytes that are no UTF-8.
-/

import Tablesmith.Text.Sign

namespace Tablesmith
namespace Text

/-- Bytes as they stand in a file. -/
abbrev Bytes := List UInt8

/-- The UTF-8 form of a character. -/
def encodeChar (c : Char) : Bytes :=
  let n := c.toNat
  let tail (unit : Nat) : UInt8 := UInt8.ofNat (0x80 + n / unit % 64)
  if n < 0x80 then [UInt8.ofNat n]
  else if n < 0x800 then [UInt8.ofNat (0xC0 + n / 64), tail 1]
  else if n < 0x10000 then [UInt8.ofNat (0xE0 + n / 4096), tail 64, tail 1]
  else [UInt8.ofNat (0xF0 + n / 262144), tail 4096, tail 64, tail 1]

/-- The bytes of a sign: the UTF-8 form of a character, or the byte that a half stands for. -/
def Sign.encode : Sign → Bytes
  | .char c => encodeChar c
  | .half n _ => [UInt8.ofNat (n % 256)]

/-- The bytes of a text, which are its UTF-8 form if it is whole. -/
def encode (t : Text) : Bytes := (signs t).flatMap Sign.encode

/-- The UTF-8 form of a text without halves of surrogate pairs. -/
def encode? (t : Text) : Option Bytes := if isWhole t then some (encode t) else none

/-- Can the sign stand in a path? Halves from `0xDC80` on stand for the bytes from `0x80` on. -/
def Sign.isPathSign : Sign → Bool
  | .char _ => true
  | .half n _ => 0xDC80 ≤ n && n < 0xDD00

/-- Has every sign of a path its bytes? -/
def isPathText (t : Text) : Bool := (signs t).all Sign.isPathSign

/-- What a leading byte says: the number of bytes behind it, its share of the character's number,
and the range of the byte behind it, which leaves out overlong forms, surrogates and numbers that
are too large. -/
def lead? (b : UInt8) : Option (Nat × Nat × Nat × Nat) :=
  let n := b.toNat
  if n < 0x80 then some (0, n, 0, 0)
  else if 0xC2 ≤ n ∧ n < 0xE0 then some (1, n - 0xC0, 0x80, 0xBF)
  else if n = 0xE0 then some (2, 0, 0xA0, 0xBF)
  else if n = 0xED then some (2, n - 0xE0, 0x80, 0x9F)
  else if 0xE1 ≤ n ∧ n < 0xF0 then some (2, n - 0xE0, 0x80, 0xBF)
  else if n = 0xF0 then some (3, 0, 0x90, 0xBF)
  else if 0xF1 ≤ n ∧ n < 0xF4 then some (3, n - 0xF0, 0x80, 0xBF)
  else if n = 0xF4 then some (3, 4, 0x80, 0x8F)
  else none

/-- The bytes behind a leading one as far as they continue its character, up to `count`. -/
def tails (low high : Nat) : (count : Nat) → Bytes → Bytes
  | 0, _ => []
  | _ + 1, [] => []
  | count + 1, b :: bs =>
    if low ≤ b.toNat ∧ b.toNat ≤ high then b :: tails 0x80 0xBF count bs else []

/-- Reads bytes behind the first `skip` ones; `none` stands for a part that is no UTF-8. -/
def decodeFrom : (skip : Nat) → Bytes → List (Option Char)
  | _, [] => []
  | skip + 1, _ :: bs => decodeFrom skip bs
  | 0, b :: bs =>
    match lead? b with
    | none => none :: decodeFrom 0 bs
    | some (count, head, low, high) =>
      let rest := tails low high count bs
      let c? :=
        if rest.length = count then
          some (Char.ofNat (rest.foldl (fun n t => n * 64 + (t.toNat - 0x80)) head))
        else none
      c? :: decodeFrom rest.length bs

/-- The text of bytes that are UTF-8. -/
def decode? (bs : Bytes) : Option Text := ((decodeFrom 0 bs).mapM id).map ofChars

/-- The text of any bytes, with replacement characters for the parts that are no UTF-8. -/
def decodeLenient (bs : Bytes) : Text := ofChars ((decodeFrom 0 bs).map fun c => c.getD '\ufffd')

example : decode? (encode "aé€😀") = some "aé€😀".toList := by decide +kernel

example : decode? (encode (ofChars [halfMark])) = some (ofChars [halfMark]) ∧
    encode? (half 0xDC80) = none ∧ encode (half 0xDC80) = [0x80] := by decide +kernel

example : decode? [0xC0, 0x80] = none ∧ decodeLenient [0x61, 0xE2, 0x82, 0x62] = "a\ufffdb" := by
  decide +kernel

end Text
end Tablesmith
