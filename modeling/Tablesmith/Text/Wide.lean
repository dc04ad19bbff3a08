/-
# Texts in units of two or four bytes

A JSON text begins with two characters below `0x80`, or is shorter than that, so the zeros among its
first bytes tell how many bytes its units have, and which byte of a unit comes first:

| first bytes | units |
| --- | --- |
| `00 00 .. ..` | four bytes, the highest first |
| `00 .. .. ..` | two bytes, the higher first |
| `.. 00 00 00` | four bytes, the lowest first |
| `.. 00 .. ..` | two bytes, the lower first |
| any other | UTF-8, perhaps with a mark in front |

Units of two bytes that are the halves of one surrogate pair are one character; a half by itself
stays what it is.
-/

import Tablesmith.Text.Utf8

namespace Tablesmith
namespace Text

/-- The number that bytes stand for, the highest first. -/
def unitOf (bs : Bytes) : Nat := bs.foldl (fun n b => n * 256 + b.toNat) 0

/-- The numbers of units of two bytes; `none` if a byte is left over. -/
def units16? (lowFirst : Bool) : Bytes → Option (List Nat)
  | [] => some []
  | a :: b :: bs =>
    (units16? lowFirst bs).map (unitOf (if lowFirst then [b, a] else [a, b]) :: ·)
  | _ => none

/-- The numbers of units of four bytes; `none` if bytes are left over. -/
def units32? (lowFirst : Bool) : Bytes → Option (List Nat)
  | [] => some []
  | a :: b :: c :: d :: bs =>
    (units32? lowFirst bs).map (unitOf (if lowFirst then [d, c, b, a] else [a, b, c, d]) :: ·)
  | _ => none

/-- Units of two bytes with the halves of surrogate pairs put together. -/
def joinUnits : List Nat → List Nat
  | high :: low :: units =>
    if 0xD800 ≤ high ∧ high < 0xDC00 ∧ 0xDC00 ≤ low ∧ low < 0xE000 then
      (joinHalves high low).toNat :: joinUnits units
    else high :: joinUnits (low :: units)
  | units => units

/-- The text in units of two bytes. -/
def decode16? (lowFirst : Bool) (bs : Bytes) : Option Text :=
  (units16? lowFirst bs).bind fun units => ((joinUnits units).mapM Sign.ofNat?).map spell

/-- The text in units of four bytes. -/
def decode32? (lowFirst : Bool) (bs : Bytes) : Option Text :=
  (units32? lowFirst bs).bind fun units => (units.mapM Sign.ofNat?).map spell

/-- The text without the mark that some writers put in front of UTF-8. -/
def dropMark : Text → Text
  | '\ufeff' :: t => t
  | t => t

/-- The text of the bytes of a JSON text. -/
def decodeJson? (bs : Bytes) : Option Text :=
  match bs with
  | 0 :: 0 :: _ :: _ :: _ => decode32? false bs
  | 0 :: _ :: _ :: _ :: _ => decode16? false bs
  | _ :: 0 :: 0 :: 0 :: _ => decode32? true bs
  | _ :: 0 :: _ :: _ :: _ => decode16? true bs
  | [0, _] => decode16? false bs
  | [_, 0] => decode16? true bs
  | _ => (decode? bs).map dropMark

/-- Two bytes a unit: half of the bytes is the number of units. -/
theorem length_units16? {lowFirst : Bool} {bs : Bytes} {units : List Nat}
    (h : units16? lowFirst bs = some units) : bs.length = 2 * units.length := by
  fun_induction units16? lowFirst bs generalizing units with
  | case1 =>
    cases h
    rfl
  | case2 a b bs ih =>
    obtain ⟨rest, hr, rfl⟩ := Option.map_eq_some_iff.1 h
    simp only [List.length_cons, ih hr]
    omega
  | case3 => simp at h

example : decodeJson? [0x5B, 0, 0x5D, 0] = some "[]".toList ∧
    decodeJson? [0, 0x22, 0xD8, 0x3D, 0xDE, 0, 0, 0x22] = some "\"😀\"".toList ∧
    decodeJson? [0, 0, 0, 0x31] = some "1".toList ∧
    decodeJson? [0x31, 0, 0] = decode? [0x31, 0, 0] ∧
    decodeJson? (encode "\ufeff{}") = some ['\x7b', '\x7d'] := by
  decide +kernel

end Text
end Tablesmith
