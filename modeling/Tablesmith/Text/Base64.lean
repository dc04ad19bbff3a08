/-
# Bytes in base sixty-four

Four characters of the alphabet carry three bytes. Characters outside of the alphabet are passed
over. An equals sign pads the last group: the padding that completes a group ends the text, and
other padding is passed over like any character outside of the alphabet.
-/

import Tablesmith.Text.Utf8

namespace Tablesmith
namespace Text

/-- The value of a character of the alphabet. -/
def base64Value? (c : Char) : Option Nat :=
  if 'A' ≤ c ∧ c ≤ 'Z' then some (c.toNat - 65)
  else if 'a' ≤ c ∧ c ≤ 'z' then some (c.toNat - 71)
  else if '0' ≤ c ∧ c ≤ '9' then some (c.toNat + 4)
  else if c = '+' then some 62
  else if c = '/' then some 63
  else none

/-- Reads bytes behind `count` characters of a group, whose last bits that form no byte yet are
`bits`, and behind `pads` characters of padding. `none` if the last group is not complete. -/
def base64From? : (count bits pads : Nat) → Text → Option Bytes
  | count, _, _, [] => if count = 0 then some [] else none
  | count, bits, pads, c :: t =>
    if c = '=' then
      if 2 ≤ count then
        if 4 ≤ count + pads + 1 then some [] else base64From? count bits (pads + 1) t
      else base64From? count bits pads t
    else match base64Value? c with
      | none => base64From? count bits pads t
      | some v =>
        let byte (n : Nat) : UInt8 := UInt8.ofNat n
        match count with
        | 0 => base64From? 1 v 0 t
        | 1 => (base64From? 2 (v % 16) 0 t).map (byte (bits * 4 + v / 16) :: ·)
        | 2 => (base64From? 3 (v % 4) 0 t).map (byte (bits * 16 + v / 4) :: ·)
        | _ => (base64From? 0 0 0 t).map (byte (bits * 64 + v) :: ·)

/-- The bytes of a text in base sixty-four. -/
def base64? (t : Text) : Option Bytes := base64From? 0 0 0 t

example : base64? "aGVs\nbG8=" = some [104, 101, 108, 108, 111] ∧ base64? "aGk" = none ∧
    base64? "=a=Q=!=b" = some [105] := by decide +kernel

end Text
end Tablesmith
