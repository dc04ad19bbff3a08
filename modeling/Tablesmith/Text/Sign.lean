/-
# Signs

A text is made of signs: of characters, and of halves of surrogate pairs. Escapes in JSON and YAML
name characters by units of sixteen bits, so they can name one half of a pair without the other,
and an argument holds a half for each of its bytes that is no UTF-8. A half is no character. It is
kept in a text by two of them:

| sign | is spelled |
| --- | --- |
| the character `U+10FFFF`, the mark | the mark and `U+F0000` |
| any other character | by itself |
| the half with the number `n` | the mark and the character `n` above `U+F0000` |

All texts that are read are spelled like this, so none with a half in it is the same as one of
characters alone (`signs_spell`). The characters behind a mark belong to no script, are not blank,
have no case and are not printable, like halves and the mark itself. So only what tells signs apart
or counts them has to look for marks. A text with a half in it has no UTF-8 form.
-/

import Tablesmith.Text.Basic

namespace Tablesmith
namespace Text

/-- The character in front of the second one of a sign that is spelled with two. -/
def halfMark : Char := Char.ofNat 0x10FFFF

/-- How the half with the number `n` is spelled, and the mark itself as if its number was zero. -/
def half (n : Nat) : Text := [halfMark, Char.ofNat (0xF0000 + n)]

/-- A character, or half of a surrogate pair. -/
inductive Sign where
  | char (c : Char)
  | half (n : Nat) (h : 0xD800 ≤ n ∧ n < 0xE000)
deriving Repr, DecidableEq

namespace Sign

/-- How a sign is spelled. -/
def spelling : Sign → Text
  | char c => if c = halfMark then Text.half 0 else [c]
  | half n _ => Text.half n

/-- The sign with a number; nothing from `0x110000` on. -/
def ofNat? (n : Nat) : Option Sign :=
  if n.isValidChar then some (char (Char.ofNat n))
  else if h : 0xD800 ≤ n ∧ n < 0xE000 then some (half n h) else none

/-- The sign that is spelled with the mark and this character behind it. -/
def behindMark (c : Char) : Sign :=
  if h : 0xD800 ≤ c.toNat - 0xF0000 ∧ c.toNat - 0xF0000 < 0xE000 then half _ h else char halfMark

/-- The character that a sign is, if it is one. -/
def char? : Sign → Option Char
  | char c => some c
  | half .. => none

end Sign

/-- The text of signs. -/
def spell (signs : List Sign) : Text := signs.flatMap Sign.spelling

/-- The text of characters alone. -/
def ofChars (cs : List Char) : Text := spell (cs.map Sign.char)

/-- The signs of a text. -/
def signs : Text → List Sign
  | [] => []
  | [c] => [.char c]
  | c :: d :: t => if c = halfMark then .behindMark d :: signs t else .char c :: signs (d :: t)

/-- The number of signs. -/
def size (t : Text) : Nat := (signs t).length

/-- Are there no halves in the text? -/
def isWhole (t : Text) : Bool := (signs t).all fun s => s.char?.isSome

/-- The character of two halves that follow one another. -/
def joinHalves (high low : Nat) : Char :=
  Char.ofNat (0x10000 + (high - 0xD800) * 0x400 + (low - 0xDC00))

/-- The character behind a mark tells the number of the half. -/
theorem toNat_behindMark {n : Nat} (h : n < 0xE000) :
    (Char.ofNat (0xF0000 + n)).toNat - 0xF0000 = n := by
  have hvalid : (0xF0000 + n).isValidChar := .inr ⟨by omega, by omega⟩
  have hnumber : (Char.ofNat (0xF0000 + n)).toNat = 0xF0000 + n := by
    rw [Char.ofNat, dif_pos hvalid]
    rfl
  rw [hnumber, Nat.add_sub_cancel_left]

/-- The sign in front of a text is read back from its spelling. -/
theorem signs_spelling_append (s : Sign) (t : Text) : signs (s.spelling ++ t) = s :: signs t := by
  have hhalf : ∀ n, signs (half n ++ t) = .behindMark (Char.ofNat (0xF0000 + n)) :: signs t :=
    fun n => if_pos rfl
  cases s with
  | half n h =>
    rw [Sign.spelling, hhalf, Sign.behindMark]
    simp only [toNat_behindMark h.2, h, and_self, dite_true]
  | char c =>
    rw [Sign.spelling]
    split
    · next hmark =>
      have hzero := toNat_behindMark (n := 0) (by omega)
      rw [hhalf, hmark, Sign.behindMark, dif_neg (by omega)]
    · next hmark =>
      cases t with
      | nil => rfl
      | cons d t => exact if_neg hmark

/-- **Signs are told apart in a text,** so there is one text of them only. -/
theorem signs_spell (ss : List Sign) : signs (spell ss) = ss := by
  induction ss with
  | nil => rfl
  | cons s ss ih => rw [spell, List.flatMap_cons, signs_spelling_append, ← spell, ih]

/-- A text of characters alone is whole. -/
theorem isWhole_ofChars (cs : List Char) : isWhole (ofChars cs) = true := by
  rw [isWhole, ofChars, signs_spell]
  simp [Sign.char?]

example : ofChars [Char.ofNat 0xFD83D] ≠ half 0xD83D ∧ ¬ isWhole ('x' :: half 0xD83D) ∧
    size (ofChars [halfMark] ++ half 0xDC00) = 2 ∧ joinHalves 0xD83D 0xDE00 = '😀' := by
  decide +kernel

end Text
end Tablesmith
