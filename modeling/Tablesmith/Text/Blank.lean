/-
# Blank characters

The characters that separate words: the white space of Unicode together with the four information
separators `\x1c` to `\x1f`. They end a keyword, are trimmed from segments and names, and never
stand inside a column name.
-/

import Tablesmith.Text.Basic

namespace Tablesmith
namespace Text

/-- The white space of Unicode, twenty-five characters in all. -/
def isSpace (c : Char) : Bool :=
  let n := c.toNat
  (9 ≤ n && n ≤ 13) || n == 32 || n == 0x85 || n == 0xA0 || n == 0x1680
    || (0x2000 ≤ n && n ≤ 0x200A) || n == 0x2028 || n == 0x2029 || n == 0x202F || n == 0x205F
    || n == 0x3000

/-- White space and the information separators, twenty-nine characters in all. -/
def isBlank (c : Char) : Bool := isSpace c || (28 ≤ c.toNat && c.toNat ≤ 31)

/-- The text without blanks at both ends. -/
def trim (t : Text) : Text := trimBy isBlank t

/-- The text without white space at both ends. Information separators stay. -/
def trimSpace (t : Text) : Text := trimBy isSpace t

/-- The text without blanks in front. -/
def skipBlanks (t : Text) : Text := t.dropWhile isBlank

/-- What is left behind one blank or more. -/
def afterBlanks? : Text → Option Text
  | [] => none
  | c :: cs => if isBlank c then some (skipBlanks cs) else none

/-- Up to the first blank. -/
def firstWord (t : Text) : Text := t.takeWhile fun c => !isBlank c

/-- Is there nothing but blanks? -/
def isAllBlank (t : Text) : Bool := t.all isBlank

/-- White space in the ASCII sense is blank. -/
theorem isBlank_of_isWhitespace {c : Char} (h : c.isWhitespace) : isBlank c := by
  simp only [Char.isWhitespace, Bool.or_eq_true, decide_eq_true_eq] at h
  rcases h with ((rfl | rfl) | rfl) | rfl <;> decide

example : isBlank '\x1f' ∧ isBlank '\u3000' ∧ ¬ isBlank '\x00' := by decide

/-- A zero width space is not blank. -/
example : ¬ isBlank '\u200b' := by decide

end Text
end Tablesmith
