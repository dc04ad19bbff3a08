/-
# Lines

A text is cut into lines at every line break: newline, carriage return, the pair of both, the
vertical tab, the form feed, three of the information separators, the next-line character, and the
line and paragraph separators. A break that ends the text does not begin another line.
-/

import Tablesmith.Text.Basic

namespace Tablesmith
namespace Text

/-- Characters that end a line. -/
def isLineBreak (c : Char) : Bool :=
  let n := c.toNat
  (10 ≤ n && n ≤ 13) || (28 ≤ n && n ≤ 30) || n == 0x85 || n == 0x2028 || n == 0x2029

/-- The lines of a text without their breaks. A carriage return and the newline behind it are one
break. -/
def lines : Text → List Text
  | [] => []
  | '\r' :: '\n' :: cs => [] :: lines cs
  | c :: cs => if isLineBreak c then [] :: lines cs else consHead c (lines cs)

/-- Every line ending written as a newline: first the pair of carriage return and newline, then
each carriage return left. -/
def unixNewlines : Text → Text
  | [] => []
  | '\r' :: '\n' :: cs => '\n' :: unixNewlines cs
  | c :: cs => (if c = '\r' then '\n' else c) :: unixNewlines cs

/-- No carriage return is left. -/
theorem not_mem_unixNewlines (t : Text) : '\r' ∉ unixNewlines t := by
  fun_induction unixNewlines t with
  | case1 => simp
  | case2 cs ih => simp [ih]
  | case3 c cs _ ih =>
    by_cases h : c = '\r'
    · simp [h, ih]
    · simpa [h, ih] using Ne.symm h

example : lines "a\r\nb\u2028\n" = ["a".toList, "b".toList, []] := by decide

end Text
end Tablesmith
