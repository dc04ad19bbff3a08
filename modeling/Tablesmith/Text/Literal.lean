/-
# Double-quoted literals

A text between double quotes, as source code and JSON both read it. The quote and the backslash
are escaped by a backslash; backspace, tab, newline, form feed and carriage return have short
escapes; every other character below `\x20` is written with four hexadecimal digits. All else
stands for itself.
-/

import Tablesmith.Text.Numeral

namespace Tablesmith
namespace Text

/-- The escaped form of one character of a literal. -/
def escapeChar (c : Char) : Text :=
  if c = '"' then ['\\', '"']
  else if c = '\\' then ['\\', '\\']
  else if c = '\n' then ['\\', 'n']
  else if c = '\r' then ['\\', 'r']
  else if c = '\t' then ['\\', 't']
  else if c = '\x08' then ['\\', 'b']
  else if c = '\x0c' then ['\\', 'f']
  else if c.toNat < 32 then '\\' :: 'u' :: hex4 c.toNat
  else [c]

/-- The text between the quotes of its literal. -/
def escape (t : Text) : Text := t.flatMap escapeChar

/-- The double-quoted literal of a text. -/
def literal (t : Text) : Text := '"' :: escape t ++ ['"']

/-- A text with no quote, no backslash and no control character stands for itself. -/
theorem escape_eq_self {t : Text} (h : ∀ c ∈ t, c ≠ '"' ∧ c ≠ '\\' ∧ 32 ≤ c.toNat) :
    escape t = t := by
  induction t with
  | nil => rfl
  | cons c cs ih =>
    obtain ⟨hq, hb, hc⟩ := h c (by simp)
    have hne : ∀ d : Char, d.toNat < 32 → c ≠ d := fun d hd e => by subst e; omega
    have hself : escapeChar c = [c] := by
      simp only [escapeChar, hq, hb, if_false]
      rw [if_neg (hne '\n' (by decide)), if_neg (hne '\r' (by decide)),
        if_neg (hne '\t' (by decide)), if_neg (hne '\x08' (by decide)),
        if_neg (hne '\x0c' (by decide)), if_neg (by omega)]
    have hcs := ih fun d hd => h d (by simp [hd])
    simp only [escape, List.flatMap_cons, hself] at hcs ⊢
    simp [hcs]

example : literal "a\"b\\c\n\x01é" = "\"a\\\"b\\\\c\\n\\u0001é\"".toList := by decide +kernel

end Text
end Tablesmith
