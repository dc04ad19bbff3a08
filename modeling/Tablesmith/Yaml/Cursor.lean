/-
# A place in a YAML text

Indentation decides the structure of a YAML text, so its lexer has to know the line and the column
of the character it reads. A cursor holds them together with the text that is left, with the
number of its characters, which bounds every loop over it, and with the number of signs in front of
it.
-/

import Tablesmith.Text.Sign

namespace Tablesmith
namespace Yaml

/-- The text that is left, and the place where it begins. -/
structure Cursor where
  rest : Text
  left : Nat := rest.length
  passed : Nat := 0
  line : Nat := 0
  column : Nat := 0

/-- Characters that end a line. -/
def isBreak (c : Char) : Bool :=
  c == '\n' || c == '\r' || c == '\x85' || c == '\u2028' || c == '\u2029'

/-- Space, tab, a line break, or the end of the text. -/
def isGap : Option Char → Bool
  | none => true
  | some c => c == ' ' || c == '\t' || isBreak c

/-- A line break or the end of the text. -/
def isBreakOrEnd : Option Char → Bool
  | none => true
  | some c => isBreak c

namespace Cursor

/-- The character `k` places ahead, if the text goes so far. -/
def peek (c : Cursor) (k : Nat) : Option Char := c.rest[k]?

/-- Is the next character `x`? -/
def at? (c : Cursor) (x : Char) : Bool := c.peek 0 == some x

/-- One character further. A carriage return before a newline does not end the line by itself, and
a byte order mark takes no column. Where two characters spell one sign, the second one counts. -/
def next (c : Cursor) : Cursor :=
  match c.rest with
  | [] => c
  | x :: rest =>
    let isMark := x == Text.halfMark
    let passed := if isMark then c.passed else c.passed + 1
    if isBreak x && !(x == '\r' && rest.head? == some '\n') then
      ⟨rest, c.left - 1, passed, c.line + 1, 0⟩
    else if x == '\ufeff' || isMark then ⟨rest, c.left - 1, passed, c.line, c.column⟩
    else ⟨rest, c.left - 1, passed, c.line, c.column + 1⟩

/-- A cursor that counts what is left still does so one character further. -/
theorem left_next {c : Cursor} (h : c.left = c.rest.length) : c.next.left = c.next.rest.length := by
  obtain ⟨rest, left, passed, line, column⟩ := c
  cases rest with
  | nil => exact h
  | cons x rest =>
    simp only [List.length_cons] at h
    simp only [next]
    split
    · simp [h]
    · split <;> simp [h]

/-- `n` characters further. -/
def skip : Nat → Cursor → Cursor
  | 0, c => c
  | n + 1, c => skip n c.next

/-- Behind all characters that satisfy `p`. -/
def skipWhile (p : Char → Bool) (c : Cursor) : Cursor := c.skip (c.rest.takeWhile p).length

/-- Takes all characters that satisfy `p`. -/
def takeWhile (p : Char → Bool) (c : Cursor) : Text × Cursor :=
  (c.rest.takeWhile p, c.skipWhile p)

/-- Takes a line break, which counts as a newline unless it is a line or paragraph separator. The
text is empty if there is none. -/
def takeBreak (c : Cursor) : Text × Cursor :=
  match c.rest with
  | '\r' :: '\n' :: _ => (['\n'], c.skip 2)
  | x :: _ =>
    if x == '\u2028' || x == '\u2029' then ([x], c.next)
    else if isBreak x then (['\n'], c.next)
    else ([], c)
  | [] => ([], c)

/-- Does the line begin with this marker of three characters and a gap? -/
def atMarker (marker : Text) (c : Cursor) : Bool :=
  marker.isPrefixOf c.rest && isGap (c.peek 3)

/-- Does the line begin with the mark that starts or ends a document? -/
def atDocumentMarker (c : Cursor) : Bool := c.atMarker "---" || c.atMarker "..."

end Cursor
end Yaml
end Tablesmith
