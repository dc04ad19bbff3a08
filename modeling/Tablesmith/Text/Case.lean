/-
# Lower and upper case

The full case mappings of Unicode. Two lower case rules go beyond a table: a capital I with a dot
becomes an i and a combining dot, and a capital sigma becomes the final sigma where it ends a
word, that is behind a cased character and not before one, case-ignorable characters skipped.
-/

import Tablesmith.Text.CaseTable
import Tablesmith.Text.Word

namespace Tablesmith
namespace Text

namespace CaseRun

/-- Is the number one of those that the run moves? -/
def covers (r : CaseRun) (n : Nat) : Bool :=
  r.first ≤ n && n ≤ r.last && (n - r.first) % r.step == 0

end CaseRun

/-- Moves a character by the first run that covers it. -/
def shiftBy (runs : List CaseRun) (c : Char) : Char :=
  match runs.find? fun r => r.covers c.toNat with
  | some r => Char.ofNat ((c.toNat : Int) + r.shift).toNat
  | none => c

/-- Letters that have a case. -/
def isCased (c : Char) : Bool := inRanges casedRanges c.toNat

/-- Accents, apostrophes and dots within a word. -/
def isCaseIgnorable (c : Char) : Bool := inRanges caseIgnorableRanges c.toNat

/-- Does a sigma end a word here? `before` is what stands in front of it, last character first. -/
def endsWord (before after : Text) : Bool :=
  (match before.dropWhile isCaseIgnorable with
    | c :: _ => isCased c
    | [] => false)
  && match after.dropWhile isCaseIgnorable with
    | c :: _ => !isCased c
    | [] => true

/-- The lower case form of one character, apart from the sigma at the end of a word. -/
def lowerChar (c : Char) : Text :=
  if c.toNat < 128 then [c.toLower]
  else if c = '\u0130' then ['i', '\u0307']
  else [shiftBy lowerRuns c]

/-- Lower case behind `before`, which is read last character first. -/
def lowerFrom (before : Text) : Text → Text
  | [] => []
  | c :: cs =>
    (if c = '\u03a3' then [if endsWord before cs then '\u03c2' else '\u03c3'] else lowerChar c)
      ++ lowerFrom (c :: before) cs

/-- The text in lower case. -/
def lower (t : Text) : Text := lowerFrom [] t

/-- The upper case form of one character. -/
def upperChar (c : Char) : Text :=
  if c.toNat < 128 then [c.toUpper]
  else match upperForms.lookup c.toNat with
    | some form => form.map Char.ofNat
    | none => [shiftBy upperRuns c]

/-- The text in upper case. -/
def upper (t : Text) : Text := t.flatMap upperChar

example : lower "ΟΔΟΣ ΣΑΝ" = "οδος σαν".toList := by decide +kernel

example : upper "straße ıſ" = "STRASSE IS".toList := by decide +kernel

end Text
end Tablesmith
