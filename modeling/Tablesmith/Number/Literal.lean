/-
# Numbers written as texts

Integers in a base and doubles, as people write them: with blanks around them, a sign, and the
digits of any script. Blanks and digits outside of ASCII count as the blank and the digits of
ASCII; any other character there is part of no number.
-/

import Tablesmith.Number.Binary64
import Tablesmith.Text.Blank
import Tablesmith.Text.Word

namespace Tablesmith
namespace Text

/-- The value of a decimal digit of any script. The digits of a script follow one another. -/
def digitValue? (c : Char) : Option Nat :=
  if c.isDigit then some (c.toNat - 48)
  else if isDecimal c then
    (digitRanges.find? fun r => r.1 ≤ c.toNat && c.toNat ≤ r.2).map fun r => (c.toNat - r.1) % 10
  else none

/-- A character of a number in ASCII, if it has a form there. -/
def asciiChar? (c : Char) : Option Char :=
  if c.toNat < 128 then some c
  else if isBlank c then some ' '
  else (digitValue? c).map fun d => Char.ofNat (48 + d)

/-- The text in ASCII, with no character outside of it that is no blank and no digit. -/
def ascii? (t : Text) : Option Text := t.mapM asciiChar?

/-- White space of ASCII. -/
def isAsciiSpace (c : Char) : Bool := c == ' ' || (9 ≤ c.toNat && c.toNat ≤ 13)

/-- A sign in front of the text, true for a minus, and what is left. -/
def takeSign : Text → Bool × Text
  | '-' :: t => (true, t)
  | '+' :: t => (false, t)
  | t => (false, t)

/-- The letter that marks a base in front of a numeral, behind a zero. -/
def baseLetter? (base : Nat) : Option Char :=
  ([(2, 'b'), (8, 'o'), (16, 'x')] : List (Nat × Char)).lookup base

/-- The numeral without the mark of its base. -/
def dropBaseMark (base : Nat) : Text → Text
  | '0' :: c :: t => if baseLetter? base = some c.toLower then t else '0' :: c :: t
  | t => t

/-- Is the character a digit of the base? -/
def isDigitOf (base : Nat) (c : Char) : Bool := (hexValue? c).any (· < base)

/-- The digits of an integer and whether it is negative. -/
def integerDigits? (base : Nat) (t : Text) : Option (Bool × Text) := do
  let t ← ascii? t
  let (negative, t) := takeSign (trimBy isAsciiSpace t)
  let t := dropBaseMark base t
  if t.isEmpty ∨ t.any (!isDigitOf base ·) then none else some (negative, t)

/-- The integer in the base. -/
def integer? (base : Nat) (t : Text) : Option Int := do
  let (negative, digits) ← integerDigits? base t
  let n ← nat? base digits
  return if negative then -(n : Int) else n

example : integer? 10 " +१२\n" = some 12 ∧ integer? 16 "-0Xff" = some (-255) ∧
    integer? 8 "08" = none ∧ integer? 10 "1 2" = none ∧ integer? 2 "0b" = none := by decide +kernel

end Text

namespace Binary64

/-- The words for doubles that are not finite. -/
def words : List (Text × Binary64) :=
  [("inf", .infinite false), ("infinity", .infinite false), ("nan", .nan)]

/-- The double of a decimal or a word, with an optional sign. -/
def ofLiteral? (t : Text) : Option Binary64 :=
  let (negative, body) := Text.takeSign t
  match words.lookup (body.map Char.toLower) with
  | some (.infinite _) => some (.infinite negative)
  | some x => some x
  | none => ofText? t

/-- The double of a literal with blanks around it and digits of any script. -/
def ofSpacedLiteral? (t : Text) : Option Binary64 := do
  ofLiteral? (Text.trimBy Text.isAsciiSpace (← Text.ascii? t))

end Binary64
end Tablesmith
