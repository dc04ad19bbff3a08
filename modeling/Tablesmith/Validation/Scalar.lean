/-
# Checks of texts, numbers and truth values

Numbers and truth values may be written in other forms than their own:

| wanted | also taken |
| --- | --- |
| integer | a truth value, a double without a fraction, a decimal numeral in a text |
| truth value | `0` and `1` as a number, and twelve words such as `yes` and `off` in any case |
| double | an integer, a truth value, a decimal in a text |
-/

import Tablesmith.Number.Literal
import Tablesmith.Validation.Checked

namespace Tablesmith
namespace Check

/-- A text, or bytes that are one. -/
def text : Check Text
  | .text t => .fit t
  | .bytes bs => match Text.decode? bs with
    | some t => .fit t
    | none => .fail .brokenText
  | _ => .fail .noText

/-- One of the given names. -/
def oneOf {α : Type} (ofName? : Text → Option α) : Check α
  | .text t => match ofName? t with
    | some a => .fit a
    | none => .fail .noneOfTheNames
  | _ => .fail .noneOfTheNames

/-- The text without underscores, if there are any and none stands at an end or beside another
one. -/
def dropUnderscores? (t : Text) : Option Text :=
  if '_' ∉ t ∨ t.head? = some '_' ∨ t.getLast? = some '_' ∨ Text.contains "__" t then none
  else some (t.filter (· != '_'))

/-- The most characters of an integer, its sign among them. -/
def maxDigits : Nat := 4300

/-- A digit other than zero. -/
def isLeadingDigit (c : Char) : Bool := '1' ≤ c && c ≤ '9'

/-- The text without a minus sign in front. -/
def dropMinus : Text → Text
  | '-' :: t => t
  | t => t

/-- Does the text begin with an integer that has too many digits? -/
def beginsTooLong (t : Text) : Bool :=
  let body := dropMinus t
  let digits := body.takeWhile Char.isDigit
  body.head?.any isLeadingDigit && maxDigits < (t.length - body.length) + digits.length

/-- An integer in its plain form: an optional minus sign and digits, with no zero in front of other
digits. -/
def plainInteger? (t : Text) : Option Int :=
  let body := dropMinus t
  if (body = ['0'] ∨ body.head?.any isLeadingDigit) ∧ !beginsTooLong t then
    (Text.nat? 10 body).map fun n => if t.head? = some '-' then -(n : Int) else n
  else none

/-- What is left behind zeros and underscores, where `last` is the one of them read last: the rest
from a digit or a minus sign on. Where nothing is left, and in front of a point, `last` stays. -/
def behindZeros? (last : Char) : Text → Option Text
  | [] => some [last]
  | c :: t =>
    if c = '0' ∨ c = '_' then behindZeros? c t
    else if isLeadingDigit c ∨ c = '-' then some (c :: t)
    else if c = '.' then some (last :: c :: t)
    else none

/-- The text without zeros in front. It has to begin with a digit or a minus sign, and nothing is
dropped behind the sign. -/
def dropZeros? : Text → Option Text
  | '0' :: t => behindZeros? '0' t
  | c :: t => if isLeadingDigit c ∨ c = '-' then some (c :: t) else none
  | [] => none

/-- The text without a point and the zeros behind it. Anything else behind a point is refused. -/
def dropZeroFraction? (t : Text) : Option Text :=
  match t.dropWhile (· != '.') with
  | [] => some t
  | _ :: fraction =>
    if fraction.isEmpty ∨ fraction.any (· != '0') then none else some (t.takeWhile (· != '.'))

/-- The plain form of an integer that may have white space around it, a plus sign, zeros in front, a
fraction of zeros, and underscores between its digits. -/
def plainForm? (t : Text) : Option Text := do
  let t := Text.trimSpace t
  let t ← match t with
    | '+' :: '-' :: _ => none
    | '+' :: t => some t
    | t => some t
  let t ← dropZeros? t >>= dropZeroFraction?
  return (dropUnderscores? t).getD t

/-- An integer written in a text. -/
def integerOfText (t : Text) : Checked Int :=
  if beginsTooLong t then .fail .integerTooLong
  else match plainInteger? t <|> (plainForm? t >>= plainInteger?) with
    | some n => .fit n
    | none => .fail .unreadableInteger

/-- Does the integer fit into sixty-four bits? -/
def isMachineInt (n : Int) : Bool :=
  -9223372036854775808 ≤ n && n < 9223372036854775808

/-- The integer that a double equals, if it lies inside of sixty-four bits. -/
def integerOfReal (x : Binary64) : Checked Int :=
  match x, x.toInt? with
  | .finite .., some n =>
    if isMachineInt n ∧ n ≠ -9223372036854775808 then .fit n else .fail .integerTooLong
  | .finite .., none => .fail .fractionalInteger
  | _, _ => .fail .numberNotFinite

/-- An integer. -/
def integer : Check Int
  | .bool b => .fit (if b then 1 else 0)
  | .int n => .fit n
  | .real x => integerOfReal x
  | .text t => if Text.isWhole t then integerOfText t else .fail .brokenText
  | .bytes bs => ((Text.decode? bs).map integerOfText).getD (.fail .unreadableInteger)
  | _ => .fail .noInteger

/-- A natural number from `least` on. -/
def natural (least : Nat) : Check Nat := fun v =>
  (integer v).andThen fun n => if (least : Int) ≤ n then .fit n.toNat else .fail .belowMinimum

/-- The words for a truth value. -/
def boolWords : List (Text × Bool) :=
  [("0", false), ("off", false), ("f", false), ("false", false), ("n", false), ("no", false),
    ("1", true), ("on", true), ("t", true), ("true", true), ("y", true), ("yes", true)]

/-- The truth value of a number, which has to be zero or one. -/
def boolOfInt (n : Int) : Checked Bool :=
  if n = 0 then .fit false else if n = 1 then .fit true else .fail .unreadableBool

/-- A truth value. -/
def bool : Check Bool
  | .bool b => .fit b
  | .int n => if isMachineInt n then boolOfInt n else .fail .noBool
  | .real x => match integerOfReal x with
    | .fit n => boolOfInt n
    | .unfit _ => .fail .noBool
  | .text t =>
    if Text.isWhole t then
      match boolWords.lookup (t.map Char.toLower) with
      | some b => .fit b
      | none => .fail .unreadableBool
    else .fail .brokenText
  | _ => .fail .noBool

/-- A double written in a text. It may have white space around it or underscores in it, not both. -/
def realOfText (t : Text) : Checked Binary64 :=
  match Binary64.ofLiteral? (Text.trimSpace t) <|> (dropUnderscores? t >>= Binary64.ofLiteral?) with
  | some x => .fit x
  | none => .fail .unreadableReal

/-- A double. -/
def real : Check Binary64
  | .bool b => .fit (.ofDecimal false (if b then 1 else 0) 0)
  | .int n => .fit (.ofDecimal (n < 0) n.natAbs 0)
  | .real x => .fit x
  | .text t => realOfText t
  | _ => .fail .noReal

example : ([" +1_000.00 ", "-7", "0_07", "0.0"] : List Text).map (plainForm? · >>= plainInteger?) =
      [some 1000, some (-7), some 7, some 0] ∧
    ([ "1.", "+-1", "1__0", "-07", "_1", ""] : List Text).all fun t =>
      (plainForm? t >>= plainInteger?).isNone := by decide +kernel

example : (match bool (.text "YES"), bool (.text " yes") with
    | .fit b, .unfit [⟨[], .unreadableBool⟩] => b
    | _, _ => false) = true := by decide +kernel

end Check
end Tablesmith
