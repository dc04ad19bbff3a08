/-
# Numbers of a YAML text

A scalar that is tagged as a number may be written in any of these ways, underscores left out:

| integer | in base | double | |
| --- | --- | --- | --- |
| `0b…` | two | `.inf`, `.nan` | in any case |
| `0x…` | sixteen | parts with colons between them | digits of base sixty |
| `0…` | eight | anything else | a decimal |
| parts with colons between them | sixty | | |
| anything else | ten | | |

A sign stands in front. What is behind it may be a literal with blanks and a sign of its own.
-/

import Tablesmith.Number.Literal
import Tablesmith.Text.Case
import Tablesmith.Yaml.Property

namespace Tablesmith
namespace Yaml

/-- How many digits an integer in base ten begins with. -/
def leadingDigits (t : Text) : Nat :=
  let t := t.map fun c => (Text.asciiChar? c).getD '?'
  ((Text.takeSign (t.dropWhile Text.isAsciiSpace)).2.takeWhile Char.isDigit).length

/-- The integer of a literal. In base ten it must not be too long. -/
def literal (base : Nat) (t : Text) : Except Failure Int :=
  if base = 10 ∧ maxDigits < leadingDigits t then .error (.longInteger (leadingDigits t))
  else match Text.integer? base t with
    | some n => .ok n
    | none => .error (.noInteger base t)

/-- The number whose digits of base sixty are the given integers. -/
def ofSixtieths (digits : List Int) : Int := digits.foldl (fun n d => n * 60 + d) 0

/-- The integer of a text that has no sign and no underscores. -/
def unsignedInteger (t : Text) : Except Failure Int :=
  if t = ['0'] then .ok 0
  else match t with
    | '0' :: 'b' :: digits => literal 2 digits
    | '0' :: 'x' :: digits => literal 16 digits
    | '0' :: _ => literal 8 t
    | [] => .error .emptyNumber
    | _ =>
      if ':' ∈ t then ((Text.cutAt ':' t).mapM (literal 10)).map ofSixtieths
      else literal 10 t

/-- The integer of a scalar. -/
def integer (t : Text) : Except Failure Int :=
  match t.filter (· != '_') with
  | [] => .error .emptyNumber
  | t =>
    let (negative, body) := Text.takeSign t
    (unsignedInteger body).map fun n => if negative then -n else n

/-- The double of a literal. -/
def realLiteral (t : Text) : Except Failure Binary64 :=
  match Binary64.ofSpacedLiteral? t with
  | some x => .ok x
  | none => .error (.noReal t)

/-- The sum of doubles, the last one counted once, the one before it `scale` times sixty, and so on,
each product and each sum rounded. The doubles are given last one first. -/
def sumSixtieths (scale : Nat) (sum : Binary64) : List Binary64 → Except Failure Binary64
  | [] => .ok sum
  | x :: xs =>
    let weight := Binary64.ofNat scale
    if weight.isFinite then sumSixtieths (scale * 60) (sum.add (x.mul weight)) xs
    else .error .tooLarge

/-- The double of a text that has no sign, no underscores and no capitals. -/
def unsignedReal (t : Text) : Except Failure Binary64 :=
  if t = ".inf".toList then .ok (.infinite false)
  else if t = ".nan".toList then .ok .nan
  else if ':' ∈ t then do
    let digits ← (Text.cutAt ':' t).mapM realLiteral
    sumSixtieths 1 (Binary64.ofNat 0) digits.reverse
  else realLiteral t

/-- The double of a scalar. -/
def real (t : Text) : Except Failure Binary64 :=
  match Text.lower (t.filter (· != '_')) with
  | [] => .error .emptyNumber
  | t =>
    let (negative, body) := Text.takeSign t
    (unsignedReal body).map fun x => if negative then x.neg else x

example : ([ "0b-1", "-0x1F", "017", "1:30", "1_000", "+-5", "-" ] : List Text).map
      (fun t => (integer t).toOption) =
    [some (-1), some (-31), some 15, some 90, some 1000, some (-5), none] := by
  decide +kernel

example : ([ "1:2:3", "--5", " 1_0 ", ".INF", "1:x"] : List Text).map
    (fun t => (real t).toOption.map Binary64.toText) =
    ([ "3723.0", "5.0", "10.0", "Infinity"] : List Text).map some ++ [none] := by
  decide +kernel

end Yaml
end Tablesmith
