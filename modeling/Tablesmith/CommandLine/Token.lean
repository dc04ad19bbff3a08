/-
# What the arguments stand for

An argument is a word, the separator `--`, or a flag, perhaps with a value attached to it. Behind
the separator everything is a word, and before it an argument that begins with a dash is one only
if it is the dash alone, a negative number, or has a space in it and cannot be read as a flag. A
long spelling may be cut short as long as no other spelling begins alike.
-/

import Tablesmith.CommandLine.Flag

namespace Tablesmith
namespace CommandLine

/-- How a value is attached to a flag. -/
inductive Attached where
  | nothing
  /-- The value stands behind an equals sign. -/
  | equals (value : Text)
  /-- The value stands right behind a short spelling. -/
  | glued (value : Text)
deriving Repr, DecidableEq

/-- What an argument stands for. -/
inductive Token where
  | word (t : Text)
  | separator
  | flag (f : Flag) (isShort : Bool) (attached : Attached)
  /-- A flag that does not exist. -/
  | unknown (t : Text)
deriving Repr, DecidableEq

namespace Token

/-- Is this the text of a negative number, perhaps with a line feed behind it? -/
def isNegativeNumber : Text → Bool
  | '-' :: t =>
    let t := if t.getLast? = some '\n' then t.dropLast else t
    let fraction := (t.dropWhile Text.isDecimal).drop 1
    let isWhole := t.all Text.isDecimal
    let hasPoint := (t.dropWhile Text.isDecimal).head? == some '.'
    !t.isEmpty && (isWhole || (hasPoint && !fraction.isEmpty && fraction.all Text.isDecimal))
  | _ => false

/-- The part in front of the first equals sign, and the part behind it. -/
def splitEquals (t : Text) : Text × Attached :=
  match t.dropWhile (· != '=') with
  | [] => (t, .nothing)
  | _ :: value => (t.takeWhile (· != '='), .equals value)

/-- Is a spelling a short one? -/
def isShort (name : Text) : Bool := name.length == 2

/-- The flags that an argument with one dash or two may stand for, with their spellings. -/
def candidates (t : Text) : List (Text × Token) :=
  if ("--".toList).isPrefixOf t then
    let (name, attached) := splitEquals t
    Flag.spellings.filterMap fun (spelling, f) =>
      if name.isPrefixOf spelling then some (spelling, flag f (isShort spelling) attached) else none
  else
    Flag.spellings.filterMap fun (spelling, f) =>
      if spelling = t.take 2 then some (spelling, flag f true (.glued (t.drop 2))) else none

/-- The flag that an argument spells out, perhaps with a value behind an equals sign. -/
def spelledOut? (t : Text) : Option Token :=
  let (name, attached) := splitEquals t
  match Flag.spellings.lookup t, Flag.spellings.lookup name with
  | some f, _ => some (flag f (isShort t) .nothing)
  | none, some f => some (flag f (isShort name) attached)
  | none, none => none

/-- What an argument in front of the separator stands for. -/
def ofArgument (t : Text) : Except Misuse Token :=
  if t.head? ≠ some '-' ∨ t = ['-'] then .ok (word t)
  else match spelledOut? t with
    | some token => .ok token
    | none => match candidates t with
      | [(_, token)] => .ok token
      | [] => .ok (if isNegativeNumber t ∨ ' ' ∈ t then word t else unknown t)
      | found => .error (.ambiguous t (found.map Prod.fst))

/-- What the arguments stand for. -/
def ofArguments : List Text → Except Misuse (List Token)
  | [] => .ok []
  | t :: ts =>
    if t = "--".toList then .ok (separator :: ts.map word)
    else do
      let token ← ofArgument t
      return token :: (← ofArguments ts)

example : ofArguments ["-oa", "--da=b", "-1.5", "-x y", "--", "--all"] = .ok [
    flag .output true (.glued "a"), flag .database false (.equals "b"), word "-1.5", word "-x y",
    separator, word "--all"] := by
  decide +kernel

end Token
end CommandLine
end Tablesmith
