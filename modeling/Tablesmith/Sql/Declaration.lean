/-
# Table declarations in a script

A declaration reads `CREATE TABLE`, optionally `IF NOT EXISTS`, the table's name, and between
parentheses a body; a closing parenthesis ends the body only if nothing but blanks stands between
it and a semicolon, and the first such parenthesis does.

The declarations of a script are found from left to right. Where none begins, the scan goes on
with the next character; behind a declaration it goes on with what is left, so declarations never
overlap. A script is not checked beyond that: whatever is no declaration is passed over.
-/

import Tablesmith.Sql.Keyword

namespace Tablesmith
namespace Sql

/-- A table's name as written, and the text between the parentheses. -/
structure Declaration where
  name : Text
  body : Text
deriving Repr, DecidableEq

/-- Characters that may open a quoted name. -/
def isOpeningQuote (c : Char) : Bool := c == '\x60' || c == '"' || c == '['

/-- Characters that may close a quoted name. -/
def isClosingQuote (c : Char) : Bool := c == '\x60' || c == '"' || c == ']'

/-- Word characters and dots. -/
def isNameChar (c : Char) : Bool := Text.isWord c || c == '.'

/-- The first character if it satisfies `p`, and what is left. -/
def takeOne (p : Char → Bool) : Text → Text × Text
  | [] => ([], [])
  | c :: cs => if p c then ([c], cs) else ([], c :: cs)

/-- A table's name in front of the text: an opening quote or none, word characters and dots, a
closing quote or none. The quotes need not belong together. -/
def tableName? (t : Text) : Option (Text × Text) :=
  let (opening, t) := takeOne isOpeningQuote t
  let word := t.takeWhile isNameChar
  let (closing, t) := takeOne isClosingQuote (t.dropWhile isNameChar)
  if word.isEmpty then none else some (opening ++ word ++ closing, t)

/-- What is left behind the semicolon that ends a statement, blanks before it skipped. -/
def afterSemicolon? (t : Text) : Option Text := Text.after? [';'] (Text.skipBlanks t)

/-- The body up to the first closing parenthesis that ends the statement, and what is left behind
the statement. -/
def body? : Text → Option (Text × Text)
  | [] => none
  | c :: cs =>
    match (if c = ')' then afterSemicolon? cs else none) with
    | some rest => some ([], rest)
    | none => (body? cs).map fun (body, rest) => (c :: body, rest)

namespace Declaration

/-- Skips `IF NOT EXISTS` and the blanks behind it, if they are there. -/
def skipExistenceTest (t : Text) : Text :=
  ((keywords? ["IF", "NOT", "EXISTS"] t).bind Text.afterBlanks?).getD t

/-- The declaration in front of the text, and what is left behind it. -/
def read? (t : Text) : Option (Declaration × Text) := do
  let t ← keywords? ["CREATE", "TABLE"] t
  let t ← Text.afterBlanks? t
  let (name, t) ← tableName? (skipExistenceTest t)
  let t ← Text.after? ['('] (Text.skipBlanks t)
  let (body, t) ← body? t
  some (⟨name, body⟩, t)

/-- The declarations of a text behind its first `skip` characters. -/
def scan : (skip : Nat) → Text → List Declaration
  | _, [] => []
  | skip + 1, _ :: cs => scan skip cs
  | 0, c :: cs =>
    match read? (c :: cs) with
    | some (d, rest) => d :: scan (cs.length - rest.length) cs
    | none => scan 0 cs

/-- The declarations of a script in the order of their appearance. -/
def all (script : Text) : List Declaration := scan 0 script

/-- Skipping is dropping. -/
theorem scan_eq_drop (skip : Nat) (t : Text) : scan skip t = scan 0 (t.drop skip) := by
  induction skip generalizing t with
  | zero => rw [List.drop_zero]
  | succ n ih =>
    cases t with
    | nil => rfl
    | cons c cs => exact ih cs

example : all "create table \x22a] (x INT) , (y) ) ;CREATE TABLE b(z)\t;" =
    [⟨"\"a]", "x INT) , (y) "⟩, ⟨"b", "z"⟩] := by decide +kernel

/-- The name `IF` is a name like any other. -/
example : all "CREATE TABLE IF NOT EXISTS IF (a INT);" = [⟨"IF", "a INT"⟩] := by decide +kernel

end Declaration
end Sql
end Tablesmith
