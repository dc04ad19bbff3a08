/-
# Segments of a declaration's body

A body is a list of column declarations and table constraints with commas between them. The two
modes of cutting it differ in what they take for a comma between two of them:

| mode | a comma cuts |
| --- | --- |
| `legacy` | everywhere, also within `DECIMAL(10,2)` and within a literal |
| `depth_aware` | outside parentheses and outside literals |

In both modes a segment is trimmed, and a segment of blanks alone is left out.
-/

import Tablesmith.Text.Blank

namespace Tablesmith
namespace Sql

/-- How a body is cut into segments. -/
inductive SplitMode where
  | legacy
  | depthAware
deriving Repr, DecidableEq, Inhabited

namespace SplitMode

/-- The name under which a mode is asked for and reported. -/
def name : SplitMode → Text
  | legacy => "legacy"
  | depthAware => "depth_aware"

/-- Both modes. -/
def all : List SplitMode := [legacy, depthAware]

/-- The mode of a name, written exactly so. -/
def ofName? (name : Text) : Option SplitMode := all.find? fun m => m.name = name

/-- A mode is found under its name. -/
theorem ofName?_name (m : SplitMode) : ofName? m.name = some m := by
  cases m <;> decide

/-- A mode that is found has the name that was looked up. -/
theorem name_of_ofName? {name : Text} {m : SplitMode} (h : ofName? name = some m) :
    m.name = name := by
  simpa using List.find?_some h

end SplitMode

namespace Segment

/-- Trims the pieces and leaves out those of blanks alone. -/
def tidy (pieces : List Text) : List Text :=
  (pieces.filter fun p => !Text.isAllBlank p).map Text.trim

/-- The segments between any two commas. -/
def legacy (body : Text) : List Text := tidy (Text.cutAt ',' body)

/-- Characters that open a literal, and close one that they opened. -/
def isQuote (c : Char) : Bool := c == '\'' || c == '"' || c == '\x60'

/-- Cuts at the commas outside literals at depth zero. `quote` is the quote of the literal read at
the moment, `depth` the number of parentheses open. A quote written twice within its literal does
not close it, and a closing parenthesis too many leaves the depth at zero. -/
def cut : (quote : Option Char) → (depth : Nat) → Text → List Text
  | _, _, [] => [[]]
  | some _, _, [c] => [[c]]
  | some q, depth, c :: d :: cs =>
    if c = q then
      if d = q then Text.consHead c (Text.consHead d (cut (some q) depth cs))
      else Text.consHead c (cut none depth (d :: cs))
    else Text.consHead c (cut (some q) depth (d :: cs))
  | none, depth, c :: cs =>
    if isQuote c then Text.consHead c (cut (some c) depth cs)
    else if c = '(' then Text.consHead c (cut none (depth + 1) cs)
    else if c = ')' then Text.consHead c (cut none (depth - 1) cs)
    else if c = ',' ∧ depth = 0 then [] :: cut none depth cs
    else Text.consHead c (cut none depth cs)

/-- The segments between two commas outside parentheses and literals. -/
def depthAware (body : Text) : List Text := tidy (cut none 0 body)

/-- The segments of a body in the given mode. -/
def all : SplitMode → Text → List Text
  | .legacy => legacy
  | .depthAware => depthAware

example : legacy " a DECIMAL(10, 2),, b " = ["a DECIMAL(10".toList, "2)".toList, "b".toList] := by
  decide

example : depthAware "a DECIMAL(10, 2),, b DEFAULT 'x'',(' , c)" =
    ["a DECIMAL(10, 2)".toList, "b DEFAULT 'x'',('".toList, "c)".toList] := by
  decide +kernel

end Segment
end Sql
end Tablesmith
