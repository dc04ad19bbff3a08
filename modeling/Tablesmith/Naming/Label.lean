/-
# Labels and row keys

A label is what a name looks like in the comments, messages and documentation of the generated
module: word characters, dots and dashes alone, so that it ends no text around it. A row key is
the name under which the database reports a column: it folds an unquoted name to lower case.
-/

import Tablesmith.Naming.Identifier

namespace Tablesmith
namespace Naming

/-- Characters that a label keeps. -/
def isLabelChar (c : Char) : Bool := Text.isWord c || c == '.' || c == '-'

/-- The label of a name; a question mark if nothing of it is left. -/
def label (name : Text) : Text :=
  let kept := (stripQuotes name).filter isLabelChar
  if kept.isEmpty then ['?'] else kept

/-- The key of a column in a row that the database reports. -/
def rowKey (column : Text) : Text :=
  if isQuoted column then stripQuotes column else Text.lower column

/-- A label is never empty: a question mark stands in for one. -/
theorem label_ne_nil (name : Text) : label name ≠ [] := by
  simp only [label]
  split
  · simp
  · rename_i h
    simpa using h

example : label "\"public\".\"my table\"" = "public.mytable" ∧ label "''" = "?" := by
  decide +kernel

example : rowKey "\"Id\"" = "Id" ∧ rowKey "Id" = "id" := by decide +kernel

end Naming
end Tablesmith
