/-
# Tables

A table is its name and its columns as they stand in the script, and a mark that says whether it
is selected. The columns play three roles in the generated module:

* the key is the first column whose name mentions `id`, in any case, and else the first column;
* a new row gives a value to every column that is neither `id` nor ends in `_id`, in any case;
* an update gives a value to the same columns, `id` itself left out.
-/

import Tablesmith.Text.Case

namespace Tablesmith

/-- A table of a script. -/
structure Table where
  name : Text
  columns : List Text := []
  selected : Bool := false
deriving Repr, DecidableEq, Inhabited

namespace Role

/-- Does the column's name mention an identity? -/
def mentionsId (column : Text) : Bool := Text.contains "id" (Text.lower column)

/-- Is the column an identity or a reference to one? -/
def isReference (column : Text) : Bool :=
  let name := Text.lower column
  name == "id".toList || Text.endsWith "_id" name

/-- The column that tells rows apart; a table without columns has none. -/
def key? (columns : List Text) : Option Text := columns.find? mentionsId <|> columns.head?

/-- The columns that a new row gives values to. -/
def inserted (columns : List Text) : List Text := columns.filter fun c => !isReference c

/-- The columns that an update gives values to. -/
def updated (columns : List Text) : List Text :=
  (inserted columns).filter fun c => c != "id".toList

/-- Only a table without columns has no key. -/
theorem key?_eq_none_iff (columns : List Text) : key? columns = none ↔ columns = [] := by
  cases columns with
  | nil => simp [key?]
  | cons c cs => cases h : List.find? mentionsId (c :: cs) <;> simp [key?, h]

/-- A column that merely mentions an identity is a key, and still gets a value. -/
example : key? ["name", "Identifier", "id"] = some "Identifier".toList ∧
    inserted ["Identifier", "ID", "user_Id", "paid"] = ["Identifier".toList, "paid".toList] := by
  decide +kernel

end Role
end Tablesmith
