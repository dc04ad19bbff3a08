/-
# Statements

The SQL statements that the generated functions run, and the parameters that stand for their
placeholders. Names go into a statement as they stand in the script.

| statement | placeholders |
| --- | --- |
| list | none |
| look up | the key |
| insert | one for each column written |
| update | one for each column written, then the key |
| delete | the key |
-/

import Tablesmith.Module.Function
import Tablesmith.Module.Plan

namespace Tablesmith
namespace Plan

/-- A placeholder for each column. -/
def placeholders (columns : List Text) : List Text := columns.map fun _ => "%s"

/-- The condition that picks a row by its key. -/
def keyCondition (p : Plan) : Text := (" WHERE " : Text) ++ p.key ++ " = %s"

/-- All rows. -/
def listStatement (p : Plan) : Text := ("SELECT * FROM " : Text) ++ p.table.name ++ ";"

/-- The row with a key. -/
def lookupStatement (p : Plan) : Text :=
  ("SELECT * FROM " : Text) ++ p.table.name ++ p.keyCondition ++ ";"

/-- A new row. Without columns to write, every column gets its default. -/
def insertStatement (p : Plan) : Text :=
  if p.insertColumns.isEmpty then
    ("INSERT INTO " : Text) ++ p.table.name ++ " DEFAULT VALUES RETURNING *;"
  else
    ("INSERT INTO " : Text) ++ p.table.name ++ " (" ++ Function.commas p.insertColumns
      ++ ") VALUES (" ++ Function.commas (placeholders p.insertColumns) ++ ") RETURNING *;"

/-- New values for the row with a key. -/
def updateStatement (p : Plan) : Text :=
  ("UPDATE " : Text) ++ p.table.name ++ " SET "
    ++ Function.commas (p.updateColumns.map fun c => c ++ " = %s") ++ p.keyCondition
    ++ " RETURNING *;"

/-- The end of the row with a key. -/
def deleteStatement (p : Plan) : Text :=
  ("DELETE FROM " : Text) ++ p.table.name ++ p.keyCondition ++ ";"

/-- What stands for the placeholders of an update. -/
def updateValues (p : Plan) : List Text := p.updateParams ++ [p.keyParam]

/-- Each column has one placeholder. -/
@[simp] theorem length_placeholders (columns : List Text) :
    (placeholders columns).length = columns.length := by
  simp [placeholders]

end Plan
end Tablesmith
