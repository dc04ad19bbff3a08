/-
# Plans

A plan holds everything that the generated functions of one table need: their names, the key
column and the columns that are written, each with the parameter that carries its value.

Parameters keep clear of the names that the function bodies use, and of each other. The key is a
parameter of its own: in an update it stands beside the parameters of the columns, so it takes
another name where it would clash with one of them.
-/

import Tablesmith.Naming.Label
import Tablesmith.Naming.Unique
import Tablesmith.Schema.Table

namespace Tablesmith

/-- The functions generated for a table, and the columns that they work on. -/
structure Accessors where
  table : Text
  listAll : Text
  getById : Text
  insert : Text
  update : Text
  delete : Text
  keyColumn : Option Text := none
  insertColumns : List Text := []
  updateColumns : List Text := []
deriving Repr, DecidableEq, Inhabited

/-- The names of the five functions. -/
def Accessors.names (a : Accessors) : List Text :=
  [a.listAll, a.getById, a.insert, a.update, a.delete]

/-- What the generated functions of a table need. -/
structure Plan where
  table : Table
  base : Text
  key : Text
  keyParam : Text
  insertColumns : List Text
  insertParams : List Text
  updateColumns : List Text
  updateParams : List Text
deriving Repr, DecidableEq

namespace Plan

/-- Names that the function bodies use. -/
def bodyNames : List Text :=
  ["sql", "conn", "cur", "row", "rows", "error", "deleted", "psycopg2", "get_connection",
    "get_pool", "close_pool", "run_query", "datetime", "print", "len"]

/-- One parameter for each column. -/
def params (columns : List Text) : List Text :=
  Naming.unique bodyNames (columns.map Naming.identifier)

/-- The parameter for the key, beside the given other ones. -/
def keyParamFor (key : Text) (others : List Text) : Text :=
  let param := Naming.identifier key
  if param ∈ others ∨ param ∈ bodyNames then
    Naming.fresh (others ++ bodyNames) (("current_" : Text) ++ param)
  else param

/-- The plan for a table whose functions are named after `base`. A table whose key column is missing
or has an empty name has `id` for its key. -/
def ofTable (t : Table) (base : Text) : Plan :=
  let key := (Text.nonempty? (Role.key? t.columns)).getD "id"
  let updateParams := params (Role.updated t.columns)
  { table := t
    base := base
    key := key
    keyParam := keyParamFor key updateParams
    insertColumns := Role.inserted t.columns
    insertParams := params (Role.inserted t.columns)
    updateColumns := Role.updated t.columns
    updateParams := updateParams }

/-- The plans for several tables, each with a base name of its own. -/
def all (tables : List Table) : List Plan :=
  tables.zipWith ofTable (Naming.unique [] (tables.map fun t => Naming.lowerIdentifier t.name))

/-- What the table is called in comments and messages. -/
def label (p : Plan) : Text := Naming.label p.table.name

/-- The function that lists all rows. -/
def listAll (p : Plan) : Text := ("get_all_" : Text) ++ p.base

/-- The function that looks a row up. -/
def getById (p : Plan) : Text := ("get_" : Text) ++ p.base ++ "_by_id"

/-- The function that adds a row. -/
def insert (p : Plan) : Text := ("insert_" : Text) ++ p.base

/-- The function that changes a row. -/
def update (p : Plan) : Text := ("update_" : Text) ++ p.base

/-- The function that removes a row. -/
def delete (p : Plan) : Text := ("delete_" : Text) ++ p.base

/-- The function that tries the others out. -/
def check (p : Plan) : Text := ("check_" : Text) ++ p.base

/-- The functions of a plan. -/
def accessors (p : Plan) : Accessors where
  table := p.table.name
  listAll := p.listAll
  getById := p.getById
  insert := p.insert
  update := p.update
  delete := p.delete
  keyColumn := some p.key
  insertColumns := p.insertColumns
  updateColumns := p.updateColumns

/-- The parameters of the update function: the key's, then the columns'. -/
def updateSignature (p : Plan) : List Text := p.keyParam :: p.updateParams

/-- Each table has one plan. -/
@[simp] theorem length_all (tables : List Table) : (all tables).length = tables.length := by
  simp [all]

/-- Columns that are written have one parameter each. -/
@[simp] theorem length_params (columns : List Text) : (params columns).length = columns.length := by
  simp [params]

example : (all [⟨"T", ["id", "sql", "Sql"], false⟩, ⟨"t", ["codigo"], false⟩]).map
    (fun p => (p.base, p.keyParam, p.updateParams)) =
    ([("t", "id", ["sql_2", "Sql"]), ("t_2", "current_codigo", ["codigo"])] :
      List (Text × Text × List Text)) := by
  decide +kernel

end Plan
end Tablesmith
