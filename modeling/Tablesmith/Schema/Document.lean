/-
# Tables and schemas as documents

Tables and schemas are handed over as mappings: a table as its name, its columns and its mark, a
schema as a summary that also counts what is selected.
-/

import Tablesmith.Schema.Basic
import Tablesmith.Validation.Scalar

namespace Tablesmith

namespace Table

/-- The fields of a table. -/
def fieldNames : List Text := ["name", "columns", "selected"]

/-- A list of texts that counts as a tuple. -/
def checkColumns : Check (List Text) := Check.list .noTuple Check.text

/-- A table from the members of its document. -/
def ofMembers (members : List (Value × Value)) : Checked Table :=
  Check.fields fieldNames members
    ((((Check.field members "name" none Check.text).map Table.mk).app
      (Check.field members "columns" (some []) checkColumns)).app
      (Check.field members "selected" (some false) Check.bool))

/-- A table from its document. -/
def check : Check Table := Check.mapping .noModel ofMembers

/-- The document of a table. -/
def document (t : Table) : Value :=
  .ofFields [("name", .text t.name), ("columns", .ofTexts t.columns),
    ("selected", .bool t.selected)]

/-- What belongs to all tables, or is derived from a table, and takes no value. -/
def derivedNames : List Text :=
  ["model_extra", "model_fields_set", "__fields_set__", "__weakref__", "__signature__",
    "__class_vars__", "__private_attributes__"]

/-- Gives one field of a table another value. The name and the columns are frozen. Of the names that
begin with an underscore one means what kind of thing a table is, which stays, and one means all
fields at once; the others are none of the table's own and pass. -/
def assign (t : Table) (field : Text) (value : Value) : Except Fault Table :=
  let refuse (kind : Issue.Kind) : Except Fault Table := .error (.invalid [⟨[.field field], kind⟩])
  if field = "selected".toList then
    let changed := ((Check.bool value).under (.field field)).map fun b => { t with selected := b }
    changed.toExcept.mapError Fault.invalid
  else if field ∈ fieldNames then refuse .frozen
  else if field ∈ derivedNames then .error .noSuchPart
  else if field = "__class__".toList then .error .wrongKind
  else if field = "__dict__".toList then
    match value.members? with
    | some members => .ok ((ofMembers members).toExcept.toOption.getD t)
    | none => .error .wrongKind
  else if field.head? = some '_' then .ok t
  else refuse .noSuchField

end Table

namespace Schema

/-- A schema from the members of its document. -/
def ofMembers (members : List (Value × Value)) : Checked Schema :=
  Check.fields ["tables", "database_name", "database_statements", "split_mode"] members
    (((((Check.field members "tables" (some [])
        (Check.list .noTuple Table.check)).map Schema.mk).app
      (Check.field members "database_name" (some none) (Check.optional Check.text))).app
      (Check.field members "database_statements" (some []) Table.checkColumns)).app
      (Check.field members "split_mode" (some .legacy) (Check.oneOf Sql.SplitMode.ofName?)))

/-- The members of the summary of a schema. -/
def summaryMembers (s : Schema) : List (Value × Value) :=
  [(.text "database_name", .ofText? s.databaseName),
    (.text "database_statements", .ofTexts s.databaseStatements),
    (.text "split_mode", .text s.splitMode.name),
    (.text "tables", .list (s.tables.map Table.document)),
    (.text "selected_count", .int s.selected.length)]

/-- The summary of a schema. -/
def summary (s : Schema) : Value := .map s.summaryMembers

end Schema
end Tablesmith
