/-
# Generations as documents

How the answer of a generation is handed over, and how it is read back.
-/

import Tablesmith.Module.Generation

namespace Tablesmith

namespace Accessors

/-- The functions of a table from the members of their document. Other members are passed over. -/
def ofMembers (members : List (Value × Value)) : Checked Accessors :=
  let name (field : Text) : Checked Text := Check.field members field none Check.text
  let columns (field : Text) : Checked (List Text) :=
    Check.field members field (some []) (Check.list .noList Check.text)
  ((((((((name "table").map Accessors.mk).app (name "list_all")).app (name "get_by_id")).app
    (name "insert")).app (name "update")).app (name "delete")).app
    (Check.field members "key_column" (some none) (Check.optional Check.text))).app
    (columns "insert_columns") |>.app (columns "update_columns")

/-- The document of the functions of a table. -/
def document (a : Accessors) : Value :=
  .ofFields [("table", .text a.table), ("list_all", .text a.listAll),
    ("get_by_id", .text a.getById), ("insert", .text a.insert), ("update", .text a.update),
    ("delete", .text a.delete), ("key_column", .ofText? a.keyColumn),
    ("insert_columns", .ofTexts a.insertColumns), ("update_columns", .ofTexts a.updateColumns),
    ("names", .ofTexts a.names)]

/-- The short document of the functions of a table, in which their names stand in one list. -/
def brief (a : Accessors) : Value :=
  .ofFields [("table", .text a.table), ("key_column", .ofText? a.keyColumn),
    ("insert_columns", .ofTexts a.insertColumns), ("update_columns", .ofTexts a.updateColumns),
    ("functions", .ofTexts a.names)]

end Accessors

namespace Generation

/-- A generation from the members of its document. -/
def ofMembers (members : List (Value × Value)) : Checked Generation :=
  let text? (field : Text) : Checked (Option Text) :=
    Check.field members field (some none) (Check.optional Check.text)
  Check.fields ["status", "module_text", "database_name", "tables", "functions"] members
    ((((((Check.field members "status" none (Check.oneOf Status.ofName?)).map Generation.mk).app
      (text? "module_text")).app (text? "database_name")).app
      (Check.field members "tables" (some []) (Check.list .noList Check.text))).app
      (Check.field members "functions" (some [])
        (Check.list .noList (Check.mapping .noModel Accessors.ofMembers))))

/-- The members that every document of a generation has. -/
def fields (g : Generation) (functions : List Value) : List (Text × Value) :=
  [("status", .text g.status.name), ("module_text", .ofText? g.moduleText),
    ("database_name", .ofText? g.databaseName), ("tables", .ofTexts g.tables),
    ("functions", .list functions)]

/-- The document of a generation. -/
def document (g : Generation) : Value :=
  let generated : Text × Value := ("generated", .bool g.isGenerated)
  .ofFields (g.fields (g.functions.map Accessors.document) ++ [generated])

/-- The short document of a generation. -/
def brief (g : Generation) : Value := .ofFields (g.fields (g.functions.map Accessors.brief))

end Generation
end Tablesmith
