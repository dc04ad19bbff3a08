/-
# The section of a table

The section of a table in the generated module: a comment that names the table, its columns and
its key, and the five functions that list, look up, insert, update and delete rows.

A function that changes rows opens a connection of its own, takes its change back if the database
refuses it, and answers that nothing was changed.
-/

import Tablesmith.Module.Statement

namespace Tablesmith
namespace Plan

/-- The line above and below a comment. -/
def rule : Text :=
  "# ---------------------------------------------------------------------------"

/-- The comment above the functions of a table. -/
def header (p : Plan) : List Text :=
  [rule,
    ("# Table: " : Text) ++ p.label,
    ("# Columns: " : Text)
      ++ (if (Function.commas p.table.columns).isEmpty then ("(none)" : Text)
        else Function.commas p.table.columns),
    ("# Key column: " : Text) ++ Naming.label p.key,
    rule]

/-- The function that lists all rows. -/
def listFunction (p : Plan) : Function where
  name := p.listAll
  body :=
    [Function.doc ("Return every row of " ++ p.label
        ++ " (an empty list when the table is empty)."),
      ("return " : Text) ++ Function.call "run_query" [Text.literal p.listStatement]]

/-- The function that looks a row up. -/
def lookupFunction (p : Plan) : Function where
  name := p.getById
  params := [p.keyParam]
  body :=
    [Function.doc ("Return the " ++ p.label ++ " row whose " ++ Naming.label p.key
        ++ " matches, or None."),
      ("rows = " : Text)
        ++ Function.call "run_query" [Text.literal p.lookupStatement, Function.tuple [p.keyParam]],
      "return rows[0] if rows else None"]

/-- The lines that run a statement on a connection of their own: `sql` is the statement, `args` what
is handed over with it, `result` the line that keeps its result, and `failed` what is answered if
the database refuses. -/
def guarded (function sql args result failed : Text) : List Text :=
  [("sql = " : Text) ++ sql,
    "try:",
    "    with get_connection() as conn:",
    "        try:",
    "            with conn.cursor() as cur:",
    ("                cur.execute(" : Text) ++ args ++ ")",
    ("                " : Text) ++ result,
    "            conn.commit()",
    "        except psycopg2.Error:",
    "            conn.rollback()",
    "            raise",
    "except psycopg2.Error as error:",
    ("    print(f\"" : Text) ++ function ++ " failed: \x7berror\x7d\")",
    ("    return " : Text) ++ failed]

/-- The function that adds a row. -/
def insertFunction (p : Plan) : Function where
  name := p.insert
  params := p.insertParams
  body :=
    [Function.doc ("Insert one row into " ++ p.label ++ " and return it, or None on failure.")]
      ++ guarded p.insert (Text.literal p.insertStatement)
        (if p.insertColumns.isEmpty then "sql"
          else ("sql, " : Text) ++ Function.tuple p.insertParams)
        "row = cur.fetchone()" "None"
      ++ (["return row"] : List Text)

/-- The function that changes a row. Without columns to write it looks the row up. -/
def updateFunction (p : Plan) : Function :=
  if p.updateColumns.isEmpty then
    { name := p.update
      params := [p.keyParam]
      body :=
        [Function.doc (p.label ++ " has no updatable columns; returns the current row, or None."),
          ("return " : Text) ++ Function.call p.getById [p.keyParam]] }
  else
    { name := p.update
      params := p.updateSignature
      body :=
        [Function.doc ("Update the " ++ p.label ++ " row whose " ++ Naming.label p.key
            ++ " matches and return it, or None.")]
          ++ guarded p.update (Text.literal p.updateStatement)
            (("sql, " : Text) ++ Function.tuple p.updateValues) "row = cur.fetchone()" "None"
          ++ (["if row is None:",
            ("    print(f\"" : Text) ++ p.update ++ ": no row in " ++ p.label ++ " with "
              ++ Naming.label p.key ++ " = \x7b" ++ p.keyParam ++ "!r\x7d (not found)\")",
            "    return None",
            "return row"] : List Text) }

/-- The function that removes a row. -/
def deleteFunction (p : Plan) : Function where
  name := p.delete
  params := [p.keyParam]
  body :=
    [Function.doc ("Delete the " ++ p.label ++ " row whose " ++ Naming.label p.key
        ++ " matches; True if a row was deleted.")]
      ++ guarded p.delete (Text.literal p.deleteStatement)
        (("sql, " : Text) ++ Function.tuple [p.keyParam]) "deleted = cur.rowcount" "False"
      ++ (["return deleted > 0"] : List Text)

/-- The five functions of a table. -/
def functions (p : Plan) : List Function :=
  [p.listFunction, p.lookupFunction, p.insertFunction, p.updateFunction, p.deleteFunction]

/-- The section of a table. -/
def sectionText (p : Plan) : Text :=
  Function.apart (Text.unlines p.header :: p.functions.map Function.text)

/-- The functions of a section have the names that are reported. -/
theorem map_name_functions (p : Plan) : p.functions.map Function.name = p.accessors.names := by
  simp only [functions, List.map_cons, List.map_nil, listFunction, lookupFunction, insertFunction,
    updateFunction, deleteFunction, Accessors.names, accessors]
  split <;> rfl

end Plan
end Tablesmith
