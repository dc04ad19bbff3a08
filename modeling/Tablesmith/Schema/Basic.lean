/-
# Schemas

A schema is what a script declares: its tables in the order of their declarations, its database
name, its database statements, and the mode in which the bodies were cut. Which of the tables are
selected is part of it.

A request may ask for a mode by name. A name that no mode has is refused; what the refusal says
depends on whether the script declares a table.
-/

import Tablesmith.Fault
import Tablesmith.Schema.Table
import Tablesmith.Sql.Column
import Tablesmith.Sql.Database
import Tablesmith.Sql.Declaration

namespace Tablesmith

/-- What a script declares, and what of it is selected. -/
structure Schema where
  tables : List Table := []
  databaseName : Option Text := none
  databaseStatements : List Text := []
  splitMode : Sql.SplitMode := .legacy
deriving Repr, DecidableEq, Inhabited

namespace Table

/-- The table of a declaration; it is not selected. -/
def ofDeclaration (mode : Sql.SplitMode) (d : Sql.Declaration) : Table :=
  { name := d.name, columns := Sql.Column.all mode d.body }

/-- The tables that a script declares. -/
def ofScript (mode : Sql.SplitMode) (script : Text) : List Table :=
  (Sql.Declaration.all script).map (ofDeclaration mode)

end Table

namespace Schema

/-- The schema of a script. -/
def ofScript (mode : Sql.SplitMode) (script : Text) : Schema where
  tables := Table.ofScript mode script
  databaseName := Sql.Database.name? script
  databaseStatements := Sql.Database.statements script
  splitMode := mode

/-- The schema of a script, cut in the mode with the given name. -/
def ofScriptNamed (mode : Text) (script : Text) : Except Fault Schema :=
  match Sql.SplitMode.ofName? mode with
  | some m => .ok (ofScript m script)
  | none =>
    if (Sql.Declaration.all script).isEmpty then
      .error (.invalid [⟨[.field "split_mode"], .noneOfTheNames⟩])
    else .error (.unknownMode mode)

/-- The schema of a script. A mode that is not asked for, or asked for by an empty name, is the
default one, which is looked up only then. -/
def ofRequest (default : Except Fault Sql.SplitMode) (mode : Option Text) (script : Text) :
    Except Fault Schema :=
  match Text.nonempty? mode with
  | none => default.map fun m => ofScript m script
  | some name => ofScriptNamed name script

/-- The table names in the order of declaration. -/
def tableNames (s : Schema) : List Text := s.tables.map Table.name

/-- The first table with the name. -/
def find? (s : Schema) (name : Text) : Option Table := s.tables.find? fun t => t.name == name

/-- The selected tables. -/
def selected (s : Schema) : List Table := s.tables.filter Table.selected

/-- No more tables are selected than there are. -/
@[simp] theorem length_selected_le (s : Schema) : s.selected.length ≤ s.tables.length :=
  List.length_filter_le ..

end Schema
end Tablesmith
