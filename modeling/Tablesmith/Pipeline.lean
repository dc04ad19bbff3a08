/-
# From a script to a module

The whole way in one pass: read the script's schema, select tables, generate the module of those
selected. An explicit list of tables wins over the wish for all of them. A database name that is
asked for wins over the one that the script gives.
-/

import Tablesmith.Config.Basic
import Tablesmith.Log.Report
import Tablesmith.Module.Generation
import Tablesmith.Schema.Selection

namespace Tablesmith

namespace Schema

/-- The database name that is asked for, unless it is empty, and else the script's. -/
def databaseFor (s : Schema) (wanted : Option Text) : Option Text :=
  Text.nonempty? wanted <|> s.databaseName

/-- Generates the module of the selected tables. -/
def generate (s : Schema) (wanted : Option Text) (settings : Settings) : Generation :=
  Generation.ofTables s.selected (s.databaseFor wanted) settings

end Schema

namespace Pipeline

/-- What a run is asked for. -/
structure Request where
  script : Text
  tables : Option (List Text) := none
  all : Bool := false
  database : Option Text := none
  mode : Option Text := none
  settings : Option Settings := none

/-- What a run answers. -/
structure Result where
  schema : Schema
  generation : Generation
deriving Repr, DecidableEq

/-- The settings of a request, or those of the configuration. -/
def settingsOr (document : Except Fault Value) : Option Settings → Except Fault Settings
  | some s => .ok s
  | none => document.bind Config.settings

/-- The mode of the configuration. -/
def modeOf (document : Except Fault Value) : Except Fault Sql.SplitMode :=
  document.bind Config.defaultMode

/-- Makes the selection that a request asks for. -/
def select (r : Request) (s : Schema) : Except Fault Schema :=
  match r.tables with
  | some names => s.selectOnly names
  | none => .ok (if r.all then s.toggleAll else s)

/-- The message about a schema. -/
def schemaMessage (s : Schema) : Text :=
  ("Parsed script: " : Text) ++ Text.ofNat s.tables.length ++ " table(s), database="
    ++ (Text.nonempty? s.databaseName).getD "-" ++ ", split_mode=" ++ s.splitMode.name

/-- The message about a selection. -/
def selectionMessage (s : Schema) : Text :=
  ("Pipeline: " : Text) ++ Text.ofNat s.selected.length ++ "/" ++ Text.ofNat s.tables.length
    ++ " table(s) selected"

/-- The message about a generation. -/
def generationMessage (g : Generation) : Text :=
  match g.databaseName with
  | none => "No tables selected; nothing to generate"
  | some name => ("Synthesizing module for " : Text) ++ Text.ofNat g.tables.length
      ++ " table(s) in database '" ++ name ++ "'"

/-- The whole way, for the document of the configuration. -/
def run (document : Except Fault Value) (r : Request) : Report Result := do
  let schema ← Report.ofExcept (Schema.ofRequest (modeOf document) r.mode r.script)
  Report.write Log.info "GYSQL.parsing.ddl_parser" (schemaMessage schema)
  let schema ← Report.ofExcept (select r schema)
  Report.write Log.info "GYSQL.orchestration.pipeline" (selectionMessage schema)
  let settings ← Report.ofExcept (settingsOr document r.settings)
  let generation := schema.generate r.database settings
  Report.write Log.info "GYSQL.synthesis.code_generator" (generationMessage generation)
  return ⟨schema, generation⟩

end Pipeline
end Tablesmith
