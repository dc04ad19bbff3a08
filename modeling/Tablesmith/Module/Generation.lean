/-
# Generating modules

The module for a list of tables, made in one pass: plans, then the parts of the draft, then the
text. For no tables there is nothing to generate, which is no fault.
-/

import Tablesmith.Module.Check
import Tablesmith.Module.Draft
import Tablesmith.Module.Preamble

namespace Tablesmith

/-- Did a generation make a module? -/
inductive Status where
  | generated
  | nothing
deriving Repr, DecidableEq, Inhabited

/-- How a status is reported. -/
def Status.name : Status → Text
  | generated => "generated"
  | nothing => "nothing_to_generate"

/-- The status of a name. -/
def Status.ofName? (name : Text) : Option Status :=
  [generated, nothing].find? fun s => s.name = name

/-- What a generation answers. -/
structure Generation where
  status : Status
  moduleText : Option Text := none
  databaseName : Option Text := none
  tables : List Text := []
  functions : List Accessors := []
deriving Repr, DecidableEq, Inhabited

namespace Plan

/-- The draft of the module for the given plans. -/
def draft (plans : List Plan) (database : Text) (s : Settings) : Draft where
  preamble := Preamble.text database (plans.map label) s
  sections := plans.map fun p => (p.table.name, p.sectionText)
  checks := Checks.text plans
  footer := Footer.text database plans

end Plan

namespace Generation

/-- Nothing was selected. -/
def nothing : Generation := { status := .nothing }

/-- Generates the module for the given tables. -/
def ofTables (tables : List Table) (wanted : Option Text) (s : Settings) : Generation :=
  if tables.isEmpty then nothing
  else
    let database := s.databaseName wanted
    let plans := Plan.all tables
    let draft := Plan.draft plans database s
    { status := .generated
      moduleText := some draft.text
      databaseName := some database
      tables := draft.tables
      functions := plans.map Plan.accessors }

/-- Was a module generated? -/
def isGenerated (g : Generation) : Bool := g.status == .generated

/-- A module is generated exactly if there are tables. -/
theorem isGenerated_ofTables (tables : List Table) (wanted : Option Text) (s : Settings) :
    (ofTables tables wanted s).isGenerated = !tables.isEmpty := by
  cases tables <;> rfl

end Generation
end Tablesmith
