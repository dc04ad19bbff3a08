/-
# Generating for a session

A generation for a session has two parts. Its start makes the selection that is asked for and takes
the schema as it then is; its end generates from that schema. In between it pauses, and whatever
happens to the session meanwhile is of no concern. The end changes nothing.
-/

import Tablesmith.Pipeline
import Tablesmith.Workspace.Store

namespace Tablesmith
namespace Service

/-- Selects the tables that are asked for, if any are. -/
def selecting (s : Store) (session : Text) : (tables : Option (List Text)) → Except Fault Store
  | some names => s.selectOnly session names
  | none => .ok s

/-- The start of a generation: the store after the selection, and the schema to generate from, if
there is such a session. -/
def start (s : Store) (session : Text) (tables : Option (List Text)) :
    Except Fault (Store × Option Schema) :=
  (selecting s session tables).map fun s => (s, s.schema? session)

/-- The pause between the two parts. It tells nothing but whether its length is a number. -/
def pause : (length : Value) → Except Fault Unit
  | .bool _ | .int _ | .real _ => .ok ()
  | _ => .error .wrongKind

/-- The end of a generation, for the service's own settings or those of the configuration. -/
def finish (document : Except Fault Value) (settings : Option Settings) (schema : Schema)
    (database : Option Text) : Except Fault Generation :=
  (Pipeline.settingsOr document settings).map fun s => schema.generate database s

/-- What is made of a finished generation is made of what the schema generates. -/
theorem map_finish {α : Type} (document : Except Fault Value) (settings : Option Settings)
    (schema : Schema) (database : Option Text) (f : Generation → α) :
    (finish document settings schema database).map f =
      (Pipeline.settingsOr document settings).map fun s => f (schema.generate database s) := by
  rw [finish]
  cases Pipeline.settingsOr document settings <;> rfl

/-- The start, the pause and the end. The selection stays made if what follows it fails. -/
def generate (document : Except Fault Value) (settings : Option Settings) (length : Value)
    (s : Store) (session : Text) (database : Option Text) (tables : Option (List Text)) :
    Store × Except Fault (Option Generation) :=
  match start s session tables with
  | .error fault => (s, .error fault)
  | .ok (s, none) => (s, .ok none)
  | .ok (s, some schema) =>
    (s, (pause length).bind fun _ => (finish document settings schema database).map some)

end Service
end Tablesmith
