/-
# Operations on workspaces

Everything that is done to the workspaces is one of eight operations, each of them on one session.
An operation answers a reply or a fault:

| operation | reply |
| --- | --- |
| parse | the name of the session |
| look | the workspace |
| snapshot, toggle, toggle all, select only | the schema as it then is |
| generate | the generation |
| delete | was there anything to delete? |

For a session that does not exist the reply is nothing, and nothing happens; only a parse creates
one.
-/

import Tablesmith.Workspace.Service

namespace Tablesmith

/-- What the operations depend on beside the store: the document of the configuration, settings
that take the place of those in it, and how many seconds a generation pauses. -/
structure Surroundings where
  document : Except Fault Value
  settings : Option Settings := none
  pause : Value := .int 0

/-- What is done to the workspaces. -/
inductive Operation where
  | parse (session mode : Option Text) (script : Text)
  | look (session : Text)
  | snapshot (session : Text)
  | toggle (session table : Text)
  | toggleAll (session : Text)
  | selectOnly (session : Text) (tables : List Text)
  | generate (session : Text) (database : Option Text) (tables : Option (List Text))
  | delete (session : Text)
deriving Repr, DecidableEq

/-- What an operation answers. -/
inductive Reply where
  | session (name : Text)
  | workspace (w : Option Workspace)
  | schema (s : Option Schema)
  | generation (g : Option Generation)
  | deleted (wasThere : Bool)
deriving Repr, DecidableEq

namespace Operation

/-- The session that an operation is on; a parse may leave it open. -/
def session? : Operation → Option Text
  | parse session _ _ => Text.nonempty? session
  | look session | snapshot session | toggle session _ | toggleAll session
  | selectOnly session _ | generate session _ _ | delete session => some session

/-- The store after an operation, and its reply. -/
def run (e : Surroundings) (s : Store) : Operation → Store × Except Fault Reply
  | parse session mode script =>
    match s.parseInto (Pipeline.modeOf e.document) session mode script with
    | .ok (name, s) => (s, .ok (.session name))
    | .error fault => (s, .error fault)
  | look session => (s, .ok (.workspace (s.find? session)))
  | snapshot session => (s, .ok (.schema (s.schema? session)))
  | toggle session table =>
    let s := s.toggle session table
    (s, .ok (.schema (s.schema? session)))
  | toggleAll session =>
    let s := s.toggleAll session
    (s, .ok (.schema (s.schema? session)))
  | selectOnly session tables =>
    match s.selectOnly session tables with
    | .ok s => (s, .ok (.schema (s.schema? session)))
    | .error fault => (s, .error fault)
  | generate session database tables =>
    let (s, outcome) := Service.generate e.document e.settings e.pause s session database tables
    (s, outcome.map .generation)
  | delete session => (s.delete session, .ok (.deleted (s.find? session).isSome))

/-- The store after operations, one after another. -/
def runAll (e : Surroundings) (s : Store) (operations : List Operation) : Store :=
  operations.foldl (fun s o => (run e s o).1) s

/-- The outcomes of operations, one after another. -/
def outcomes (e : Surroundings) (s : Store) : List Operation → List (Except Fault Reply)
  | [] => []
  | o :: os => (run e s o).2 :: outcomes e (run e s o).1 os

end Operation
end Tablesmith
