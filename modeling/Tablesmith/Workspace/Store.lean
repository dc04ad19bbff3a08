/-
# Workspaces

A workspace belongs to a session: the script that was last parsed into it, the schema of that
script, and when it was created and last parsed into. The store keeps one workspace for each
session.

Time is what the clock showed: its readings are numbered, and a reading is taken for each script
that is parsed. Session names that nobody chose are numbered too. A script that cannot be parsed
uses up neither.
-/

import Tablesmith.Schema.Selection

namespace Tablesmith

/-- What a session works on. `created` and `updated` are numbers of clock readings. -/
structure Workspace where
  session : Text
  created : Nat
  updated : Nat
  script : Text
  schema : Schema
deriving Repr, DecidableEq, Inhabited

/-- The workspaces of all sessions, and how many names and clock readings were used up. -/
structure Store where
  workspaces : List Workspace := []
  named : Nat := 0
  readings : Nat := 0
deriving Repr, DecidableEq, Inhabited

namespace Store

/-- The name of a session that nobody chose. -/
def sessionName (n : Nat) : Text := ("00000000-0000-4000-8000-" : Text) ++ Text.padNat 12 n

/-- The workspace of a session. -/
def find? (s : Store) (session : Text) : Option Workspace :=
  s.workspaces.find? fun w => w.session = session

/-- The schema that a session works on. -/
def schema? (s : Store) (session : Text) : Option Schema := (s.find? session).map Workspace.schema

/-- Puts a workspace in place of the one of the same session, or behind all. -/
def put (w : Workspace) : List Workspace → List Workspace
  | [] => [w]
  | v :: vs => if v.session = w.session then w :: vs else v :: put w vs

/-- Gives a session the schema of a script. -/
def establish (s : Store) (session script : Text) (schema : Schema) : Store :=
  let now := s.readings + 1
  let created := ((s.find? session).map Workspace.created).getD now
  { s with
    workspaces := put ⟨session, created, now, script, schema⟩ s.workspaces
    readings := now }

/-- Parses a script into the workspace of a session, or of a new one. The mode `default` is used
where none is asked for. -/
def parseInto (s : Store) (default : Except Fault Sql.SplitMode) (session mode : Option Text)
    (script : Text) : Except Fault (Text × Store) :=
  (Schema.ofRequest default mode script).map fun schema =>
    match Text.nonempty? session with
    | some name => (name, s.establish name script schema)
    | none =>
      let name := sessionName (s.named + 1)
      (name, { s.establish name script schema with named := s.named + 1 })

/-- Gives a session another schema. -/
def setSchema (s : Store) (session : Text) (schema : Schema) : Store :=
  { s with workspaces := s.workspaces.map fun w =>
      if w.session = session then { w with schema := schema } else w }

/-- Flips the mark of a table of a session. -/
def toggle (s : Store) (session table : Text) : Store :=
  match s.schema? session with
  | some schema => s.setSchema session (schema.toggle table)
  | none => s

/-- Selects all tables of a session, or none. -/
def toggleAll (s : Store) (session : Text) : Store :=
  match s.schema? session with
  | some schema => s.setSchema session schema.toggleAll
  | none => s

/-- Selects exactly the given tables of a session. -/
def selectOnly (s : Store) (session : Text) (tables : List Text) : Except Fault Store :=
  match s.schema? session with
  | some schema => (schema.selectOnly tables).map (s.setSchema session)
  | none => .ok s

/-- Drops the workspace of a session. -/
def delete (s : Store) (session : Text) : Store :=
  { s with workspaces := s.workspaces.filter fun w => w.session ≠ session }

/-- A session that is deleted is not found. -/
theorem find?_delete (s : Store) (session : Text) : (s.delete session).find? session = none := by
  simp [delete, find?]

end Store
end Tablesmith
