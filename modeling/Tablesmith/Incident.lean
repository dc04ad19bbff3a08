/-
# Incidents

An incident is something that went wrong, together with the place where it did. It is logged,
reported as a document, and may be raised again; raised again, an incident that comes from outside
is wrapped into one of the pipeline's own.
-/

import Tablesmith.Log.Report
import Tablesmith.Value.Basic

namespace Tablesmith

/-- Where something went wrong. -/
structure Place where
  stage : Text
  table : Option Text := none
  column : Option Text := none
  details : List (Value × Value) := []
deriving Inhabited

/-- Something that went wrong. -/
inductive Incident where
  /-- Tables were asked for that are not known. -/
  | unknownTables (names known : List Text)
  /-- A failure of the pipeline, reported under a code. -/
  | failure (message : Text) (place : Place) (code : Text)
  /-- A failure from outside, of the named kind. -/
  | foreign (kind message : Text)

namespace Incident

/-- What the incident says. -/
def message : Incident → Text
  | unknownTables names _ => Fault.unknownTablesText names
  | failure message _ _ => message
  | foreign _ message => message

/-- The place that an incident itself knows. -/
def place? : Incident → Option Place
  | unknownTables _ known =>
    some { stage := "selection", details := [(.text "known_tables", .ofTexts known)] }
  | failure _ place _ => some place
  | foreign .. => none

/-- The place of an incident that does not know its own. -/
def nowhere : Place := { stage := "unknown" }

/-- The incident's own place, or `nowhere`. -/
def place (i : Incident) : Place := i.place?.getD nowhere

/-- The kind of the incident. -/
def kind : Incident → Text
  | unknownTables .. => "UnknownTableError"
  | failure .. => "PipelineError"
  | foreign kind _ => kind

/-- The code under which the incident is reported; it may be empty. -/
def code : Incident → Text
  | unknownTables .. => "unknown_table"
  | failure _ _ code => code
  | foreign .. => []

/-- The incident in one line, its stage in front if it knows one. -/
def text (i : Incident) : Text :=
  match i.place? with
  | some place => '[' :: place.stage ++ "] " ++ i.message
  | none => i.message

/-- The log level of a name; only two names mean other levels than `ERROR`. -/
def levelOf (name : Text) : Int :=
  if name = "critical".toList then Log.critical
  else if name = "warning".toList then Log.warning
  else Log.error

/-- The log entry about an incident at a place. -/
def entry (i : Incident) (place : Place) (level : Int) : Log.Entry :=
  let parts := [some (("Error in " : Text) ++ place.stage),
    (Text.nonempty? place.table).map fun t => ("Table: " : Text) ++ t,
    (Text.nonempty? place.column).map fun c => ("Column: " : Text) ++ c]
  ⟨level, "GYSQL.utils.error_handling.handlers",
    Text.join " | " (parts.filterMap id) ++ ": " ++ i.text⟩

/-- The report of an incident at a place. Whatever of the place is empty is left out. -/
def document (i : Incident) (place : Place) : Value :=
  let code := if i.code.isEmpty then i.kind else i.code
  let optional (name : Text) (t : Option Text) : List (Text × Value) :=
    (Text.nonempty? t).toList.map fun t => (name, .text t)
  let details : List (Text × Value) :=
    if place.details.isEmpty then [] else [("additional_context", .map place.details)]
  let always : List (Text × Value) :=
    [("type", .text code), ("message", .text i.message), ("stage", .text place.stage)]
  .ofFields [("success", .bool false),
    ("error", .ofFields
      (always ++ optional "table_name" place.table ++ optional "column_name" place.column
        ++ details))]

/-- The incident that is raised again: itself if it knows its place, and else a failure at the
given place that keeps its kind for a code. -/
def raised (i : Incident) (place : Place) : Incident :=
  match i.place? with
  | some _ => i
  | none => .failure i.message place i.kind

/-- An incident raised again knows its place. -/
theorem isSome_place?_raised (i : Incident) (place : Place) : (i.raised place).place?.isSome := by
  cases i <;> rfl

/-- Raising again changes nothing the second time. -/
theorem raised_raised (i : Incident) (p q : Place) : (i.raised p).raised q = i.raised p := by
  cases i <;> rfl

end Incident
end Tablesmith
