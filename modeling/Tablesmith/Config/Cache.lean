/-
# Loading the configuration once

The configuration file is loaded when it is first read, and what was loaded stays in force, however
the file changes, until the cache is cleared. A load that fails is not remembered: the next read
tries the file as it then is. A read that fails after the load leaves what was loaded in force.

The whole document, or a section of it, is answered in its JSON form.
-/

import Tablesmith.Config.Basic
import Tablesmith.Json.Form
import Tablesmith.Schema.Document

namespace Tablesmith
namespace Config

/-- The text of the configuration file, if there is one, and the document loaded from it. -/
structure Cache where
  file : Option Text := none
  loaded : Option Value := none
deriving Inhabited

/-- What is read from a loaded configuration. -/
inductive Question where
  | whole
  | part (key : Value)
  | mode
  | settings
  | schema (script : Text)

/-- What happens to the configuration. -/
inductive Action where
  | write (text : Text)
  | remove
  | clear
  | read (question : Question)

/-- The document of a schema, with the names of its tables in a list of their own. -/
def schemaDocument (s : Schema) : Value :=
  .ofFields [("tables", .list (s.tables.map Table.document)),
    ("database_name", .ofText? s.databaseName),
    ("database_statements", .ofTexts s.databaseStatements), ("split_mode", .text s.splitMode.name),
    ("table_names", .ofTexts s.tableNames)]

/-- The answer to a question, for a loaded document. -/
def answer (document : Value) : Question → Except Fault Value
  | .whole => Json.form document
  | .part key => partOf key document >>= Json.form
  | .mode => (defaultMode document).map fun m => .text m.name
  | .settings => (settings document).map Settings.document
  | .schema script =>
    (Schema.ofRequest (defaultMode document) none script).map schemaDocument

namespace Cache

/-- The document in force, loaded if there is none. -/
def document (reader : Text → Except Yaml.Failure Value) (c : Cache) : Except Fault Value :=
  match c.loaded with
  | some v => .ok v
  | none => load reader c.file

/-- The cache after a read. -/
def afterRead (reader : Text → Except Yaml.Failure Value) (c : Cache) : Cache :=
  match c.document reader with
  | .ok v => { c with loaded := some v }
  | .error _ => c

/-- The cache after an action. -/
def step (reader : Text → Except Yaml.Failure Value) (c : Cache) : Action → Cache
  | .write text => { c with file := some text }
  | .remove => { c with file := none }
  | .clear => { c with loaded := none }
  | .read _ => c.afterRead reader

/-- What an action answers; only a read answers anything. -/
def reply (reader : Text → Except Yaml.Failure Value) (c : Cache) : Action → Except Fault Value
  | .read question => c.document reader >>= fun v => answer v question
  | _ => .ok .null

/-- The replies to the actions, one after another. -/
def run (reader : Text → Except Yaml.Failure Value) (c : Cache) :
    List Action → List (Except Fault Value)
  | [] => []
  | a :: as => c.reply reader a :: run reader (c.step reader a) as

/-- Once loaded, a document is the one in force until the cache is cleared. -/
theorem document_afterRead (reader : Text → Except Yaml.Failure Value) (c : Cache) :
    (c.afterRead reader).document reader = c.document reader := by
  simp only [afterRead]
  cases h : c.document reader with
  | ok v => simp [document]
  | error e => exact h

end Cache
end Config
end Tablesmith
