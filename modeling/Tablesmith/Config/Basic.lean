/-
# Configuration

The configuration is a document with three sections:

| section | says |
| --- | --- |
| `parser` | the mode in which bodies are cut |
| `synthesis` | the settings of generated modules |
| `logging` | what is logged, and where |

A section that is left out is empty, and so is a whole document that counts as false. Whatever the
document holds beyond that is of no concern until someone asks for it.
-/

import Tablesmith.Module.Settings
import Tablesmith.Schema.Basic

namespace Tablesmith
namespace Config

/-- The document of a file with this text, read by `reader`. -/
def load (reader : Text → Except Yaml.Failure Value) : Option Text → Except Fault Value
  | none => .error .noFile
  | some text => match reader text with
    | .error why => .error (.unreadable why)
    | .ok v => .ok (if v.isFalsy then .map [] else v)

/-- What stands under a key of the configuration; nothing is an empty section. -/
def partOf (key document : Value) : Except Fault Value :=
  match document.members? with
  | some members =>
    if key.isKey then .ok (((members.find? fun m => m.1.sameKey key).map Prod.snd).getD (.map []))
    else .error .wrongKind
  | none => .error .noSuchPart

/-- A section of the configuration. -/
def sectionOf (name : Text) (document : Value) : Except Fault Value := partOf (.text name) document

/-- The members of a section that has to be a mapping. A section that counts as false has none. -/
def membersOf (otherwise : Fault) (v : Value) : Except Fault (List (Value × Value)) :=
  if v.isFalsy then .ok []
  else match v.members? with
    | some members => .ok members
    | none => .error otherwise

/-- The mode that the configuration asks for. Names that no mode has stand for the legacy one. -/
def modeOf (v : Value) : Except Fault Sql.SplitMode :=
  match v with
  | .text name => .ok ((Sql.SplitMode.ofName? name).getD .legacy)
  | v => if v.isKey then .ok .legacy else .error .wrongKind

/-- The mode to use where a request names none. -/
def defaultMode (document : Value) : Except Fault Sql.SplitMode := do
  let parser ← sectionOf "parser" document
  let members ← membersOf .noSuchPart parser
  modeOf ((Value.member? "split_mode" members).getD (.text (Sql.SplitMode.name .legacy)))

/-- Is the key of a member a text? -/
def hasTextKey (m : Value × Value) : Bool :=
  match m.1 with
  | .text _ => true
  | _ => false

/-- The settings of generated modules. -/
def settings (document : Value) : Except Fault Settings := do
  let synthesis ← sectionOf "synthesis" document
  let members ← membersOf .wrongKind synthesis
  if members.all hasTextKey then (Settings.ofMembers members).toExcept.mapError Fault.invalid
  else .error .wrongKind

/-- The configuration that comes with the program. -/
def builtin : Value :=
  .ofFields [
    ("logging", .ofFields [("level", .text "INFO"), ("format", .text "detailed"),
      ("log_to_file", .bool false), ("log_file", .text "logs/gysql.log")]),
    ("parser", .ofFields [("split_mode", .text "legacy")]),
    ("synthesis", .ofFields [
      ("fallback_database_name", .text "mi_base_de_datos"),
      ("connection", .ofFields [("host", .text "localhost"), ("port", .int 5432),
        ("user", .text "postgres"), ("password", .text "postgres")]),
      ("pool", .ofFields [("min_connections", .int 1), ("max_connections", .int 5)])])]

end Config
end Tablesmith
