/-
# Settings of the server

The server is set up by variables of its environment, whose names are read in any case:

| variable | setting | default |
| --- | --- | --- |
| `api_title` | the title of the interface | `GYSQL Backend API` |
| `api_version` | its version | `1.0.0` |
| `cors_origins` | the origins that pages may come from, a JSON list | four on this machine |
| `staging_delay_seconds` | how long a generation pauses | no time |
| `default_split_mode` | the mode for requests that name none | that of the configuration |

Other variables are passed over.
-/

import Tablesmith.Fault
import Tablesmith.Json.Reader
import Tablesmith.Text.Case
import Tablesmith.Validation.Scalar

namespace Tablesmith

/-- How the server is set up. -/
structure ServerSettings where
  title : Text := "GYSQL Backend API"
  version : Text := "1.0.0"
  origins : List Text := ["http://localhost:5173", "http://127.0.0.1:5173",
    "http://localhost:3000", "http://127.0.0.1:3000"]
  stagingDelay : Binary64 := .ofDecimal false 0 0
  splitMode : Option Sql.SplitMode := none
deriving Repr

namespace ServerSettings

/-- The last variable with a name, which is given in lower case. -/
def valueOf (given : List (Text × Text)) (name : Text) : Option Text :=
  ((given.filter fun v => Text.lower v.1 = name).getLast?).map Prod.snd

/-- The members of a document with the given variables. A JSON null counts as no variable. -/
def membersOf (given : List (Text × Text)) : Except Fault (List (Value × Value)) := do
  let plain (name : Text) : List (Value × Value) :=
    ((valueOf given name).map fun t => (.text name, .text t)).toList
  let origins : List (Value × Value) ← match valueOf given "cors_origins" with
    | none => .ok []
    | some t => match Json.parse t with
      | .ok .null => .ok []
      | .ok v => .ok [(.text "cors_origins", v)]
      | .error .deepNesting => .error .tooDeep
      | .error _ => .error .noJsonSetting
  return plain "api_title" ++ plain "api_version" ++ origins ++ plain "staging_delay_seconds"
    ++ plain "default_split_mode"

/-- Settings from the members of their document. -/
def ofMembers (members : List (Value × Value)) : Checked ServerSettings :=
  let default : ServerSettings := {}
  (((((Check.field members "api_title" (some default.title) Check.text).map
    ServerSettings.mk).app
    (Check.field members "api_version" (some default.version) Check.text)).app
    (Check.field members "cors_origins" (some default.origins)
      (Check.list .noList Check.text))).app
    (Check.field members "staging_delay_seconds" (some default.stagingDelay) Check.real)).app
    (Check.field members "default_split_mode" (some default.splitMode)
      (Check.optional (Check.oneOf Sql.SplitMode.ofName?)))

/-- Settings from the variables of an environment. -/
def ofVariables (given : List (Text × Text)) : Except Fault ServerSettings :=
  (membersOf given).bind fun members => (ofMembers members).toExcept.mapError Fault.invalid

/-- The document of the settings. -/
def document (s : ServerSettings) : Value :=
  .ofFields [("api_title", .text s.title), ("api_version", .text s.version),
    ("cors_origins", .ofTexts s.origins), ("staging_delay_seconds", .real s.stagingDelay),
    ("default_split_mode", .ofText? (s.splitMode.map Sql.SplitMode.name))]

end ServerSettings
end Tablesmith
