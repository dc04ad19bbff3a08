/-
# Log levels

A level is a number; the higher it is, the more serious an entry. Names of levels are read in any
case, and an unknown name means the level `INFO`. Two names are kept for other things of the log and
mean no level at all: `BASIC_FORMAT` is a format of lines, and `_STYLES` a set of formats.
-/

import Tablesmith.Fault
import Tablesmith.Text.Case

namespace Tablesmith
namespace Log

/-- Routine messages. -/
def info : Int := 20

/-- Messages about what may be wrong. -/
def warning : Int := 30

/-- Messages about what is wrong. -/
def error : Int := 40

/-- Messages about what keeps the program from going on. -/
def critical : Int := 50

/-- The names that a level may be asked for by. -/
def levelNames : List (Text × Int) :=
  [("NOTSET", 0), ("DEBUG", 10), ("INFO", info), ("WARN", warning), ("WARNING", warning),
    ("ERROR", error), ("FATAL", critical), ("CRITICAL", critical)]

/-- The format of lines where none is asked for. -/
def basicFormat : Text := "%(levelname)s:%(name)s:%(message)s"

/-- The level of a name. -/
def levelOf (name : Text) : Except Fault Int :=
  let name := Text.upper name
  match levelNames.lookup name with
  | some level => .ok level
  | none =>
    if name = "BASIC_FORMAT".toList then .error (.unknownLevel basicFormat)
    else if name = "_STYLES".toList then .error .wrongKind
    else .ok info

/-- The name that a level is written with. -/
def nameOf (level : Int) : Text :=
  if level = 0 then "NOTSET"
  else if level = 10 then "DEBUG"
  else if level = info then "INFO"
  else if level = warning then "WARNING"
  else if level = error then "ERROR"
  else if level = critical then "CRITICAL"
  else ("Level " : Text) ++ Text.ofInt level

example : levelOf "warn" = .ok 30 ∧ levelOf "loud" = .ok 20 ∧ nameOf 25 = "Level 25" := by
  decide +kernel

end Log
end Tablesmith
