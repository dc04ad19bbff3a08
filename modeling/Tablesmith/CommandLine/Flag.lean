/-
# Flags of the command line

| flag | takes | means |
| --- | --- | --- |
| `-h`, `--help` | nothing | say how the program is used |
| `--tables` | one table or more | generate these tables |
| `--all` | nothing | generate all tables; not together with `--tables` |
| `--database` | a name | the name of the database |
| `--split-mode` | a mode | how bodies are cut |
| `-o`, `--output` | a path | where the module is written |
| `--log-level` | a level | what is logged |
-/

import Tablesmith.Fault
import Tablesmith.Text.Printable

namespace Tablesmith
namespace CommandLine

/-- A flag. -/
inductive Flag where
  | help
  | tables
  | all
  | database
  | splitMode
  | output
  | logLevel
deriving Repr, DecidableEq

/-- How many arguments a flag takes. -/
inductive Arity where
  | nothing
  | one
  | several
deriving Repr, DecidableEq

namespace Flag

/-- How a flag is spelled, the short spelling first. -/
def names : Flag → List Text
  | help => ["-h", "--help"]
  | tables => ["--tables"]
  | all => ["--all"]
  | database => ["--database"]
  | splitMode => ["--split-mode"]
  | output => ["-o", "--output"]
  | logLevel => ["--log-level"]

/-- How many arguments a flag takes. -/
def arity : Flag → Arity
  | help | all => .nothing
  | tables => .several
  | _ => .one

/-- All spellings of all flags. -/
def spellings : List (Text × Flag) :=
  [help, tables, all, database, splitMode, output, logLevel].flatMap fun f =>
    f.names.map fun name => (name, f)

/-- How a flag is named in a message. -/
def label (f : Flag) : Text := Text.join ['/'] f.names

end Flag

/-- What is wrong with the arguments. -/
inductive Misuse where
  /-- An argument may stand for any of several flags. -/
  | ambiguous (argument : Text) (names : List Text)
  /-- A flag that takes nothing is given a value. -/
  | superfluous (flag : Flag) (value : Text)
  /-- A flag is not given what it takes. -/
  | lacking (flag : Flag)
  /-- No mode has the name that is given. -/
  | noMode (value : Text)
  /-- Two flags do not go together. -/
  | conflict (flag other : Flag)
  /-- No script is named. -/
  | noScript
  /-- Arguments that have no meaning are left. -/
  | leftOver (arguments : List Text)
deriving Repr, DecidableEq

namespace Misuse

/-- A message about a flag. -/
def about (f : Flag) (t : Text) : Text := ("argument " : Text) ++ f.label ++ ": " ++ t

/-- What is said about a misuse. -/
def message : Misuse → Text
  | ambiguous argument names =>
    ("ambiguous option: " : Text) ++ argument ++ " could match " ++ Text.join ", " names
  | superfluous flag value => about flag (("ignored explicit argument " : Text) ++ Text.shown value)
  | lacking flag => about flag
      (if flag.arity = .several then "expected at least one argument" else "expected one argument")
  | noMode value =>
    let modes := Sql.SplitMode.all.map fun m => Text.shown m.name
    about .splitMode (("invalid choice: " : Text) ++ Text.shown value ++ " (choose from "
      ++ Text.join ", " modes ++ ")")
  | conflict flag other => about flag (("not allowed with argument " : Text) ++ other.label)
  | noScript => "the following arguments are required: sql_file"
  | leftOver arguments => ("unrecognized arguments: " : Text) ++ Text.join [' '] arguments

end Misuse
end CommandLine
end Tablesmith
