/-
# Database lines of a script

A line that begins with `CREATE DATABASE` names the database of the script; such lines and the
lines that begin with `USE` are the script's database statements. They are recognised line by
line, so a statement has to begin its line, blanks aside, and its two keywords have to stand on
one line.
-/

import Tablesmith.Sql.Keyword
import Tablesmith.Text.Line

namespace Tablesmith
namespace Sql
namespace Database

/-- What is left of a line behind `CREATE DATABASE`. -/
def afterCreate? (line : Text) : Option Text :=
  wholeKeywords? ["CREATE", "DATABASE"] (Text.skipBlanks line)

/-- Does the line begin with `USE` and a blank? -/
def beginsUse (line : Text) : Bool :=
  ((keyword? "USE" (Text.skipBlanks line)).bind Text.afterBlanks?).isSome

/-- Is the line a database statement? -/
def isStatement (line : Text) : Bool := (afterCreate? line).isSome || beginsUse line

/-- Skips blanks and `IF NOT EXISTS`, if they are there. -/
def skipExistenceTest (t : Text) : Text :=
  ((Text.afterBlanks? t).bind (wholeKeywords? ["IF", "NOT", "EXISTS"])).getD t

/-- The name that a `CREATE DATABASE` line gives behind its keywords: everything up to a semicolon,
trimmed. -/
def nameIn (t : Text) : Text :=
  Text.trim ((skipExistenceTest t).takeWhile (· != ';'))

/-- The database name of a script. Only the first `CREATE DATABASE` line counts; if it gives no
name, the script has none. -/
def name? (script : Text) : Option Text :=
  ((Text.lines script).findSome? afterCreate?).bind fun t =>
    let name := nameIn t
    if name.isEmpty then none else some name

/-- The database statements of a script, trimmed, in order. -/
def statements (script : Text) : List Text :=
  ((Text.lines script).filter isStatement).map Text.trim

/-- The script without its database statements. -/
def withoutStatements (script : Text) : Text :=
  Text.unlines ((Text.lines script).filter fun line => !isStatement line)

/-- Lines seen once: the database statements among them, trimmed, and the other lines. -/
def sift : List Text → List Text × List Text
  | [] => ([], [])
  | line :: others =>
    let (found, kept) := sift others
    if isStatement line then (Text.trim line :: found, kept) else (found, line :: kept)

/-- The database statements of a script and the script without them. -/
def split (script : Text) : List Text × Text :=
  let (found, kept) := sift (Text.lines script)
  (found, Text.unlines kept)

example : name? "USE x;\n create database if not exists tienda; -- c\nCREATE DATABASE y" =
    some "tienda".toList := by decide +kernel

example : split "USE d;\nx\n  Create\tDatabase d;" =
    (["USE d;".toList, "Create\tDatabase d;".toList], "x".toList) := by decide +kernel

example : statements "CREATE DATABASES;\n\tuse d \nUSE\nUSE;" = ["use d".toList] := by
  decide +kernel

end Database
end Sql
end Tablesmith
