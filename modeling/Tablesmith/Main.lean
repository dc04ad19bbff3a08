/-
# The program

Carries out the command line in the working directory, with the configuration that comes with the
program.
-/

import Tablesmith.CommandLine.Run

namespace Tablesmith
namespace CommandLine

open Text (Bytes)

/-- A text as the system reads it. -/
def textOf (s : String) : Text := Text.ofChars s.toList

/-- A text as the system takes it, with replacement characters for halves of surrogate pairs. -/
def stringOf (t : Text) : String :=
  String.ofList ((Text.signs t).map fun s => s.char?.getD '\ufffd')

/-- What is said about how the program is used. -/
def usage : Text :=
  "usage: tablesmith sql_file [--tables NAME ... | --all] [--database NAME]\n"
    ++ "       [--split-mode legacy|depth_aware] [-o FILE] [--log-level LEVEL]\n"

/-- The bytes of a file. -/
def bytesOf (content : ByteArray) : Bytes := content.toList

/-- The working directory with the disk around it, as far as the command line is concerned: the
script, and the directories that lead to it and to the module. -/
def lookAround (a : Arguments) : IO Workplace := do
  let home := Path.names (textOf (← IO.currentDir).toString)
  let onTheWay := Path.places home a.script
  let script := onTheWay.getLastD []
  let leading := home :: onTheWay.dropLast ++ (Path.places home (a.options.output.getD [])).dropLast
  try
    let content ← IO.FS.readBinFile (stringOf a.script)
    return { home := home, logHome := home, disk := ⟨[(script, bytesOf content)], leading⟩ }
  catch
    | .noFileOrDirectory .. => return { home := home, logHome := home, disk := ⟨[], leading⟩ }
    | _ => return { home := home, logHome := home, disk := ⟨[], script :: leading⟩ }

/-- Writes out what a run wrote, and answers the code that it ended with. -/
def writeOut (a : Arguments) (before : Workplace) (o : Outcome) : IO UInt32 := do
  let errors ← IO.getStderr
  for e in o.entries do
    errors.putStrLn (stringOf (Text.join " | " [Log.nameOf e.level, e.source, e.message]))
  errors.putStr (stringOf o.errors)
  for (_, content) in (before.disk.changes o.disk).files do
    IO.FS.writeBinFile (stringOf (a.options.output.getD [])) ⟨content.toArray⟩
  (← IO.getStdout).putStr (stringOf o.output)
  match o.exit with
  | .ok code => return UInt32.ofNat code
  | .error _ =>
    errors.putStrLn "error: the module could not be generated"
    return 1

end CommandLine
end Tablesmith

open Tablesmith in
/-- Carries out the command line. -/
def main (arguments : List String) : IO UInt32 := do
  match CommandLine.parse (arguments.map CommandLine.textOf) with
  | .ok a =>
    let before ← CommandLine.lookAround a
    CommandLine.writeOut a before (CommandLine.run (.ok Config.builtin) before a)
  | .error .help =>
    (← IO.getStdout).putStr (CommandLine.stringOf CommandLine.usage)
    return 0
  | .error (.misuse m) =>
    let errors ← IO.getStderr
    errors.putStr (CommandLine.stringOf CommandLine.usage)
    errors.putStrLn (CommandLine.stringOf (("error: " : Text) ++ m.message))
    return 2
