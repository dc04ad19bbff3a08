/-
# Carrying out the command line

A run reads the script, generates the module of the tables that are asked for, and writes it to a
file or to the output. It ends in one of four ways:

| ending | what is written |
| --- | --- |
| the module is generated | the module, and nothing else, to the file or to the output |
| there is no script | the fault, to the log |
| a table is not known | the fault, to the log and to the error output |
| nothing is selected | which tables there are, to the error output |

Any other fault ends the run at once. A run that does not generate a module changes no file and
writes nothing to the output. A module that has no UTF-8 form leaves its file empty, and one that
the output does not take is not written at all.
-/

import Tablesmith.CommandLine.Arguments
import Tablesmith.Disk
import Tablesmith.Incident
import Tablesmith.Log.Setup
import Tablesmith.Pipeline
import Tablesmith.Text.Line
import Tablesmith.Text.Utf8

namespace Tablesmith
namespace CommandLine

open Text (Bytes)

/-- Where the program runs: its working directory, the directory that log files are named from, the
disk, and which texts the output takes. It takes those that its encoding has bytes for, which is
UTF-8 unless the program is told otherwise. -/
structure Workplace where
  home : Path
  logHome : Path
  disk : Disk Bytes
  takes : Text → Bool := Text.isWhole

/-- How a run ended, what it wrote, and the disk as it is then. -/
structure Outcome where
  exit : Except Fault Nat
  output : Text := []
  errors : Text := []
  entries : List Log.Entry := []
  disk : Disk Bytes

/-- The name under which a run writes to the log. -/
def source : Text := "generate_module"

/-- The text of the script: UTF-8, with any line endings. -/
def readScript (w : Workplace) (script : Text) : Except Fault Text := do
  let bytes ← w.disk.read w.home script
  match Text.decode? bytes with
  | some t => return Text.unixNewlines t
  | none => .error .noText

/-- The request that the options make for a script. -/
def request (o : Options) (script : Text) : Pipeline.Request where
  script := script
  tables := o.tables
  all := o.all
  database := o.database
  mode := o.mode.map Sql.SplitMode.name

/-- Reads the script and generates the module. -/
def generate (document : Except Fault Value) (w : Workplace) (a : Arguments) :
    Report Pipeline.Result := do
  let script ← Report.ofExcept (readScript w a.script)
  Pipeline.run document (request a.options script)

/-- The message where nothing is selected. -/
def nothingMessage (s : Schema) : Text :=
  let names := Text.join ", " s.tableNames
  let found : Text := if names.isEmpty then "none" else names
  ("Nothing to generate: select tables with --tables or --all (found: " : Text) ++ found ++ ")\n"

/-- Writes a module to a file. A text that has no bytes leaves the file empty. -/
def writeModule (w : Workplace) (file text : Text) : Except Fault (Disk Bytes) :=
  w.disk.write w.home file ((Text.encode? text).getD [])

/-- Writes the module to the file that is asked for, or to the output. -/
def deliver (w : Workplace) (file : Option Text) (entries : List Log.Entry) (text : Text) :
    Outcome :=
  match Text.nonempty? file with
  | none =>
    if w.takes text then { exit := .ok 0, output := text, entries := entries, disk := w.disk }
    else { exit := .error .unwritable, entries := entries, disk := w.disk }
  | some file => match writeModule w file text with
    | .ok disk =>
      if Text.isWhole text then
        let message : Text := ("Module written to " : Text) ++ file
        { exit := .ok 0, entries := entries ++ [⟨Log.info, source, message⟩], disk := disk }
      else { exit := .error .unwritable, entries := entries, disk := disk }
    | .error fault => { exit := .error fault, entries := entries, disk := w.disk }

/-- Ends a run. -/
def conclude (w : Workplace) (file : Option Text) (r : Report Pipeline.Result) : Outcome :=
  match r.outcome with
  | .error (.unknownTables names known) =>
    let i : Incident := .unknownTables names known
    { exit := .ok 1, errors := ("Error: " : Text) ++ i.message ++ "\n",
      entries := r.entries ++ [i.entry i.place Log.warning], disk := w.disk }
  | .error fault => { exit := .error fault, entries := r.entries, disk := w.disk }
  | .ok result => match result.generation.moduleText with
    | none =>
      { exit := .ok 1, errors := nothingMessage result.schema, entries := r.entries,
        disk := w.disk }
    | some text => deliver w file r.entries text

/-- A run, whatever passes to the log. -/
def perform (document : Except Fault Value) (w : Workplace) (a : Arguments) : Outcome :=
  match w.disk.leadsSomewhere w.home a.script with
  | .ok true => conclude w a.options.output (generate document w a)
  | .ok false =>
    let message : Text := ("SQL file not found: " : Text) ++ Path.tidy a.script
    { exit := .ok 1, entries := [⟨Log.error, source, message⟩], disk := w.disk }
  | .error fault => { exit := .error fault, disk := w.disk }

/-- How the log is set up for a run. Log files are of no concern here beyond the faults in opening
them. -/
def setUp (document : Except Fault Value) (w : Workplace) (o : Options) :
    Except Fault Log.Setup := do
  let wishes ← Log.wishes (← document) [(.text "level", .ofText? o.logLevel)]
  let contents := w.disk.files.map fun f => (f.1, Text.decodeLenient f.2)
  return (← Log.setUp w.logHome wishes ⟨contents, w.disk.directories⟩).1

/-- Carries out the command line at a place. -/
def run (document : Except Fault Value) (w : Workplace) (a : Arguments) : Outcome :=
  match setUp document w a.options with
  | .error fault => { exit := .error fault, disk := w.disk }
  | .ok setup =>
    let o := perform document w a
    { o with entries := o.entries.filter fun e => setup.passes e.source e.level }

end CommandLine
end Tablesmith
