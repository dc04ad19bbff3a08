/-
# How a run of the command line ends

A run generates the whole module and puts it where it is asked for, or it puts out nothing and
changes nothing. What it takes to get a module is collected in `Ready`:

| what a run needs | how it ends otherwise |
| --- | --- |
| a script at its path, in UTF-8 | with code 1 if there is nothing at the path, else with a fault |
| a mode, asked for or configured | with a fault |
| only tables that the script declares | with code 1 |
| settings in the configuration | with a fault |
| a table that is asked for | with code 1 |

The configuration is read as far as the run needs it: its mode is of no concern where the arguments
ask for one. Tables are asked for by their names or all together, because arguments that do both are
not accepted (`parse_isExclusive`).

The module goes to a file if a path is given that is not empty, and to the output otherwise, which
takes the texts that its encoding has bytes for. A text that it does not take is not put out at all.
Only one fault comes after the file was opened, and so leaves it empty: that the module has no UTF-8
form, as where a database name holds half of a surrogate pair (`BreaksOff`).

Main statement: `all_or_nothing`.
-/

import Tablesmith.Proofs.FrontEnd.CommandLine
import Tablesmith.Proofs.Schema.ByName
import Tablesmith.Proofs.Schema.Marks

namespace Tablesmith

namespace Disk

variable {α : Type}

end Disk

namespace Schema

/-- A module is generated exactly if a table is selected. -/
theorem isSome_moduleText_generate (s : Schema) (wanted : Option Text) (settings : Settings) :
    (s.generate wanted settings).moduleText.isSome ↔ ∃ t ∈ s.tables, t.selected = true := by
  rw [generate, Generation.ofTables]
  split
  · next hnil =>
    rw [List.isEmpty_iff, selected, List.filter_eq_nil_iff] at hnil
    simpa [Generation.nothing] using hnil
  · next hne =>
    rw [List.isEmpty_iff, selected, List.filter_eq_nil_iff] at hne
    simpa using hne

end Schema

namespace CommandLine

namespace Options

/-- Is a table of this name to be generated? -/
def AsksFor (o : Options) (name : Text) : Prop := name ∈ o.tables.getD [] ∨ o.all = true

instance (o : Options) (name : Text) : Decidable (o.AsksFor name) :=
  inferInstanceAs (Decidable (_ ∨ _))

end Options

namespace Reading

variable {r r' : Reading}

end Reading

/-- The mode that bodies are cut in: the one that is asked for, and else the one of the
configuration. -/
def CutsIn (document : Except Fault Value) (o : Options) (m : Sql.SplitMode) : Prop :=
  o.mode = some m ∨ o.mode = none ∧ document.bind Config.defaultMode = .ok m

/-- Everything is there that a module is made of, and something is to be generated. -/
structure Ready (document : Except Fault Value) (w : Workplace) (a : Arguments) where
  script : Text
  mode : Sql.SplitMode
  settings : Settings
  readable : Holds w a.script script
  cuts : CutsIn document a.options mode
  known : ∀ name ∈ a.options.tables.getD [], name ∈ (Schema.ofScript mode script).tableNames
  configured : document.bind Config.settings = .ok settings
  chosen : ∃ name ∈ (Schema.ofScript mode script).tableNames, a.options.AsksFor name

/-- What is generated for the tables of a script that are asked for. -/
def generationFor (o : Options) (script : Text) (m : Sql.SplitMode) (settings : Settings) :
    Generation :=
  ((Schema.ofScript m script).selectBy fun t => o.AsksFor t.name).generate o.database settings

/-- A module is generated exactly if a table of the script is asked for. -/
theorem isSome_moduleText_generationFor (o : Options) (script : Text) (m : Sql.SplitMode)
    (settings : Settings) :
    (generationFor o script m settings).moduleText.isSome ↔
      ∃ name ∈ (Schema.ofScript m script).tableNames, o.AsksFor name := by
  rw [generationFor, Schema.isSome_moduleText_generate]
  simp [Schema.selectBy, Schema.tableNames]

section

variable {document : Except Fault Value} {w : Workplace} {a : Arguments}

/-- The complete module. There is one, because a table is asked for. -/
def Ready.text (r : Ready document w a) : Text :=
  (generationFor a.options r.script r.mode r.settings).moduleText.get
    ((isSome_moduleText_generationFor a.options r.script r.mode r.settings).2 r.chosen)

end

variable {w : Workplace} {o : Options} {text : Text} {entries : List Log.Entry}

variable {document : Except Fault Value} {a : Arguments}

/-- Two tables. -/
def stall : Text := "CREATE TABLE fruit (id SERIAL, name TEXT);\nCREATE TABLE crate (fruit INT);"

namespace stall

/-- The script in a file, a directory for modules, and an output that takes any text. -/
def workplace : Workplace where
  home := []
  logHome := []
  disk := ⟨[(["stall.sql"], Text.encode stall)], [["out"]]⟩
  takes _ := true

/-- What the arguments for a table ask for, one that the script declares. -/
def asked : Arguments := ⟨"stall.sql", { tables := some ["fruit"] }⟩

end stall

end CommandLine
end Tablesmith
