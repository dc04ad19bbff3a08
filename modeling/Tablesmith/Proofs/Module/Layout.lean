/-
# What a generated module defines

A generated module is its preamble, a section for each table, the checks and the footer. Whatever
the names in them are, the lines of each part that begin a definition are known:

| part | defines |
| --- | --- |
| the preamble | `get_connection`, `get_pool`, `close_pool`, `run_query` |
| the section of a table | its five functions |
| the checks | `_log`, the check of each table, `run_integration_tests` |
| the footer | nothing |

The functions of a module are those of its parts, in this order (`definitions_ofTables`).
-/

import Tablesmith.Module.Generation
import Tablesmith.Proofs.Module.Section
import Tablesmith.Proofs.Sql.Shape

namespace Tablesmith

open Text (IsLine isLine_append_iff isLine_literal)
open Naming (Fits isLine_label)
open Definition (names Defines AllDefine IsQuiet isQuiet_append defines_unlines)
open Tablesmith.Function (isLine_doc_iff isLine_commas_iff)

namespace Checks

/-- The function that reports is plain. -/
theorem isPlain_logFunction : logFunction.IsPlain where
  decorators := by decide
  name := by decide
  params := by decide
  body := by
    rw [logFunction]
    repeat rw [String.toList_ofList]
    decide

/-- The function that runs the checks is plain if the plans are. -/
theorem isPlain_runFunction {plans : List Plan} (h : ∀ p ∈ plans, p.IsPlain) :
    (runFunction plans).IsPlain where
  decorators := by rintro l ⟨⟩
  name := (by decide : Fits "run_integration_tests")
  params := by rintro l ⟨⟩
  body := by
    refine List.forall_mem_append.2 ⟨List.forall_mem_append.2 ⟨?_, ?_⟩, ?_⟩
    · simp only [List.forall_mem_cons, isLine_doc_iff]
      repeat rw [String.toList_ofList]
      decide
    · split
      · decide
      · exact List.forall_mem_map.2 fun p hp => (h p hp).isLine_checkEntry
    · repeat rw [String.toList_ofList]
      decide

/-- So are all functions of the checks. -/
theorem isPlain_functions {plans : List Plan} (h : ∀ p ∈ plans, p.IsPlain) :
    ∀ f ∈ functions plans, f.IsPlain := by
  refine List.forall_mem_append.2 ⟨List.forall_mem_cons.2 ⟨isPlain_logFunction, ?_⟩, ?_⟩
  · exact List.forall_mem_map.2 fun p hp => (h p hp).isPlain_checkFunction
  · exact List.forall_mem_singleton.2 (isPlain_runFunction h)

/-- The functions of the checks are named after the plans, between the two others. -/
theorem map_name_functions (plans : List Plan) : (functions plans).map Function.name =
    ("_log" : Text) :: plans.map Plan.check ++ (["run_integration_tests"] : List Text) := by
  rw [functions, List.map_append, List.map_cons, List.map_map]
  rfl

/-- The comment above the checks is quiet. -/
theorem isQuiet_header : ∀ l ∈ header, IsQuiet l := by
  simp only [header, List.forall_mem_cons, Plan.isQuiet_rule, true_and]
  rw [String.toList_ofList]
  decide

/-- The lines that run the checks when the module is started are quiet. -/
theorem isQuiet_start : ∀ l ∈ start, IsQuiet l := by
  rw [start]
  repeat rw [String.toList_ofList]
  decide

/-- The checks define `_log`, the check of each table, and the function that runs them. -/
theorem defines_text {plans : List Plan} (h : ∀ p ∈ plans, p.IsPlain) : Defines (text plans)
    (("_log" : Text) :: plans.map Plan.check ++ (["run_integration_tests"] : List Text)) := by
  have hfunctions : AllDefine ((functions plans).map Function.text)
      (("_log" : Text) :: plans.map Plan.check ++ (["run_integration_tests"] : List Text)) := by
    rw [← map_name_functions]
    exact Function.allDefine (isPlain_functions h)
  have hstart : AllDefine [Text.unlines start] [] := .singleton (defines_unlines isQuiet_start)
  have hall := (hfunctions.cons (defines_unlines isQuiet_header)).append hstart
  rw [List.append_nil] at hall
  exact Function.defines_apart hall

end Checks

namespace Preamble

/-- The functions of the preamble are plain. -/
theorem isPlain_functions : ∀ f ∈ functions, f.IsPlain := by
  simp only [functions, List.forall_mem_cons]
  refine ⟨?_, ?_, ?_, ?_, by rintro f ⟨⟩⟩
  all_goals refine ⟨by decide, by decide, by decide, ?_⟩
  all_goals simp only [connectionFunction, poolFunction, closeFunction, queryFunction,
    List.forall_mem_cons, isLine_doc_iff]
  all_goals repeat rw [String.toList_ofList]
  all_goals decide

/-- The documentation of a module is quiet, whatever its database is called. -/
theorem isQuiet_documentation (database : Text) {tables : List Text}
    (h : ∀ t ∈ tables, IsLine t) : ∀ l ∈ documentation database tables, IsQuiet l := by
  have hdatabase : IsQuiet (("Database: " : Text) ++ Naming.label database) :=
    isQuiet_append (by decide) (isLine_label _)
  have htables : IsQuiet (("Tables: " : Text) ++ Function.commas tables) :=
    isQuiet_append (by decide) (isLine_commas_iff.2 h)
  simp only [documentation, List.forall_mem_cons, hdatabase, htables, true_and]
  repeat rw [String.toList_ofList]
  decide

/-- The imports are quiet. -/
theorem isQuiet_imports : ∀ l ∈ imports, IsQuiet l := by
  rw [imports]
  repeat rw [String.toList_ofList]
  decide

/-- The connection settings are quiet, for all texts in them are literals. -/
theorem isQuiet_configuration (database : Text) (s : Settings) :
    ∀ l ∈ configuration database s, IsQuiet l := by
  have hentry : ∀ {field t : Text}, field.head?.any (· != 'd') ∧ IsLine field → IsLine t →
      IsQuiet (field ++ t ++ ",") := by
    intro field t hfield ht
    rw [List.append_assoc]
    exact isQuiet_append hfield (isLine_append_iff.2 ⟨ht, by decide⟩)
  simp only [configuration, List.forall_mem_cons]
  exact ⟨by decide, hentry (by decide) (isLine_literal _), hentry (by decide) (Text.isLine_ofInt _),
    hentry (by decide) (isLine_literal _), hentry (by decide) (isLine_literal _),
    hentry (by decide) (isLine_literal _), by decide, by decide,
    isQuiet_append (by decide) (Text.isLine_ofNat _),
    isQuiet_append (by decide) (Text.isLine_ofNat _), by decide, by decide, by rintro l ⟨⟩⟩

/-- The preamble defines the functions that open, keep and close connections. -/
theorem defines_text (database : Text) {tables : List Text} (h : ∀ t ∈ tables, IsLine t)
    (s : Settings) : Defines (text database tables s)
      (["get_connection", "get_pool", "close_pool", "run_query"] : List Text) := by
  have hfunctions : AllDefine [Function.apart (functions.map Function.text)]
      (functions.map Function.name) :=
    .singleton (Function.defines_apart (Function.allDefine isPlain_functions))
  have hconfiguration := hfunctions.cons (defines_unlines (isQuiet_configuration database s))
  have himports := hconfiguration.cons (defines_unlines isQuiet_imports)
  exact (himports.cons (defines_unlines (isQuiet_documentation database h))).join 1

end Preamble

namespace Footer

/-- The lines of the footer are quiet. -/
theorem isQuiet_lines (database : Text) {plans : List Plan} (h : ∀ p ∈ plans, p.IsPlain) :
    ∀ l ∈ [Plan.rule, "# Summary", ("# Database: " : Text) ++ Naming.label database,
        ("# Tables: " : Text) ++ Text.ofNat plans.length]
      ++ plans.map (fun p =>
        ("#   " : Text) ++ p.label ++ ": " ++ Function.commas p.accessors.names)
      ++ [Plan.rule], IsQuiet l := by
  refine List.forall_mem_append.2 ⟨List.forall_mem_append.2 ⟨?_, ?_⟩,
    List.forall_mem_singleton.2 Plan.isQuiet_rule⟩
  · simp only [List.forall_mem_cons]
    exact ⟨Plan.isQuiet_rule, by decide, isQuiet_append (by decide) (isLine_label _),
      isQuiet_append (by decide) (Text.isLine_ofNat _), by rintro l ⟨⟩⟩
  · refine List.forall_mem_map.2 fun p hp => ?_
    have hnames : ∀ n ∈ p.accessors.names, IsLine n := by
      rw [← Plan.map_name_functions]
      exact List.forall_mem_map.2 fun f hf => ((h p hp).isPlain_functions f hf).name.isLine
    rw [List.append_assoc, List.append_assoc]
    refine isQuiet_append (by decide) (isLine_append_iff.2 ⟨isLine_label _, ?_⟩)
    exact isLine_append_iff.2 ⟨by decide, isLine_commas_iff.2 hnames⟩

/-- The footer is a comment. -/
theorem defines_text (database : Text) {plans : List Plan} (h : ∀ p ∈ plans, p.IsPlain) :
    Defines (text database plans) [] :=
  defines_unlines (isQuiet_lines database h)

end Footer

namespace Plan

/-- A draft defines the functions of the preamble, of the tables and of the checks. -/
theorem defines_draft {plans : List Plan} (h : ∀ p ∈ plans, p.IsPlain) (database : Text)
    (s : Settings) : Defines (draft plans database s).text
      ((["get_connection", "get_pool", "close_pool", "run_query"] : List Text)
        ++ plans.flatMap (fun p => p.accessors.names) ++ ("_log" : Text) :: plans.map check
        ++ (["run_integration_tests"] : List Text)) := by
  have hlabels : ∀ t ∈ plans.map label, IsLine t :=
    List.forall_mem_map.2 fun p _ => isLine_label p.table.name
  have hsections : AllDefine (plans.map sectionText) (plans.flatMap fun p => p.accessors.names) :=
    AllDefine.map fun p hp => (h p hp).defines_sectionText
  have hchecks : AllDefine [Checks.text plans, Footer.text database plans]
      (("_log" : Text) :: plans.map check ++ (["run_integration_tests"] : List Text) ++ []) :=
    (AllDefine.singleton (Footer.defines_text database h)).cons (Checks.defines_text h)
  have hall := (hsections.cons (Preamble.defines_text database hlabels s)).append hchecks
  have hparts : (draft plans database s).parts =
      Preamble.text database (plans.map label) s :: plans.map sectionText
        ++ [Checks.text plans, Footer.text database plans] := by
    rw [Draft.parts, draft, List.map_map]
    rfl
  rw [← hparts, List.append_nil, ← List.append_assoc] at hall
  exact Draft.defines_text hall

/-- Every table has a plan, in order. -/
theorem map_table_all (tables : List Table) : (all tables).map table = tables := by
  have hlength : tables.length ≤
      (Naming.unique [] (tables.map fun t => Naming.lowerIdentifier t.name)).length := by
    rw [Naming.length_unique, List.length_map]
  rw [all, ← List.map_uncurry_zip_eq_zipWith, List.map_map]
  exact List.map_fst_zip hlength

end Plan

namespace Generation

/-- The tables that are reported are the ones the module was made for. -/
theorem tables_ofTables (tables : List Table) (wanted : Option Text) (s : Settings) :
    (ofTables tables wanted s).tables = tables.map Table.name := by
  rw [ofTables]
  split
  · next hempty => rw [List.isEmpty_iff.1 hempty]; rfl
  · show ((Plan.all tables).map fun p => (p.table.name, p.sectionText)).map Prod.fst = _
    rw [List.map_map]
    calc (Plan.all tables).map (Prod.fst ∘ fun p => (p.table.name, p.sectionText))
        = ((Plan.all tables).map Plan.table).map Table.name := by rw [List.map_map]; rfl
      _ = tables.map Table.name := by rw [Plan.map_table_all]

/-- **No name can add a definition to a module or hide one.** Whatever a script, a database name and
the settings hold, the lines of the module that begin a definition are those of the four functions
of the preamble, of the functions that are reported for each table in order, and of the checks, one
for each of the same tables. -/
theorem definitions_ofTables {mode : Sql.SplitMode} {script : Text} {tables : List Table}
    (hne : tables ≠ [])
    (hread : ∀ t ∈ tables, ∃ u ∈ Table.ofScript mode script,
      t.name = u.name ∧ t.columns = u.columns)
    (wanted : Option Text) (s : Settings) :
    ∃ text, (ofTables tables wanted s).moduleText = some text ∧ '\r' ∉ text ∧
      (ofTables tables wanted s).functions.map Accessors.table = tables.map Table.name ∧
      (ofTables tables wanted s).functions = (Plan.all tables).map Plan.accessors ∧
      names text =
        (["get_connection", "get_pool", "close_pool", "run_query"] : List Text)
          ++ (ofTables tables wanted s).functions.flatMap Accessors.names
          ++ ("_log" : Text) :: (Plan.all tables).map Plan.check
          ++ (["run_integration_tests"] : List Text) := by
  have hplain : ∀ p ∈ Plan.all tables, p.IsPlain := by
    refine Plan.isPlain_of_mem_all fun t ht c hc => ?_
    obtain ⟨u, hu, -, hcolumns⟩ := hread t ht
    rw [hcolumns] at hc
    exact Text.isLine_of_forall_not_isBlank ((Table.isRead_of_mem_ofScript hu).columns c hc)
  have hgeneration : ofTables tables wanted s =
      { status := .generated
        moduleText := some (Plan.draft (Plan.all tables) (s.databaseName wanted) s).text
        databaseName := some (s.databaseName wanted)
        tables := (Plan.draft (Plan.all tables) (s.databaseName wanted) s).tables
        functions := (Plan.all tables).map Plan.accessors } :=
    if_neg fun h => hne (List.isEmpty_iff.1 h)
  rw [hgeneration]
  have hdraft := Plan.defines_draft hplain (s.databaseName wanted) s
  refine ⟨_, rfl, hdraft.not_mem, ?_, rfl, ?_⟩
  · have htables : (Plan.all tables).map Plan.table = tables := Plan.map_table_all tables
    calc ((Plan.all tables).map Plan.accessors).map Accessors.table
        = ((Plan.all tables).map Plan.table).map Table.name := by
          rw [List.map_map, List.map_map]
          rfl
      _ = tables.map Table.name := by rw [htables]
  · rw [List.flatMap_map]
    exact hdraft.names_eq

namespace intruders

/-- The name of the table, a column and a line of the script begin with `def`. -/
def script : Text := "CREATE TABLE \"def\" (\r\ndef\"\"\"f():\t INT,\r'x'\\n TEXT);"

/-- A second line would define a function, after the end of the documentation. -/
def database : Text := "\"\"\"\r\ndef get_pool():\n"

/-- So would the second line of the host. -/
def settings : Settings := { connection := { host := "\ndef f():" } }

end intruders

/-- The module for the intruders defines their functions and the fixed ones, and no others. -/
theorem definitions_intruders :
    Table.ofScript .depthAware intruders.script ≠ [] ∧
      ∃ text, (ofTables (Table.ofScript .depthAware intruders.script) (some intruders.database)
          intruders.settings).moduleText = some text ∧ '\r' ∉ text ∧
        names text = (["get_connection", "get_pool", "close_pool", "run_query", "get_all_def_",
          "get_def__by_id", "insert_def_", "update_def_", "delete_def_", "_log", "check_def_",
          "run_integration_tests"] : List Text) := by
  have hne : Table.ofScript .depthAware intruders.script ≠ [] := by decide
  obtain ⟨text, htext, hreturn, -, -, hnames⟩ := definitions_ofTables hne
    (fun t ht => ⟨t, ht, rfl, rfl⟩) (some intruders.database) intruders.settings
  refine ⟨hne, text, htext, hreturn, hnames.trans ?_⟩
  repeat rw [String.toList_ofList]
  decide

end Generation
end Tablesmith
