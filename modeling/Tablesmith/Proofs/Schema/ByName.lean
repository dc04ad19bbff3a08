/-
# Tables asked for by name

A request for tables by their names is answered for all of them or refused, and which it is depends
on the names of the tables alone:

| names asked for | outcome | marks |
| --- | --- | --- |
| one or more unknown | the unknown ones, in the order asked for and as often | as they were |
| all known | granted | a table is marked exactly if its name was asked for |

The marks are set in place, one behind the other, so that they are left alone where the request is
refused is a matter of when it is refused (`Registry.only_eq`). Neither the order of the names nor
how often each is asked for counts, nor what was marked before, and so nothing that is generated
afterwards depends on these (`run_eq_of_mem_iff`). Tables come in the order of their declarations
(`tables_generate`).

Main statement: `selects_by_name`.
-/

import Tablesmith.Proofs.FrontEnd.Service
import Tablesmith.Proofs.Module.Layout
import Tablesmith.Proofs.Workspace.Registry

namespace Tablesmith

namespace Shared
namespace Registry

/-- Marks exactly the tables with the given names, one behind the other. What was marked stays so if
the work breaks off. -/
def only (names : List Text) (r : Registry) : ExceptT Fault (StateM Memory) Unit := do
  let schema := r.schema (← get)
  if schema.unknown names ≠ [] then
    throw (.unknownTables (schema.unknown names) schema.tableNames)
  else r.cells.forM fun c => modify fun m => m.mark c ((m.table c).name ∈ names)

/-- Marking the cells one after another cannot fail. -/
theorem forM_mark (names : List Text) (cells : List Nat) (m : Memory) :
    (cells.forM fun c => (modify fun m => m.mark c ((m.table c).name ∈ names) :
        ExceptT Fault (StateM Memory) Unit)) m =
      (.ok (), cells.foldl (fun m c => m.mark c ((m.table c).name ∈ names)) m) := by
  induction cells generalizing m with
  | nil => rfl
  | cons c cells ih => exact ih (m.mark c ((m.table c).name ∈ names))

/-- **A request is refused before the first mark is set.** -/
theorem only_eq (names : List Text) (r : Registry) (m : Memory) :
    r.only names m =
      if (r.schema m).unknown names = [] then (.ok (), r.selectBy (fun t => t.name ∈ names) m)
      else (.error (.unknownTables ((r.schema m).unknown names) (r.schema m).tableNames), m) := by
  have hcheck : r.only names m = (if (r.schema m).unknown names ≠ [] then
      (throw (.unknownTables ((r.schema m).unknown names) (r.schema m).tableNames) :
        ExceptT Fault (StateM Memory) Unit) else r.cells.forM fun c => modify fun m =>
          m.mark c ((m.table c).name ∈ names)) m := rfl
  rw [hcheck]
  by_cases h : (r.schema m).unknown names = []
  · rw [if_pos h, if_neg (not_not_intro h)]
    exact forM_mark names r.cells m
  · rw [if_neg h, if_pos h]
    rfl

/-- A mark that does not depend on the marks that were there can be set in any order, and more than
once. -/
theorem table_foldl_mark {p : Table → Bool}
    (hp : ∀ (t : Table) (selected : Bool), p { t with selected := selected } = p t)
    (cells : List Nat) (m : Memory) (c : Nat) :
    (cells.foldl (fun m c => m.mark c (p (m.table c))) m).table c =
      if c ∈ cells then { m.table c with selected := p (m.table c) } else m.table c := by
  induction cells generalizing m with
  | nil => rfl
  | cons d cells ih =>
    rw [List.foldl_cons, ih]
    by_cases hc : c = d
    · subst hc
      have hmark : (m.mark c (p (m.table c))).table c =
          { m.table c with selected := p (m.table c) } := Function.update_self ..
      simp [hmark, hp]
    · simp [m.table_mark_of_ne hc, hc]

/-- Marks that are set by name show as marks of the schema, also where a table is there twice. -/
theorem schema_selectBy_name (names : List Text) (r : Registry) (m : Memory) :
    r.schema (r.selectBy (fun t => t.name ∈ names) m) =
      (r.schema m).selectBy fun t => t.name ∈ names := by
  have hcells : r.cells.map (r.selectBy (fun t => t.name ∈ names) m).table =
      r.cells.map fun c => { m.table c with selected := (m.table c).name ∈ names } :=
    List.map_congr_left fun c hc =>
      (table_foldl_mark (p := fun t => t.name ∈ names) (fun _ _ => rfl) r.cells m c).trans
        (if_pos hc)
  rw [schema, hcells, schema, Schema.selectBy, List.map_map]
  rfl

end Registry
end Shared

namespace Schema

/-- No name is unknown just if each of them is the name of a table. -/
theorem unknown_eq_nil_iff {s : Schema} {names : List Text} :
    s.unknown names = [] ↔ ∀ n ∈ names, n ∈ s.tableNames := by
  simp [unknown]

/-- Known names mark the tables that they name, and no others. -/
theorem selectOnly_of_known {s : Schema} {names : List Text} (h : ∀ n ∈ names, n ∈ s.tableNames) :
    s.selectOnly names = .ok (s.selectBy fun t => t.name ∈ names) :=
  if_pos (unknown_eq_nil_iff.2 h)

/-- Neither the order of the names nor how often each is asked for counts. -/
theorem selectOnly_eq_of_mem_iff {s : Schema} {names others : List Text}
    (h : ∀ n ∈ names, n ∈ s.tableNames) (hsame : ∀ n, n ∈ names ↔ n ∈ others) :
    s.selectOnly names = s.selectOnly others := by
  rw [selectOnly_of_known h, selectOnly_of_known fun n hn => h n ((hsame n).2 hn)]
  simp only [hsame]

/-- **Tables come in the order of their declarations,** whatever the order they are asked for in. -/
theorem tables_generate (s : Schema) (names : List Text) (wanted : Option Text)
    (settings : Settings) :
    ((s.selectBy fun t => t.name ∈ names).generate wanted settings).tables =
      s.tableNames.filter (· ∈ names) := by
  rw [generate, Generation.tables_ofTables]
  simp [selected, selectBy, tableNames, List.filter_map, Function.comp_def]

end Schema

namespace Pipeline

variable {document : Except Fault Value} {r : Request} {schema : Schema} {names others : List Text}

/-- Lists of the same names give the same run, in any order and number. -/
theorem run_eq_of_mem_iff
    (hschema : Schema.ofRequest (modeOf document) r.mode r.script = .ok schema)
    (h : ∀ n ∈ names, n ∈ schema.tableNames) (hsame : ∀ n, n ∈ names ↔ n ∈ others) :
    run document { r with tables := some names } =
      run document { r with tables := some others } := by
  have hselect : select { r with tables := some names } schema =
      select { r with tables := some others } schema :=
    Schema.selectOnly_eq_of_mem_iff h hsame
  have hread : ∀ f : Schema → Report Result,
      Report.ofExcept (.ok schema) >>= f = f schema := fun _ => rfl
  simp only [run, hschema, hread, hselect]

/-- A run with known names generates for the tables that they name. -/
theorem outcome_run_of_known
    (hschema : Schema.ofRequest (modeOf document) r.mode r.script = .ok schema)
    (h : ∀ n ∈ names, n ∈ schema.tableNames) {settings : Settings}
    (hsettings : settingsOr document r.settings = .ok settings) :
    (run document { r with tables := some names }).outcome =
      .ok ⟨schema.selectBy fun t => t.name ∈ names,
        (schema.selectBy fun t => t.name ∈ names).generate r.database settings⟩ := by
  have hselect : select { r with tables := some names } schema =
      .ok (schema.selectBy fun t => t.name ∈ names) := Schema.selectOnly_of_known h
  rw [outcome_run, hschema]
  simp only [Except.bind, hselect, hsettings, Except.map]

end Pipeline

namespace Schema

open Shared (Registry Memory)

/-- The request makes the schema `s'` of `s`, and sets the marks of `s'` in every registry that
shows `s`. -/
structure Grants (s : Schema) (names : List Text) (s' : Schema) : Prop where
  schema : s.selectOnly names = .ok s'
  registry : ∀ (r : Registry) (m : Memory), r.schema m = s →
    ∃ m', r.only names m = (.ok (), m') ∧ r.schema m' = s'

/-- The request is refused, and a registry that shows `s` is left as it is. -/
structure Refuses (s : Schema) (names : List Text) (fault : Fault) : Prop where
  schema : s.selectOnly names = .error fault
  registry : ∀ (r : Registry) (m : Memory), r.schema m = s → r.only names m = (.error fault, m)

variable {s : Schema} {names : List Text}

/-- Known names are granted. -/
theorem grants_of_known (h : ∀ n ∈ names, n ∈ s.tableNames) :
    s.Grants names (s.selectBy fun t => t.name ∈ names) := by
  refine ⟨selectOnly_of_known h, ?_⟩
  rintro r m rfl
  refine ⟨r.selectBy (fun t => t.name ∈ names) m, ?_, r.schema_selectBy_name names m⟩
  rw [r.only_eq, if_pos (unknown_eq_nil_iff.2 h)]

/-- With one that is unknown all of them are refused. -/
theorem refuses_of_unknown (h : ∃ n ∈ names, n ∉ s.tableNames) :
    s.Refuses names (.unknownTables (names.filter fun n => n ∉ s.tableNames) s.tableNames) := by
  have hunknown : s.unknown names ≠ [] := by
    obtain ⟨n, hn, hnot⟩ := h
    exact fun hnil => hnot (unknown_eq_nil_iff.1 hnil n hn)
  refine ⟨if_neg hunknown, ?_⟩
  rintro r m rfl
  rw [r.only_eq, if_neg hunknown]
  rfl

end Schema

/-- **Tables are selected by their names,** all that are asked for or none. If a name is unknown,
the request is refused with the unknown names in their order, repetitions kept, and no mark is
changed. Else a table is selected exactly if its name was asked for, whatever was selected before.
So in one pass over a script only the set of the names counts: two lists of the same known names
give the same schema and the same module, with the tables in the order of their declarations. -/
theorem selects_by_name (names : List Text) :
    (∀ s : Schema,
      ((∃ n ∈ names, n ∉ s.tableNames) →
        s.Refuses names (.unknownTables (names.filter fun n => n ∉ s.tableNames) s.tableNames)) ∧
      ((∀ n ∈ names, n ∈ s.tableNames) →
        s.Grants names (s.selectBy fun t => t.name ∈ names))) ∧
    ∀ others : List Text, (∀ n, n ∈ names ↔ n ∈ others) →
      ∀ (document : Except Fault Value) (r : Pipeline.Request) (schema : Schema),
        Schema.ofRequest (Pipeline.modeOf document) r.mode r.script = .ok schema →
        (∀ n ∈ names, n ∈ schema.tableNames) →
          Pipeline.run document { r with tables := some names } =
            Pipeline.run document { r with tables := some others } ∧
          ∀ settings, Pipeline.settingsOr document r.settings = .ok settings →
            ∃ result, (Pipeline.run document { r with tables := some names }).outcome = .ok result ∧
              result.schema = (schema.selectBy fun t => t.name ∈ names) ∧
              result.generation.tables = schema.tableNames.filter (· ∈ names) := by
  refine ⟨fun s => ⟨Schema.refuses_of_unknown, Schema.grants_of_known⟩, ?_⟩
  intro others hsame document r schema hschema hknown
  refine ⟨Pipeline.run_eq_of_mem_iff hschema hknown hsame, fun settings hsettings => ?_⟩
  exact ⟨_, Pipeline.outcome_run_of_known hschema hknown hsettings, rfl,
    schema.tables_generate names r.database settings⟩

/-- Two tables have one name. -/
def cupboard : Text :=
  "CREATE TABLE cup (id INT);\nCREATE TABLE dish (size INT);\nCREATE TABLE cup (colour TEXT);"

/-- The schema of the script with all tables selected. -/
def cupboard.full : Schema := (Schema.ofScript .legacy cupboard).toggleAll

/-- Two forks are refused in the cupboard, two cups are granted, and the order of names does
not matter. -/
theorem selects_by_name_cupboard :
    cupboard.full.Refuses ["fork", "dish", "fork"]
      (.unknownTables ["fork", "fork"] ["cup", "dish", "cup"]) ∧
    cupboard.full.Grants ["cup", "cup"] (cupboard.full.selectBy fun t => t.name == "cup") ∧
    Pipeline.run (.ok Config.builtin)
        { script := cupboard, mode := some "legacy", tables := some ["dish", "cup"] } =
      Pipeline.run (.ok Config.builtin)
        { script := cupboard, mode := some "legacy", tables := some ["cup", "dish", "cup"] } := by
  have hnames : (Schema.ofScript .legacy cupboard).tableNames =
      (["cup", "dish", "cup"] : List Text) := by decide +kernel
  have hfull : cupboard.full.tableNames = (["cup", "dish", "cup"] : List Text) :=
    (Schema.tableNames_selectBy ..).trans hnames
  have hunknown : ∃ n ∈ (["fork", "dish", "fork"] : List Text), n ∉ cupboard.full.tableNames := by
    rw [hfull]
    decide
  have hknown : ∀ n ∈ (["cup", "cup"] : List Text), n ∈ cupboard.full.tableNames := by
    rw [hfull]
    decide
  have hmarks : (fun t : Table => decide (t.name ∈ (["cup", "cup"] : List Text))) =
      fun t => t.name == "cup".toList := by
    funext t
    simp [Bool.beq_eq_decide_eq]
  have hsame : ∀ n, n ∈ (["dish", "cup"] : List Text) ↔
      n ∈ (["cup", "dish", "cup"] : List Text) := by
    simp [or_comm]
  refine ⟨?_, ?_, ?_⟩
  · have hrefuses := ((selects_by_name ["fork", "dish", "fork"]).1 cupboard.full).1 hunknown
    rw [hfull] at hrefuses
    exact hrefuses
  · rw [← hmarks]
    exact ((selects_by_name ["cup", "cup"]).1 cupboard.full).2 hknown
  · refine ((selects_by_name ["dish", "cup"]).2 ["cup", "dish", "cup"] hsame (.ok Config.builtin)
      { script := cupboard, mode := some "legacy" } (Schema.ofScript .legacy cupboard) rfl ?_).1
    rw [hnames]
    decide

end Tablesmith
