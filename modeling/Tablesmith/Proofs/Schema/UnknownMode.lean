/-
# A mode that there is none of

A script can be read in stages, as its parts are found: each table is made from its declaration, and
the schema from the documents of its tables, its database lines, and the name of the mode. The mode
is not looked at beforehand. It is looked up where a body is cut, and checked where the schema is
made, so which of the two notices that there is no such mode depends on the script:

| the script declares | the fault |
| --- | --- |
| a table | `unknownMode`, when the first body is cut |
| none | `invalid`, with the field of the mode, when the schema is made |

The stages come to what is said of the script at once (`inStages_eq`), because the documents of
tables pass the checks that they are put to (`check_document`). Whoever reads a script to put it in
the place of another one, or into a workspace, changes nothing before the last stage (`reload_eq`,
`parsing_eq`).

Main statement: `rejects_unknownMode`.
-/

import Tablesmith.Pipeline
import Tablesmith.Schema.Document
import Tablesmith.Workspace.Operation

namespace Tablesmith

namespace Value

/-- Nothing in the value means a collection around it. -/
def IsClosed (v : Value) : Prop := ∀ whole depth, plug whole depth v = v

/-- A text means no collection around it. -/
theorem isClosed_text (t : Text) : (text t).IsClosed := fun _ _ => by simp [plug]

/-- Where no member means a collection around it, the list of them is as it was. -/
theorem plugItems_map {α : Type} {f : α → Value} (h : ∀ a, (f a).IsClosed) (whole : Value)
    (depth : Nat) (as : List α) : plugItems whole depth (as.map f) = as.map f := by
  induction as with
  | nil => rfl
  | cons a as ih => rw [List.map_cons, plugItems, h, ih]

/-- A list of texts means none. -/
theorem isClosed_ofTexts (ts : List Text) : (ofTexts ts).IsClosed := fun _ _ => by
  simp [ofTexts, plug, plugItems_map isClosed_text]

end Value

namespace Check

/-- Members that each pass a check pass it together. -/
theorem itemsFrom_map {α : Type} {check : Check α} {f : α → Value} (h : ∀ a, check (f a) = .fit a)
    (n : Nat) (as : List α) : itemsFrom check n (as.map f) = .fit as := by
  induction as generalizing n with
  | nil => rfl
  | cons a as ih =>
    rw [List.map_cons, itemsFrom, h, ih]
    rfl

/-- Where the documents pass one by one, a list of them does. -/
theorem list_map {α : Type} {check : Check α} {f : α → Value} (kind : Issue.Kind)
    (hclosed : ∀ a, (f a).IsClosed) (h : ∀ a, check (f a) = .fit a) (as : List α) :
    list kind check (.list (as.map f)) = .fit as := by
  rw [list, Value.items?, Value.plugItems_map hclosed]
  exact itemsFrom_map h 0 as

/-- A text that may be missing passes, whether it is there or not. -/
theorem optional_ofText? (t : Option Text) : optional text (.ofText? t) = .fit t := by
  cases t <;> rfl

end Check

namespace Table

/-- Names of columns pass as they are. -/
theorem checkColumns_ofTexts (ts : List Text) : checkColumns (.ofTexts ts) = .fit ts :=
  Check.list_map _ Value.isClosed_text (fun _ => rfl) ts

/-- The members of the document of a table without its mark. -/
def unmarked (name : Text) (columns : List Text) : List (Value × Value) :=
  [(.text "name", .text name), (.text "columns", .ofTexts columns)]

/-- The members of a table without a mark are read as that table. -/
theorem ofMembers_unmarked (name : Text) (columns : List Text) :
    ofMembers (unmarked name columns) = .fit { name := name, columns := columns } := by
  have hcolumns : Check.field (unmarked name columns) "columns" (some []) checkColumns =
      (checkColumns (.ofTexts columns)).under (.field "columns") := rfl
  rw [ofMembers, hcolumns, checkColumns_ofTexts]
  rfl

/-- The document of a table means no collection around it. -/
theorem isClosed_document (t : Table) : t.document.IsClosed := fun _ _ => by
  simp [document, Value.ofFields, Value.plug, Value.plugMembers,
    Value.isClosed_ofTexts t.columns _ _]

/-- **The document of a table** passes as the table. -/
theorem check_document (t : Table) : check t.document = .fit t := by
  have hmembers : t.document.members? =
      some (unmarked t.name t.columns ++ [(.text "selected", .bool t.selected)]) := by
    simp [document, unmarked, Value.ofFields, Value.members?, Value.plug, Value.plugMembers,
      Value.isClosed_ofTexts t.columns _ _]
  have hcolumns : Check.field
      (unmarked t.name t.columns ++ [(.text "selected", .bool t.selected)]) "columns" (some [])
        checkColumns = (checkColumns (.ofTexts t.columns)).under (.field "columns") := rfl
  rw [check, Check.mapping, hmembers]
  dsimp only
  rw [ofMembers, hcolumns, checkColumns_ofTexts]
  rfl

end Table

open Sql (SplitMode Declaration)

/-- The columns of a body, cut in the mode with the given name. The mode is looked up for each
body. -/
def Sql.Column.allNamed (mode body : Text) : Except Fault (List Text) :=
  match SplitMode.ofName? mode with
  | some m => .ok (all m body)
  | none => .error (.unknownMode mode)

/-- Makes the table of a declaration. -/
def Table.read (mode : Text) (d : Declaration) : Except Fault Table := do
  let columns ← Sql.Column.allNamed mode d.body
  (ofMembers (unmarked d.name columns)).toExcept.mapError Fault.invalid

namespace Schema

/-- The members of the document of a schema with the given tables and the name of a mode. -/
def parts (tables : List Table) (mode script : Text) : List (Value × Value) :=
  [(.text "tables", .list (tables.map Table.document)),
    (.text "database_name", .ofText? (Sql.Database.name? script)),
    (.text "database_statements", .ofTexts (Sql.Database.statements script)),
    (.text "split_mode", .text mode)]

/-- Makes the schema of a script: first its tables, one after another, and then the rest. -/
def inStages (mode script : Text) : Except Fault Schema := do
  let tables ← (Declaration.all script).mapM (Table.read mode)
  (ofMembers (parts tables mode script)).toExcept.mapError Fault.invalid

/-- Of the members of a schema only the mode can be wrong. -/
theorem ofMembers_parts (tables : List Table) (mode script : Text) :
    ofMembers (parts tables mode script) =
      ((Check.oneOf SplitMode.ofName? (.text mode)).under (.field "split_mode")).map
        fun m => ⟨tables, Sql.Database.name? script, Sql.Database.statements script, m⟩ := by
  have htables : Check.field (parts tables mode script) "tables" (some [])
      (Check.list .noTuple Table.check) =
      (Check.list .noTuple Table.check (.list (tables.map Table.document))).under
        (.field "tables") := rfl
  have hname : Check.field (parts tables mode script) "database_name" (some none)
      (Check.optional Check.text) =
      (Check.optional Check.text (.ofText? (Sql.Database.name? script))).under
        (.field "database_name") := rfl
  have hstatements : Check.field (parts tables mode script) "database_statements" (some [])
      Table.checkColumns =
      (Table.checkColumns (.ofTexts (Sql.Database.statements script))).under
        (.field "database_statements") := rfl
  have hmode : Check.field (parts tables mode script) "split_mode" (some SplitMode.legacy)
      (Check.oneOf SplitMode.ofName?) =
      (Check.oneOf SplitMode.ofName? (.text mode)).under (.field "split_mode") := rfl
  rw [ofMembers, htables, hname, hstatements, hmode,
    Check.list_map _ Table.isClosed_document Table.check_document, Check.optional_ofText?,
    Table.checkColumns_ofTexts]
  cases (Check.oneOf SplitMode.ofName? (.text mode)).under (.field "split_mode") <;> rfl

/-- A mode that there is reads every declaration. -/
theorem read_of_mode {mode : Text} {m : SplitMode} (h : SplitMode.ofName? mode = some m)
    (d : Declaration) : Table.read mode d = .ok (Table.ofDeclaration m d) := by
  simp only [Table.read, Sql.Column.allNamed, h, bind, Except.bind, Table.ofMembers_unmarked]
  rfl

/-- A mode that there is not reads none. -/
theorem read_of_noMode {mode : Text} (h : SplitMode.ofName? mode = none) (d : Declaration) :
    Table.read mode d = .error (.unknownMode mode) := by
  simp only [Table.read, Sql.Column.allNamed, h, bind, Except.bind]

/-- In a mode that there is, the stages come to the schema of the script. -/
theorem inStages_of_mode {mode : Text} {m : SplitMode} (h : SplitMode.ofName? mode = some m)
    (script : Text) : inStages mode script = .ok (ofScript m script) := by
  have hread : Table.read mode = fun d => pure (Table.ofDeclaration m d) :=
    funext (read_of_mode h)
  rw [inStages, hread, List.mapM_pure, pure_bind, ofMembers_parts, Check.oneOf]
  simp only [h]
  rfl

/-- The first body that is cut ends the reading. -/
theorem inStages_of_declares {mode : Text} (h : SplitMode.ofName? mode = none) {script : Text}
    (hscript : Declaration.all script ≠ []) :
    inStages mode script = .error (.unknownMode mode) := by
  obtain ⟨d, ds, hds⟩ := List.exists_cons_of_ne_nil hscript
  rw [inStages, hds, List.mapM_cons, read_of_noMode h]
  rfl

/-- Where nothing is cut, the mode is noticed at the end. -/
theorem inStages_of_nil {mode : Text} (h : SplitMode.ofName? mode = none) {script : Text}
    (hscript : Declaration.all script = []) :
    inStages mode script = .error (.invalid [⟨[.field "split_mode"], .noneOfTheNames⟩]) := by
  rw [inStages, hscript, List.mapM_nil, pure_bind, ofMembers_parts, Check.oneOf]
  simp only [h]
  rfl

/-- **In stages or at once,** the schema of a script is the same, and so is the fault. -/
theorem inStages_eq (mode script : Text) : inStages mode script = ofScriptNamed mode script := by
  rw [ofScriptNamed]
  cases hmode : SplitMode.ofName? mode with
  | some m => exact inStages_of_mode hmode script
  | none =>
    by_cases hscript : Declaration.all script = []
    · simpa [hscript] using inStages_of_nil hmode hscript
    · simpa [hscript] using inStages_of_declares hmode hscript

end Schema

/-- What a change comes to that is made at once or not at all: the new state with what is answered,
or the old one with the fault. -/
def atOnce {σ α : Type} (s : σ) : Except Fault (α × σ) → Except Fault α × σ
  | .ok (a, s') => (.ok a, s')
  | .error fault => (.error fault, s)

namespace Schema

/-- Puts the schema of a script in the place of another. A mode that is not asked for, or asked for
by an empty name, is that of the other. -/
def reload (mode : Option Text) (script : Text) : ExceptT Fault (StateM Schema) Unit := do
  let before ← get
  let after ← MonadExcept.ofExcept
    (inStages ((Text.nonempty? mode).getD before.splitMode.name) script)
  set after

/-- A request is for the script in stages, in the mode that is asked for or in the default one. -/
theorem bind_inStages (default : Except Fault SplitMode) (mode : Option Text) (script : Text) :
    ((Text.nonempty? mode).elim (default.map SplitMode.name) Except.ok).bind
        (inStages · script) = ofRequest default mode script := by
  rw [ofRequest]
  cases Text.nonempty? mode with
  | none =>
    cases default with
    | error fault => rfl
    | ok m => exact inStages_of_mode m.ofName?_name script
  | some name => exact inStages_eq name script

/-- **A schema is put in the place of another** if it can be read; else the other one stays. -/
theorem reload_eq (mode : Option Text) (script : Text) (s : Schema) :
    reload mode script s = atOnce s ((ofRequest (.ok s.splitMode) mode script).map ((), ·)) := by
  have hread : inStages ((Text.nonempty? mode).getD s.splitMode.name) script =
      ofRequest (.ok s.splitMode) mode script := by
    rw [← bind_inStages]
    cases Text.nonempty? mode <;> rfl
  have hrun : reload mode script s = (MonadExcept.ofExcept
      (inStages ((Text.nonempty? mode).getD s.splitMode.name) script) >>= set :
        ExceptT Fault (StateM Schema) Unit) s := rfl
  rw [hrun, hread]
  cases ofRequest (.ok s.splitMode) mode script <;> rfl

end Schema

namespace Store

/-- A name for a session that nobody chose. -/
def drawName : ExceptT Fault (StateM Store) Text :=
  modifyGet fun s => (sessionName (s.named + 1), { s with named := s.named + 1 })

/-- Looks at the clock. -/
def readClock : ExceptT Fault (StateM Store) Nat :=
  modifyGet fun s => (s.readings + 1, { s with readings := s.readings + 1 })

/-- Keeps a workspace. One of the same session tells when it was created. -/
def keep (w : Workspace) : ExceptT Fault (StateM Store) Unit :=
  modify fun s =>
    let created := ((s.find? w.session).map Workspace.created).getD w.created
    { s with workspaces := put { w with created := created } s.workspaces }

/-- Parses a script into a workspace: reads it, and then takes a name and a reading of the clock. -/
def parsing (default : Except Fault Sql.SplitMode) (session mode : Option Text) (script : Text) :
    ExceptT Fault (StateM Store) Text := do
  let mode ← MonadExcept.ofExcept
    ((Text.nonempty? mode).elim (default.map SplitMode.name) Except.ok)
  let schema ← MonadExcept.ofExcept (Schema.inStages mode script)
  let session ← (Text.nonempty? session).elim drawName pure
  let now ← readClock
  keep ⟨session, now, now, script, schema⟩
  return session

/-- **A workspace is established** if the script can be read; else the store is as it was, with no
name and no reading used up. -/
theorem parsing_eq (default : Except Fault SplitMode) (session mode : Option Text)
    (script : Text) (s : Store) :
    parsing default session mode script s = atOnce s (s.parseInto default session mode script) := by
  rw [parseInto, ← Schema.bind_inStages, parsing]
  cases (Text.nonempty? mode).elim (default.map SplitMode.name) Except.ok with
  | error fault => rfl
  | ok name =>
    rw [Except.bind]
    show (MonadExcept.ofExcept (Schema.inStages name script) >>= _ :
      ExceptT Fault (StateM Store) Text) s = _
    cases Schema.inStages name script with
    | error fault => rfl
    | ok schema => cases Text.nonempty? session <;> rfl

end Store

namespace Schema

/-- The script is not read in the mode with this name, whatever the default mode is, and where a
schema or a workspace was to be made of it everything stays as it was. -/
structure Rejects (mode script : Text) (fault : Fault) : Prop where
  request : ∀ default, ofRequest default (some mode) script = .error fault
  stages : inStages mode script = .error fault
  reload : ∀ s : Schema, reload (some mode) script s = (.error fault, s)
  parsing : ∀ (default : Except Fault SplitMode) (session : Option Text) (s : Store),
    Store.parsing default session (some mode) script s = (.error fault, s)
  operation : ∀ (e : Surroundings) (session : Option Text) (s : Store),
    (Operation.parse session (some mode) script).run e s = (s, .error fault)

/-- Where the stages fail, the script is rejected with their fault. -/
theorem rejects_of_stages {mode script : Text} {fault : Fault} (hne : mode ≠ [])
    (h : inStages mode script = .error fault) : Rejects mode script fault := by
  have hname : Text.nonempty? (some mode) = some mode := by
    obtain ⟨c, t, rfl⟩ := List.exists_cons_of_ne_nil hne
    rfl
  have hrequest : ∀ default, ofRequest default (some mode) script = .error fault := by
    intro default
    rw [← bind_inStages, hname]
    exact h
  refine ⟨hrequest, h, fun s => ?_, fun default session s => ?_, fun e session s => ?_⟩
  · rw [reload_eq, hrequest]
    rfl
  · rw [Store.parsing_eq, Store.parseInto, hrequest]
    rfl
  · rw [Operation.run, Store.parseInto, hrequest]
    rfl

/-- **An unknown mode is rejected,** whatever the script is, and nothing comes of it: the schema
that was to be replaced keeps its tables and their marks, and the store its sessions, its names and
its readings of the clock. The fault is in the mode where the script declares a table, and in the
document of the schema where it declares none. -/
theorem rejects_unknownMode {mode : Text} (hne : mode ≠ [])
    (hmode : ∀ m : SplitMode, mode ≠ m.name) (script : Text) :
    ((∃ d, d ∈ Declaration.all script) → Rejects mode script (.unknownMode mode)) ∧
    (Declaration.all script = [] →
      Rejects mode script (.invalid [⟨[.field "split_mode"], .noneOfTheNames⟩])) := by
  have hnone : SplitMode.ofName? mode = none :=
    List.find?_eq_none.2 fun m _ => by simpa using (hmode m).symm
  refine ⟨?_, fun hnil => rejects_of_stages hne (inStages_of_nil hnone hnil)⟩
  rintro ⟨d, hd⟩
  exact rejects_of_stages hne (inStages_of_declares hnone (List.ne_nil_of_mem hd))

/-- The name of a mode, but with a capital letter. -/
theorem rejects_unknownMode_capital :
    Rejects "Legacy" "CREATE TABLE t (id INT);" (.unknownMode "Legacy") ∧
    Rejects "Legacy" "CREATE TABLE t (id INT)"
      (.invalid [⟨[.field "split_mode"], .noneOfTheNames⟩]) := by
  have hmode : ∀ m : SplitMode, "Legacy".toList ≠ m.name := by
    intro m
    cases m <;> decide
  refine ⟨(rejects_unknownMode (by decide) hmode _).1 (List.exists_mem_of_ne_nil _ ?_),
    (rejects_unknownMode (by decide) hmode _).2 ?_⟩
  · decide +kernel
  · decide +kernel

end Schema
end Tablesmith
