/-
# Failed generations

A generation selects tables, takes the schema, pauses, looks for its settings, and generates. Each
of these but the last can fail, and a failure undoes nothing:

| what fails | what is left behind |
| --- | --- |
| the selection: a table is not declared | the store as it was |
| the pause, or the settings | the store as it was, but for the marks of a selection |

So a failure that complains of tables has changed nothing (`generate_of_unknownTables`), and any
other has changed at most the marks of its own session. The marks do change: a selection stays made
where the configuration turns out to be unreadable (`not_unchanged_of_failed`).

Main statement: `Service.store_of_failed`, what the store is behind a generation that failed.
-/

import Tablesmith.Config.File
import Tablesmith.Proofs.Workspace.History

namespace Tablesmith

/-- The outcome is no complaint of tables that are not declared. -/
def SparesTables {α : Type} (outcome : Except Fault α) : Prop :=
  ∀ names known, outcome ≠ .error (.unknownTables names known)

namespace SparesTables

variable {α β : Type}

/-- A success complains of no tables. -/
theorem ok (a : α) : SparesTables (.ok a) := fun _ _ => by simp

/-- Neither does a fault of another kind. -/
theorem error {fault : Fault} (h : ∀ names known, fault ≠ .unknownTables names known) :
    SparesTables (.error fault : Except Fault α) := fun names known => by simpa using h names known

/-- Two steps complain of no tables if neither of them does. -/
theorem bind {x : Except Fault α} {f : α → Except Fault β} (hx : SparesTables x)
    (hf : ∀ a, SparesTables (f a)) : SparesTables (x.bind f) := by
  cases x with
  | ok a => exact hf a
  | error fault => exact error fun names known h => hx names known (by rw [h])

/-- A result made into another one complains of what it did before. -/
theorem map {x : Except Fault α} (hx : SparesTables x) (f : α → β) : SparesTables (x.map f) := by
  cases x with
  | ok a => exact ok (f a)
  | error fault => exact error fun names known h => hx names known (by rw [h])

end SparesTables

namespace Config

/-- No configuration file is refused because of tables. -/
theorem sparesTables_load (reader : Text → Except Yaml.Failure Value) (file : Option Text) :
    SparesTables (load reader file) := by
  rw [load.eq_def]
  cases file with
  | none => exact .error nofun
  | some text =>
    simp only []
    cases reader text with
    | ok v => exact .ok _
    | error why => exact .error nofun

/-- Looking for a section complains of no tables. -/
theorem sparesTables_sectionOf (name : Text) (document : Value) :
    SparesTables (sectionOf name document) := by
  rw [sectionOf, partOf]
  cases document.members? with
  | none => exact .error nofun
  | some members => exact .ok _

/-- Nor does reading its members, if the fault for other values does not. -/
theorem sparesTables_membersOf {otherwise : Fault}
    (h : ∀ names known, otherwise ≠ .unknownTables names known) (v : Value) :
    SparesTables (membersOf otherwise v) := by
  rw [membersOf]
  split
  · exact .ok _
  · cases v.members? with
    | none => exact .error h
    | some members => exact .ok _

/-- Nor do the settings. -/
theorem sparesTables_settings (document : Value) : SparesTables (settings document) := by
  refine (sparesTables_sectionOf "synthesis" document).bind fun synthesis => ?_
  refine (sparesTables_membersOf fun _ _ => by simp synthesis).bind fun members => ?_
  split
  · cases (Settings.ofMembers members).toExcept with
    | ok settings => exact .ok settings
    | error issues => exact .error nofun
  · exact .error nofun

end Config

/-- The workspace with no table selected. -/
def Workspace.unmarked (w : Workspace) : Workspace := { w with schema := w.schema.clearSelection }

namespace Store

/-- The store with no table of any session selected. -/
def unmarked (s : Store) : Store := { s with workspaces := s.workspaces.map Workspace.unmarked }

/-- Another schema that differs in its marks alone does not show in the store without marks. -/
theorem unmarked_setSchema {s : Store} (hs : s.sessions.Nodup) {session : Text}
    {schema marked : Schema} (hschema : s.schema? session = some schema)
    (hmarked : marked.clearSelection = schema.clearSelection) :
    (s.setSchema session marked).unmarked = s.unmarked := by
  have hworkspaces : (s.setSchema session marked).workspaces.map Workspace.unmarked =
      s.workspaces.map Workspace.unmarked := by
    rw [setSchema, List.map_map]
    refine List.map_congr_left fun w hw => ?_
    rw [Function.comp_apply]
    split
    · next hsession =>
      have hfound := find?_of_mem hs hw
      rw [hsession] at hfound
      obtain rfl : w.schema = schema := by
        rw [schema?, hfound, Option.map_some] at hschema
        exact Option.some.inj hschema
      rw [Workspace.unmarked, Workspace.unmarked, hmarked]
    · rfl
  rw [unmarked, hworkspaces]
  rfl

end Store

namespace Service

section

variable {document : Except Fault Value} {settings : Option Settings} {length : Value}
  {s s' : Store} {session : Text} {database : Option Text} {tables : Option (List Text)}
  {schema : Schema} {fault : Fault}

/-- A refused selection is all there is of a generation. -/
theorem generate_of_refused (h : selecting s session tables = .error fault) :
    generate document settings length s session database tables = (s, .error fault) := by
  rw [generate, start, h]
  rfl

/-- Without a session there is nothing to generate. -/
theorem generate_of_absent (h : selecting s session tables = .ok s')
    (habsent : s'.schema? session = none) :
    generate document settings length s session database tables = (s', .ok none) := by
  rw [generate, start, h, Except.map, habsent]

/-- Behind a selection the generation pauses, finishes and leaves the store alone. -/
theorem generate_of_selected (h : selecting s session tables = .ok s')
    (hschema : s'.schema? session = some schema) :
    generate document settings length s session database tables =
      (s', (pause length).bind fun _ => (finish document settings schema database).map some) := by
  rw [generate, start, h, Except.map, hschema]

/-- Pausing complains of no tables. -/
theorem sparesTables_pause (length : Value) : SparesTables (pause length) := by
  cases length <;> first | exact .ok () | exact .error nofun

/-- What comes behind the selection does not complain of tables, if the document does not. -/
theorem sparesTables_finish (hdocument : SparesTables document) (settings : Option Settings)
    (schema : Schema) (database : Option Text) :
    SparesTables (finish document settings schema database) := by
  refine SparesTables.map ?_ _
  cases settings with
  | some settings => exact .ok settings
  | none => exact hdocument.bind Config.sparesTables_settings

/-- **What a selection does:** nothing, if none is asked for or there is no such session; else all
the tables are declared, and they are the ones selected. -/
theorem selecting_cases (h : selecting s session tables = .ok s') :
    (s' = s ∧ (tables = none ∨ s.schema? session = none)) ∨
      ∃ names schema, tables = some names ∧ s.schema? session = some schema ∧
        (∀ n ∈ names, n ∈ schema.tableNames) ∧
        s' = s.setSchema session (schema.selectBy fun t => t.name ∈ names) := by
  cases tables with
  | none =>
    obtain rfl := Except.ok.inj h
    exact .inl ⟨rfl, .inl rfl⟩
  | some names =>
    rw [selecting, Store.selectOnly] at h
    cases hschema : s.schema? session with
    | none =>
      rw [hschema] at h
      obtain rfl := Except.ok.inj h
      exact .inl ⟨rfl, .inr rfl⟩
    | some schema =>
      simp only [hschema] at h
      obtain ⟨marked, hmarked, rfl⟩ := exists_of_map_eq_ok h
      refine .inr ⟨names, schema, rfl, rfl, ?_, ?_⟩
      · exact (Schema.selectOnly_isOk_iff names schema).1 ⟨marked, hmarked⟩
      · rw [Schema.eq_selectBy_of_selectOnly hmarked]

/-- A selection is refused for tables that are not declared, and for nothing else. -/
theorem unknownTables_of_selecting (h : selecting s session tables = .error fault) :
    ∃ names known, fault = .unknownTables names known := by
  cases tables with
  | none => cases h
  | some names =>
    rw [selecting, Store.selectOnly] at h
    cases hschema : s.schema? session with
    | none =>
      rw [hschema] at h
      cases h
    | some schema =>
      simp only [hschema, Schema.selectOnly] at h
      split at h
      · cases h
      · exact ⟨_, _, (Except.error.inj h).symm⟩

/-- **A complaint of tables leaves the store as it was,** for the selection was refused. -/
theorem generate_of_unknownTables (hdocument : SparesTables document) {names known : List Text}
    (h : (generate document settings length s session database tables).2 =
      .error (.unknownTables names known)) :
    (generate document settings length s session database tables).1 = s := by
  cases hselecting : selecting s session tables with
  | error fault => rw [generate_of_refused hselecting]
  | ok s' =>
    cases hschema : s'.schema? session with
    | none =>
      rw [generate_of_absent hselecting hschema] at h
      cases h
    | some schema =>
      rw [generate_of_selected hselecting hschema] at h
      have hspares := (sparesTables_pause length).bind fun _ =>
        (sparesTables_finish hdocument settings schema database).map some
      exact absurd h (hspares names known)

end

/-- **What a failed generation leaves behind.** In any store that operations have led to, and for
any configuration file, everything that the store holds is as before but for the marks of the
session. These are as before too if the failure complains of tables, or no tables were asked for.
Else the selection was made before what failed, and stays: the tables that were asked for are all
declared, and they are the ones selected. -/
theorem store_of_failed {s : Store} {calls : List Call} (hrun : Run s calls)
    (reader : Text → Except Yaml.Failure Value) (file : Option Text) (settings : Option Settings)
    (length : Value) (session : Text) (database : Option Text) (tables : Option (List Text))
    {fault : Fault}
    (h : (generate (Config.load reader file) settings length s session database tables).2 =
      .error fault) :
    let behind := (generate (Config.load reader file) settings length s session database tables).1
    behind.unmarked = s.unmarked ∧
      (∀ other, other ≠ session → behind.find? other = s.find? other) ∧
      ((∃ names known, fault = .unknownTables names known) ∨ tables = none → behind = s) ∧
      ∀ names, tables = some names → (∀ unknown known, fault ≠ .unknownTables unknown known) →
        ∃ schema, s.schema? session = some schema ∧ (∀ n ∈ names, n ∈ schema.tableNames) ∧
          behind = s.setSchema session (schema.selectBy fun t => t.name ∈ names) := by
  intro behind
  have hspares : SparesTables (Config.load reader file) := Config.sparesTables_load reader file
  have hunknown : (∃ names known, fault = .unknownTables names known) → behind = s := by
    rintro ⟨names, known, rfl⟩
    exact generate_of_unknownTables hspares h
  cases hselecting : selecting s session tables with
  | error refusal =>
    rw [generate_of_refused hselecting] at h
    obtain rfl := Except.error.inj h
    obtain ⟨unknown, known, hrefusal⟩ := unknownTables_of_selecting hselecting
    have hbehind : behind = s := hunknown ⟨unknown, known, hrefusal⟩
    rw [hbehind]
    exact ⟨rfl, fun _ _ => rfl, fun _ => rfl, fun _ _ hspared => absurd hrefusal (hspared _ _)⟩
  | ok s' =>
    -- A session that is not there is answered, so the schema was taken from the store `s'`.
    obtain ⟨schema, hschema⟩ : ∃ schema, s'.schema? session = some schema := by
      cases hschema : s'.schema? session with
      | none =>
        rw [generate_of_absent hselecting hschema] at h
        cases h
      | some schema => exact ⟨schema, rfl⟩
    have hbehind : behind = s' := congrArg Prod.fst (generate_of_selected hselecting hschema)
    obtain ⟨rfl, hnone⟩ | ⟨names, declared, rfl, hdeclared, hknown, rfl⟩ :=
      selecting_cases hselecting
    · have htables : tables = none := hnone.resolve_right (by simp [hschema])
      rw [hbehind]
      exact ⟨rfl, fun _ _ => rfl, fun _ => rfl, fun names hnames => by simp [htables] at hnames⟩
    · refine ⟨?_, fun other hother => ?_, fun hwhy => ?_, fun asked hasked _ => ?_⟩
      · rw [hbehind]
        exact Store.unmarked_setSchema hrun.reflects.distinct hdeclared
          (Schema.clearSelection_selectBy _ declared)
      · rw [hbehind, Store.find?_setSchema, if_neg hother.symm]
      · exact hunknown (hwhy.resolve_right (by simp))
      · obtain rfl := Option.some.inj hasked
        exact ⟨declared, hdeclared, hknown, hbehind⟩

namespace halfway

/-- A configuration file that is not read. -/
def file : Text := "@"

/-- Two tables, of which the first is selected. -/
def operations : List Operation :=
  [.parse (some "s") (some "legacy") "CREATE TABLE t (x INT);\nCREATE TABLE u (y INT);",
    .toggle "s" "t"]

/-- The store behind the operations. -/
def store : Store :=
  Operation.runAll { document := Config.load Config.read (some file) } {} operations

/-- What comes of a generation for the other table. -/
def generation : Store × Except Fault (Option Generation) :=
  generate (Config.load Config.read (some file)) none (.int 0) store "s" none (some ["u"])

/-- The tables that are selected in the session. -/
def selected (s : Store) : Option (List Text) :=
  (s.schema? "s").map fun schema => schema.selected.map Table.name

/-- The failed generation leaves nothing behind but the mark it was to set. -/
theorem store_of_generation :
    generation.2 = .error (.unreadable .malformed) ∧
      generation.1.unmarked = store.unmarked ∧
      selected store = some ["t".toList] ∧ selected generation.1 = some ["u".toList] := by
  have hfailed : generation.2 = .error (.unreadable .malformed) := by decide +kernel
  have hrun := run_runAll { document := Config.load Config.read (some file) } operations
  obtain ⟨hunmarked, -, -, -⟩ :=
    store_of_failed hrun Config.read (some file) none (.int 0) "s" none (some ["u"]) hfailed
  exact ⟨hfailed, hunmarked, by decide +kernel, by decide +kernel⟩

end halfway

/-- **A generation that fails may have changed the store.** -/
theorem not_unchanged_of_failed :
    ¬ ∀ (s : Store) (calls : List Call), Run s calls →
      ∀ (file : Option Text) (settings : Option Settings) (session : Text) (database : Option Text)
        (tables : Option (List Text)) (fault : Fault),
        (generate (Config.load Config.read file) settings (.int 0) s session database tables).2 =
            .error fault →
          (generate (Config.load Config.read file) settings (.int 0) s session database tables).1 =
            s := by
  intro hunchanged
  have hrun := run_runAll { document := Config.load Config.read (some halfway.file) }
    halfway.operations
  have hstore : halfway.generation.1 = halfway.store :=
    hunchanged _ _ hrun (some halfway.file) none "s" none (some ["u"])
      (.unreadable .malformed) (by decide +kernel)
  have hselected : halfway.selected halfway.generation.1 ≠ halfway.selected halfway.store := by
    decide +kernel
  exact hselected (by rw [hstore])

end Service
end Tablesmith
