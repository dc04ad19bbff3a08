/-
# Workspaces that hold registries

The same operations on workspaces as elsewhere, but each workspace holds a registry, whose tables
stand in a memory:

| operation | what becomes of the memory |
| --- | --- |
| parse | the tables of the script are put in new cells |
| toggle, toggle all, select only | marks are set in the cells of the session's registry |
| snapshot, generate | the tables of the session's registry are copied into new cells |
| look, delete | nothing |

What the registries show is a store of values (`Store.view`), and every operation does to it what it
does to values (`view_run`), for no two sessions share a cell (`Store.Sound`).

A registry that is held elsewhere is free if its cells are in no workspace. The copy that a
generation starts with is (`Store.isFree_start`). Nothing that happens to the store touches the
tables of a free registry (`Store.Evolves.schema_eq`).
-/

import Tablesmith.Proofs.Workspace.Step
import Tablesmith.Proofs.Workspace.Registry

namespace Tablesmith
namespace Shared

/-- What a session works on, by reference. -/
structure Workspace where
  session : Text
  created : Nat
  updated : Nat
  script : Text
  registry : Registry

/-- The workspace as a value. -/
def Workspace.view (m : Memory) (w : Workspace) : Tablesmith.Workspace where
  session := w.session
  created := w.created
  updated := w.updated
  script := w.script
  schema := w.registry.schema m

/-- A view is of the same session. -/
@[simp] theorem Workspace.session_view (m : Memory) (w : Workspace) :
    (w.view m).session = w.session := rfl

/-- The workspaces of all sessions, and the memory that their tables stand in. -/
structure Store where
  memory : Memory := {}
  workspaces : List Workspace := []
  named : Nat := 0
  readings : Nat := 0

namespace Store

/-- What the registries of the store show. -/
def view (s : Store) : Tablesmith.Store where
  workspaces := s.workspaces.map (Workspace.view s.memory)
  named := s.named
  readings := s.readings

/-- The workspace of a session. -/
def find? (s : Store) (session : Text) : Option Workspace :=
  s.workspaces.find? fun w => w.session = session

/-- The registry of a session, which is the one that the store holds and not a copy. -/
def registryOf? (s : Store) (session : Text) : Option Registry :=
  (s.find? session).map Workspace.registry

/-- What the registry of a session shows now. -/
def schema? (s : Store) (session : Text) : Option Schema :=
  (s.registryOf? session).map (Registry.schema s.memory)

/-- Puts a workspace in place of the one of the same session, or behind all. -/
def put (w : Workspace) : List Workspace → List Workspace
  | [] => [w]
  | v :: vs => if v.session = w.session then w :: vs else v :: put w vs

/-- Gives a session a new registry, for the schema of a script. -/
def establish (s : Store) (session script : Text) (schema : Schema) : Store :=
  let now := s.readings + 1
  let created := ((s.find? session).map Workspace.created).getD now
  let registry := Registry.ofSchema s.memory schema
  { s with
    memory := s.memory.addAll schema.tables
    workspaces := put ⟨session, created, now, script, registry⟩ s.workspaces
    readings := now }

/-- Parses a script into the workspace of a session, or of a new one. -/
def parseInto (s : Store) (default : Except Fault Sql.SplitMode) (session mode : Option Text)
    (script : Text) : Except Fault (Text × Store) :=
  (Schema.ofRequest default mode script).map fun schema =>
    match Text.nonempty? session with
    | some name => (name, s.establish name script schema)
    | none =>
      let name := Tablesmith.Store.sessionName (s.named + 1)
      (name, { s.establish name script schema with named := s.named + 1 })

/-- Flips the mark of a table of a session. -/
def toggle (s : Store) (session table : Text) : Store :=
  match s.registryOf? session with
  | some r => { s with memory := r.toggle table s.memory }
  | none => s

/-- Marks all tables of a session, or none. -/
def toggleAll (s : Store) (session : Text) : Store :=
  match s.registryOf? session with
  | some r => { s with memory := r.toggleAll s.memory }
  | none => s

/-- Marks exactly the given tables of a session. -/
def selectOnly (s : Store) (session : Text) (tables : List Text) : Except Fault Store :=
  match s.registryOf? session with
  | some r => (r.selectOnly tables s.memory).map fun m => { s with memory := m }
  | none => .ok s

/-- Drops the workspace of a session. -/
def delete (s : Store) (session : Text) : Store :=
  { s with workspaces := s.workspaces.filter fun w => w.session ≠ session }

/-- Copies the registry of a session into new cells. -/
def snapshot (s : Store) (session : Text) : Store × Option Registry :=
  match s.schema? session with
  | some schema =>
    ({ s with memory := s.memory.addAll schema.tables }, some (.ofSchema s.memory schema))
  | none => (s, none)

/-- Marks the tables that are asked for, if any are. -/
def selecting (s : Store) (session : Text) : (tables : Option (List Text)) → Except Fault Store
  | some names => s.selectOnly session names
  | none => .ok s

/-- The start of a generation: the store behind it, and the copy to generate from, if there is such
a session. -/
def start (s : Store) (session : Text) (tables : Option (List Text)) :
    Except Fault (Store × Option Registry) :=
  (s.selecting session tables).map fun s => s.snapshot session

end Store

/-- The store after an operation, and its reply. Whatever the reply shows is read off the registry
at once. -/
def run (e : Surroundings) (s : Store) : Operation → Store × Except Fault Reply
  | .parse session mode script =>
    match s.parseInto (Pipeline.modeOf e.document) session mode script with
    | .ok (name, s) => (s, .ok (.session name))
    | .error fault => (s, .error fault)
  | .look session => (s, .ok (.workspace ((s.find? session).map (Workspace.view s.memory))))
  | .snapshot session =>
    let (s, copy) := s.snapshot session
    (s, .ok (.schema (copy.map (Registry.schema s.memory))))
  | .toggle session table =>
    let s := s.toggle session table
    (s, .ok (.schema (s.schema? session)))
  | .toggleAll session =>
    let s := s.toggleAll session
    (s, .ok (.schema (s.schema? session)))
  | .selectOnly session tables =>
    match s.selectOnly session tables with
    | .ok s => (s, .ok (.schema (s.schema? session)))
    | .error fault => (s, .error fault)
  | .generate session database tables =>
    match s.start session tables with
    | .error fault => (s, .error fault)
    | .ok (s, none) => (s, .ok (.generation none))
    | .ok (s, some copy) =>
      (s, (Service.pause e.pause).bind fun _ =>
        (Service.finish e.document e.settings (copy.schema s.memory) database).map fun g =>
          .generation (some g))
  | .delete session => (s.delete session, .ok (.deleted (s.find? session).isSome))

namespace Store

/-- Is the cell in the registry of a workspace? -/
def Holds (s : Store) (cell : Nat) : Prop := ∃ w ∈ s.workspaces, cell ∈ w.registry.cells

/-- Each session has one workspace, and each cell that is held one place in one workspace. -/
structure Sound (s : Store) : Prop where
  distinct : (s.workspaces.map Workspace.session).Nodup
  simple : ∀ w ∈ s.workspaces, w.registry.cells.Nodup
  used : ∀ cell, s.Holds cell → cell < s.memory.next
  separate : ∀ v ∈ s.workspaces, ∀ w ∈ s.workspaces, ∀ cell ∈ v.registry.cells,
    cell ∈ w.registry.cells → v.session = w.session

/-- Nothing that is in use, and in no workspace, is written to or comes to be in a workspace. -/
structure Evolves (s s' : Store) : Prop where
  sound : s.Sound → s'.Sound
  next : s.memory.next ≤ s'.memory.next
  table : ∀ cell < s.memory.next, ¬ s.Holds cell → s'.memory.table cell = s.memory.table cell
  spares : ∀ cell < s.memory.next, ¬ s.Holds cell → ¬ s'.Holds cell

/-- The registry is held outside the store alone. -/
def IsFree (s : Store) (r : Registry) : Prop :=
  ∀ cell ∈ r.cells, cell < s.memory.next ∧ ¬ s.Holds cell

/-- The empty store is sound. -/
theorem sound_empty : Sound {} where
  distinct := List.nodup_nil
  simple := nofun
  used := fun _ ⟨_, hw, _⟩ => nomatch hw
  separate := nofun

namespace Evolves

variable {s s' s'' : Store} {r : Registry}

/-- A store evolves into itself. -/
theorem refl (s : Store) : s.Evolves s :=
  ⟨id, Nat.le_refl _, fun _ _ _ => rfl, fun _ _ => id⟩

/-- What evolves in two steps evolves. -/
theorem trans (h : s.Evolves s') (h' : s'.Evolves s'') : s.Evolves s'' where
  sound := fun hs => h'.sound (h.sound hs)
  next := Nat.le_trans h.next h'.next
  table := fun cell hlt hfree => by
    rw [h'.table cell (Nat.lt_of_lt_of_le hlt h.next) (h.spares cell hlt hfree),
      h.table cell hlt hfree]
  spares := fun cell hlt hfree =>
    h'.spares cell (Nat.lt_of_lt_of_le hlt h.next) (h.spares cell hlt hfree)

/-- What is free stays so. -/
theorem isFree (h : s.Evolves s') (hr : s.IsFree r) : s'.IsFree r := fun cell hcell =>
  have ⟨hlt, hfree⟩ := hr cell hcell
  ⟨Nat.lt_of_lt_of_le hlt h.next, h.spares cell hlt hfree⟩

/-- **A free registry shows the same,** whatever happens to the store. -/
theorem schema_eq (h : s.Evolves s') (hr : s.IsFree r) :
    r.schema s'.memory = r.schema s.memory :=
  Registry.schema_congr fun cell hcell => h.table cell (hr cell hcell).1 (hr cell hcell).2

end Evolves

variable {s : Store} {session : Text}

/-- The workspace that is found is that of the session. -/
theorem session_of_find? {w : Workspace} (h : s.find? session = some w) : w.session = session := by
  simpa using List.find?_some h

/-- A registry of the store is that of a workspace. -/
theorem exists_of_registryOf? {r : Registry} (h : s.registryOf? session = some r) :
    ∃ w ∈ s.workspaces, w.session = session ∧ w.registry = r := by
  obtain ⟨w, hw, rfl⟩ := Option.map_eq_some_iff.1 h
  exact ⟨w, List.mem_of_find?_eq_some hw, session_of_find? hw, rfl⟩

/-- The store evolves where only the registry of a session is written to. -/
theorem evolves_of_touches {r : Registry} {m : Memory} (h : s.registryOf? session = some r)
    (hm : r.Touches s.memory m) : s.Evolves { s with memory := m } where
  sound := fun hs => ⟨hs.distinct, hs.simple, fun c hc => hm.next ▸ hs.used c hc, hs.separate⟩
  next := Nat.le_of_eq hm.next.symm
  table := fun cell _ hfree => by
    obtain ⟨w, hw, -, rfl⟩ := exists_of_registryOf? h
    exact hm.table cell fun hcell => hfree ⟨w, hw, hcell⟩
  spares := fun _ _ => id

/-- It evolves where tables are put in new cells. -/
theorem evolves_addAll (s : Store) (tables : List Table) :
    s.Evolves { s with memory := s.memory.addAll tables } where
  sound := fun hs => ⟨hs.distinct, hs.simple,
    fun c hc => Nat.lt_of_lt_of_le (hs.used c hc) (s.memory.next_le_addAll tables), hs.separate⟩
  next := s.memory.next_le_addAll tables
  table := fun _ hlt _ => Memory.table_addAll_of_lt hlt tables
  spares := fun _ _ => id

/-- What is in a list of workspaces now was put there, or was there before. -/
theorem mem_put {w v : Workspace} {ws : List Workspace} (h : v ∈ put w ws) : v = w ∨ v ∈ ws := by
  induction ws with
  | nil => exact .inl (List.mem_singleton.1 h)
  | cons u us ih =>
    rw [put] at h
    split at h
    · exact (List.mem_cons.1 h).imp_right (List.mem_cons_of_mem u)
    · obtain rfl | h := List.mem_cons.1 h
      · exact .inr List.mem_cons_self
      · exact (ih h).imp_right (List.mem_cons_of_mem u)

/-- A workspace that is put as it is seen. -/
theorem map_view_put (m : Memory) (w : Workspace) (ws : List Workspace) :
    (put w ws).map (Workspace.view m) =
      Tablesmith.Store.put (w.view m) (ws.map (Workspace.view m)) := by
  induction ws with
  | nil => rfl
  | cons v vs ih =>
    rw [put, List.map_cons, Tablesmith.Store.put]
    by_cases h : v.session = w.session
    · rw [Workspace.session_view, Workspace.session_view, if_pos h, if_pos h, List.map_cons]
    · rw [Workspace.session_view, Workspace.session_view, if_neg h, if_neg h, List.map_cons, ih]

/-- The views are of the same sessions. -/
theorem sessions_view (m : Memory) (ws : List Workspace) :
    (ws.map (Workspace.view m)).map Tablesmith.Workspace.session = ws.map Workspace.session := by
  rw [List.map_map]
  rfl

/-- The store evolves where a session gets a new registry. -/
theorem evolves_establish (s : Store) (session script : Text) (schema : Schema) :
    s.Evolves (s.establish session script schema) := by
  have hnext := s.memory.next_le_addAll schema.tables
  refine ⟨fun hs => ⟨?_, fun w hw => ?_, ?_, ?_⟩, hnext,
    fun _ hlt _ => Memory.table_addAll_of_lt hlt _, ?_⟩
  · have hdistinct := hs.distinct
    rw [← sessions_view s.memory] at hdistinct ⊢
    rw [establish, map_view_put]
    exact Tablesmith.Store.nodup_put _ hdistinct
  · obtain rfl | hw := mem_put hw
    · exact List.nodup_range'
    · exact hs.simple w hw
  · rintro cell ⟨w, hw, hcell⟩
    obtain rfl | hw := mem_put hw
    · exact (Registry.mem_cells_ofSchema.1 hcell).2
    · exact Nat.lt_of_lt_of_le (hs.used cell ⟨w, hw, hcell⟩) hnext
  · -- New cells are in the new workspace alone.
    intro v hv w hw cell hcellv hcellw
    obtain rfl | hv := mem_put hv <;> obtain rfl | hw := mem_put hw
    · rfl
    · have hlt := hs.used cell ⟨w, hw, hcellw⟩
      exact absurd (Registry.mem_cells_ofSchema.1 hcellv).1 (Nat.not_le_of_lt hlt)
    · have hlt := hs.used cell ⟨v, hv, hcellv⟩
      exact absurd (Registry.mem_cells_ofSchema.1 hcellw).1 (Nat.not_le_of_lt hlt)
    · exact hs.separate v hv w hw cell hcellv hcellw
  · rintro cell hlt hfree ⟨w, hw, hcell⟩
    obtain rfl | hw := mem_put hw
    · exact absurd (Registry.mem_cells_ofSchema.1 hcell).1 (Nat.not_le_of_lt hlt)
    · exact hfree ⟨w, hw, hcell⟩

/-- It evolves where a session is deleted. -/
theorem evolves_delete (s : Store) (session : Text) : s.Evolves (s.delete session) := by
  have hheld : ∀ cell, (s.delete session).Holds cell → s.Holds cell :=
    fun _ ⟨w, hw, hcell⟩ => ⟨w, List.mem_of_mem_filter hw, hcell⟩
  refine ⟨fun hs => ⟨?_, fun w hw => ?_, fun c hc => hs.used c (hheld c hc), ?_⟩,
    Nat.le_refl _,
    fun _ _ _ => rfl, fun c _ hfree hc => hfree (hheld c hc)⟩
  · exact hs.distinct.sublist (List.filter_sublist.map _)
  · exact hs.simple w (List.mem_of_mem_filter hw)
  · exact fun v hv w hw =>
      hs.separate v (List.mem_of_mem_filter hv) w (List.mem_of_mem_filter hw)

/-- It evolves where a table is toggled. -/
theorem evolves_toggle (s : Store) (session table : Text) :
    s.Evolves (s.toggle session table) := by
  rw [toggle]
  split
  · next r h => exact evolves_of_touches h (Registry.touches_toggle table r _)
  · exact .refl s

/-- It evolves where all tables of a session are. -/
theorem evolves_toggleAll (s : Store) (session : Text) : s.Evolves (s.toggleAll session) := by
  rw [toggleAll]
  split
  · next r h => exact evolves_of_touches h (Registry.touches_toggleAll r _)
  · exact .refl s

/-- It evolves where tables are selected by their names. -/
theorem evolves_selectOnly {s s' : Store} {session : Text} {tables : List Text}
    (h : s.selectOnly session tables = .ok s') : s.Evolves s' := by
  rw [selectOnly] at h
  split at h
  · next r hr =>
    obtain ⟨m, hmarked, rfl⟩ := exists_of_map_eq_ok h
    exact evolves_of_touches hr (Registry.touches_selectOnly hmarked)
  · obtain rfl := Except.ok.inj h
    exact .refl s

/-- It evolves where a registry is copied. -/
theorem evolves_snapshot (s : Store) (session : Text) : s.Evolves (s.snapshot session).1 := by
  rw [snapshot]
  split
  · exact evolves_addAll s _
  · exact .refl s

/-- It evolves where tables are selected, if any are asked for. -/
theorem evolves_selecting {s s' : Store} {session : Text} {tables : Option (List Text)}
    (h : s.selecting session tables = .ok s') : s.Evolves s' := by
  cases tables with
  | none =>
    obtain rfl := Except.ok.inj h
    exact .refl s
  | some names => exact evolves_selectOnly h

/-- It evolves where a generation starts. -/
theorem evolves_start {s s' : Store} {session : Text} {tables : Option (List Text)}
    {copy : Option Registry} (h : s.start session tables = .ok (s', copy)) : s.Evolves s' := by
  obtain ⟨marked, hselecting, hsnapshot⟩ := exists_of_map_eq_ok h
  obtain rfl : (marked.snapshot session).1 = s' := congrArg Prod.fst hsnapshot
  exact (evolves_selecting hselecting).trans (evolves_snapshot marked session)

end Store

/-- **What every operation keeps.** -/
theorem evolves_run (e : Surroundings) (s : Store) (o : Operation) : s.Evolves (run e s o).1 := by
  cases o with
  | look session => exact .refl s
  | snapshot session => exact s.evolves_snapshot session
  | toggle session table => exact s.evolves_toggle session table
  | toggleAll session => exact s.evolves_toggleAll session
  | delete session => exact s.evolves_delete session
  | selectOnly session tables =>
    rw [run]
    split
    · next s' h => exact Store.evolves_selectOnly h
    · exact .refl s
  | generate session database tables =>
    rw [run]
    split
    · exact .refl s
    · next s' h => exact Store.evolves_start h
    · next s' copy h => exact Store.evolves_start h
  | parse session mode script =>
    rw [run, Store.parseInto]
    cases Schema.ofRequest (Pipeline.modeOf e.document) mode script with
    | error fault => exact .refl s
    | ok schema =>
      rw [Except.map]
      cases Text.nonempty? session with
      | some name => exact s.evolves_establish name script schema
      | none =>
        have h := s.evolves_establish (Tablesmith.Store.sessionName (s.named + 1)) script schema
        exact ⟨fun hs => ⟨(h.sound hs).distinct, (h.sound hs).simple, (h.sound hs).used,
          (h.sound hs).separate⟩, h.next, h.table, h.spares⟩

namespace Store

variable {s : Store}

/-- A session is found in the view as it is in the store. -/
theorem find?_view (s : Store) (session : Text) :
    s.view.find? session = (s.find? session).map (Workspace.view s.memory) :=
  List.find?_map ..

/-- The view shows the schema of a session. -/
theorem schema?_view (s : Store) (session : Text) : s.view.schema? session = s.schema? session := by
  rw [Tablesmith.Store.schema?, find?_view, schema?, registryOf?, Option.map_map, Option.map_map]
  rfl

/-- What is seen depends on the cells that are held alone. -/
theorem map_view_congr {m : Memory}
    (h : ∀ cell, s.Holds cell → m.table cell = s.memory.table cell) :
    s.workspaces.map (Workspace.view m) = s.workspaces.map (Workspace.view s.memory) :=
  List.map_congr_left fun w hw => by
    rw [Workspace.view, Registry.schema_congr fun cell hcell => h cell ⟨w, hw, hcell⟩]
    rfl

/-- New cells are not seen. -/
theorem view_addAll (hs : s.Sound) (tables : List Table) :
    { s with memory := s.memory.addAll tables }.view = s.view := by
  rw [view, map_view_congr fun cell hcell => Memory.table_addAll_of_lt (hs.used cell hcell) tables]
  rfl

/-- **Marks set in the cells of a session** are seen in that session alone. -/
theorem view_of_touches (hs : s.Sound) {session : Text} {r : Registry} {m : Memory}
    (h : s.registryOf? session = some r) (hm : r.Touches s.memory m) :
    { s with memory := m }.view = s.view.setSchema session (r.schema m) := by
  obtain ⟨v, hv, hsession, rfl⟩ := exists_of_registryOf? h
  have hworkspaces : s.workspaces.map (Workspace.view m) = (s.view.setSchema session
      (v.registry.schema m)).workspaces := by
    rw [Tablesmith.Store.setSchema, view, List.map_map]
    refine List.map_congr_left fun w hw => ?_
    rw [Function.comp_apply]
    by_cases hw' : w.session = session
    · obtain rfl : w = v :=
        List.inj_on_of_nodup_map hs.distinct hw hv (hw'.trans hsession.symm)
      rw [Workspace.session_view, if_pos hsession]
      rfl
    · have hcells : ∀ cell ∈ w.registry.cells, m.table cell = s.memory.table cell :=
        fun cell hcell => hm.table cell fun hheld =>
          hw' ((hs.separate w hw v hv cell hcell hheld).trans hsession)
      rw [Workspace.session_view, if_neg hw', Workspace.view, Registry.schema_congr hcells]
      rfl
  rw [view, hworkspaces]
  rfl

/-- No cell of a registry that is held is in it twice. -/
theorem nodup_of_registryOf? (hs : s.Sound) {session : Text} {r : Registry}
    (h : s.registryOf? session = some r) : r.cells.Nodup := by
  obtain ⟨w, hw, -, rfl⟩ := exists_of_registryOf? h
  exact hs.simple w hw

/-- A session is established as in the view. -/
theorem view_establish (hs : s.Sound) (session script : Text) (schema : Schema) :
    (s.establish session script schema).view = s.view.establish session script schema := by
  rw [establish, view, map_view_put,
    map_view_congr fun cell hcell => Memory.table_addAll_of_lt (hs.used cell hcell) _,
    Workspace.view, Registry.schema_ofSchema, Tablesmith.Store.establish, find?_view,
    Option.map_map]
  rfl

/-- A session is deleted as in the view. -/
theorem view_delete (s : Store) (session : Text) :
    (s.delete session).view = s.view.delete session := by
  rw [delete, view, Tablesmith.Store.delete, view, List.filter_map]
  rfl

/-- A table is toggled as in the view. -/
theorem view_toggle (hs : s.Sound) (session table : Text) :
    (s.toggle session table).view = s.view.toggle session table := by
  rw [toggle, Tablesmith.Store.toggle, schema?_view, schema?]
  cases h : s.registryOf? session with
  | none => rfl
  | some r =>
    have hmarked := view_of_touches hs h (Registry.touches_toggle table r s.memory)
    rwa [Registry.schema_toggle table (nodup_of_registryOf? hs h)] at hmarked

/-- All tables of a session are toggled as in the view. -/
theorem view_toggleAll (hs : s.Sound) (session : Text) :
    (s.toggleAll session).view = s.view.toggleAll session := by
  rw [toggleAll, Tablesmith.Store.toggleAll, schema?_view, schema?]
  cases h : s.registryOf? session with
  | none => rfl
  | some r =>
    have hmarked := view_of_touches hs h (Registry.touches_toggleAll r s.memory)
    rwa [Registry.schema_toggleAll (nodup_of_registryOf? hs h)] at hmarked

/-- Tables are selected by name as in the view. -/
theorem map_view_selectOnly (hs : s.Sound) (session : Text) (tables : List Text) :
    (s.selectOnly session tables).map view = s.view.selectOnly session tables := by
  rw [selectOnly, Tablesmith.Store.selectOnly, schema?_view, schema?]
  cases h : s.registryOf? session with
  | none => rfl
  | some r =>
    simp only [Option.map_some, ← Registry.map_selectOnly (nodup_of_registryOf? hs h)]
    cases hmarked : r.selectOnly tables s.memory with
    | error fault => rfl
    | ok m => exact congrArg Except.ok (view_of_touches hs h (Registry.touches_selectOnly hmarked))

/-- Tables are selected as in the view, if any are asked for. -/
theorem map_view_selecting (hs : s.Sound) (session : Text) (tables : Option (List Text)) :
    (s.selecting session tables).map view = Service.selecting s.view session tables := by
  cases tables with
  | none => rfl
  | some names => exact map_view_selectOnly hs session names

/-- A copy is not seen. -/
theorem view_snapshot (hs : s.Sound) (session : Text) : (s.snapshot session).1.view = s.view := by
  rw [snapshot]
  split
  · exact view_addAll hs _
  · rfl

/-- A copy shows what the session shows. -/
theorem map_schema_snapshot (s : Store) (session : Text) :
    (s.snapshot session).2.map (Registry.schema (s.snapshot session).1.memory) =
      s.schema? session := by
  rw [snapshot]
  cases s.schema? session with
  | none => rfl
  | some schema => exact congrArg some (Registry.schema_ofSchema s.memory schema)

/-- A start that asks for no tables makes a copy, and that is all. -/
theorem start_none (s : Store) (session : Text) :
    s.start session none = .ok (s.snapshot session) := rfl

/-- The start of a generation as it is seen. -/
theorem map_view_start (hs : s.Sound) (session : Text) (tables : Option (List Text)) :
    (s.start session tables).map (fun started =>
      (started.1.view, started.2.map (Registry.schema started.1.memory))) =
        Service.start s.view session tables := by
  rw [start, Service.start, ← map_view_selecting hs]
  cases h : s.selecting session tables with
  | error fault => rfl
  | ok marked =>
    have hview := view_snapshot ((evolves_selecting h).sound hs) session
    have hschema := map_schema_snapshot marked session
    simp only [Except.map, hview, hschema, schema?_view]

/-- The copy that a generation starts with shows what the session shows behind the selection. -/
theorem schema?_of_start (hs : s.Sound) {s' : Store} {session : Text} {tables : Option (List Text)}
    {copy : Registry} (h : s.start session tables = .ok (s', some copy)) :
    Service.selecting s.view session tables = .ok s'.view ∧
      s'.view.schema? session = some (copy.schema s'.memory) := by
  have hstart := map_view_start hs session tables
  rw [h] at hstart
  obtain ⟨marked, hselecting, hpair⟩ := exists_of_map_eq_ok hstart.symm
  obtain rfl : marked = s'.view := congrArg Prod.fst hpair
  exact ⟨hselecting, congrArg Prod.snd hpair⟩

/-- A copy is free, for its cells are new. -/
theorem isFree_snapshot (hs : s.Sound) {s' : Store} {session : Text} {copy : Registry}
    (h : s.snapshot session = (s', some copy)) : s'.IsFree copy := by
  rw [snapshot] at h
  split at h
  · cases h
    intro cell hcell
    obtain ⟨hge, hlt⟩ := Registry.mem_cells_ofSchema.1 hcell
    have hunheld : ¬ s.Holds cell := fun hheld => Nat.not_le_of_lt (hs.used cell hheld) hge
    exact ⟨hlt, hunheld⟩
  · cases h

/-- **The copy that a generation starts with is free.** -/
theorem isFree_start (hs : s.Sound) {s' : Store} {session : Text} {tables : Option (List Text)}
    {copy : Registry} (h : s.start session tables = .ok (s', some copy)) : s'.IsFree copy := by
  obtain ⟨marked, hselecting, hsnapshot⟩ := exists_of_map_eq_ok h
  have hmarked : marked.Sound := (evolves_selecting hselecting).sound hs
  exact isFree_snapshot hmarked hsnapshot

end Store

/-- **What is seen of an operation** is the operation on values. -/
theorem view_run (e : Surroundings) {s : Store} (hs : s.Sound) (o : Operation) :
    ((run e s o).1.view, (run e s o).2) = o.run e s.view := by
  cases o with
  | look session => rw [Operation.run, Store.find?_view, run]
  | snapshot session =>
    rw [Operation.run, Store.schema?_view, ← Store.map_schema_snapshot]
    exact Prod.ext (Store.view_snapshot hs session) rfl
  | toggle session table =>
    rw [Operation.run, run, Store.view_toggle hs, ← Store.schema?_view, Store.view_toggle hs]
  | toggleAll session =>
    rw [Operation.run, run, Store.view_toggleAll hs, ← Store.schema?_view, Store.view_toggleAll hs]
  | delete session =>
    rw [Operation.run, run, Store.view_delete, Store.find?_view, Option.isSome_map]
  | selectOnly session tables =>
    rw [Operation.run, run, ← Store.map_view_selectOnly hs]
    cases s.selectOnly session tables with
    | error fault => rfl
    | ok s' => simp only [Except.map, Store.schema?_view]
  | generate session database tables =>
    rw [Operation.run, run, Service.generate, ← Store.map_view_start hs]
    cases s.start session tables with
    | error fault => rfl
    | ok started =>
      obtain ⟨s', copy⟩ := started
      cases copy with
      | none => rfl
      | some copy =>
        simp only [Except.map, Option.map_some]
        cases Service.pause e.pause with
        | error fault => rfl
        | ok _ =>
          simp only [Except.bind]
          cases Service.finish e.document e.settings (copy.schema s'.memory) database <;> rfl
  | parse session mode script =>
    rw [Operation.run, run, Store.parseInto, Tablesmith.Store.parseInto]
    cases Schema.ofRequest (Pipeline.modeOf e.document) mode script with
    | error fault => rfl
    | ok schema =>
      simp only [Except.map]
      cases Text.nonempty? session with
      | some name => exact congrArg (·, _) (Store.view_establish hs name script schema)
      | none =>
        have h := Store.view_establish hs (Tablesmith.Store.sessionName (s.named + 1)) script schema
        refine congrArg (·, _) ?_
        show { (s.establish _ script schema).view with named := s.named + 1 } = _
        rw [h]
        rfl

end Shared
end Tablesmith
