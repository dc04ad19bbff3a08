/-
# Registries

The store holds schemas as values: to mark a table is to put another schema in its place. Here the
tables stand in the cells of a memory instead. A registry holds the cells of its tables, and marks
are set in place, so that whoever holds the registry sees them:

| what is done | what becomes of the memory |
| --- | --- |
| a schema is put up | its tables are put in new cells |
| tables are marked | the marks are set in the cells of the registry |

Where no table is there twice, marks that are set in place show as marks of the schema
(`schema_toggle`, `schema_selectBy`, `map_selectOnly`). Other cells are left alone (`Touches`).
-/

import Mathlib.Data.List.Nodup
import Mathlib.Logic.Function.Basic
import Tablesmith.Schema.Selection

namespace Tablesmith
namespace Shared

/-- Cells that hold tables. Those from `next` on are not in use. -/
structure Memory where
  table : Nat → Table := fun _ => default
  next : Nat := 0

namespace Memory

/-- Sets the mark of the table in a cell. -/
def mark (m : Memory) (cell : Nat) (selected : Bool) : Memory :=
  { m with table := Function.update m.table cell { m.table cell with selected := selected } }

/-- Puts a table in a new cell. -/
def add (m : Memory) (t : Table) : Memory where
  table := Function.update m.table m.next t
  next := m.next + 1

/-- Puts tables in new cells, one behind the other. -/
def addAll (m : Memory) (tables : List Table) : Memory := tables.foldl add m

/-- Several tables are put in cells one by one. -/
theorem addAll_cons (m : Memory) (t : Table) (ts : List Table) :
    m.addAll (t :: ts) = (m.add t).addAll ts := rfl

/-- A mark in one cell changes no other. -/
theorem table_mark_of_ne (m : Memory) {cell c : Nat} (h : c ≠ cell) (selected : Bool) :
    (m.mark cell selected).table c = m.table c :=
  Function.update_of_ne h ..

/-- Each new table takes one cell. -/
theorem next_addAll (m : Memory) (ts : List Table) : (m.addAll ts).next = m.next + ts.length := by
  induction ts generalizing m with
  | nil => rfl
  | cons t ts ih =>
    rw [addAll_cons, ih, List.length_cons]
    show m.next + 1 + ts.length = _
    omega

/-- Cells that are in use stay in use. -/
theorem next_le_addAll (m : Memory) (ts : List Table) : m.next ≤ (m.addAll ts).next := by
  rw [next_addAll]
  exact Nat.le_add_right ..

/-- What is in use is not written over. -/
theorem table_addAll_of_lt {m : Memory} {c : Nat} (hc : c < m.next) (ts : List Table) :
    (m.addAll ts).table c = m.table c := by
  induction ts generalizing m with
  | nil => rfl
  | cons t ts ih =>
    rw [addAll_cons, ih (Nat.lt_succ_of_lt hc)]
    exact Function.update_of_ne (Nat.ne_of_lt hc) ..

/-- The new cells hold the tables. -/
theorem map_table_addAll (m : Memory) (ts : List Table) :
    (List.range' m.next ts.length).map (m.addAll ts).table = ts := by
  induction ts generalizing m with
  | nil => rfl
  | cons t ts ih =>
    rw [List.length_cons, List.range'_succ, List.map_cons, addAll_cons,
      table_addAll_of_lt (Nat.lt_succ_self m.next)]
    exact congrArg₂ _ (Function.update_self ..) (ih (m.add t))

end Memory

/-- A schema whose tables stand in cells. -/
structure Registry where
  cells : List Nat
  databaseName : Option Text
  databaseStatements : List Text
  splitMode : Sql.SplitMode

namespace Registry

/-- What the registry shows. -/
def schema (m : Memory) (r : Registry) : Schema where
  tables := r.cells.map m.table
  databaseName := r.databaseName
  databaseStatements := r.databaseStatements
  splitMode := r.splitMode

/-- A registry of new cells that is to show a schema. -/
def ofSchema (m : Memory) (s : Schema) : Registry where
  cells := List.range' m.next s.tables.length
  databaseName := s.databaseName
  databaseStatements := s.databaseStatements
  splitMode := s.splitMode

/-- Sets the mark of each table. -/
def selectBy (p : Table → Bool) (r : Registry) (m : Memory) : Memory :=
  r.cells.foldl (fun m c => m.mark c (p (m.table c))) m

/-- Flips the mark of the first table with the name. -/
def toggle (name : Text) (r : Registry) (m : Memory) : Memory :=
  match r.cells.find? fun c => (m.table c).name = name with
  | some c => m.mark c (!(m.table c).selected)
  | none => m

/-- Marks all tables, or none if all are marked. -/
def toggleAll (r : Registry) (m : Memory) : Memory :=
  r.selectBy (fun _ => !(r.schema m).allSelected) m

/-- Marks exactly the tables with the given names, or refuses if one of them is unknown. -/
def selectOnly (names : List Text) (r : Registry) (m : Memory) : Except Fault Memory :=
  let unknown := (r.schema m).unknown names
  if unknown = [] then .ok (r.selectBy (fun t => t.name ∈ names) m)
  else .error (.unknownTables unknown (r.schema m).tableNames)

/-- What a registry shows depends on its own cells alone. -/
theorem schema_congr {m m' : Memory} {r : Registry}
    (h : ∀ c ∈ r.cells, m'.table c = m.table c) : r.schema m' = r.schema m := by
  rw [schema, schema, List.map_congr_left h]

/-- A new registry shows the schema that it was made of. -/
theorem schema_ofSchema (m : Memory) (s : Schema) :
    (ofSchema m s).schema (m.addAll s.tables) = s := by
  rw [schema, ofSchema, Memory.map_table_addAll]

/-- Its cells are those that the tables were put in. -/
theorem mem_cells_ofSchema {m : Memory} {s : Schema} {c : Nat} :
    c ∈ (ofSchema m s).cells ↔ m.next ≤ c ∧ c < (m.addAll s.tables).next := by
  rw [ofSchema, List.mem_range'_1, Memory.next_addAll]

/-- The memory has changed in the cells of the registry alone. -/
structure Touches (r : Registry) (m m' : Memory) : Prop where
  next : m'.next = m.next
  table : ∀ c, c ∉ r.cells → m'.table c = m.table c

/-- A mark in one of its cells touches the registry only. -/
theorem touches_mark {r : Registry} {cell : Nat} (h : cell ∈ r.cells) (m : Memory)
    (selected : Bool) : r.Touches m (m.mark cell selected) :=
  ⟨rfl, fun _ hc => m.table_mark_of_ne (ne_of_mem_of_not_mem h hc).symm selected⟩

/-- Toggling a name touches the registry only. -/
theorem touches_toggle (name : Text) (r : Registry) (m : Memory) :
    r.Touches m (r.toggle name m) := by
  rw [toggle]
  split
  · next c hc => exact touches_mark (List.mem_of_find?_eq_some hc) m _
  · exact ⟨rfl, fun _ _ => rfl⟩

/-- Selecting touches the registry only. -/
theorem touches_selectBy (p : Table → Bool) (r : Registry) (m : Memory) :
    r.Touches m (r.selectBy p m) := by
  have hfold : ∀ cells : List Nat, (∀ c ∈ cells, c ∈ r.cells) → ∀ m : Memory,
      r.Touches m (cells.foldl (fun m c => m.mark c (p (m.table c))) m) := by
    intro cells
    induction cells with
    | nil => exact fun _ m => ⟨rfl, fun _ _ => rfl⟩
    | cons c cs ih =>
      intro hcells m
      obtain ⟨hc, hcs⟩ := List.forall_mem_cons.1 hcells
      have hfirst := touches_mark hc m (p (m.table c))
      have hrest := ih hcs (m.mark c (p (m.table c)))
      exact ⟨hrest.next.trans hfirst.next,
        fun d hd => (hrest.table d hd).trans (hfirst.table d hd)⟩
  exact hfold r.cells (fun _ hc => hc) m

/-- Toggling all touches the registry only. -/
theorem touches_toggleAll (r : Registry) (m : Memory) : r.Touches m (r.toggleAll m) :=
  touches_selectBy _ r m

/-- **Marks set in place** show as marks of the schema, if no table is there twice. -/
theorem schema_selectBy (p : Table → Bool) {r : Registry} (h : r.cells.Nodup) (m : Memory) :
    r.schema (r.selectBy p m) = (r.schema m).selectBy p := by
  have hfold : ∀ cells : List Nat, cells.Nodup → ∀ m : Memory,
      cells.map (cells.foldl (fun m c => m.mark c (p (m.table c))) m).table =
        (cells.map m.table).map fun t => { t with selected := p t } := by
    intro cells
    induction cells with
    | nil => exact fun _ _ => rfl
    | cons c cs ih =>
      intro hcells m
      obtain ⟨hc, hcs⟩ := List.nodup_cons.1 hcells
      -- The first cell is marked before the others, which leave it alone.
      have htouches := touches_selectBy p { r with cells := cs } (m.mark c (p (m.table c)))
      have hrest : ∀ d ∈ cs, (m.mark c (p (m.table c))).table d = m.table d :=
        fun d hd => m.table_mark_of_ne (ne_of_mem_of_not_mem hd hc) _
      rw [List.foldl_cons, List.map_cons, List.map_cons, List.map_cons, ih hcs,
        List.map_congr_left hrest]
      refine congrArg (· :: _) ((htouches.table c hc).trans ?_)
      exact Function.update_self ..
  rw [schema, selectBy, hfold r.cells h m]
  rfl

/-- A toggle of the registry shows as a toggle of its schema. -/
theorem schema_toggle (name : Text) {r : Registry} (h : r.cells.Nodup) (m : Memory) :
    r.schema (r.toggle name m) = (r.schema m).toggle name := by
  have hcells : ∀ cells : List Nat, cells.Nodup →
      cells.map (match cells.find? fun c => (m.table c).name = name with
        | some c => m.mark c (!(m.table c).selected)
        | none => m).table = Schema.flipFirst name (cells.map m.table) := by
    intro cells
    induction cells with
    | nil => exact fun _ => rfl
    | cons c cs ih =>
      intro hnodup
      obtain ⟨hc, hcs⟩ := List.nodup_cons.1 hnodup
      rw [List.map_cons, List.map_cons, Schema.flipFirst]
      by_cases hname : (m.table c).name = name
      · have hrest : ∀ d ∈ cs, (m.mark c (!(m.table c).selected)).table d = m.table d :=
          fun d hd => m.table_mark_of_ne (ne_of_mem_of_not_mem hd hc) _
        rw [List.find?_cons_of_pos (by simpa using hname), if_pos hname,
          List.map_congr_left hrest]
        exact congrArg (· :: _) (Function.update_self ..)
      · rw [List.find?_cons_of_neg (by simpa using hname), if_neg hname, ← ih hcs]
        exact congrArg (· :: _) ((touches_toggle name { r with cells := cs } m).table c hc)
  exact congrArg (fun tables => { r.schema m with tables := tables }) (hcells r.cells h)

/-- A toggle of all its tables shows as one of its schema. -/
theorem schema_toggleAll {r : Registry} (h : r.cells.Nodup) (m : Memory) :
    r.schema (r.toggleAll m) = (r.schema m).toggleAll :=
  schema_selectBy _ h m

/-- A selection is refused as it is for the schema. -/
theorem map_selectOnly {r : Registry} (h : r.cells.Nodup) (names : List Text) (m : Memory) :
    (r.selectOnly names m).map (fun m' => r.schema m') = (r.schema m).selectOnly names := by
  rw [selectOnly, Schema.selectOnly]
  split
  · exact congrArg Except.ok (schema_selectBy _ h m)
  · rfl

/-- Selecting by name touches the registry only. -/
theorem touches_selectOnly {names : List Text} {r : Registry} {m m' : Memory}
    (h : r.selectOnly names m = .ok m') : r.Touches m m' := by
  rw [selectOnly] at h
  split at h
  · obtain rfl := Except.ok.inj h
    exact touches_selectBy _ r m
  · cases h

end Registry

end Shared
end Tablesmith
