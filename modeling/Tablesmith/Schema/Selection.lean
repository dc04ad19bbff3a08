/-
# Selecting tables

Which tables are selected is the only thing about a schema that changes. A toggle flips the first
table of its name; the other operations decide for every table at once.
-/

import Tablesmith.Schema.Basic

namespace Tablesmith
namespace Schema

/-- Flips the first table with the name. -/
def flipFirst (name : Text) : List Table → List Table
  | [] => []
  | t :: ts =>
    if t.name = name then { t with selected := !t.selected } :: ts else t :: flipFirst name ts

/-- Flips the first table with the name; an unknown name changes nothing. -/
def toggle (name : Text) (s : Schema) : Schema := { s with tables := flipFirst name s.tables }

/-- Selects exactly the tables that satisfy `p`. -/
def selectBy (p : Table → Bool) (s : Schema) : Schema :=
  { s with tables := s.tables.map fun t => { t with selected := p t } }

/-- Are all tables selected? -/
def allSelected (s : Schema) : Bool := s.tables.all Table.selected

/-- Selects all tables, or none if all are selected. -/
def toggleAll (s : Schema) : Schema := s.selectBy fun _ => !s.allSelected

/-- Selects no table. -/
def clearSelection (s : Schema) : Schema := s.selectBy fun _ => false

/-- The names that no table has, in order, repetitions kept. -/
def unknown (s : Schema) (names : List Text) : List Text :=
  names.filter fun n => n ∉ s.tableNames

/-- Selects exactly the tables with the given names, or refuses if one of them is unknown. -/
def selectOnly (names : List Text) (s : Schema) : Except Fault Schema :=
  if s.unknown names = [] then .ok (s.selectBy fun t => t.name ∈ names)
  else .error (.unknownTables (s.unknown names) s.tableNames)

/-- Gives the first table with the name another mark. -/
def setFirst (name : Text) (mark : Bool) : List Table → List Table
  | [] => []
  | t :: ts =>
    if t.name = name then { t with selected := mark } :: ts else t :: setFirst name mark ts

/-- Gives the first table with the name another mark. -/
def setSelected (name : Text) (mark : Bool) (s : Schema) : Schema :=
  { s with tables := setFirst name mark s.tables }

/-- Selecting tables leaves their names. -/
@[simp] theorem tableNames_selectBy (p : Table → Bool) (s : Schema) :
    (s.selectBy p).tableNames = s.tableNames := by
  simp [selectBy, tableNames]

/-- Toggling a table leaves the names. -/
@[simp] theorem tableNames_toggle (name : Text) (s : Schema) :
    (s.toggle name).tableNames = s.tableNames := by
  have h : ∀ ts : List Table, (flipFirst name ts).map Table.name = ts.map Table.name := by
    intro ts
    induction ts with
    | nil => rfl
    | cons t ts ih =>
      by_cases ht : t.name = name <;> simp [flipFirst, ht, ih]
  simp [toggle, tableNames, h]

/-- **Selecting is all or nothing:** it succeeds exactly if every name is a table's. -/
theorem selectOnly_isOk_iff (names : List Text) (s : Schema) :
    (∃ s', s.selectOnly names = .ok s') ↔ ∀ n ∈ names, n ∈ s.tableNames := by
  have key : s.unknown names = [] ↔ ∀ n ∈ names, n ∈ s.tableNames := by
    simp [unknown]
  by_cases h : s.unknown names = []
  · simpa [selectOnly, h] using key.1 h
  · simp only [selectOnly, h, if_false, reduceCtorEq, exists_false, false_iff]
    exact fun hall => h (key.2 hall)

end Schema
end Tablesmith
