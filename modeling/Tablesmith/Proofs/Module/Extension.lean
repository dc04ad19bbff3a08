/-
# Modules with more tables

Base names are chosen from the first table to the last, and a name that is chosen is not changed any
more. So what a module holds for a table depends on that table and those in front of it:

| the tables | the plan of a table |
| --- | --- |
| others come behind it | as without them (`exists_all_append`) |
| the names of all differ in lower case | as if there were no others (`all_eq_map_alone`) |

In the second row a name that looks numbered does no harm: numbers are given only where two names
are the same, so there no name is numbered at all, and the order of the tables does not count.

Main statement: `all_extends`.
-/

import Mathlib.Data.List.Perm.Basic
import Tablesmith.Proofs.Module.Layout

namespace Tablesmith

/-- What a module holds for one table: its section, its check, and the names of its functions. -/
structure Share where
  sectionText : Text
  checkText : Text
  names : List Text
deriving Repr, DecidableEq

namespace Plan

/-- What a module holds for the table of a plan. -/
def share (p : Plan) : Share where
  sectionText := p.sectionText
  checkText := p.checkFunction.text
  names := p.accessors.names ++ [p.check]

/-- The plan for a table without any others. -/
def alone (t : Table) : Plan := ofTable t (Naming.lowerIdentifier t.name)

/-- Plans are made without looking at the tables behind. -/
theorem exists_all_append (ts us : List Table) :
    ∃ more, all (ts ++ us) = all ts ++ more ∧ more.map table = us := by
  let name (t : Table) : Text := Naming.lowerIdentifier t.name
  let taken : List Text := (Naming.unique [] (ts.map name)).reverse ++ []
  have hall : all (ts ++ us) =
      all ts ++ us.zipWith ofTable (Naming.unique taken (us.map name)) := by
    rw [all, List.map_append, Naming.unique_append, List.zipWith_append (by simp)]
    rfl
  refine ⟨_, hall, ?_⟩
  -- The plans of all the tables are for these in order, and so are those in front.
  have htables := map_table_all (ts ++ us)
  rw [hall, List.map_append, map_table_all] at htables
  exact List.append_cancel_left htables

/-- The plans for tables begin with those for the first of them. -/
theorem all_isPrefix (ts us : List Table) : all ts <+: all (ts ++ us) := by
  obtain ⟨more, hmore, -⟩ := exists_all_append ts us
  exact ⟨more, hmore.symm⟩

/-- **Names that differ keep tables out of each other's way.** -/
theorem all_eq_map_alone {ts : List Table}
    (h : (ts.map fun t => Naming.lowerIdentifier t.name).Nodup) : all ts = ts.map alone := by
  rw [all, Naming.unique_eq_self h fun _ _ => List.not_mem_nil, List.zipWith_map_right,
    List.zipWith_self]
  rfl

/-- The plan for a single table is the one that it has alone. -/
theorem all_singleton (t : Table) : all [t] = [alone t] :=
  all_eq_map_alone (List.nodup_singleton _)

/-- The functions that are reported are those of the plans. -/
theorem functions_ofTables (tables : List Table) (wanted : Option Text) (s : Settings) :
    (Generation.ofTables tables wanted s).functions = (all tables).map accessors := by
  cases tables <;> rfl

/-- **More tables change nothing of what was generated before.** With tables put behind others, the
plans, sections and checks of these are the same, and so are the names of their functions, those
that are reported included. If the names of some tables differ in lower case, then in any order of
them each has the plan, the section and the check that it has without the others. -/
theorem all_extends (ts us : List Table) :
    (all ts <+: all (ts ++ us) ∧ (all ts).map table = ts ∧
      (all ts).map share <+: (all (ts ++ us)).map share ∧
      ∀ (wanted : Option Text) (database : Text) (s : Settings),
        (draft (all ts) database s).sections <+: (draft (all (ts ++ us)) database s).sections ∧
        (Generation.ofTables ts wanted s).functions <+:
          (Generation.ofTables (ts ++ us) wanted s).functions) ∧
    ((ts.map fun t => Naming.lowerIdentifier t.name).Nodup → ∀ vs : List Table, vs.Perm ts →
      all vs = vs.flatMap (fun t => all [t]) ∧
      (all vs).map share = vs.flatMap fun t => (all [t]).map share) := by
  have hbegins : all ts <+: all (ts ++ us) := all_isPrefix ts us
  refine ⟨⟨hbegins, map_table_all ts, hbegins.map share, fun wanted database s => ⟨?_, ?_⟩⟩, ?_⟩
  · exact hbegins.map _
  · rw [functions_ofTables, functions_ofTables]
    exact hbegins.map accessors
  · intro h vs hvs
    have hnames : (vs.map fun t => Naming.lowerIdentifier t.name).Nodup :=
      (List.Perm.map _ hvs).nodup_iff.2 h
    have hplans : all vs = vs.flatMap fun t => all [t] := by
      simp only [all_eq_map_alone hnames, all_singleton, List.map_eq_flatMap]
    exact ⟨hplans, by rw [← List.map_flatMap, ← hplans]⟩

/-- Two names that differ, although one looks like the other with a number behind it. -/
theorem all_extends_numbered :
    let shelf : Table := { name := "Shelf", columns := ["id", "room"] }
    let second : Table := { name := "shelf_2", columns := ["id"] }
    all [second, shelf] = all [second] ++ all [shelf] ∧
      (all [second, shelf]).map share = (all [second]).map share ++ (all [shelf]).map share ∧
      (all [shelf, second]).map share <+: (all [shelf, second, shelf]).map share := by
  intro shelf second
  have hnames : ([shelf, second].map fun t => Naming.lowerIdentifier t.name).Nodup := by
    decide +kernel
  obtain ⟨⟨-, -, hshares, -⟩, horder⟩ := all_extends [shelf, second] [shelf]
  obtain ⟨hall, hshare⟩ := horder hnames [second, shelf] (List.Perm.swap ..)
  simp only [List.flatMap_cons, List.flatMap_nil, List.append_nil] at hall hshare
  exact ⟨hall, hshare, hshares⟩

end Plan
end Tablesmith
