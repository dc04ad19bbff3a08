/-
# Tables by their names

All that is asked of a single table is asked by its name, and a name leads to the first table that
has it (`leadsTo_of_place?`). Nothing keeps a script from declaring a name twice, with other columns
or the same, and each declaration is a table of its own. Then the name leads to the first of them
only, and the others are out of reach: no run of toggles ever changes their marks
(`getElem?_toggles`).

So names tell tables apart exactly if no name is declared twice (`nodup_tableNames_iff`).
-/

import Mathlib.Data.List.Nodup
import Tablesmith.Proofs.Schema.Marks

namespace Tablesmith
namespace Schema

/-- The place of the first table with the name. -/
def place? (s : Schema) (name : Text) : Option Nat := s.tableNames.findIdx? (· == name)

/-- The schema with the table at the place `i` flipped, and no other. -/
def flipAt (i : Nat) (s : Schema) : Schema := s.remark fun j t => j == i ^^ t.selected

/-- The schema behind a toggle of each of the names. -/
def toggles (names : List Text) (s : Schema) : Schema := names.foldl (fun s n => s.toggle n) s

/-- To look the name up gives the table at the place `i`, and to toggle the name flips that table
and no other. -/
def LeadsTo (s : Schema) (name : Text) (i : Nat) : Prop :=
  s.find? name = s.tables[i]? ∧ s.toggle name = s.flipAt i

instance decidableLeadsTo (s : Schema) (name : Text) (i : Nat) : Decidable (s.LeadsTo name i) :=
  inferInstanceAs (Decidable (_ ∧ _))

/-- Toggling moves no table. -/
theorem place?_toggle (s : Schema) (name other : Text) :
    (s.toggle name).place? other = s.place? other := by
  rw [place?, place?, tableNames_toggle]

/-- A place that is found has the name, and no place in front of it has. -/
theorem place?_eq_some_iff {s : Schema} {name : Text} {i : Nat} :
    s.place? name = some i ↔
      s.tableNames[i]? = some name ∧ ∀ j < i, s.tableNames[j]? ≠ some name := by
  rw [place?, List.findIdx?_eq_some_iff_getElem]
  constructor
  · rintro ⟨hi, hname, hbefore⟩
    refine ⟨List.getElem?_eq_some_iff.2 ⟨hi, beq_iff_eq.1 hname⟩, fun j hj hother => ?_⟩
    obtain ⟨_, hother⟩ := List.getElem?_eq_some_iff.1 hother
    exact hbefore j hj (beq_iff_eq.2 hother)
  · rintro ⟨hname, hbefore⟩
    obtain ⟨hi, hname⟩ := List.getElem?_eq_some_iff.1 hname
    refine ⟨hi, beq_iff_eq.2 hname, fun j hj hother => hbefore j hj ?_⟩
    exact List.getElem?_eq_some_iff.2 ⟨Nat.lt_trans hj hi, beq_iff_eq.1 hother⟩

/-- A name in the list has a first place, no later than the one where it was seen. -/
theorem exists_place? {s : Schema} {name : Text} {i : Nat} (h : s.tableNames[i]? = some name) :
    ∃ j ≤ i, s.place? name = some j := by
  cases hplace : s.place? name with
  | none =>
    have hnone := List.findIdx?_eq_none_iff.1 hplace name (List.mem_of_getElem? h)
    simp at hnone
  | some j =>
    refine ⟨j, Nat.le_of_not_lt fun hlt => ?_, rfl⟩
    exact (place?_eq_some_iff.1 hplace).2 i hlt h

/-- **A name leads to the first table that has it.** -/
theorem leadsTo_of_place? {s : Schema} {name : Text} {i : Nat} (h : s.place? name = some i) :
    s.LeadsTo name i := by
  constructor
  · have hfirst : s.tables.findIdx? (fun t => t.name == name) = some i := by
      rw [← h, place?, tableNames, List.findIdx?_map]
      rfl
    rw [find?, List.find?_eq_bind_findIdx?_getElem?, hfirst]
    rfl
  · rw [toggle_eq, flipAt]
    congr 1
    funext j t
    rw [isFirst, ← place?, h, BEq.comm (a := j)]
    rfl

/-- Flips at different places give different schemas. -/
theorem flipAt_inj {s : Schema} {i j : Nat} (hi : i < s.tables.length)
    (h : s.flipAt i = s.flipAt j) : i = j := by
  have hmarks := congrArg (fun s' : Schema => (s'.tables[i]?).map Table.selected) h
  simp only [flipAt, remark, List.getElem?_mapIdx, List.getElem?_eq_getElem hi, Option.map_some,
    beq_self_eq_true, Option.some.injEq, Bool.xor_left_inj] at hmarks
  exact beq_iff_eq.1 hmarks.symm

/-- **Every name leads to its own table** exactly if no two tables have one name. -/
theorem nodup_tableNames_iff (s : Schema) :
    s.tableNames.Nodup ↔ ∀ i name, s.tableNames[i]? = some name → s.LeadsTo name i := by
  constructor
  · intro hnodup i name hname
    obtain ⟨j, -, hplace⟩ := exists_place? hname
    have hj := (place?_eq_some_iff.1 hplace).1
    have hlength := (List.getElem?_eq_some_iff.1 hname).1
    obtain rfl : i = j := (List.getElem?_inj hlength hnodup).1 (hname.trans hj.symm)
    exact leadsTo_of_place? hplace
  · intro hleads
    rw [List.nodup_iff_getElem?_ne_getElem?]
    intro i j hij hj hsame
    have hi : i < s.tableNames.length := Nat.lt_trans hij hj
    have hname := List.getElem?_eq_getElem hi
    have hflip := (hleads i _ hname).2.symm.trans (hleads j _ (hsame.symm.trans hname)).2
    have hlength : i < s.tables.length := by rwa [tableNames, List.length_map] at hi
    exact absurd (flipAt_inj hlength hflip) (Nat.ne_of_lt hij)

/-- A toggle leaves the mark of a table that no name leads to. -/
theorem getElem?_toggle {s : Schema} {i : Nat} (h : ∀ name, s.place? name ≠ some i) (name : Text) :
    (s.toggle name).tables[i]? = s.tables[i]? := by
  have hnot : s.isFirst name i = false := beq_eq_false_iff_ne.2 (h name)
  rw [toggle_eq, remark, List.getElem?_mapIdx, hnot]
  cases s.tables[i]? <;> simp

/-- **A table that no name leads to is out of reach,** whatever names are toggled. -/
theorem getElem?_toggles {s : Schema} {i : Nat} (h : ∀ name, s.place? name ≠ some i)
    (names : List Text) : (s.toggles names).tables[i]? = s.tables[i]? := by
  induction names generalizing s with
  | nil => rfl
  | cons n ns ih =>
    show ((s.toggle n).toggles ns).tables[i]? = _
    rw [ih fun name => by rw [place?_toggle]; exact h name, getElem?_toggle h]

/-- Of the tables with one name the first is the one that the name leads to, and the others are out
of reach. -/
theorem exists_leadsTo {s : Schema} {name : Text} {i : Nat} (h : s.tableNames[i]? = some name) :
    ∃ j ≤ i, s.tableNames[j]? = some name ∧ s.LeadsTo name j ∧
      (j ≠ i → ∀ names, (s.toggles names).tables[i]? = s.tables[i]?) := by
  obtain ⟨j, hle, hplace⟩ := exists_place? h
  refine ⟨j, hle, (place?_eq_some_iff.1 hplace).1, leadsTo_of_place? hplace, fun hne => ?_⟩
  refine getElem?_toggles fun other hother => hne ?_
  have hsame : name = other := Option.some.inj (h.symm.trans (place?_eq_some_iff.1 hother).1)
  rw [← hsame, hplace] at hother
  exact Option.some.inj hother

/-- **A script's names tell its tables apart exactly if it declares none of them twice.** The tables
are called as the declarations are, in their order and with repetitions. Each name leads to the
first table that has it, and the others are out of reach. -/
theorem nodup_tableNames_ofScript_iff (mode : Sql.SplitMode) (script : Text) :
    (ofScript mode script).tableNames =
        (Sql.Declaration.all script).map Sql.Declaration.name ∧
      ((ofScript mode script).tableNames.Nodup ↔
        ∀ i name, (ofScript mode script).tableNames[i]? = some name →
          (ofScript mode script).LeadsTo name i) ∧
      ∀ i name, (ofScript mode script).tableNames[i]? = some name →
        ∃ j ≤ i, (ofScript mode script).tableNames[j]? = some name ∧
          (ofScript mode script).LeadsTo name j ∧
          (j ≠ i → ∀ names, ((ofScript mode script).toggles names).tables[i]? =
            (ofScript mode script).tables[i]?) := by
  refine ⟨?_, nodup_tableNames_iff _, fun i name h => exists_leadsTo h⟩
  rw [tableNames, ofScript, Table.ofScript, List.map_map]
  rfl

/-- One name for two tables, and another one for a third. -/
def namesakes : Text :=
  "CREATE TABLE a (x INT);\nCREATE TABLE b (y INT);\nCREATE TABLE a (z INT);"

/-- The second of two namesakes cannot be toggled, and the name leads to the first. -/
theorem leadsTo_namesakes :
    (ofScript .legacy namesakes).tableNames[2]? = some "a".toList ∧
      ∃ j ≤ 2, (ofScript .legacy namesakes).tableNames[j]? = some "a".toList ∧
        (ofScript .legacy namesakes).LeadsTo "a" j ∧
        (j ≠ 2 → ∀ names, ((ofScript .legacy namesakes).toggles names).tables[2]? =
          (ofScript .legacy namesakes).tables[2]?) := by
  have hname : (ofScript .legacy namesakes).tableNames[2]? = some "a".toList := by decide +kernel
  exact ⟨hname, (nodup_tableNames_ofScript_iff .legacy namesakes).2.2 2 "a" hname⟩

/-- The third table has the name of the first, which does not lead to it. -/
theorem not_nodup_namesakes :
    ¬ (ofScript .legacy namesakes).tableNames.Nodup ∧
      (ofScript .legacy namesakes).tableNames[2]? = some "a".toList ∧
      (ofScript .legacy namesakes).find? "a" ≠ (ofScript .legacy namesakes).tables[2]? ∧
      (ofScript .legacy namesakes).toggle "a" = (ofScript .legacy namesakes).flipAt 0 ∧
      (ofScript .legacy namesakes).toggle "a" ≠ (ofScript .legacy namesakes).flipAt 2 := by
  decide +kernel

end Schema
end Tablesmith
