/-
# Tables written out again

The tables of a script that is cut at every comma can be written as a script again, each in a line
of its own with its columns for segments, and reading that script gives them back
(`ofScript_script_ofTable`). The first script may be whatever it is: what was cut in the wrong place
stays as it was cut.

A column is a word, which is not the end of a statement, mentions no foreign key, and has no comma
in it (`isColumn_of_mem_all`). Between two columns there stand a comma and a space, so nothing comes
about at the places where they meet (`not_endsStatement_join`).
-/

import Tablesmith.Proofs.Sql.Shape
import Tablesmith.Proofs.Sql.Writing

namespace Tablesmith
namespace Sql

/-- What ends a statement does not reach beyond a character that is none of it. -/
theorem endsStatement_append_cons_iff {c : Char} (hblank : Text.isBlank c = false)
    (hsemicolon : c ≠ ';') (hclose : c ≠ ')') {s t : Text} :
    EndsStatement (s ++ c :: t) ↔ EndsStatement s ∨ EndsStatement t := by
  induction s with
  | nil => simp [endsStatement_cons_iff, hclose, not_endsStatement_nil]
  | cons d s ih =>
    rw [List.cons_append, endsStatement_cons_iff, endsStatement_cons_iff,
      isSome_afterSemicolon?_append hblank hsemicolon, ih, or_assoc]

/-- Joining by commas ends no statement. -/
theorem not_endsStatement_join {pieces : List Text} (h : ∀ p ∈ pieces, ¬ EndsStatement p) :
    ¬ EndsStatement (Text.join [','] pieces) := by
  induction pieces with
  | nil => exact not_endsStatement_nil
  | cons p ps ih =>
    obtain ⟨hp, hps⟩ := List.forall_mem_cons.1 h
    cases ps with
    | nil => rwa [Text.join_singleton]
    | cons q qs =>
      rw [Text.join_cons_cons, List.singleton_append,
        endsStatement_append_cons_iff (by decide) (by decide) (by decide), not_or]
      exact ⟨hp, ih hps⟩

/-- Where no segment ends the statement, their body does not end it either. -/
theorem not_endsStatement_body {d : Written} (h : ∀ s ∈ d.segments, ¬ EndsStatement s) :
    ¬ EndsStatement d.body := by
  rw [Written.body]
  cases hsegments : d.segments with
  | nil => exact not_endsStatement_nil
  | cons s segments =>
    rw [hsegments] at h
    obtain ⟨hs, hrest⟩ := List.forall_mem_cons.1 h
    rw [join_comma_space]
    refine not_endsStatement_join (List.forall_mem_cons.2 ⟨hs, List.forall_mem_map.2 ?_⟩)
    intro t ht
    rw [endsStatement_cons_iff]
    rintro (⟨hspace, -⟩ | hends)
    · cases hspace
    · exact hrest t ht hends

/-- A word that is a column of its own where every comma cuts. -/
structure IsColumn (t : Text) : Prop where
  ne_nil : t ≠ []
  not_blank : ∀ c ∈ t, Text.isBlank c = false
  comma_notMem : ',' ∉ t
  not_foreign : Column.mentionsForeignKey t = false
  not_ending : ¬ EndsStatement t

/-- **The columns that are found are columns of their own.** -/
theorem isColumn_of_mem_all {body column : Text} (hbody : ¬ EndsStatement body)
    (h : column ∈ Column.all .legacy body) : IsColumn column where
  ne_nil := Column.ne_nil_of_mem_all h
  not_blank := Column.not_blank_of_mem_all h
  comma_notMem := Column.comma_notMem_of_mem_legacy h
  not_foreign := by
    obtain ⟨s, -, hplain, rfl⟩ := Column.mem_all_iff.1 h
    rw [Bool.eq_false_iff]
    intro hmentions
    have hwhole :=
      Column.mentionsForeignKey_of_isInfix (Text.firstWord_isPrefix s).isInfix hmentions
    rw [Column.isConstraint, hwhole] at hplain
    cases hplain
  not_ending hends := hbody (hends.of_isInfix (Column.isInfix_of_mem_all h))

namespace IsColumn

variable {t : Text}

/-- A column has a word, so it is not blank. -/
theorem isAllBlank_eq_false (h : IsColumn t) : Text.isAllBlank t = false := by
  obtain ⟨c, t, rfl⟩ := List.exists_cons_of_ne_nil h.ne_nil
  rw [Text.isAllBlank, List.all_cons, h.not_blank c (List.mem_cons_self ..), Bool.false_and]

/-- A column begins and ends with no blank. -/
theorem isTrimmed (h : IsColumn t) : Text.IsTrimmed t :=
  ⟨fun c hc => h.not_blank c (List.mem_of_mem_head? hc),
    fun c hc => h.not_blank c (List.mem_of_getLast? hc)⟩

end IsColumn

/-- The segments of a body of columns are these columns. -/
theorem legacy_body {d : Written} (h : ∀ s ∈ d.segments, IsColumn s) :
    Segment.legacy d.body = d.segments := by
  rw [Segment.legacy, Written.body]
  cases hsegments : d.segments with
  | nil => rfl
  | cons s segments =>
    rw [hsegments] at h
    have hpieces : ∀ p ∈ s :: segments.map (' ' :: ·), Text.cutAt ',' p = [p] := by
      obtain ⟨hs, hrest⟩ := List.forall_mem_cons.1 h
      refine List.forall_mem_cons.2 ⟨Text.cutAt_of_not_mem hs.comma_notMem,
        List.forall_mem_map.2 fun t ht => Text.cutAt_of_not_mem ?_⟩
      rw [List.mem_cons, not_or]
      exact ⟨by decide, (hrest t ht).comma_notMem⟩
    rw [join_comma_space, Segment.cutAt_join (List.cons_ne_nil _ _), List.flatMap_congr hpieces,
      List.flatMap_singleton',
      tidy_written (fun t ht => (h t ht).isAllBlank_eq_false) fun t ht => (h t ht).isTrimmed]

/-- The columns of a body of columns are the ones that were written. -/
theorem all_legacy_body {d : Written} (h : ∀ s ∈ d.segments, IsColumn s) :
    Column.all .legacy d.body = d.segments := by
  have hplain : ∀ s ∈ d.segments, (!Column.isConstraint .legacy s) = true := fun s hs => by
    rw [Column.isConstraint, (h s hs).not_foreign, Bool.not_false]
  have hword : ∀ s ∈ d.segments, Text.firstWord s = s := fun s hs =>
    Text.firstWord_eq_self (h s hs).not_blank
  rw [Column.all, Segment.all, legacy_body h, List.filter_eq_self.2 hplain,
    List.map_congr_left hword, List.map_id']

/-- Reading at every comma undoes the writing of columns. -/
theorem ofScript_script_of_columns {ds : List Written} (hname : ∀ d ∈ ds, d.name ∈ Grammar.name)
    (hcolumns : ∀ d ∈ ds, ∀ s ∈ d.segments, IsColumn s) :
    Table.ofScript .legacy (Written.script ds) =
      ds.map fun d => { name := d.name, columns := d.segments } := by
  have hbody : ∀ d ∈ ds, ¬ EndsStatement d.body := fun d hd =>
    not_endsStatement_body fun s hs => (hcolumns d hd s hs).not_ending
  rw [Table.ofScript, all_script_of_forall hname hbody, List.map_map]
  refine List.map_congr_left fun d hd => ?_
  rw [Function.comp_apply, Table.ofDeclaration, all_legacy_body (hcolumns d hd)]

/-- The declaration of a table: its columns are the segments. -/
def Written.ofTable (t : Table) : Written := ⟨t.name, t.columns⟩

/-- **The tables of a script are a normal form.** Written out, each in a line of its own with its
columns between commas, they are what is read again, whatever the script was that they came from. -/
theorem ofScript_script_ofTable (script : Text) :
    Table.ofScript .legacy
        (Written.script ((Table.ofScript .legacy script).map Written.ofTable)) =
      Table.ofScript .legacy script := by
  have hname : ∀ t ∈ Table.ofScript .legacy script, t.name ∈ Grammar.name := by
    intro t ht
    obtain ⟨d, hd, rfl⟩ := List.mem_map.1 ht
    exact Declaration.mem_name_of_mem_all hd
  have hcolumns : ∀ t ∈ Table.ofScript .legacy script, ∀ s ∈ t.columns, IsColumn s := by
    intro t ht s hs
    obtain ⟨d, hd, rfl⟩ := List.mem_map.1 ht
    exact isColumn_of_mem_all (Declaration.not_endsStatement_of_mem_all hd) hs
  -- none of them is selected, so name and columns are all there is
  have hself : ∀ t ∈ Table.ofScript .legacy script,
      ({ name := t.name, columns := t.columns } : Table) = t := by
    intro t ht
    obtain ⟨d, -, rfl⟩ := List.mem_map.1 ht
    rfl
  rw [ofScript_script_of_columns (List.forall_mem_map.2 hname) (List.forall_mem_map.2 hcolumns),
    List.map_map]
  exact (List.map_congr_left hself).trans (List.map_id _)

/-- Columns that were cut in the wrong places, and a body whose last column is a parenthesis. -/
example : Table.ofScript .legacy "create table x(price NUMERIC(8,2), 'a;b' c, )\n) ;" =
      [{ name := "x", columns := ["price", "2)", "'a;b'", ")"] }] ∧
    Written.script [.ofTable { name := "x", columns := ["price", "2)", "'a;b'", ")"] }] =
      "CREATE TABLE x (price, 2), 'a;b', ));\n".toList := by
  decide +kernel

end Sql
end Tablesmith
