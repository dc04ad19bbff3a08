/-
# The functions of a table

Names of the script stand all over the functions that are generated for a table: in documentation,
in messages, in literals, in the heads of functions. None of them can end its line, each for a
reason of its own:

| what | where | why |
| --- | --- | --- |
| a column as it is written | the comment above the functions | a column has no blanks |
| an identifier | heads and calls | it is made of word characters |
| a label | comments, documentation, messages | it keeps word characters, dots and dashes |
| all else | literals | a literal escapes line endings |

So a plan whose columns stay on their lines (`Plan.IsPlain`) has functions whose lines stay the
lines that they are, and its section defines the functions that are reported
(`defines_sectionText`).
-/

import Tablesmith.Module.Check
import Tablesmith.Proofs.Module.Definition

namespace Tablesmith

open Text (IsLine isLine_append_iff isLine_literal)
open Naming (Fits isLine_label)
open Definition (Defines AllDefine IsQuiet isQuiet_append defines_unlines)
open Tablesmith.Function (isLine_doc_iff isLine_call_iff isLine_tuple_iff isLine_commas_iff)

namespace Sample

/-- Every sample value is that of a rule. -/
theorem exists_valueOf_eq (column : Text) : ∃ s ∈ fallback :: rules, valueOf column = s.value := by
  refine ⟨ofColumn column, ?_, rfl⟩
  rw [ofColumn]
  cases hfind : rules.find? fun s => s.covers column with
  | none => exact List.mem_cons_self ..
  | some s => exact List.mem_cons_of_mem _ (List.mem_of_find?_eq_some hfind)

/-- A sample value is one line. -/
theorem isLine_valueOf (column : Text) : IsLine (valueOf column) := by
  have hrules : ∀ s ∈ fallback :: rules, IsLine s.value := by
    delta fallback rules
    simp only [List.forall_mem_cons]
    -- Texts are decided character by character, which is slow for a string and quick for a list.
    repeat rw [String.toList_ofList]
    decide
  obtain ⟨s, hs, hvalue⟩ := exists_valueOf_eq column
  rw [hvalue]
  exact hrules s hs

end Sample

namespace Plan

/-- The rule between sections is quiet. -/
theorem isQuiet_rule : IsQuiet rule := by
  delta rule
  rw [String.toList_ofList]
  decide

/-- The lines that run a statement are lines if what they are made of is. -/
theorem isLine_guarded {function sql args result failed : Text} (hfunction : IsLine function)
    (hsql : IsLine sql) (hargs : IsLine args) (hresult : IsLine result) (hfailed : IsLine failed) :
    ∀ l ∈ guarded function sql args result failed, IsLine l := by
  simp only [guarded, List.forall_mem_cons, isLine_append_iff, hfunction, hsql, hargs, hresult,
    hfailed, and_true]
  repeat rw [String.toList_ofList]
  decide

/-- A message, piece by piece. -/
theorem logLine_eq (p : Plan) (formatted : Bool) (message : Text) :
    p.logLine formatted message = ("_log(" : Text) ++ (if formatted then ['f'] else []) ++ "\""
      ++ p.label ++ ": " ++ message ++ "\")" := rfl

/-- A message is one line if its text is: the label always stays on it. -/
theorem isLine_logLine_iff {p : Plan} {formatted : Bool} {message : Text} :
    IsLine (p.logLine formatted message) ↔ IsLine message := by
  have hfront : IsLine (("_log(" : Text) ++ (if formatted then ['f'] else []) ++ "\"" ++ p.label
      ++ ": ") := by
    simp only [isLine_append_iff, label, isLine_label, and_true]
    cases formatted <;> decide
  rw [logLine_eq]
  exact Function.isLine_between_iff _ hfront (by decide)

/-- A field is one line if its expression is. -/
theorem isLine_hole_iff {expression : Text} : IsLine (hole expression) ↔ IsLine expression :=
  Function.isLine_between_iff ['\x7b'] (by decide) (by decide)

/-- The line that registers a check, piece by piece. -/
theorem checkEntry_eq (p : Plan) :
    p.checkEntry = ("    (" : Text) ++ Text.literal p.label ++ ", " ++ p.check ++ ")," := rfl

/-- What keeps the functions of a plan on their lines. -/
structure IsPlain (p : Plan) : Prop where
  columns : ∀ c ∈ p.table.columns, IsLine c
  base : Fits p.base
  keyParam : Fits p.keyParam
  insertParams : ∀ x ∈ p.insertParams, Fits x
  updateParams : ∀ x ∈ p.updateParams, Fits x

/-- The parameters of columns fit on a line. -/
theorem fits_params (columns : List Text) : ∀ x ∈ params columns, Fits x := by
  refine Naming.fits_unique (List.forall_mem_map.2 fun c _ => ?_) bodyNames
  exact Naming.fits_identifier c

/-- So does the parameter of the key. -/
theorem fits_keyParamFor (key : Text) (others : List Text) : Fits (keyParamFor key others) := by
  simp only [keyParamFor]
  split
  · refine Naming.fits_fresh (Naming.fits_append_iff.2 ⟨by decide, ?_⟩) _
    exact Naming.fits_identifier key
  · exact Naming.fits_identifier key

/-- **Plans are plain** if the columns of their tables stay on their lines. -/
theorem isPlain_of_mem_all {tables : List Table}
    (h : ∀ t ∈ tables, ∀ c ∈ t.columns, IsLine c) : ∀ p ∈ all tables, p.IsPlain := by
  intro p hp
  rw [all, ← List.map_uncurry_zip_eq_zipWith] at hp
  obtain ⟨⟨t, base⟩, hpair, rfl⟩ := List.mem_map.1 hp
  obtain ⟨ht, hbase⟩ := List.of_mem_zip hpair
  have hfits : Fits base := by
    refine Naming.fits_unique (List.forall_mem_map.2 fun u _ => ?_) [] base hbase
    exact Naming.fits_lowerIdentifier u.name
  exact ⟨h t ht, hfits, fits_keyParamFor _ _, fits_params _, fits_params _⟩

namespace IsPlain

variable {p : Plan}

/-- The parameters for inserting stay on their line. -/
theorem isLine_insertParams (h : p.IsPlain) : ∀ x ∈ p.insertParams, IsLine x :=
  fun x hx => (h.insertParams x hx).isLine

/-- So do those for updating. -/
theorem isLine_updateParams (h : p.IsPlain) : ∀ x ∈ p.updateParams, IsLine x :=
  fun x hx => (h.updateParams x hx).isLine

/-- Every function of a plan is named after the plan's base. -/
theorem fits_behind (h : p.IsPlain) {front : Text} (hfront : Fits front) : Fits (front ++ p.base) :=
  Naming.fits_append_iff.2 ⟨hfront, h.base⟩

/-- The name of the function that looks up fits on a line. -/
theorem fits_getById (h : p.IsPlain) : Fits p.getById :=
  Naming.fits_append_iff.2 ⟨h.fits_behind (by decide), by decide⟩

/-- The function that lists is plain. -/
theorem isPlain_listFunction (h : p.IsPlain) : p.listFunction.IsPlain where
  decorators := by rintro l ⟨⟩
  name := h.fits_behind (by decide)
  params := by rintro l ⟨⟩
  body := by
    simp only [listFunction, List.forall_mem_cons, isLine_doc_iff, isLine_append_iff,
      isLine_call_iff, isLine_literal, label, isLine_label, and_true, true_and]
    repeat rw [String.toList_ofList]
    decide

/-- The function that looks up is plain. -/
theorem isPlain_lookupFunction (h : p.IsPlain) : p.lookupFunction.IsPlain where
  decorators := by rintro l ⟨⟩
  name := h.fits_getById
  params := List.forall_mem_singleton.2 h.keyParam.isLine
  body := by
    have hkey : IsLine p.keyParam := h.keyParam.isLine
    simp only [lookupFunction, List.forall_mem_cons, isLine_doc_iff, isLine_append_iff,
      isLine_call_iff, isLine_tuple_iff, isLine_literal, label, isLine_label, hkey, and_true,
      true_and]
    repeat rw [String.toList_ofList]
    decide

/-- The function that inserts is plain. -/
theorem isPlain_insertFunction (h : p.IsPlain) : p.insertFunction.IsPlain where
  decorators := by rintro l ⟨⟩
  name := h.fits_behind (by decide)
  params := h.isLine_insertParams
  body := by
    have hargs : IsLine (if p.insertColumns.isEmpty then ("sql" : Text)
        else ("sql, " : Text) ++ Function.tuple p.insertParams) := by
      split
      · decide
      · exact isLine_append_iff.2 ⟨by decide, isLine_tuple_iff.2 h.isLine_insertParams⟩
    refine List.forall_mem_append.2 ⟨List.forall_mem_append.2 ⟨?_, ?_⟩, by decide⟩
    · simp only [List.forall_mem_singleton, isLine_doc_iff, isLine_append_iff, label, isLine_label]
      repeat rw [String.toList_ofList]
      decide
    · exact isLine_guarded (h.fits_behind (by decide)).isLine (isLine_literal _) hargs (by decide)
        (by decide)

/-- The function that updates is plain. -/
theorem isPlain_updateFunction (h : p.IsPlain) : p.updateFunction.IsPlain := by
  have hkey : IsLine p.keyParam := h.keyParam.isLine
  have hname : Fits p.update := h.fits_behind (by decide)
  rw [updateFunction]
  split
  · refine ⟨by rintro l ⟨⟩, hname, List.forall_mem_singleton.2 hkey, ?_⟩
    simp only [List.forall_mem_cons, isLine_doc_iff, isLine_append_iff, isLine_call_iff, label,
      isLine_label, hkey, h.fits_getById.isLine, true_and]
    repeat rw [String.toList_ofList]
    decide
  · have hvalues : ∀ x ∈ p.updateValues, IsLine x :=
      List.forall_mem_append.2 ⟨h.isLine_updateParams, List.forall_mem_singleton.2 hkey⟩
    refine ⟨by rintro l ⟨⟩, hname, List.forall_mem_cons.2 ⟨hkey, h.isLine_updateParams⟩, ?_⟩
    refine List.forall_mem_append.2 ⟨List.forall_mem_append.2 ⟨?_, ?_⟩, ?_⟩
    · simp only [List.forall_mem_singleton, isLine_doc_iff, isLine_append_iff, label, isLine_label]
      repeat rw [String.toList_ofList]
      decide
    · exact isLine_guarded hname.isLine (isLine_literal _)
        (isLine_append_iff.2 ⟨by decide, isLine_tuple_iff.2 hvalues⟩) (by decide) (by decide)
    · simp only [List.forall_mem_cons, isLine_append_iff, label, isLine_label, hname.isLine, hkey,
        and_true]
      repeat rw [String.toList_ofList]
      decide

/-- The function that deletes is plain. -/
theorem isPlain_deleteFunction (h : p.IsPlain) : p.deleteFunction.IsPlain where
  decorators := by rintro l ⟨⟩
  name := h.fits_behind (by decide)
  params := List.forall_mem_singleton.2 h.keyParam.isLine
  body := by
    have hargs : IsLine (("sql, " : Text) ++ Function.tuple [p.keyParam]) :=
      isLine_append_iff.2
        ⟨by decide, isLine_tuple_iff.2 (List.forall_mem_singleton.2 h.keyParam.isLine)⟩
    refine List.forall_mem_append.2 ⟨List.forall_mem_append.2 ⟨?_, ?_⟩, by decide⟩
    · simp only [List.forall_mem_singleton, isLine_doc_iff, isLine_append_iff, label, isLine_label]
      repeat rw [String.toList_ofList]
      decide
    · exact isLine_guarded (h.fits_behind (by decide)).isLine (isLine_literal _) hargs (by decide)
        (by decide)

/-- All five functions of a plan are plain. -/
theorem isPlain_functions (h : p.IsPlain) : ∀ f ∈ p.functions, f.IsPlain := by
  simp only [functions, List.forall_mem_cons]
  exact ⟨h.isPlain_listFunction, h.isPlain_lookupFunction, h.isPlain_insertFunction,
    h.isPlain_updateFunction, h.isPlain_deleteFunction, by rintro f ⟨⟩⟩

/-- The comment above them is quiet. -/
theorem isQuiet_header (h : p.IsPlain) : ∀ l ∈ p.header, IsQuiet l := by
  have hcolumns : IsLine (if (Function.commas p.table.columns).isEmpty then ("(none)" : Text)
      else Function.commas p.table.columns) := by
    split
    · decide
    · exact isLine_commas_iff.2 h.columns
  simp only [header, List.forall_mem_cons]
  exact ⟨isQuiet_rule, isQuiet_append (by decide) (isLine_label _),
    isQuiet_append (by decide) hcolumns,
    isQuiet_append (by decide) (isLine_label _), isQuiet_rule, by rintro l ⟨⟩⟩

/-- The section of a table defines the functions that are reported. -/
theorem defines_sectionText (h : p.IsPlain) : Defines p.sectionText p.accessors.names := by
  rw [← map_name_functions]
  refine Function.defines_apart (AllDefine.cons (defines_unlines h.isQuiet_header) ?_)
  exact Function.allDefine h.isPlain_functions

/-- The check is plain. -/
theorem isPlain_checkFunction (h : p.IsPlain) : p.checkFunction.IsPlain where
  decorators := by rintro l ⟨⟩
  name := h.fits_behind (by decide)
  params := by rintro l ⟨⟩
  body := by
    have hkey : ∀ a ∈ (["key"] : List Text), IsLine a := by decide
    have hvalues : ∀ columns : List Text, ∀ a ∈ columns.map Sample.valueOf, IsLine a :=
      fun columns => List.forall_mem_map.2 fun c _ => Sample.isLine_valueOf c
    have hlist : IsLine (Function.call p.listAll []) :=
      isLine_call_iff.2 ⟨(h.fits_behind (by decide)).isLine, by rintro a ⟨⟩⟩
    have hfetch : IsLine (Function.call p.getById ["key"]) :=
      isLine_call_iff.2 ⟨h.fits_getById.isLine, hkey⟩
    have hinsert : IsLine (Function.call p.insert p.insertArgs) :=
      isLine_call_iff.2 ⟨(h.fits_behind (by decide)).isLine, hvalues p.insertColumns⟩
    have hrowKey : IsLine (Function.call "created.get" [Text.literal (Naming.rowKey p.key)]) :=
      isLine_call_iff.2 ⟨by decide, List.forall_mem_singleton.2 (isLine_literal _)⟩
    have hupdate : IsLine (Function.call p.update p.updateArgs) :=
      isLine_call_iff.2 ⟨(h.fits_behind (by decide)).isLine,
        List.forall_mem_cons.2 ⟨by decide, hvalues p.updateColumns⟩⟩
    have hdelete : IsLine (Function.call p.delete ["key"]) :=
      isLine_call_iff.2 ⟨(h.fits_behind (by decide)).isLine, hkey⟩
    simp only [checkFunction, List.forall_mem_cons, isLine_doc_iff, isLine_append_iff,
      isLine_logLine_iff, isLine_hole_iff, label, isLine_label, hlist, hfetch, hinsert, hrowKey,
      hupdate, hdelete, and_true]
    repeat rw [String.toList_ofList]
    decide

/-- The line that registers a check is one line. -/
theorem isLine_checkEntry (h : p.IsPlain) : IsLine p.checkEntry := by
  have hcheck : IsLine p.check := (h.fits_behind (by decide)).isLine
  simp only [checkEntry_eq, isLine_append_iff, isLine_literal, hcheck, and_true]
  decide

end IsPlain
end Plan
end Tablesmith
