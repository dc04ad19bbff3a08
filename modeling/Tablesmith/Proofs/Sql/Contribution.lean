/-
# What each segment contributes

The columns of a body are put together from its segments: each of those that are cut out outside
literals and parentheses contributes, in its place, the columns that it has as a body of its own
(`all_eq_flatMap`). That is so in both modes, because cutting at every comma goes on from these
segments. So the two modes are compared segment by segment.

In depth-aware mode a segment contributes its first word or nothing (`all_of_mem_depthAware`). If it
contributes its first word, it also does so in the other mode, where it may have to be cut within
the word and may contribute more (`map_takeWhile_sublist`).
-/

import Mathlib.Data.List.Flatten
import Tablesmith.Proofs.Sql.Refinement
import Tablesmith.Proofs.Text.Part
import Tablesmith.Sql.Column

namespace Tablesmith
namespace Sql

namespace Segment

/-- The pieces that a body is cut into in the given mode, with commas between them. -/
theorem exists_pieces (mode : SplitMode) (body : Text) :
    ∃ pieces, all mode body = tidy pieces ∧ Text.join [','] pieces = body := by
  cases mode with
  | legacy => exact ⟨Text.cutAt ',' body, rfl, Text.join_cutAt ',' body⟩
  | depthAware =>
    exact ⟨Nesting.cut .outside body, Nesting.depthAware_eq body,
      (Nesting.isFactorisation_iff.2 rfl).join⟩

section

variable {mode : SplitMode} {body s : Text}

/-- A segment stands in the body. -/
theorem isInfix_of_mem_all (h : s ∈ all mode body) : s <:+: body := by
  obtain ⟨pieces, hall, hjoin⟩ := exists_pieces mode body
  rw [hall] at h
  obtain ⟨p, hp, -, rfl⟩ := mem_tidy_iff.1 h
  rw [← hjoin]
  exact (Text.trim_isInfix p).trans (Text.isInfix_join hp)

/-- A segment has no blanks around it. -/
theorem isTrimmed_of_mem_all (h : s ∈ all mode body) : Text.IsTrimmed s := by
  obtain ⟨pieces, hall, -⟩ := exists_pieces mode body
  rw [hall] at h
  obtain ⟨p, -, -, rfl⟩ := mem_tidy_iff.1 h
  exact Text.isTrimmed_trim p

/-- No segment is empty. -/
theorem ne_nil_of_mem_all (h : s ∈ all mode body) : s ≠ [] := by
  obtain ⟨pieces, hall, -⟩ := exists_pieces mode body
  rw [hall] at h
  obtain ⟨p, -, hblank, rfl⟩ := mem_tidy_iff.1 h
  intro hnil
  rw [← Text.isAllBlank_trim, hnil] at hblank
  cases hblank

/-- No comma is left where every comma cuts. -/
theorem comma_notMem_of_mem_legacy (h : s ∈ legacy body) : ',' ∉ s := by
  obtain ⟨p, hp, -, rfl⟩ := mem_tidy_iff.1 h
  exact fun hmem => Text.not_mem_of_mem_cutAt hp ((Text.trim_isInfix p).subset hmem)

/-- What begins with no blank and no comma is cut at its first comma, and the piece in front of it
is kept. -/
theorem exists_legacy_eq {c : Char} {t : Text} (hblank : Text.isBlank c = false)
    (hcomma : c ≠ ',') :
    ∃ others, legacy (c :: t) = Text.trim (c :: t.takeWhile (· != ',')) :: others := by
  obtain ⟨pieces, hcut⟩ := Text.cutAt_eq_takeWhile ',' (c :: t)
  have hkept : Text.isAllBlank (c :: t.takeWhile (· != ',')) = false := by
    rw [Text.isAllBlank, List.all_cons, hblank, Bool.false_and]
  rw [List.takeWhile_cons_of_pos (by simpa using hcomma)] at hcut
  refine ⟨tidy pieces, ?_⟩
  rw [legacy, hcut, tidy, List.filter_cons_of_pos (by simp [hkept])]
  rfl

/-- A comma in front would have cut. -/
theorem head?_ne_comma_of_mem_depthAware (h : s ∈ depthAware body) : s.head? ≠ some ',' := by
  intro hhead
  obtain ⟨t, rfl⟩ := List.head?_eq_some_iff.1 hhead
  exact Nesting.covers_of_mem_depthAware h [] t rfl rfl

end

/-- **Both modes go on from the segments outside:** cutting each of them gives what cutting the body
gives. -/
theorem all_eq_flatMap (mode : SplitMode) (body : Text) :
    all mode body = (depthAware body).flatMap (all mode) := by
  cases mode with
  | legacy => exact (Nesting.flatMap_legacy_depthAware body).symm
  | depthAware =>
    have hself : ∀ s ∈ depthAware body, all .depthAware s = [s] := fun s =>
      Nesting.depthAware_of_mem
    rw [List.flatMap_congr hself, List.flatMap_singleton']
    rfl

end Segment

namespace Column

/-- The columns are the first words of the segments that are no constraints. -/
theorem mem_all_iff {mode : SplitMode} {body column : Text} :
    column ∈ all mode body ↔
      ∃ s ∈ Segment.all mode body, isConstraint mode s = false ∧ Text.firstWord s = column := by
  simp only [all, List.mem_map, List.mem_filter, Bool.not_eq_true', and_assoc]

/-- **The columns come from the segments outside,** each of which has those that it has as a body of
its own. -/
theorem all_eq_flatMap (mode : SplitMode) (body : Text) :
    all mode body = (Segment.depthAware body).flatMap (all mode) := by
  rw [all, Segment.all_eq_flatMap, List.filter_flatMap, List.map_flatMap]
  rfl

/-- A segment has its first word for a column, or none. -/
theorem all_of_mem_depthAware {body s : Text} (h : s ∈ Segment.depthAware body) :
    all .depthAware s = if isConstraint .depthAware s then [] else [Text.firstWord s] := by
  rw [all, Segment.all, Nesting.depthAware_of_mem h]
  cases hconstraint : isConstraint .depthAware s <;> simp [hconstraint]

/-- The two words are found in every text around the one that holds them. -/
theorem mentionsForeignKey_of_isInfix {s t : Text} (h : s <:+: t) (hs : mentionsForeignKey s) :
    mentionsForeignKey t :=
  Text.contains_upper_of_isInfix h hs

/-- Cut at every comma, a segment has its first word for a column, up to a comma in it, and perhaps
others. -/
theorem exists_all_legacy_eq {c : Char} {t : Text} (hblank : Text.isBlank c = false)
    (hcomma : c ≠ ',') (hforeign : mentionsForeignKey (c :: t) = false) :
    ∃ others, all .legacy (c :: t) = (Text.firstWord (c :: t)).takeWhile (· != ',') :: others := by
  obtain ⟨others, hlegacy⟩ := Segment.exists_legacy_eq hblank hcomma (t := t)
  have hfront : c :: t.takeWhile (· != ',') = (c :: t).takeWhile (· != ',') := by simp [hcomma]
  have hplain : mentionsForeignKey (Text.trim (c :: t.takeWhile (· != ','))) = false := by
    rw [Bool.eq_false_iff]
    intro hmentions
    have hpart : Text.trim (c :: t.takeWhile (· != ',')) <:+: c :: t :=
      (Text.trim_isInfix _).trans (hfront ▸ (List.takeWhile_prefix _).isInfix)
    rw [mentionsForeignKey_of_isInfix hpart hmentions] at hforeign
    cases hforeign
  have hword : Text.firstWord (Text.trim (c :: t.takeWhile (· != ','))) =
      (Text.firstWord (c :: t)).takeWhile (· != ',') := by
    have hflush : Text.IsFlush (c :: t.takeWhile (· != ',')) := by
      rintro _ ⟨⟩
      exact hblank
    rw [Text.firstWord_trim hflush, hfront, Text.firstWord_takeWhile]
  refine ⟨(others.filter fun s => !isConstraint .legacy s).map Text.firstWord, ?_⟩
  rw [all, Segment.all, hlegacy, List.filter_cons_of_pos (by simp [isConstraint, hplain]),
    List.map_cons, hword]

/-- **Looking at literals and parentheses invents no column.** Cut at their first commas, the
columns of the one mode come in the same order among those of the other. -/
theorem map_takeWhile_sublist (body : Text) :
    ((all .depthAware body).map fun column => column.takeWhile (· != ',')).Sublist
      (all .legacy body) := by
  rw [all_eq_flatMap .depthAware, all_eq_flatMap .legacy, List.map_flatMap]
  refine List.Sublist.flatMap_right _ fun s hs => ?_
  rw [all_of_mem_depthAware hs]
  split
  · exact List.nil_sublist _
  · next hplain =>
    have hsegment : s ∈ Segment.all .depthAware body := hs
    obtain ⟨c, t, rfl⟩ := List.exists_cons_of_ne_nil (Segment.ne_nil_of_mem_all hsegment)
    have hblank := (Segment.isTrimmed_of_mem_all hsegment).1 c rfl
    have hcomma : c ≠ ',' := fun hc =>
      Segment.head?_ne_comma_of_mem_depthAware hs (congrArg some hc)
    simp only [isConstraint, Bool.or_eq_true, not_or, Bool.not_eq_true] at hplain
    obtain ⟨others, hlegacy⟩ := exists_all_legacy_eq hblank hcomma hplain.1
    rw [hlegacy, List.map_singleton]
    exact (List.nil_sublist _).cons_cons _

end Column
end Sql
end Tablesmith
