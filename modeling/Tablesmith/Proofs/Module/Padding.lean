/-
# Padding of drafts

A part of a draft counts as blank by one notion of white space and is trimmed by another: a part of
blanks and tabs is left out, but those at the ends of a part with something in it stay. So a part is
written as it is between its outer newlines (`Strips`):

| part | written |
| --- | --- |
| `\n a\n\n` | ` a` |
| `\n \t\n` | nothing |
| `a\n \n` | `a\n ` |

What is written begins and ends with no newline, so the newlines that are put between two parts and
behind the last one are all that stand there (`cutAt_join`). Newlines at the ends of a part and
blank sections do not show (`Draft.Pads`), however often they are added and taken away.

Main statement: `Draft.text_padded`.
-/

import Mathlib.Data.List.Forall2
import Mathlib.Logic.Relation
import Tablesmith.Module.Draft
import Tablesmith.Proofs.Text.OneLine

namespace Tablesmith

namespace Text

/-- The second text is the first one with newlines at its ends. -/
def Pads (t u : Text) : Prop :=
  ∃ m n, u = List.replicate m '\n' ++ t ++ List.replicate n '\n'

/-- The second text is what stands between the newlines at the ends of the first one. -/
structure Strips (part t : Text) : Prop where
  pads : Pads t part
  head : ∀ c ∈ t.head?, c ≠ '\n'
  last : ∀ c ∈ t.getLast?, c ≠ '\n'

/-- What is joined begins with its first part, if this is not empty. -/
theorem head?_join {sep part : Text} (h : part ≠ []) (parts : List Text) :
    (join sep (part :: parts)).head? = part.head? := by
  obtain ⟨c, cs, rfl⟩ := List.exists_cons_of_ne_nil h
  cases parts with
  | nil => rw [Text.join_singleton]
  | cons next parts => rw [Text.join_cons_cons]; rfl

end Text

namespace Draft

open Text (Strips cutAt join)

/-- Stripping a part leaves what stands between the newlines at its ends. -/
theorem strips_strip (part : Text) : Strips part (strip part) := by
  obtain ⟨front, back, hfront, hback, hpart⟩ := Text.exists_eq_trimBy (· == '\n') part
  have hends := Text.not_of_mem_ends_trimBy (p := (· == '\n')) (t := part)
  have hnewlines : ∀ t : Text, t.all (· == '\n') → t = List.replicate t.length '\n' :=
    fun t ht => List.eq_replicate_of_mem fun c hc => beq_iff_eq.1 (List.all_eq_true.1 ht c hc)
  refine ⟨⟨front.length, back.length, ?_⟩, fun c hc => ?_, fun c hc => ?_⟩
  · rw [← hnewlines front hfront, ← hnewlines back hback]
    exact hpart
  · exact beq_eq_false_iff_ne.1 (hends.1 c hc)
  · exact beq_eq_false_iff_ne.1 (hends.2 c hc)

/-- Copies of a newline are newlines. -/
theorem mem_replicate_newline {n : Nat} : ∀ c ∈ List.replicate n '\n', (c == '\n') = true :=
  fun _ hc => beq_iff_eq.2 (List.eq_of_mem_replicate hc)

/-- Newlines at the ends make no difference to what is stripped. -/
theorem strip_of_pads {t u : Text} (h : Text.Pads t u) : strip u = strip t := by
  obtain ⟨m, n, rfl⟩ := h
  rw [strip, Text.trimBy_append_of_back mem_replicate_newline,
    Text.trimBy_append_of_front mem_replicate_newline]
  rfl

/-- They make none to whether a text is blank. -/
theorem isAllBlank_of_pads {t u : Text} (h : Text.Pads t u) :
    Text.isAllBlank u = Text.isAllBlank t := by
  obtain ⟨m, n, rfl⟩ := h
  have hnewlines : ∀ n, (List.replicate n '\n').all Text.isBlank = true := fun n =>
    List.all_eq_true.2 fun c hc => by rw [List.eq_of_mem_replicate hc]; decide
  rw [Text.isAllBlank, List.all_append, List.all_append, hnewlines, hnewlines, Bool.true_and,
    Bool.and_true]
  rfl

/-- What is left of a part that is not blank is not empty. -/
theorem strip_ne_nil {part : Text} (h : Text.isAllBlank part = false) : strip part ≠ [] := by
  intro hstrip
  have hblank := isAllBlank_of_pads (strips_strip part).pads
  rw [h, hstrip] at hblank
  cases hblank

/-- What a part adds to the parts that are written. -/
def writtenOf (part : Text) : List Text := if Text.isAllBlank part then [] else [strip part]

/-- A draft writes what each of its parts adds. -/
theorem written_eq (d : Draft) : d.written = d.parts.flatMap writtenOf := by
  rw [written]
  generalize d.parts = parts
  induction parts with
  | nil => rfl
  | cons part parts ih =>
    rw [List.flatMap_cons, writtenOf, List.filter_cons]
    cases Text.isAllBlank part with
    | true => exact ih
    | false => exact congrArg (strip part :: ·) ih

/-- **Parts are two empty lines apart:** the lines of parts with three newlines between any two are
their lines with two empty ones between them. -/
theorem cutAt_join (part : Text) (parts : List Text) :
    cutAt '\n' (join "\n\n\n" (part :: parts)) =
      [[], []].intercalate ((part :: parts).map (cutAt '\n')) := by
  induction parts generalizing part with
  | nil => rw [Text.join_singleton, List.map_singleton, List.intercalate_singleton]
  | cons next parts ih =>
    have hgap : join "\n\n\n" (part :: next :: parts) =
        part ++ '\n' :: '\n' :: '\n' :: join "\n\n\n" (next :: parts) := Text.join_cons_cons ..
    have hempty : ∀ t, cutAt '\n' ('\n' :: t) = [] :: cutAt '\n' t := fun t => if_pos rfl
    rw [hgap, Text.cutAt_append, hempty, hempty, ih, List.map_cons, List.map_cons, List.map_cons,
      List.intercalate_cons_cons, List.append_assoc]
    rfl

/-- The second sections are the first ones with newlines at the ends of their texts and blank
sections anywhere between them. What the tables are called does not matter. -/
inductive PadsSections : List (Text × Text) → List (Text × Text) → Prop
  | nil : PadsSections [] []
  | blank {table part : Text} {ss ts : List (Text × Text)} : Text.isAllBlank part →
      PadsSections ss ts → PadsSections ss ((table, part) :: ts)
  | padded {table table' part part' : Text} {ss ts : List (Text × Text)} : Text.Pads part part' →
      PadsSections ss ts → PadsSections ((table, part) :: ss) ((table', part') :: ts)

/-- The second draft is the first one with newlines at the ends of its parts and with blank
sections. -/
structure Pads (d e : Draft) : Prop where
  preamble : Text.Pads d.preamble e.preamble
  sections : PadsSections d.sections e.sections
  checks : Text.Pads d.checks e.checks
  footer : Text.Pads d.footer e.footer

/-- Newlines at the ends of a part make no difference to what it adds. -/
theorem writtenOf_of_pads {t u : Text} (h : Text.Pads t u) : writtenOf u = writtenOf t := by
  rw [writtenOf, writtenOf, isAllBlank_of_pads h, strip_of_pads h]

/-- Sections that are padded add what they added before. -/
theorem PadsSections.flatMap_writtenOf {ss ts : List (Text × Text)} (h : PadsSections ss ts) :
    (ts.map Prod.snd).flatMap writtenOf = (ss.map Prod.snd).flatMap writtenOf := by
  induction h with
  | nil => rfl
  | blank hblank _ ih => rw [List.map_cons, List.flatMap_cons, writtenOf, if_pos hblank, ih]; rfl
  | padded hpads _ ih =>
    rw [List.map_cons, List.map_cons, List.flatMap_cons, List.flatMap_cons,
      writtenOf_of_pads hpads, ih]

/-- Padding does not show in what is written. -/
theorem Pads.written_eq {d e : Draft} (h : d.Pads e) : e.written = d.written := by
  simp only [Draft.written_eq, parts, List.cons_append, List.flatMap_cons, List.flatMap_append,
    List.flatMap_nil, writtenOf_of_pads h.preamble, h.sections.flatMap_writtenOf,
    writtenOf_of_pads h.checks, writtenOf_of_pads h.footer]

/-- What is written is not empty, and no newline stands at its ends. -/
theorem of_mem_written {d : Draft} {t : Text} (h : t ∈ d.written) :
    t ≠ [] ∧ (∀ c ∈ t.head?, c ≠ '\n') ∧ ∀ c ∈ t.getLast?, c ≠ '\n' := by
  obtain ⟨part, hpart, rfl⟩ := List.mem_map.1 h
  have hblank : Text.isAllBlank part = false := by simpa using (List.mem_filter.1 hpart).2
  exact ⟨strip_ne_nil hblank, (strips_strip part).head, (strips_strip part).last⟩

/-- A draft of blank parts writes nothing. -/
theorem written_eq_nil {d : Draft} (h : ∀ part ∈ d.parts, Text.isAllBlank part) :
    d.written = [] := by
  rw [written, List.filter_eq_nil_iff.2 fun part hpart => by simp [h part hpart], List.map_nil]

/-- A part that is not blank is written. -/
theorem written_ne_nil {d : Draft} {part : Text} (hmem : part ∈ d.parts)
    (h : Text.isAllBlank part = false) : d.written ≠ [] :=
  List.ne_nil_of_mem (List.mem_map_of_mem (List.mem_filter.2 ⟨hmem, by simp [h]⟩))

/-- The lines of the text are those of what is written, with two empty ones between any two parts
and an empty one behind the last newline. -/
theorem cutAt_text {d : Draft} (h : d.written ≠ []) :
    cutAt '\n' d.text = [[], []].intercalate (d.written.map (cutAt '\n')) ++ [[]] := by
  obtain ⟨t, ts, hts⟩ := List.exists_cons_of_ne_nil h
  rw [text, Text.cutAt_append, hts, cutAt_join]
  rfl

/-- The text of a draft begins with no newline. -/
theorem head?_text {d : Draft} (h : d.written ≠ []) : ∀ c ∈ d.text.head?, c ≠ '\n' := by
  obtain ⟨t, ts, hts⟩ := List.exists_cons_of_ne_nil h
  obtain ⟨hne, hhead, -⟩ := of_mem_written (hts ▸ List.mem_cons_self .. : t ∈ d.written)
  obtain ⟨c, cs, rfl⟩ := List.exists_cons_of_ne_nil hne
  rw [text, hts, List.head?_append, Text.head?_join hne]
  exact hhead

/-- It ends with one newline and no more. -/
theorem exists_text_eq_ended {d : Draft} (h : d.written ≠ []) :
    ∃ front c, d.text = front ++ [c, '\n'] ∧ c ≠ '\n' := by
  obtain ⟨ts, t, hts⟩ := (List.eq_nil_or_concat' d.written).resolve_left h
  obtain ⟨hne, -, hlast⟩ := of_mem_written (hts ▸ List.mem_concat_self : t ∈ d.written)
  have hc := List.getLast?_eq_some_getLast hne
  obtain ⟨front, hfront⟩ := List.getLast?_eq_some_iff.1 (Text.getLast?_join "\n\n\n" ts hc)
  refine ⟨front, t.getLast hne, ?_, hlast _ hc⟩
  rw [text, hts, hfront, List.append_assoc]
  rfl

/-- Drafts that come from each other by padding, in both directions, have one text. -/
theorem text_of_eqvGen {d e : Draft} (h : Relation.EqvGen Pads d e) : e.text = d.text := by
  induction h with
  | rel d e h => rw [text, text, h.written_eq]
  | refl d => rfl
  | symm d e _ ih => exact ih.symm
  | trans d e f _ _ ih ih' => exact ih'.trans ih

/-- **The text of a draft is insensitive to padding.** If all parts are blank it is a newline. If
one is not, it is made of those that are not, each as it is between its outer newlines, in their
order, with two empty lines between any two; it begins with no newline and ends with just one.
Newlines added or taken away at the ends of any parts, and blank sections anywhere, leave it as it
is. -/
theorem text_padded (d : Draft) :
    ((∀ part ∈ d.parts, Text.isAllBlank part) → d.text = ['\n']) ∧
      ((∃ part ∈ d.parts, Text.isAllBlank part = false) →
        (∃ ts, List.Forall₂ Strips (d.parts.filter fun part => !Text.isAllBlank part) ts ∧
          d.text = join "\n\n\n" ts ++ ['\n'] ∧
          cutAt '\n' d.text = [[], []].intercalate (ts.map (cutAt '\n')) ++ [[]]) ∧
        (∀ c ∈ d.text.head?, c ≠ '\n') ∧
        ∃ front c, d.text = front ++ [c, '\n'] ∧ c ≠ '\n') ∧
      ∀ e, Relation.EqvGen Pads d e → e.text = d.text := by
  refine ⟨fun hblank => ?_, fun ⟨part, hmem, hpart⟩ => ?_, fun e => text_of_eqvGen⟩
  · rw [text, written_eq_nil hblank]
    rfl
  · have hne := written_ne_nil hmem hpart
    have hstrips : List.Forall₂ Strips (d.parts.filter fun part => !Text.isAllBlank part)
        d.written := List.forall₂_map_right_iff.2
      (List.forall₂_same.2 fun part _ => strips_strip part)
    exact ⟨⟨_, hstrips, rfl, cutAt_text hne⟩, head?_text hne, exists_text_eq_ended hne⟩

/-- A draft whose section has a line of its own with a blank at the end. -/
def leaflet : Draft where
  preamble := "\n\n a\n"
  sections := [("t", "b\n \n")]
  checks := "\t"

/-- The same draft with newlines taken away from the preamble and put around the section, and with a
blank section in front. -/
def leafletPadded : Draft where
  preamble := " a"
  sections := [("u", "\n\t\n"), ("t", "\nb\n \n\n")]
  checks := "\t\n"
  footer := "\n"

/-- Padding the leaflet, and blank sections, leave its text as it was. -/
theorem text_padded_leaflet :
    (∀ part ∈ ({ footer := " \n" } : Draft).parts, Text.isAllBlank part) ∧
      ({ footer := " \n" } : Draft).text = ['\n'] ∧
      (∃ part ∈ leaflet.parts, Text.isAllBlank part = false) ∧
      (∃ front c, leaflet.text = front ++ [c, '\n'] ∧ c ≠ '\n') ∧
      Relation.EqvGen Pads leaflet leafletPadded ∧ leafletPadded.text = leaflet.text := by
  have hblank : ∀ part ∈ ({ footer := " \n" } : Draft).parts, Text.isAllBlank part :=
    List.all_eq_true.1 (by decide)
  have hpart : ∃ part ∈ leaflet.parts, Text.isAllBlank part = false :=
    ⟨_, List.mem_cons_self .., by decide⟩
  let common : Draft := { preamble := " a", sections := [("t", "b\n \n")], checks := "\t" }
  have hleaflet : common.Pads leaflet :=
    ⟨⟨2, 1, rfl⟩, .padded ⟨0, 0, rfl⟩ .nil, ⟨0, 0, rfl⟩, ⟨0, 0, rfl⟩⟩
  have hpadded : common.Pads leafletPadded :=
    ⟨⟨0, 0, rfl⟩, .blank (by decide) (.padded ⟨1, 1, rfl⟩ .nil), ⟨0, 1, rfl⟩, ⟨1, 0, rfl⟩⟩
  have hgen : Relation.EqvGen Pads leaflet leafletPadded :=
    .trans _ common _ (.symm _ _ (.rel _ _ hleaflet)) (.rel _ _ hpadded)
  obtain ⟨hnone, -, -⟩ := text_padded { footer := " \n" }
  obtain ⟨-, hsome, hsame⟩ := text_padded leaflet
  exact ⟨hblank, hnone hblank, hpart, (hsome hpart).2.2, hgen, hsame _ hgen⟩

end Draft
end Tablesmith
