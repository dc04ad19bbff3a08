/-
# Constraints among the segments

A segment of a body declares a column, or a constraint on the whole table, which a reader of the
script knows by its head. In depth-aware mode the heads are recognised as follows:

| head | recognised |
| --- | --- |
| `PRIMARY KEY`, `UNIQUE`, `CHECK`, `CONSTRAINT` | in front, whole words with any blanks between |
| `FOREIGN KEY` | anywhere in the segment in upper case, with one space between |

The two tests are exact, each in its way (`isConstraint_depthAware_iff`), but the second one is not
what its head asks for: a foreign key with other blanks between its words than a single space has
the column `FOREIGN`. That is the only thing amiss (`isToldApart_iff`).
-/

import Tablesmith.Proofs.Sql.Contribution
import Tablesmith.Proofs.Sql.Grammar

namespace Tablesmith
namespace Sql

namespace Grammar

/-- The letters with no other forms than the two ASCII ones. -/
theorem toUpper_of_isLetter {k c : Char} (hk : k ∉ (['I', 'S', 'K'] : List Char))
    (h : isLetter k c) : c.toUpper = k := by
  simp only [List.mem_cons, List.not_mem_nil, or_false, not_or] at hk
  simpa [isLetter, hk.1, hk.2.1, hk.2.2] using h

/-- The first letter of the words stands in front. -/
theorem BeginsWith.map_toUpper_head? {w t : Text} {ws : List Text} (h : BeginsWith (w :: ws) t)
    {k : Char} (hk : w.head? = some k) (hplain : k ∉ (['I', 'S', 'K'] : List Char)) :
    t.head?.map Char.toUpper = some k := by
  obtain ⟨rest, hleads, -⟩ := h
  obtain ⟨x, u, hu, rfl⟩ := exists_leads_keyword hleads
  cases hu with
  | nil => cases hk
  | cons hc hu =>
    obtain rfl := Option.some.inj hk
    exact congrArg some (toUpper_of_isLetter hplain hc)

end Grammar

open Grammar (BeginsWith)

namespace Column

/-- The heads of constraints are spelled in capitals. -/
theorem isCapital_of_mem_constraintHeads :
    ∀ head ∈ constraintHeads, ∀ w ∈ head, Grammar.IsCapital w := by
  decide

/-- The heads are recognised behind the blanks in front of a text, as whole words. -/
theorem beginsConstraint_iff {t : Text} :
    beginsConstraint t ↔ ∃ head ∈ constraintHeads, BeginsWith head (Text.skipBlanks t) := by
  rw [beginsConstraint, List.any_eq_true]
  exact exists_congr fun head => and_congr_right fun hhead =>
    Grammar.isSome_wholeKeywords?_iff (isCapital_of_mem_constraintHeads head hhead)

/-- **What counts as a constraint** in depth-aware mode. -/
theorem isConstraint_depthAware_iff {t : Text} (h : t.IsFlush) :
    isConstraint .depthAware t ↔
      (∃ head ∈ constraintHeads, BeginsWith head t) ∨
        ("FOREIGN KEY" : Text) <:+: Text.upper t := by
  rw [isConstraint, Bool.or_eq_true, or_comm, beginsConstraint_iff, Text.skipBlanks_eq_self h,
    mentionsForeignKey, Text.contains_iff]

/-- The heads of all constraints on a table. -/
def tableHeads : List (List Text) := ["FOREIGN", "KEY"] :: constraintHeads

/-- Constraints and columns are told apart: a segment with the head of a constraint contributes
nothing, and one that neither has such a head nor mentions a foreign key elsewhere contributes its
first word. -/
structure IsToldApart (body : Text) : Prop where
  constraint : ∀ s ∈ Segment.depthAware body, ∀ head ∈ tableHeads, BeginsWith head s →
    all .depthAware s = []
  column : ∀ s ∈ Segment.depthAware body, (∀ head ∈ tableHeads, ¬ BeginsWith head s) →
    ¬ ("FOREIGN KEY" : Text) <:+: Text.upper s → all .depthAware s = [Text.firstWord s]

/-- A segment contributes nothing if it counts as a constraint, and else its first word. -/
theorem all_of_mem_depthAware_iff {body s : Text} (h : s ∈ Segment.depthAware body) :
    (all .depthAware s = [] ∨ all .depthAware s = [Text.firstWord s]) ∧
      (all .depthAware s = [] ↔ (∃ head ∈ constraintHeads, BeginsWith head s) ∨
        ("FOREIGN KEY" : Text) <:+: Text.upper s) := by
  have hsegment : s ∈ Segment.all .depthAware body := h
  rw [← isConstraint_depthAware_iff (Segment.isTrimmed_of_mem_all hsegment).1,
    all_of_mem_depthAware h]
  cases isConstraint .depthAware s <;> simp

/-- A foreign key begins with none of the other heads: they have other first letters. -/
theorem not_beginsWith_foreign {t : Text} {head : List Text} (hhead : head ∈ constraintHeads)
    (h : BeginsWith head t) : ¬ BeginsWith ["FOREIGN", "KEY"] t := by
  intro hforeign
  have hfirst := hforeign.map_toUpper_head? (k := 'F') rfl (by decide)
  simp only [constraintHeads, List.mem_cons, List.not_mem_nil, or_false] at hhead
  rcases hhead with rfl | rfl | rfl | rfl
  · rw [h.map_toUpper_head? (k := 'P') rfl (by decide)] at hfirst
    cases hfirst
  · rw [h.map_toUpper_head? (k := 'U') rfl (by decide)] at hfirst
    cases hfirst
  all_goals
    rw [h.map_toUpper_head? (k := 'C') rfl (by decide)] at hfirst
    cases hfirst

/-- **What the columns of a body leave out.** They are what its segments contribute, in order: each
its first word, or nothing, and nothing exactly if it begins with one of the four heads or mentions
`FOREIGN KEY` with a single space in any case. So constraints and columns are told apart if, and
only if, no foreign key is written with other blanks and without such a mention. -/
theorem isToldApart_iff (body : Text) :
    all .depthAware body = (Segment.depthAware body).flatMap (all .depthAware) ∧
      (∀ s ∈ Segment.depthAware body,
        (all .depthAware s = [] ∨ all .depthAware s = [Text.firstWord s]) ∧
        (all .depthAware s = [] ↔ (∃ head ∈ constraintHeads, BeginsWith head s) ∨
          ("FOREIGN KEY" : Text) <:+: Text.upper s)) ∧
      (IsToldApart body ↔ ∀ s ∈ Segment.depthAware body, BeginsWith ["FOREIGN", "KEY"] s →
        ("FOREIGN KEY" : Text) <:+: Text.upper s) := by
  refine ⟨all_eq_flatMap .depthAware body, fun s hs => all_of_mem_depthAware_iff hs, ?_, ?_⟩
  · intro h s hs hforeign
    have hnone := h.constraint s hs _ (List.mem_cons_self ..) hforeign
    rcases (all_of_mem_depthAware_iff hs).2.1 hnone with ⟨head, hhead, hbegins⟩ | hmentions
    · exact absurd hforeign (not_beginsWith_foreign hhead hbegins)
    · exact hmentions
  · intro h
    refine ⟨fun s hs head hhead hbegins => ?_, fun s hs hhead hmentions => ?_⟩
    · refine (all_of_mem_depthAware_iff hs).2.2 ?_
      rcases List.mem_cons.1 hhead with rfl | hhead
      · exact .inr (h s hs hbegins)
      · exact .inl ⟨head, hhead, hbegins⟩
    · obtain ⟨hcases, hiff⟩ := all_of_mem_depthAware_iff hs
      refine hcases.resolve_left fun hnone => ?_
      rcases hiff.1 hnone with ⟨head, hmem, hbegins⟩ | hmentioned
      · exact hhead head (List.mem_cons_of_mem _ hmem) hbegins
      · exact hmentions hmentioned

/-- A body whose constraints are told apart: a foreign key in small letters, a column named like a
head, and a head over two lines. -/
theorem isToldApart_visits :
    IsToldApart "a INT, foreign key (a) references t, check_in DATE, Primary\n Key(a)" := by
  refine (isToldApart_iff _).2.2.2 fun s hs hbegins => ?_
  have hforeign : (Segment.depthAware
      "a INT, foreign key (a) references t, check_in DATE, Primary\n Key(a)").all fun s =>
        !(wholeKeywords? ["FOREIGN", "KEY"] s).isSome || mentionsForeignKey s := by
    decide +kernel
  have hmentions := List.all_eq_true.1 hforeign s hs
  rw [(Grammar.isSome_wholeKeywords?_iff (by decide)).2 hbegins] at hmentions
  exact Text.contains_iff.1 hmentions

/-- A foreign key with two spaces between its words, which is taken for a column. -/
theorem not_isToldApart_foreign :
    all .depthAware "id INT, FOREIGN  KEY (id) REFERENCES t (id)" =
        ["id".toList, "FOREIGN".toList] ∧
      ¬ IsToldApart "id INT, FOREIGN  KEY (id) REFERENCES t (id)" := by
  have hall : all .depthAware "FOREIGN  KEY (id) REFERENCES t (id)" = ["FOREIGN".toList] := by
    decide +kernel
  refine ⟨by decide +kernel, fun h => ?_⟩
  have hbegins : BeginsWith ["FOREIGN", "KEY"] "FOREIGN  KEY (id) REFERENCES t (id)" :=
    (Grammar.isSome_wholeKeywords?_iff (by decide)).1 (by decide)
  have hnone := h.constraint _ (by decide +kernel) _ (List.mem_cons_self ..) hbegins
  rw [hall] at hnone
  cases hnone

end Column
end Sql
end Tablesmith
