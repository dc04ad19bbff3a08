/-
# Where the declarations of a script stand

The tables of a script are read off it from left to right. What is found can be said without telling
how it is searched for: the script has spans that do not overlap, each of them is a statement of the
grammar whose body ends at the first place where it can end, and nowhere outside the spans does a
statement begin (`IsReading`). There is one such list of spans for each script, and its declarations
are the ones that are read (`ofScript_spans`).

The induction goes along the script, by the position `k` from which on it is read: where no
statement begins the spans are those from the next position on (`IsReading.succ_iff`), and where one
begins the first span does (`IsReading.cons_iff`).
-/

import Mathlib.Data.List.Basic
import Tablesmith.Proofs.Sql.Grammar
import Tablesmith.Schema.Basic

namespace Tablesmith
namespace Sql

open Grammar (Leads statement opening)

/-- A declaration and the characters of the script that it is made of, from `start` on and up to the
one before `stop`. -/
structure Span where
  start : Nat
  stop : Nat
  declaration : Declaration
deriving Repr, DecidableEq

/-- A statement, whatever its body, begins at the position. -/
def Begins (t : Text) (p : Nat) : Prop := ∃ d, ∃ u ∈ statement d, u <+: t.drop p

namespace Span

/-- The position is one of the span's. -/
def Covers (s : Span) (p : Nat) : Prop := s.start ≤ p ∧ p < s.stop

/-- The span's characters are a statement of the grammar. -/
structure Holds (s : Span) (t : Text) : Prop where
  inside : s.stop ≤ t.length
  statement : t.extract s.start s.stop ∈ statement s.declaration
  /-- The parenthesis behind the body is the first one with a semicolon behind it. -/
  shortest : ¬ EndsStatement s.declaration.body

end Span

/-- The spans are what the text is read as from the position `k` on. -/
structure IsReading (t : Text) (k : Nat) (spans : List Span) : Prop where
  behind : ∀ s ∈ spans, k ≤ s.start
  holds : ∀ s ∈ spans, s.Holds t
  /-- They follow one another and do not overlap. -/
  ordered : spans.Pairwise fun r s => r.stop ≤ s.start
  /-- Outside of them no statement begins. -/
  leftmost : ∀ p, k ≤ p → (∀ s ∈ spans, ¬ s.Covers p) → ¬ Begins t p

/-- A declaration is not empty. -/
theorem ne_nil_of_mem_statement {d : Declaration} {u : Text} (h : u ∈ statement d) : u ≠ [] := by
  rintro rfl
  have hleads : Leads (statement d) [] [] := ⟨[], h, rfl⟩
  have hread := Declaration.isSome_read?_of_leads hleads
  cases hread

/-- A statement begins where a declaration is read. -/
theorem begins_iff {t : Text} {p : Nat} :
    Begins t p ↔ (Declaration.read? (t.drop p)).isSome := by
  constructor
  · rintro ⟨d, u, hu, rest, hrest⟩
    exact Declaration.isSome_read?_of_leads ⟨u, hu, hrest.symm⟩
  · intro h
    obtain ⟨⟨d, rest⟩, hread⟩ := Option.isSome_iff_exists.1 h
    obtain ⟨-, u, hu, hsplit⟩ := Declaration.read?_eq_some_iff_leads.1 hread
    exact ⟨d, u, hu, rest, hsplit.symm⟩

namespace Span.Holds

variable {t : Text} {s : Span}

/-- A span that holds a declaration is not empty. -/
theorem start_lt_stop (h : s.Holds t) : s.start < s.stop := by
  by_contra hle
  refine ne_nil_of_mem_statement h.statement ?_
  rw [List.extract_eq_take_drop, Nat.sub_eq_zero_of_le (Nat.le_of_not_lt hle), List.take_zero]

/-- What stands in a span is read, and what stands behind it is left. -/
theorem read? (h : s.Holds t) :
    Declaration.read? (t.drop s.start) = some (s.declaration, t.drop s.stop) := by
  refine Declaration.read?_eq_some_iff_leads.2 ⟨h.shortest, _, h.statement, ?_⟩
  have hstop : t.drop s.stop = (t.drop s.start).drop (s.stop - s.start) := by
    rw [List.drop_drop, Nat.add_sub_cancel' (Nat.le_of_lt h.start_lt_stop)]
  rw [List.extract_eq_take_drop, hstop, List.take_append_drop]

/-- Where a span begins, a declaration does. -/
theorem begins (h : s.Holds t) : Begins t s.start := by
  rw [begins_iff, h.read?]
  rfl

/-- Two spans that begin at one position are the same. -/
theorem eq_of_start_eq {r : Span} (hr : r.Holds t) (hs : s.Holds t) (h : r.start = s.start) :
    r = s := by
  have hread := hr.read?
  rw [h, hs.read?] at hread
  obtain ⟨hdeclaration, hdrop⟩ := Prod.mk.inj (Option.some.inj hread)
  have hstop : r.stop = s.stop := by
    have hlength := congrArg List.length hdrop
    rw [List.length_drop, List.length_drop] at hlength
    have := hr.inside
    have := hs.inside
    omega
  cases r
  cases s
  cases hstop
  cases hdeclaration
  cases h
  rfl

end Span.Holds

/-- What is read at a position stands in a span. -/
theorem holds_of_read? {t rest : Text} {k : Nat} {d : Declaration}
    (h : Declaration.read? (t.drop k) = some (d, rest)) :
    ∃ stop, (Span.mk k stop d).Holds t ∧ rest = t.drop stop := by
  obtain ⟨hends, u, hu, hsplit⟩ := Declaration.read?_eq_some_iff_leads.1 h
  have hinside : k + u.length ≤ t.length := by
    have hlength := congrArg List.length hsplit
    have := List.length_pos_iff.2 (ne_nil_of_mem_statement hu)
    rw [List.length_drop, List.length_append] at hlength
    omega
  refine ⟨k + u.length, ⟨hinside, ?_, hends⟩, ?_⟩
  · rw [List.extract_eq_take_drop, hsplit, Nat.add_sub_cancel_left, List.take_left]
    exact hu
  · rw [← List.drop_drop, hsplit, List.drop_left]

namespace IsReading

variable {t : Text} {k : Nat} {spans : List Span}

/-- Nothing is read where nothing is left. -/
theorem of_length_le (h : t.length ≤ k) : IsReading t k [] where
  behind := by simp
  holds := by simp
  ordered := .nil
  leftmost p hp _ hbegins := by
    rw [begins_iff, List.drop_eq_nil_of_le (h.trans hp)] at hbegins
    cases hbegins

/-- At the end of a text no span is left to be read. -/
theorem eq_nil (h : t.length ≤ k) (hspans : IsReading t k spans) : spans = [] := by
  rw [List.eq_nil_iff_forall_not_mem]
  intro s hs
  have := hspans.behind s hs
  have := (hspans.holds s hs).start_lt_stop
  have := (hspans.holds s hs).inside
  omega

/-- Where no statement begins, the spans are those from the next position on. -/
theorem succ_iff (h : ¬ Begins t k) : IsReading t k spans ↔ IsReading t (k + 1) spans := by
  constructor
  · intro hspans
    refine ⟨fun s hs => ?_, hspans.holds, hspans.ordered, fun p hp => hspans.leftmost p (by omega)⟩
    have hne : s.start ≠ k := by
      rintro rfl
      exact h (hspans.holds s hs).begins
    have := hspans.behind s hs
    omega
  · intro hspans
    refine ⟨fun s hs => ?_, hspans.holds, hspans.ordered, fun p hp hout => ?_⟩
    · have := hspans.behind s hs
      omega
    · rcases Nat.eq_or_lt_of_le hp with rfl | hlt
      · exact h
      · exact hspans.leftmost p hlt hout

/-- Where a statement begins, the first span does, and the others are those from its end on. -/
theorem cons_iff {first : Span} (hfirst : first.Holds t) (hstart : first.start = k) :
    IsReading t k spans ↔ ∃ more, spans = first :: more ∧ IsReading t first.stop more := by
  constructor
  · intro hspans
    -- a span covers the position, and only one that begins there can
    have hcovered : ∃ s ∈ spans, s.Covers k := by
      by_contra hout
      refine hspans.leftmost k (Nat.le_refl k) (fun s hs hcovers => ?_) (hstart ▸ hfirst.begins)
      exact hout ⟨s, hs, hcovers⟩
    obtain ⟨s, hs, hcovers, -⟩ := hcovered
    have hsame : s = first := (hspans.holds s hs).eq_of_start_eq hfirst
      (hstart ▸ Nat.le_antisymm hcovers (hspans.behind s hs))
    subst hsame
    cases spans with
    | nil => cases hs
    | cons r more =>
      obtain ⟨hbehind, hordered⟩ := List.pairwise_cons.1 hspans.ordered
      have hhead : r = s := by
        rcases List.mem_cons.1 hs with rfl | hmore
        · rfl
        · have hr := List.mem_cons_self (a := r) (l := more)
          have := hbehind s hmore
          have := hspans.behind r hr
          have := (hspans.holds r hr).start_lt_stop
          omega
      subst hhead
      refine ⟨more, rfl, hbehind, fun s hs => hspans.holds s (List.mem_cons_of_mem _ hs), hordered,
        fun p hp hout => hspans.leftmost p ?_ ?_⟩
      · have := hfirst.start_lt_stop
        omega
      · refine List.forall_mem_cons.2 ⟨fun hcovers => ?_, hout⟩
        exact Nat.not_lt_of_le hp hcovers.2
  · rintro ⟨more, rfl, hmore⟩
    refine ⟨List.forall_mem_cons.2 ⟨hstart.ge, fun s hs => ?_⟩,
      List.forall_mem_cons.2 ⟨hfirst, hmore.holds⟩,
      List.pairwise_cons.2 ⟨hmore.behind, hmore.ordered⟩, fun p hp hout => ?_⟩
    · have := hmore.behind s hs
      have := hfirst.start_lt_stop
      omega
    · obtain ⟨hnot, hout⟩ := List.forall_mem_cons.1 hout
      refine hmore.leftmost p ?_ hout
      by_contra hlt
      exact hnot ⟨hstart ▸ hp, Nat.lt_of_not_le hlt⟩

end IsReading

/-- **A text has one reading,** and its declarations are the ones that the scan finds. -/
theorem isReading_unique (t : Text) (k : Nat) :
    ∃ spans, spans.map Span.declaration = Declaration.all (t.drop k) ∧
      ∀ others, IsReading t k others ↔ others = spans := by
  induction hleft : t.length - k using Nat.strong_induction_on generalizing k with
  | _ left ih =>
    rcases Nat.lt_or_ge k t.length with hk | hk
    · cases hread : Declaration.read? (t.drop k) with
      | none =>
        have hnot : ¬ Begins t k := by simp [begins_iff, hread]
        obtain ⟨spans, hall, hunique⟩ := ih (t.length - (k + 1)) (by omega) (k + 1) rfl
        refine ⟨spans, ?_, fun others => (IsReading.succ_iff hnot).trans (hunique others)⟩
        rw [hall, List.drop_eq_getElem_cons hk]
        rw [List.drop_eq_getElem_cons hk] at hread
        exact (Declaration.all_of_read?_eq_none hread).symm
      | some answer =>
        obtain ⟨d, rest⟩ := answer
        obtain ⟨stop, hfirst, rfl⟩ := holds_of_read? hread
        have hstop : k < stop := hfirst.start_lt_stop
        obtain ⟨more, hall, hunique⟩ := ih (t.length - stop) (by omega) stop rfl
        refine ⟨⟨k, stop, d⟩ :: more, ?_, fun others => ?_⟩
        · rw [List.map_cons, hall, Declaration.all_of_read? hread]
        · rw [IsReading.cons_iff hfirst rfl]
          simp only [hunique, exists_eq_right]
    · refine ⟨[], ?_, fun others => ⟨IsReading.eq_nil hk, ?_⟩⟩
      · rw [List.drop_eq_nil_of_le hk]
        rfl
      · rintro rfl
        exact IsReading.of_length_le hk

/-- **The tables of a script** are, one for one and in their order, those of the spans that it is
read as: their names, and the columns of their bodies. No script can be read as other spans, and no
position has two openings. -/
theorem ofScript_spans (mode : SplitMode) (script : Text) :
    (∃ spans : List Span,
      Table.ofScript mode script = spans.map (fun s =>
        { name := s.declaration.name, columns := Column.all mode s.declaration.body,
          selected := false }) ∧
      ∀ others, IsReading script 0 others ↔ others = spans) ∧
    ∀ p m n u v, u ∈ opening m → v ∈ opening n →
      u <+: script.drop p → v <+: script.drop p → m = n ∧ u = v := by
  obtain ⟨spans, hall, hunique⟩ := isReading_unique script 0
  refine ⟨⟨spans, ?_, hunique⟩, fun p m n u v hu hv => Grammar.opening_unique hu hv⟩
  rw [Table.ofScript, ← List.drop_zero (l := script), ← hall, List.map_map]
  rfl

end Sql
end Tablesmith
