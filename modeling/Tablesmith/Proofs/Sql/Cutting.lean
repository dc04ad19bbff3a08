/-
# Cutting a script

A script can be cut where no declaration stands across the cut: the spans of the front part are
those that end there (`IsReading.take`), the spans of the back part are those that begin behind it
(`IsReading.from_of_le`), and the declarations of the script are the ones of the two parts
(`IsReading.cut`). Blanks at the end of a script are such a part, and declare nothing
(`IsReading.append_blanks`).

Where the declarations stand can be computed (`Declaration.spans`).
-/

import Tablesmith.Proofs.Sql.Spans

namespace Tablesmith
namespace Sql

namespace Declaration

/-- The declarations of a text behind its first `skip` characters and where they stand, `k` being
the position of the text. -/
def spansFrom : (k skip : Nat) → Text → List Span
  | _, _, [] => []
  | k, skip + 1, _ :: cs => spansFrom (k + 1) skip cs
  | k, 0, c :: cs =>
    match read? (c :: cs) with
    | some (d, rest) =>
      ⟨k, k + (cs.length + 1 - rest.length), d⟩ :: spansFrom (k + 1) (cs.length - rest.length) cs
    | none => spansFrom (k + 1) 0 cs

/-- The declarations of a script and where they stand. -/
def spans (script : Text) : List Span := spansFrom 0 0 script

/-- Where nothing is skipped a declaration is read or none. -/
theorem spansFrom_cons (k : Nat) (c : Char) (cs : Text) :
    spansFrom k 0 (c :: cs) =
      match read? (c :: cs) with
      | some (d, rest) =>
        ⟨k, k + (cs.length + 1 - rest.length), d⟩ :: spansFrom (k + 1) (cs.length - rest.length) cs
      | none => spansFrom (k + 1) 0 cs := by
  rfl

/-- Skipping is dropping. -/
theorem spansFrom_eq_drop (k skip : Nat) (t : Text) :
    spansFrom k skip t = spansFrom (k + skip) 0 (t.drop skip) := by
  induction skip generalizing k t with
  | zero => rfl
  | succ skip ih =>
    cases t with
    | nil => rfl
    | cons c cs =>
      show spansFrom (k + 1) skip cs = _
      rw [ih, List.drop_succ_cons, Nat.add_right_comm, Nat.add_assoc]

end Declaration

/-- **The scan finds the reading of the script,** from each position on. -/
theorem isReading_spansFrom (t : Text) (k : Nat) :
    IsReading t k (Declaration.spansFrom k 0 (t.drop k)) := by
  induction hleft : t.length - k using Nat.strong_induction_on generalizing k with
  | _ left ih =>
    rcases Nat.lt_or_ge k t.length with hk | hk
    · have hcons := List.drop_eq_getElem_cons hk
      cases hread : Declaration.read? (t.drop k) with
      | none =>
        have hnot : ¬ Begins t k := by simp [begins_iff, hread]
        rw [hcons] at hread ⊢
        rw [Declaration.spansFrom_cons, hread, IsReading.succ_iff hnot]
        exact ih (t.length - (k + 1)) (by omega) (k + 1) rfl
      | some answer =>
        obtain ⟨d, rest⟩ := answer
        obtain ⟨stop, hfirst, rfl⟩ := holds_of_read? hread
        have hstart : k < stop := hfirst.start_lt_stop
        have hstop : stop ≤ t.length := hfirst.inside
        rw [hcons] at hread ⊢
        rw [Declaration.spansFrom_cons, hread]
        simp only [List.length_drop, Declaration.spansFrom_eq_drop (k + 1), List.drop_drop]
        have hlength : k + (t.length - (k + 1) + 1 - (t.length - stop)) = stop := by omega
        have hskip : k + 1 + (t.length - (k + 1) - (t.length - stop)) = stop := by omega
        rw [hlength, hskip]
        exact (IsReading.cons_iff hfirst rfl).2
          ⟨_, rfl, ih (t.length - stop) (by omega) stop rfl⟩
    · rw [List.drop_eq_nil_of_le hk]
      exact IsReading.of_length_le hk

/-- The declarations that the scan finds are a reading of the script from its beginning. -/
theorem isReading_spans (script : Text) : IsReading script 0 (Declaration.spans script) :=
  isReading_spansFrom script 0

/-- A span that holds in the front part of a text holds in the text, and the other way round. -/
theorem Span.holds_append_iff {s : Span} {t u : Text} (h : s.stop ≤ t.length) :
    s.Holds (t ++ u) ↔ s.Holds t := by
  have hextract : (t ++ u).extract s.start s.stop = t.extract s.start s.stop := by
    rw [List.extract_eq_take_drop, List.extract_eq_take_drop]
    rcases Nat.le_total s.start s.stop with hle | hle
    · rw [List.drop_append_of_le_length (hle.trans h),
        List.take_append_of_le_length (by rw [List.length_drop]; omega)]
    · rw [Nat.sub_eq_zero_of_le hle, List.take_zero, List.take_zero]
  constructor
  · rintro ⟨-, hstatement, hshortest⟩
    exact ⟨h, hextract ▸ hstatement, hshortest⟩
  · rintro ⟨-, hstatement, hshortest⟩
    exact ⟨by rw [List.length_append]; omega, hextract ▸ hstatement, hshortest⟩

namespace IsReading

variable {t : Text} {k m : Nat} {spans : List Span}

/-- Where no span begins nothing is read. -/
theorem mono (h : IsReading t k spans) (hk : k ≤ m) (hm : ∀ s ∈ spans, m ≤ s.start) :
    IsReading t m spans where
  behind := hm
  holds := h.holds
  ordered := h.ordered
  leftmost p hp := h.leftmost p (hk.trans hp)

/-- Behind a cut the spans are those that begin there or further back. -/
theorem from_of_le (h : IsReading t k spans) (hk : k ≤ m)
    (hcut : ∀ s ∈ spans, s.stop ≤ m ∨ m ≤ s.start) :
    IsReading t m (spans.filter fun s => m ≤ s.start) where
  behind s hs := by simpa using (List.mem_filter.1 hs).2
  holds s hs := h.holds s (List.mem_filter.1 hs).1
  ordered := h.ordered.sublist List.filter_sublist
  leftmost p hp hout := by
    refine h.leftmost p (hk.trans hp) fun s hs hcovers => ?_
    rcases hcut s hs with hfront | hback
    · exact Nat.not_lt_of_le (hfront.trans hp) hcovers.2
    · exact hout s (List.mem_filter.2 ⟨hs, by simpa using hback⟩) hcovers

/-- In front of a cut they are those that end there or further in front. -/
theorem take (h : IsReading t k spans) (hm : m ≤ t.length)
    (hcut : ∀ s ∈ spans, s.stop ≤ m ∨ m ≤ s.start) :
    IsReading (t.take m) k (spans.filter fun s => s.stop ≤ m) where
  behind s hs := h.behind s (List.mem_filter.1 hs).1
  holds s hs := by
    obtain ⟨hs, hstop⟩ := List.mem_filter.1 hs
    have hlength : s.stop ≤ (t.take m).length := by
      rw [List.length_take_of_le hm]
      simpa using hstop
    rw [← Span.holds_append_iff hlength, List.take_append_drop]
    exact h.holds s hs
  ordered := h.ordered.sublist List.filter_sublist
  leftmost p hp hout := by
    rintro ⟨d, u, hu, hstart⟩
    have hpm : p < m := by
      have hlength := hstart.length_le
      have := List.length_pos_iff.2 (ne_nil_of_mem_statement hu)
      rw [List.length_drop, List.length_take_of_le hm] at hlength
      omega
    refine h.leftmost p hp (fun s hs hcovers => ?_)
      ⟨d, u, hu, hstart.trans ((List.take_prefix m t).drop p)⟩
    rcases hcut s hs with hfront | hback
    · exact hout s (List.mem_filter.2 ⟨hs, by simpa using hfront⟩) hcovers
    · exact Nat.not_lt_of_le (hback.trans hcovers.1) hpm

/-- In front of the cut and behind it are all of them. -/
theorem filter_append_filter (h : IsReading t k spans)
    (hcut : ∀ s ∈ spans, s.stop ≤ m ∨ m ≤ s.start) :
    (spans.filter fun s => s.stop ≤ m) ++ (spans.filter fun s => m ≤ s.start) = spans := by
  have hlt : ∀ s ∈ spans, s.start < s.stop := fun s hs => (h.holds s hs).start_lt_stop
  have hordered := h.ordered
  clear h
  induction spans with
  | nil => rfl
  | cons s spans ih =>
    obtain ⟨hs, hltTail⟩ := List.forall_mem_cons.1 hlt
    obtain ⟨hcutHead, hcut⟩ := List.forall_mem_cons.1 hcut
    obtain ⟨hbehind, hordered⟩ := List.pairwise_cons.1 hordered
    rcases hcutHead with hfront | hback
    · rw [List.filter_cons_of_pos (by simpa using hfront), List.filter_cons_of_neg (by simp; omega),
        List.cons_append, ih hcut hltTail hordered]
    · -- the first span begins behind the cut, and so do all the others
      have hall : ∀ r ∈ s :: spans, m ≤ r.start := by
        refine List.forall_mem_cons.2 ⟨hback, fun r hr => ?_⟩
        have := hbehind r hr
        omega
      have hnone : ((s :: spans).filter fun r => r.stop ≤ m) = [] := by
        refine List.filter_eq_nil_iff.2 fun r hr => ?_
        have := hall r hr
        have := hlt r hr
        simp
        omega
      rw [hnone, List.nil_append, List.filter_eq_self.2 fun r hr => by simpa using hall r hr]

section

variable {front x y : Text}

/-- The spans are the declarations of the text from the position on. -/
theorem map_declaration (h : IsReading (front ++ y) front.length spans) :
    spans.map Span.declaration = Declaration.all y := by
  obtain ⟨others, hall, hunique⟩ := isReading_unique (front ++ y) front.length
  rw [(hunique spans).1 h, hall, List.drop_left]

/-- **Where no declaration stands across a cut,** the declarations are those in front of it and
those behind it. -/
theorem cut (h : IsReading (front ++ (x ++ y)) front.length spans)
    (hcut : ∀ s ∈ spans, s.stop ≤ (front ++ x).length ∨ (front ++ x).length ≤ s.start) :
    IsReading (front ++ x ++ y) (front ++ x).length
        (spans.filter fun s => (front ++ x).length ≤ s.start) ∧
      Declaration.all (x ++ y) = Declaration.all x ++ Declaration.all y := by
  have hsplit : front ++ (x ++ y) = front ++ x ++ y := (List.append_assoc ..).symm
  have hx := h.take (by simp) hcut
  have hy := h.from_of_le (by simp) hcut
  rw [hsplit] at hx hy
  rw [List.take_left] at hx
  refine ⟨hy, ?_⟩
  rw [← h.map_declaration, ← hx.map_declaration, ← hy.map_declaration, ← List.map_append,
    h.filter_append_filter hcut]

end

end IsReading

/-- Where a blank stands no statement begins. -/
theorem read?_eq_none_of_isBlank {c : Char} (hc : Text.isBlank c) (t : Text) :
    Declaration.read? (c :: t) = none := by
  refine Declaration.read?_eq_none_of_head (Bool.eq_false_iff.2 fun hletter => ?_)
  rw [Text.isBlank_of_isWord (Grammar.isWord_of_isLetter (by decide) hletter)] at hc
  cases hc

/-- Blanks can be skipped. -/
theorem IsReading.skip_blanks {front gap y : Text} {spans : List Span}
    (h : IsReading (front ++ (gap ++ y)) front.length spans) (hgap : Text.isAllBlank gap) :
    IsReading (front ++ (gap ++ y)) (front ++ gap).length spans := by
  induction gap generalizing front with
  | nil => simpa using h
  | cons c gap ih =>
    rw [Text.isAllBlank, List.all_cons, Bool.and_eq_true] at hgap
    have hnot : ¬ Begins (front ++ (c :: gap ++ y)) front.length := by
      rw [begins_iff, List.drop_left, List.cons_append, read?_eq_none_of_isBlank hgap.1]
      exact Bool.false_ne_true
    have hsplit : front ++ (c :: gap ++ y) = front ++ [c] ++ (gap ++ y) := by simp
    have hnext := (IsReading.succ_iff hnot).1 h
    rw [hsplit] at hnext ⊢
    have hrest : IsReading _ (front ++ [c] ++ gap).length spans :=
      ih (by simpa using hnext) hgap.2
    simpa using hrest

/-- A declaration ends with its semicolon. -/
theorem getLast?_of_mem_statement {d : Declaration} {u : Text} (h : u ∈ Grammar.statement d) :
    u.getLast? = some ';' := by
  obtain ⟨_, -, _, hending, rfl⟩ := Language.mem_mul.1 h
  obtain ⟨_, -, _, rfl, rfl⟩ := Language.mem_mul.1 hending
  simp

/-- No statement reaches into the blanks at the end of a text. -/
theorem Begins.of_append {t gap : Text} {p : Nat} (hgap : Text.isAllBlank gap)
    (h : Begins (t ++ gap) p) : Begins t p := by
  obtain ⟨d, u, hu, hstart⟩ := h
  refine ⟨d, u, hu, ?_⟩
  rw [List.drop_append] at hstart
  rcases List.prefix_or_prefix_of_prefix hstart (List.prefix_append _ _) with hinside | ⟨w, rfl⟩
  · exact hinside
  · rw [List.prefix_append_right_inj] at hstart
    cases hlast : w.getLast? with
    | none =>
      rw [List.getLast?_eq_none_iff.1 hlast, List.append_nil]
    | some c =>
      have hsemicolon := getLast?_of_mem_statement hu
      rw [List.getLast?_append, hlast] at hsemicolon
      obtain rfl : c = ';' := Option.some.inj hsemicolon
      have hmem : ';' ∈ gap :=
        List.mem_of_mem_drop (hstart.subset (List.mem_of_mem_getLast? hlast))
      cases List.all_eq_true.1 hgap ';' hmem

/-- Blanks at the end of a text change nothing. -/
theorem IsReading.append_blanks {t gap : Text} {k : Nat} {spans : List Span}
    (h : IsReading t k spans) (hgap : Text.isAllBlank gap) : IsReading (t ++ gap) k spans where
  behind := h.behind
  holds s hs := (Span.holds_append_iff (h.holds s hs).inside).2 (h.holds s hs)
  ordered := h.ordered
  leftmost p hp hout hbegins := h.leftmost p hp hout (hbegins.of_append hgap)

end Sql
end Tablesmith
