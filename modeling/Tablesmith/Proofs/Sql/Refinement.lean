/-
# The two ways of cutting a body

Cutting at every comma goes further than cutting at those outside literals and parentheses, and it
goes on from there: what is left of a body by the one is cut by the other as the body is. In between
the pieces are trimmed and blank ones are left out, which does not matter, since it is done again to
what they are cut into (`tidy_cutAt_trim`).

The pieces that were cut out hold no comma outside (`covers_of_mem_cut`), nor do they once they are
trimmed, so cutting them again changes nothing. Where nothing opens a literal or a parenthesis every
comma stands outside, and both ways cut the same (`cut_eq_cutAt`).

Main statement: `legacy_refines_depthAware`.
-/

import Tablesmith.Proofs.Sql.Factorisation
import Tablesmith.Proofs.Text.OneLine

namespace Tablesmith

namespace Text

/-- Blanks at the end do not matter to trimming. -/
theorem trim_append_blanks {gap : Text} (h : isAllBlank gap) (t : Text) :
    trim (t ++ gap) = trim t :=
  trimBy_append_of_back (List.all_eq_true.1 h) t

/-- Two texts are blank together if each of them is. -/
theorem isAllBlank_append (s t : Text) : isAllBlank (s ++ t) = (isAllBlank s && isAllBlank t) :=
  List.all_append

/-- Trimming leaves something of every text that is not blank. -/
theorem isAllBlank_trim (t : Text) : isAllBlank (trim t) = isAllBlank t := by
  obtain ⟨front, back, hfront, hback, ht⟩ := exists_eq_trim t
  have hall := congrArg isAllBlank ht
  rw [isAllBlank_append, isAllBlank_append, hfront, hback, Bool.true_and, Bool.and_true] at hall
  exact hall.symm

/-- Nothing is left of a blank text, and something of every other. -/
theorem isEmpty_trim (t : Text) : (trim t).isEmpty = isAllBlank t := by
  rw [← isAllBlank_trim]
  have hflush := (isTrimmed_trim t).1
  cases htrim : trim t with
  | nil => rfl
  | cons c u =>
    rw [htrim] at hflush
    rw [isAllBlank, List.all_cons, hflush c rfl]
    rfl

/-- Trimming once is enough. -/
theorem trim_trim (t : Text) : trim (trim t) = trim t := trim_eq_self (isTrimmed_trim t)

/-- What is put behind a text without a separator belongs to its last piece. -/
theorem cutAt_append_of_not_mem {sep : Char} {u : Text} (h : sep ∉ u) (t : Text) :
    ∃ pieces last, cutAt sep t = pieces ++ [last] ∧ cutAt sep (t ++ u) = pieces ++ [last ++ u] := by
  induction t with
  | nil => exact ⟨[], [], rfl, cutAt_of_not_mem h⟩
  | cons c t ih =>
    obtain ⟨pieces, last, ht, htu⟩ := ih
    by_cases hc : c = sep
    · refine ⟨[] :: pieces, last, ?_, ?_⟩
      · rw [cutAt, if_pos hc, ht, List.cons_append]
      · rw [List.cons_append, cutAt, if_pos hc, htu, List.cons_append]
    · rw [List.cons_append, cutAt_cons_of_ne hc, cutAt_cons_of_ne hc, ht, htu]
      cases pieces with
      | nil => exact ⟨[], c :: last, rfl, rfl⟩
      | cons p pieces => exact ⟨(c :: p) :: pieces, last, rfl, rfl⟩

/-- What is put in front belongs to its first piece. -/
theorem append_cutAt_of_not_mem {sep : Char} {u : Text} (h : sep ∉ u) (t : Text) :
    ∃ first pieces, cutAt sep t = first :: pieces ∧
      cutAt sep (u ++ t) = (u ++ first) :: pieces := by
  obtain ⟨first, pieces, ht⟩ := List.exists_cons_of_ne_nil (cutAt_ne_nil sep t)
  refine ⟨first, pieces, ht, ?_⟩
  induction u with
  | nil => exact ht
  | cons c u ih =>
    rw [List.mem_cons, not_or] at h
    rw [List.cons_append, cutAt_cons_of_ne (Ne.symm h.1), ih h.2]
    rfl

end Text

namespace Sql

namespace Segment

/-- Pieces are tidied one by one. -/
theorem tidy_append (ps qs : List Text) : tidy (ps ++ qs) = tidy ps ++ tidy qs := by
  rw [tidy, List.filter_append, List.map_append, tidy, tidy]

/-- Blanks around a piece do not matter. -/
theorem tidy_singleton_congr {p q : Text} (hblank : Text.isAllBlank p = Text.isAllBlank q)
    (htrim : Text.trim p = Text.trim q) : tidy [p] = tidy [q] := by
  cases hq : Text.isAllBlank q <;> simp [tidy, hblank, hq, htrim]

/-- Tidying the pieces of many texts is tidying those of each. -/
theorem tidy_flatMap {α : Type} (xs : List α) (f : α → List Text) :
    tidy (xs.flatMap f) = xs.flatMap fun x => tidy (f x) := by
  induction xs with
  | nil => rfl
  | cons x xs ih => rw [List.flatMap_cons, tidy_append, ih, List.flatMap_cons]

/-- What is left are the trimmed pieces that are not blank. -/
theorem mem_tidy_iff {pieces : List Text} {s : Text} :
    s ∈ tidy pieces ↔ ∃ p ∈ pieces, Text.isAllBlank p = false ∧ Text.trim p = s := by
  simp only [tidy, List.mem_map, List.mem_filter, Bool.not_eq_true', and_assoc]

/-- A blank text holds no comma. -/
theorem comma_notMem_of_isAllBlank {gap : Text} (h : Text.isAllBlank gap) : ',' ∉ gap := by
  intro hmem
  cases List.all_eq_true.1 h ',' hmem

/-- **Trimming before cutting** makes no difference to the trimmed pieces. -/
theorem tidy_cutAt_trim (t : Text) :
    tidy (Text.cutAt ',' (Text.trim t)) = tidy (Text.cutAt ',' t) := by
  obtain ⟨front, back, hfront, hback, ht⟩ := Text.exists_eq_trim t
  obtain ⟨first, pieces, hcut, hcutFront⟩ := Text.append_cutAt_of_not_mem
    (comma_notMem_of_isAllBlank hfront) (Text.trim t)
  obtain ⟨others, last, hcutBefore, hcutBack⟩ := Text.cutAt_append_of_not_mem
    (comma_notMem_of_isAllBlank hback) (front ++ Text.trim t)
  have hhead : tidy [front ++ first] = tidy [first] := by
    refine tidy_singleton_congr ?_ (Text.trim_append (List.all_eq_true.1 hfront) first)
    rw [Text.isAllBlank_append, hfront, Bool.true_and]
  have hlast : tidy [last ++ back] = tidy [last] := by
    refine tidy_singleton_congr ?_ (Text.trim_append_blanks hback last)
    rw [Text.isAllBlank_append, hback, Bool.and_true]
  calc tidy (Text.cutAt ',' (Text.trim t))
      = tidy [first] ++ tidy pieces := by rw [hcut, ← tidy_append, List.singleton_append]
    _ = tidy (Text.cutAt ',' (front ++ Text.trim t)) := by
      rw [← hhead, ← tidy_append, List.singleton_append, hcutFront]
    _ = tidy others ++ tidy [last ++ back] := by rw [hcutBefore, tidy_append, hlast]
    _ = tidy (Text.cutAt ',' t) := by
      rw [← tidy_append, ← hcutBack, ← ht]

/-- Pieces with commas between them are cut one by one. -/
theorem cutAt_join {pieces : List Text} (h : pieces ≠ []) :
    Text.cutAt ',' (Text.join [','] pieces) = pieces.flatMap (Text.cutAt ',') := by
  induction pieces with
  | nil => exact absurd rfl h
  | cons p ps ih =>
    cases ps with
    | nil => rw [Text.join_singleton, List.flatMap_singleton]
    | cons q qs =>
      rw [Text.join_cons_cons, List.singleton_append, Text.cutAt_append,
        ih (List.cons_ne_nil _ _), ← List.flatMap_cons]

/-- What is blank holds no comma, so nothing comes of it in either way. -/
theorem legacy_of_isAllBlank {t : Text} (h : Text.isAllBlank t) : legacy t = [] := by
  rw [legacy, Text.cutAt_of_not_mem (comma_notMem_of_isAllBlank h)]
  simp [tidy, h]

/-- What is left out of the pieces, and what is trimmed, does not matter if they are cut again. -/
theorem flatMap_legacy_tidy (pieces : List Text) :
    (tidy pieces).flatMap legacy = pieces.flatMap legacy := by
  induction pieces with
  | nil => rfl
  | cons p ps ih =>
    have hhead : (tidy [p]).flatMap legacy = legacy p := by
      cases hp : Text.isAllBlank p with
      | true => simp [tidy, hp, legacy_of_isAllBlank hp]
      | false =>
        have hkept : tidy [p] = [Text.trim p] := by simp [tidy, hp]
        rw [hkept, List.flatMap_singleton, legacy, legacy, tidy_cutAt_trim]
    rw [← List.singleton_append, tidy_append, List.flatMap_append, hhead, ih, List.singleton_append,
      List.flatMap_cons]

end Segment

namespace Nesting

/-- No piece has a comma outside. -/
theorem covers_of_mem_cut {n : Nesting} {t p : Text} {ps : List Text} (h : cut n t = p :: ps) :
    n.Covers p ∧ ∀ q ∈ ps, outside.Covers q := by
  induction t generalizing n p ps with
  | nil =>
    obtain ⟨rfl, rfl⟩ := List.cons.inj h
    exact ⟨covers_nil n, List.forall_mem_nil _⟩
  | cons c t ih =>
    by_cases hc : c = ',' ∧ n = outside
    · rw [cut, if_pos hc] at h
      obtain ⟨rfl, rfl⟩ := List.cons.inj h
      obtain ⟨q, qs, hcut⟩ := List.exists_cons_of_ne_nil (cut_ne_nil n t)
      obtain ⟨hq, hqs⟩ := ih hcut
      rw [hcut]
      exact ⟨covers_nil n, List.forall_mem_cons.2 ⟨hc.2 ▸ hq, hqs⟩⟩
    · obtain ⟨q, qs, hcut⟩ := List.exists_cons_of_ne_nil (cut_ne_nil (n.advance c) t)
      rw [cut_cons_of_not hc, hcut] at h
      obtain ⟨rfl, rfl⟩ := List.cons.inj h
      obtain ⟨hq, hqs⟩ := ih hcut
      exact ⟨covers_cons_iff.2 ⟨fun hcomma hn => hc ⟨hcomma, hn⟩, hq⟩, hqs⟩

/-- Where a text stands is told by the texts in front of it, one after another. -/
theorem behind_append (s t : Text) (n : Nesting) : behind (s ++ t) n = behind t (behind s n) :=
  List.foldl_append

/-- Blanks in front of a text do not change where it stands. -/
theorem behind_of_isAllBlank {gap : Text} (h : Text.isAllBlank gap) :
    behind gap outside = outside := by
  induction gap with
  | nil => rfl
  | cons c gap ih =>
    rw [Text.isAllBlank, List.all_cons, Bool.and_eq_true] at h
    rw [behind_cons, isProper_outside.advance_blank h.1]
    exact ih h.2

/-- A piece has no comma outside once it is trimmed, either. -/
theorem covers_trim {t : Text} (h : outside.Covers t) : outside.Covers (Text.trim t) := by
  obtain ⟨front, back, hfront, -, ht⟩ := Text.exists_eq_trim t
  intro left right hsplit
  have hbehind := h (front ++ left) (right ++ back) (by rw [ht, hsplit]; simp)
  rwa [behind_append, behind_of_isAllBlank hfront] at hbehind

/-- Where nothing opens a literal or a parenthesis, every comma stands outside. -/
theorem cut_eq_cutAt {t : Text} (hopen : '(' ∉ t) (hquote : ∀ c ∈ t, Segment.isQuote c = false) :
    cut outside t = Text.cutAt ',' t := by
  induction t with
  | nil => rfl
  | cons c t ih =>
    obtain ⟨hc, ht⟩ := not_or.1 (mt List.mem_cons.2 hopen)
    obtain ⟨hquoteHead, hquoteTail⟩ := List.forall_mem_cons.1 hquote
    have ih := ih ht hquoteTail
    -- a closing parenthesis leaves a depth of zero as it is
    have hstay : outside.advance c = outside := by
      simp [advance, outside, hquoteHead, Ne.symm hc]
    by_cases hcomma : c = ','
    · rw [cut, if_pos ⟨hcomma, rfl⟩, Text.cutAt, if_pos hcomma, ih]
    · rw [cut_cons_of_not fun hsep => hcomma hsep.1, Text.cutAt_cons_of_ne hcomma, hstay, ih]

/-- Cutting the segments at every comma gives what the body gives. -/
theorem flatMap_legacy_depthAware (body : Text) :
    (Segment.depthAware body).flatMap Segment.legacy = Segment.legacy body :=
  calc (Segment.depthAware body).flatMap Segment.legacy
      = (cut outside body).flatMap fun p => Segment.tidy (Text.cutAt ',' p) := by
        rw [depthAware_eq, Segment.flatMap_legacy_tidy]
        rfl
    _ = Segment.tidy (Text.cutAt ',' (Text.join [','] (cut outside body))) := by
        rw [← Segment.tidy_flatMap, Segment.cutAt_join (cut_ne_nil outside body)]
    _ = Segment.legacy body := by
        rw [(isFactorisation_iff.2 rfl).join, Segment.legacy]

/-- A segment has no comma outside. -/
theorem covers_of_mem_depthAware {body segment : Text} (h : segment ∈ Segment.depthAware body) :
    outside.Covers segment := by
  rw [depthAware_eq, Segment.mem_tidy_iff] at h
  obtain ⟨p, hp, -, rfl⟩ := h
  obtain ⟨q, qs, hpieces⟩ := List.exists_cons_of_ne_nil (cut_ne_nil outside body)
  obtain ⟨hq, hqs⟩ := covers_of_mem_cut hpieces
  rw [hpieces] at hp
  exact covers_trim (List.forall_mem_cons.2 ⟨hq, hqs⟩ p hp)

/-- A segment is the only one of itself. -/
theorem depthAware_of_mem {body segment : Text} (h : segment ∈ Segment.depthAware body) :
    Segment.depthAware segment = [segment] := by
  have hcut := cut_of_covers (covers_of_mem_depthAware h)
  rw [depthAware_eq, Segment.mem_tidy_iff] at h
  obtain ⟨p, -, hblank, rfl⟩ := h
  have hkept : Segment.tidy [Text.trim p] = [Text.trim (Text.trim p)] := by
    rw [Segment.tidy, List.filter_cons_of_pos (by simpa [Text.isAllBlank_trim] using hblank)]
    rfl
  rw [depthAware_eq, hcut, hkept, Text.trim_trim]

/-- **Cutting at every comma refines cutting at those outside.** Cutting the segments further gives
the segments that the body is cut into at every comma; a segment cut again as it was is one segment;
and both ways agree on a body in which nothing opens a literal or a parenthesis. -/
theorem legacy_refines_depthAware (body : Text) :
    (Segment.depthAware body).flatMap Segment.legacy = Segment.legacy body ∧
      (∀ segment ∈ Segment.depthAware body, Segment.depthAware segment = [segment]) ∧
      ('(' ∉ body → (∀ c ∈ body, Segment.isQuote c = false) →
        Segment.depthAware body = Segment.legacy body) := by
  refine ⟨flatMap_legacy_depthAware body, fun segment => depthAware_of_mem,
    fun hopen hquote => ?_⟩
  rw [depthAware_eq, cut_eq_cutAt hopen hquote, Segment.legacy]

/-- A body with a parenthesis too many and nothing that opens one. -/
theorem legacy_refines_depthAware_stray :
    "b)".toList ∈ Segment.depthAware "a, b) , ,c" ∧ Segment.depthAware "b)" = ["b)".toList] ∧
      Segment.depthAware "a, b) , ,c" = Segment.legacy "a, b) , ,c" := by
  have hmem : "b)".toList ∈ Segment.depthAware "a, b) , ,c" := by decide
  have hquote : ("a, b) , ,c".toList.all fun c => Segment.isQuote c == false) = true := by decide
  refine ⟨hmem, (legacy_refines_depthAware _).2.1 _ hmem, (legacy_refines_depthAware _).2.2 ?_ ?_⟩
  · decide
  · simpa only [List.all_eq_true, beq_iff_eq] using hquote

end Nesting
end Sql
end Tablesmith
