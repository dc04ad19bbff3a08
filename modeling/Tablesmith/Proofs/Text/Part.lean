/-
# Parts of a text

A part of a text is a run of its characters. Looking for a part finds one exactly where it stands
(`contains_iff`), and what does not stand in a text does not stand in any part of it either, also
in upper case (`contains_upper_of_isInfix`). Trimming, cutting, and taking the first word all lead
to parts.

The words of a text are its longest parts without blanks. A text has a first one if it is not blank
(`head?_words`).
-/

import Mathlib.Data.List.Infix
import Mathlib.Data.List.TakeWhile
import Tablesmith.Proofs.Text.Blank
import Tablesmith.Text.Case

namespace Tablesmith
namespace Text

/-- **A part is found where it stands,** and nowhere else. -/
theorem contains_iff {part t : Text} : contains part t ↔ part <:+: t := by
  induction t with
  | nil => rw [contains, List.isEmpty_iff, List.infix_nil]
  | cons c t ih =>
    rw [contains, Bool.or_eq_true, List.isPrefixOf_iff_prefix, ih, List.infix_cons_iff]

/-- What stands in a part in upper case stands in the whole in upper case. -/
theorem contains_upper_of_isInfix {part s t : Text} (h : s <:+: t) (hs : contains part (upper s)) :
    contains part (upper t) := by
  have hupper : upper s <:+: upper t := h.flatMap upperChar
  exact contains_iff.2 ((contains_iff.1 hs).trans hupper)

/-- What a text is trimmed to stands in it. -/
theorem trim_isInfix (t : Text) : trim t <:+: t := by
  obtain ⟨front, back, -, -, ht⟩ := exists_eq_trim t
  exact ⟨front, back, ht.symm⟩

/-- Every part stands in the text that they are joined to. -/
theorem isInfix_join {sep p : Text} {parts : List Text} (h : p ∈ parts) :
    p <:+: join sep parts := by
  induction parts with
  | nil => cases h
  | cons q parts ih =>
    cases parts with
    | nil => rw [List.mem_singleton.1 h, join_singleton]
    | cons r parts =>
      rw [join_cons_cons]
      rcases List.mem_cons.1 h with rfl | h
      · exact (List.prefix_append p _).isInfix
      · have hback : join sep (r :: parts) <:+ q ++ (sep ++ join sep (r :: parts)) :=
          (List.suffix_append sep _).trans (List.suffix_append q _)
        exact (ih h).trans hback.isInfix

/-- Every piece stands in the text that was cut. -/
theorem isInfix_of_mem_cutAt {sep : Char} {t p : Text} (h : p ∈ cutAt sep t) : p <:+: t := by
  have hjoin : p <:+: join [sep] (cutAt sep t) := isInfix_join h
  rwa [join_cutAt] at hjoin

/-- The first piece goes on to the first separator. -/
theorem cutAt_eq_takeWhile (sep : Char) (t : Text) :
    ∃ pieces, cutAt sep t = t.takeWhile (· != sep) :: pieces := by
  induction t with
  | nil => exact ⟨[], rfl⟩
  | cons c t ih =>
    obtain ⟨pieces, ih⟩ := ih
    by_cases hc : c = sep
    · exact ⟨cutAt sep t, by simp [cutAt, hc]⟩
    · exact ⟨pieces, by simp [cutAt, hc, ih, consHead]⟩

/-- No piece has the separator in it. -/
theorem not_mem_of_mem_cutAt {sep : Char} {t p : Text} (h : p ∈ cutAt sep t) : sep ∉ p := by
  induction t generalizing p with
  | nil =>
    rw [List.mem_singleton.1 h]
    exact List.not_mem_nil
  | cons c t ih =>
    rw [cutAt] at h
    split at h
    · rcases List.mem_cons.1 h with rfl | h
      · exact List.not_mem_nil
      · exact ih h
    · next hc =>
      obtain ⟨q, qs, hcut⟩ := List.exists_cons_of_ne_nil (cutAt_ne_nil sep t)
      rw [hcut] at h ih
      rcases List.mem_cons.1 h with rfl | h
      · rw [List.mem_cons, not_or]
        exact ⟨Ne.symm hc, ih (List.mem_cons_self ..)⟩
      · exact ih (List.mem_cons_of_mem _ h)

/-- The first word is the beginning of its text. -/
theorem firstWord_isPrefix (t : Text) : firstWord t <+: t := List.takeWhile_prefix _

/-- A text without blanks is its own first word. -/
theorem firstWord_eq_self {t : Text} (h : ∀ c ∈ t, isBlank c = false) : firstWord t = t :=
  List.takeWhile_eq_self_iff.2 fun c hc => by simp [h c hc]

/-- No blank is in the first word. -/
theorem not_blank_of_mem_firstWord {t : Text} {c : Char} (h : c ∈ firstWord t) :
    isBlank c = false := by
  simpa using List.mem_takeWhile_imp h

/-- A text that begins with no blank begins with a word. -/
theorem firstWord_ne_nil {t : Text} (hne : t ≠ []) (h : t.IsFlush) : firstWord t ≠ [] := by
  obtain ⟨c, t, rfl⟩ := List.exists_cons_of_ne_nil hne
  have hc : isBlank c = false := h c rfl
  simp [firstWord, hc]

/-- Of a text that ends earlier the first word ends earlier. -/
theorem firstWord_takeWhile (p : Char → Bool) (t : Text) :
    firstWord (t.takeWhile p) = (firstWord t).takeWhile p := by
  rw [firstWord, List.takeWhile_takeWhile, firstWord, List.takeWhile_takeWhile]
  simp only [and_comm]

/-- Blanks at the end do not matter to the first word. -/
theorem firstWord_append_blanks {gap : Text} (h : isAllBlank gap) (t : Text) :
    firstWord (t ++ gap) = firstWord t := by
  have hgap : firstWord gap = [] := by
    rw [List.eq_nil_iff_forall_not_mem]
    intro c hc
    have hblank := List.all_eq_true.1 h c ((firstWord_isPrefix gap).subset hc)
    rw [not_blank_of_mem_firstWord hc] at hblank
    cases hblank
  rw [firstWord, List.takeWhile_append]
  split
  · next hall =>
    rw [← firstWord, hgap, List.append_nil]
    exact ((firstWord_isPrefix t).eq_of_length hall).symm
  · rfl

/-- The first word of a text that begins with no blank stays when the text is trimmed. -/
theorem firstWord_trim {t : Text} (h : t.IsFlush) : firstWord (trim t) = firstWord t := by
  obtain ⟨front, back, hfront, hback, ht⟩ := exists_eq_trim t
  cases front with
  | nil =>
    rw [List.nil_append] at ht
    rw [← firstWord_append_blanks hback (trim t), ← ht]
  | cons c front =>
    have hc := h c (by rw [ht]; rfl)
    rw [isAllBlank, List.all_cons, hc] at hfront
    cases hfront

/-- The words of a text: what stands between its blanks. -/
def words (t : Text) : List Text := (t.splitOnP isBlank).filter fun w => !w.isEmpty

/-- The first word is the first of the pieces between blanks. -/
theorem splitOnP_eq_firstWord (t : Text) :
    ∃ pieces, t.splitOnP isBlank = firstWord t :: pieces := by
  induction t with
  | nil => exact ⟨[], List.splitOnP_nil⟩
  | cons c t ih =>
    obtain ⟨pieces, ih⟩ := ih
    rw [List.splitOnP_cons_eq_if_modifyHead, ih]
    cases hc : isBlank c with
    | true => exact ⟨firstWord t :: pieces, by simp [firstWord, hc]⟩
    | false => exact ⟨pieces, by simp [firstWord, hc]⟩

/-- **The first word is the first of the words,** and a text that begins with no blank has one. -/
theorem head?_words {t : Text} (hne : t ≠ []) (h : t.IsFlush) :
    (words t).head? = some (firstWord t) := by
  have hfirst : firstWord t ≠ [] := firstWord_ne_nil hne h
  obtain ⟨pieces, hsplit⟩ := splitOnP_eq_firstWord t
  rw [words, hsplit, List.filter_cons_of_pos (by simpa using hfirst), List.head?_cons]

example : words "\tprecio  NUMERIC(8, 2)\n" =
    ["precio".toList, "NUMERIC(8,".toList, "2)".toList] := by decide

end Text
end Tablesmith
