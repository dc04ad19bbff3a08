/-
# Texts of one line

A text without carriage returns and newlines stays on the line that it is written to. Numerals and
literals are such texts whatever they are made of, because a literal escapes what would end its line
(`isLine_literal`), and texts put together from such texts are.

The second part is about lines in a text: a text that is put together with newlines between the
parts has the lines of the parts (`cutAt_append`), and a part of one line is one of them
(`cutAt_unlines`).
-/

import Tablesmith.Proofs.Text.Newline
import Tablesmith.Text.Literal

namespace Tablesmith
namespace Text

/-- Nothing ends no line. -/
@[simp] theorem isLine_nil : IsLine [] := by
  rintro c ⟨⟩

/-- A text is one line if neither its first character nor the others end it. -/
@[simp] theorem isLine_cons_iff {c : Char} {t : Text} : IsLine (c :: t) ↔ IsInLine c ∧ IsLine t :=
  List.forall_mem_cons

/-- Two texts are one line together if each of them is. -/
@[simp] theorem isLine_append_iff {s t : Text} : IsLine (s ++ t) ↔ IsLine s ∧ IsLine t :=
  List.forall_mem_append

/-- Joined texts are one line if each of them is, and what joins them. -/
theorem isLine_join_iff {sep : Text} (hsep : IsLine sep) {parts : List Text} :
    IsLine (join sep parts) ↔ ∀ p ∈ parts, IsLine p := by
  induction parts with
  | nil => simp [join, List.intercalate]
  | cons p ps ih =>
    cases ps with
    | nil => rw [join_singleton, List.forall_mem_singleton]
    | cons q qs =>
      rw [join_cons_cons, isLine_append_iff, isLine_append_iff, ih, List.forall_mem_cons (a := p)]
      exact and_congr_right fun _ => and_iff_right hsep

/-- What is joined consists of the separator and the parts. -/
theorem mem_of_mem_join {sep : Text} {parts : List Text} {c : Char} (h : c ∈ join sep parts) :
    c ∈ sep ∨ ∃ p ∈ parts, c ∈ p := by
  induction parts with
  | nil => cases h
  | cons p ps ih =>
    cases ps with
    | nil => exact .inr ⟨p, List.mem_cons_self .., by rwa [join_singleton] at h⟩
    | cons q qs =>
      rw [join_cons_cons, List.mem_append, List.mem_append] at h
      rcases h with h | h | h
      · exact .inr ⟨p, List.mem_cons_self .., h⟩
      · exact .inl h
      · obtain hsep | ⟨r, hr, hc⟩ := ih h
        · exact .inl hsep
        · exact .inr ⟨r, List.mem_cons_of_mem _ hr, hc⟩

/-- Lines hold no carriage return, and neither does the text that is made of them. -/
theorem not_mem_unlines {lines : List Text} (h : ∀ l ∈ lines, IsLine l) : '\r' ∉ unlines lines := by
  intro hmem
  obtain hsep | ⟨l, hl, hreturn⟩ := mem_of_mem_join hmem
  · cases List.mem_singleton.1 hsep
  · exact (h l hl '\r' hreturn).1 rfl

/-- A character that is not blank ends no line. -/
theorem isInLine_of_not_isBlank {c : Char} (h : isBlank c = false) : IsInLine c := by
  constructor
  · rintro rfl
    cases h
  · rintro rfl
    cases h

/-- What has no blanks is one line. -/
theorem isLine_of_forall_not_isBlank {t : Text} (h : ∀ c ∈ t, isBlank c = false) : IsLine t :=
  fun c hc => isInLine_of_not_isBlank (h c hc)

/-- A natural numeral is one line. -/
@[simp] theorem isLine_ofNat (n : Nat) : IsLine (ofNat n) := by
  intro c hc
  have hdigit : c.isDigit := Nat.isDigit_of_mem_toDigits (by decide) (by decide) hc
  constructor
  · rintro rfl
    cases hdigit
  · rintro rfl
    cases hdigit

/-- A numeral is one line, with its sign. -/
@[simp] theorem isLine_ofInt (n : Int) : IsLine (ofInt n) := by
  cases n with
  | ofNat n => exact isLine_ofNat n
  | negSucc n =>
    rw [ofInt, isLine_cons_iff]
    exact ⟨by decide, isLine_ofNat _⟩

/-- Above `\x7f` a character is written as it is. -/
theorem escapeChar_of_high {c : Char} (hc : 128 ≤ c.toNat) : escapeChar c = [c] := by
  have hne : ∀ d : Char, d.toNat < 128 → c ≠ d := by
    rintro d hd rfl
    omega
  rw [escapeChar, if_neg (hne _ (by decide)), if_neg (hne _ (by decide)),
    if_neg (hne _ (by decide)), if_neg (hne _ (by decide)), if_neg (hne _ (by decide)),
    if_neg (hne _ (by decide)), if_neg (hne _ (by decide)), if_neg (by omega)]

/-- Below the blank a character is escaped, and above it none ends a line. -/
theorem isLine_escapeChar (c : Char) : IsLine (escapeChar c) := by
  by_cases hc : c.toNat < 128
  · have hascii : ∀ n < 128, IsLine (escapeChar (Char.ofNat n)) := by decide +kernel
    exact ascii_of_forall (P := fun c => IsLine (escapeChar c)) hascii hc
  · have hne : ∀ d : Char, d.toNat < 128 → c ≠ d := by
      rintro d hd rfl
      exact hc hd
    rw [escapeChar_of_high (by omega), isLine_cons_iff]
    exact ⟨⟨hne _ (by decide), hne _ (by decide)⟩, isLine_nil⟩

/-- **A literal stays on its line,** whatever its text is. -/
@[simp] theorem isLine_literal (t : Text) : IsLine (literal t) := by
  have hescape : IsLine (escape t) := by
    intro c hc
    obtain ⟨d, -, hd⟩ := List.mem_flatMap.1 hc
    exact isLine_escapeChar d c hd
  rw [literal, isLine_append_iff, isLine_cons_iff]
  exact ⟨⟨by decide, hescape⟩, by decide⟩

/-- A character that does not cut belongs to the first piece. -/
theorem cutAt_cons_of_ne {sep c : Char} (h : c ≠ sep) (t : Text) :
    cutAt sep (c :: t) = consHead c (cutAt sep t) := by
  rw [cutAt, if_neg h]

/-- Two texts with a separator between them are cut one by one. -/
theorem cutAt_append (sep : Char) (s t : Text) :
    cutAt sep (s ++ sep :: t) = cutAt sep s ++ cutAt sep t := by
  induction s with
  | nil => simp [cutAt]
  | cons c s ih =>
    by_cases hc : c = sep
    · rw [List.cons_append, cutAt, if_pos hc, ih, cutAt, if_pos hc]
      rfl
    · obtain ⟨p, ps, hs⟩ := List.exists_cons_of_ne_nil (cutAt_ne_nil sep s)
      rw [List.cons_append, cutAt_cons_of_ne hc, ih, cutAt_cons_of_ne hc, hs]
      rfl

/-- Without a separator there is nothing to cut. -/
theorem cutAt_of_not_mem {sep : Char} {t : Text} (h : sep ∉ t) : cutAt sep t = [t] := by
  induction t with
  | nil => rfl
  | cons c t ih =>
    rw [List.mem_cons, not_or] at h
    rw [cutAt_cons_of_ne (Ne.symm h.1), ih h.2]
    rfl

/-- Lines at the front of a text are the first of its lines. -/
theorem cutAt_unlines (lines : List Text) (hne : lines ≠ []) (h : ∀ l ∈ lines, IsLine l)
    (t : Text) : cutAt '\n' (unlines lines ++ '\n' :: t) = lines ++ cutAt '\n' t := by
  induction lines with
  | nil => exact absurd rfl hne
  | cons l ls ih =>
    obtain ⟨hl, hls⟩ := List.forall_mem_cons.1 h
    have hcut : cutAt '\n' l = [l] := cutAt_of_not_mem fun hmem => (hl '\n' hmem).2 rfl
    cases ls with
    | nil => rw [unlines, join_singleton, cutAt_append, hcut]
    | cons m ms =>
      have hjoin : unlines (l :: m :: ms) = l ++ '\n' :: unlines (m :: ms) := join_cons_cons ..
      rw [hjoin, List.append_assoc, List.cons_append, cutAt_append, hcut,
        ih (List.cons_ne_nil _ _) hls]
      rfl

/-- Parts that are joined end as the last of them does. -/
theorem getLast?_join (sep : Text) (parts : List Text) {last : Text} {c : Char}
    (h : last.getLast? = some c) : (join sep (parts ++ [last])).getLast? = some c := by
  induction parts with
  | nil => rwa [List.nil_append, join_singleton]
  | cons p ps ih =>
    obtain ⟨q, qs, hq⟩ := List.exists_cons_of_ne_nil
      (List.append_ne_nil_of_right_ne_nil ps (List.cons_ne_nil last []))
    rw [hq] at ih
    rw [List.cons_append, hq, join_cons_cons, List.getLast?_append, List.getLast?_append, ih]
    rfl

end Text
end Tablesmith
