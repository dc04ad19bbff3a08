/-
# Texts with other line endings

What a reader makes of a text does not change if its line endings are written as newlines, except
that the parts that it hands on have theirs written so too. This file says so of the readers that
all others are made of. There are four ways for a text to begin, and every proof goes by them
(`newlineCases`):

| the text | its form with newlines |
| --- | --- |
| empty | empty |
| `\r\n` and more | `\n` and the form of the rest |
| `\r` and more that does not begin with `\n` | `\n` and the form of the rest |
| any other character and more | the same character and the form of the rest |

Carriage return and newline are alike to all readers: both are blank, neither belongs to a word, and
neither is a letter of a keyword. The third row is the one that needs care. Where a reader splits a
text, a carriage return and the newline behind it must not come apart.
-/

import Tablesmith.Proofs.Text.Blank
import Tablesmith.Text.Line

namespace Tablesmith
namespace Text

/-- The pair of both characters comes to one newline. -/
theorem unixNewlines_pair (t : Text) :
    unixNewlines ('\r' :: '\n' :: t) = '\n' :: unixNewlines t := by
  rw [unixNewlines]

/-- A carriage return of its own comes to a newline. -/
theorem unixNewlines_return {t : Text} (h : t.head? ≠ some '\n') :
    unixNewlines ('\r' :: t) = '\n' :: unixNewlines t := by
  rw [unixNewlines, if_pos rfl]
  rintro cs - rfl
  exact h rfl

/-- Any other character stays as it is. -/
theorem unixNewlines_cons {c : Char} (h : c ≠ '\r') (t : Text) :
    unixNewlines (c :: t) = c :: unixNewlines t := by
  rw [unixNewlines, if_neg h]
  rintro cs hc -
  exact h hc

/-- Induction along the line endings of a text. -/
@[elab_as_elim]
theorem newlineCases {P : Text → Prop} (nil : P []) (pair : ∀ t, P t → P ('\r' :: '\n' :: t))
    (single : ∀ t, t.head? ≠ some '\n' → P t → P ('\r' :: t))
    (plain : ∀ c t, c ≠ '\r' → P t → P (c :: t)) (t : Text) : P t := by
  fun_induction unixNewlines t with
  | case1 => exact nil
  | case2 t ih => exact pair t ih
  | case3 c t hpair ih =>
    by_cases hc : c = '\r'
    · subst hc
      refine single t (fun hhead => ?_) ih
      obtain ⟨ds, rfl⟩ := List.head?_eq_some_iff.1 hhead
      exact hpair ds rfl rfl
    · exact plain c t hc ih

/-- Neither of the two characters that end a line. -/
def IsInLine (c : Char) : Prop := c ≠ '\r' ∧ c ≠ '\n'

instance decidableIsInLine (c : Char) : Decidable (IsInLine c) :=
  inferInstanceAs (Decidable (_ ∧ _))

/-- Nothing in the text ends a line. -/
def IsLine (t : Text) : Prop := ∀ c ∈ t, IsInLine c

instance decidableIsLine (t : Text) : Decidable (IsLine t) := List.decidableBAll IsInLine t

/-- Newlines are changed behind what has no carriage return, and not in it. -/
theorem unixNewlines_append {s : Text} (h : '\r' ∉ s) (t : Text) :
    unixNewlines (s ++ t) = s ++ unixNewlines t := by
  induction s with
  | nil => rfl
  | cons c s ih =>
    rw [List.mem_cons, not_or] at h
    rw [List.cons_append, unixNewlines_cons (fun hc => h.1 hc.symm), ih h.2, List.cons_append]

/-- Nothing comes of nothing only. -/
@[simp] theorem unixNewlines_eq_nil_iff {t : Text} : unixNewlines t = [] ↔ t = [] := by
  induction t using newlineCases with
  | nil => simp [unixNewlines]
  | pair t ih => simp [unixNewlines_pair]
  | single t h ih => simp [unixNewlines_return h]
  | plain c t h ih => simp [unixNewlines_cons h]

/-- Behind the first `skip` characters, the text with `new` for every `old`. -/
def replaceFrom (old new : Text) : (skip : Nat) → Text → Text
  | _, [] => []
  | skip + 1, _ :: t => replaceFrom old new skip t
  | 0, c :: t =>
    if old.isPrefixOf (c :: t) then new ++ replaceFrom old new (old.length - 1) t
    else c :: replaceFrom old new 0 t

/-- The text with `new` for every `old`. They are looked for from the left, and none overlaps
another. -/
def replace (old new t : Text) : Text := replaceFrom old new 0 t

/-- Where the old text stands, the new one is put, and the search goes on behind it. -/
theorem replace_of_isPrefixOf {old new t : Text} {c : Char} (h : old.isPrefixOf (c :: t)) :
    replace old new (c :: t) = new ++ replaceFrom old new (old.length - 1) t := by
  rw [replace, replaceFrom, if_pos h]

/-- Where it does not stand, one character is kept. -/
theorem replace_of_not_isPrefixOf {old new t : Text} {c : Char} (h : ¬ old.isPrefixOf (c :: t)) :
    replace old new (c :: t) = c :: replace old new t := by
  rw [replace, replaceFrom, if_neg h, replace]

/-- **The form with newlines takes two replacements:** first the pairs, then the carriage returns
that are left. -/
theorem replace_replace (t : Text) :
    replace "\r" "\n" (replace "\r\n" "\n" t) = unixNewlines t := by
  have hreturn : ∀ t, replace "\r" "\n" ('\r' :: t) = '\n' :: replace "\r" "\n" t := fun t =>
    replace_of_isPrefixOf (by simp [List.isPrefixOf])
  have hother : ∀ {c}, c ≠ '\r' → ∀ t, replace "\r" "\n" (c :: t) = c :: replace "\r" "\n" t :=
    fun hc t => replace_of_not_isPrefixOf (by simpa [List.isPrefixOf] using hc.symm)
  induction t using newlineCases with
  | nil => rfl
  | pair t ih =>
    have hpair : replace "\r\n" "\n" ('\r' :: '\n' :: t) = '\n' :: replace "\r\n" "\n" t :=
      replace_of_isPrefixOf (by simp [List.isPrefixOf])
    rw [hpair, hother (by decide), ih, unixNewlines_pair]
  | single t h ih =>
    have hsingle : replace "\r\n" "\n" ('\r' :: t) = '\r' :: replace "\r\n" "\n" t := by
      refine replace_of_not_isPrefixOf ?_
      cases t with
      | nil => simp [List.isPrefixOf]
      | cons d ds =>
        have hd : d ≠ '\n' := by simpa using h
        simp [List.isPrefixOf, hd.symm]
    rw [hsingle, hreturn, ih, unixNewlines_return h]
  | plain c t h ih =>
    have hplain : replace "\r\n" "\n" (c :: t) = c :: replace "\r\n" "\n" t :=
      replace_of_not_isPrefixOf (by simp [List.isPrefixOf, h.symm])
    rw [hplain, hother h, ih, unixNewlines_cons h]

example : replace "\r" "\n" (replace "\r\n" "\n" "a\r\r\nb\n\r") = "a\n\nb\n\n".toList := by
  decide

section TakeAndDrop

variable {p : Char → Bool}

/-- What is dropped in front, ends of lines alike, does not depend on how lines end. -/
theorem dropWhile_unixNewlines (hp : p '\r' = p '\n') (t : Text) :
    (unixNewlines t).dropWhile p = unixNewlines (t.dropWhile p) := by
  induction t using newlineCases with
  | nil => rfl
  | pair t ih =>
    rw [unixNewlines_pair]
    cases hn : p '\n' with
    | true => simp [hn, hp, ih]
    | false => simp [hn, hp, unixNewlines_pair]
  | single t h ih =>
    rw [unixNewlines_return h]
    cases hn : p '\n' with
    | true => simp [hn, hp, ih]
    | false => simp [hn, hp, unixNewlines_return h]
  | plain c t h ih =>
    rw [unixNewlines_cons h]
    cases hc : p c with
    | true => simp [hc, ih]
    | false => simp [hc, unixNewlines_cons h]

/-- Characters of a line are taken as they stand. -/
theorem takeWhile_unixNewlines (hr : p '\r' = false) (hn : p '\n' = false) (t : Text) :
    (unixNewlines t).takeWhile p = t.takeWhile p := by
  induction t using newlineCases with
  | nil => rfl
  | pair t ih => simp [unixNewlines_pair, hr, hn]
  | single t h ih => simp [unixNewlines_return h, hr, hn]
  | plain c t h ih =>
    rw [unixNewlines_cons h]
    cases hc : p c <;> simp [hc, ih]

/-- What holds of all characters does not depend on how lines end. -/
theorem all_unixNewlines (hp : p '\r' = p '\n') (t : Text) :
    (unixNewlines t).all p = t.all p := by
  induction t using newlineCases with
  | nil => rfl
  | pair t ih =>
    rw [unixNewlines_pair, List.all_cons, List.all_cons, List.all_cons, ih, hp, ← Bool.and_assoc,
      Bool.and_self]
  | single t h ih => rw [unixNewlines_return h, List.all_cons, List.all_cons, ih, hp]
  | plain c t h ih => rw [unixNewlines_cons h, List.all_cons, List.all_cons, ih]

/-- What is left of a text whose end was trimmed begins as the text does. -/
theorem head?_trimEndBy {t : Text} {d : Char} (h : t.head? ≠ some d) :
    (trimEndBy p t).head? ≠ some d := by
  cases t with
  | nil => simp [trimEndBy]
  | cons c t =>
    have hcd : c ≠ d := by simpa using h
    rw [trimEndBy_cons]
    split
    · split <;> simp [hcd]
    · simpa using hcd

/-- What is trimmed off the end does not depend on how lines end. -/
theorem trimEndBy_unixNewlines (hp : p '\r' = p '\n') (t : Text) :
    trimEndBy p (unixNewlines t) = unixNewlines (trimEndBy p t) := by
  induction t using newlineCases with
  | nil => rfl
  | pair t ih =>
    rw [unixNewlines_pair, trimEndBy_cons, trimEndBy_cons, trimEndBy_cons, ih, hp]
    by_cases ht : trimEndBy p t = []
    · cases hn : p '\n' <;> simp [ht, unixNewlines]
    · simp [ht, unixNewlines_pair]
  | single t h ih =>
    rw [unixNewlines_return h, trimEndBy_cons, trimEndBy_cons, ih, hp]
    by_cases ht : trimEndBy p t = []
    · cases hn : p '\n' <;> simp [ht, unixNewlines]
    · simp [ht, unixNewlines_return (head?_trimEndBy h)]
  | plain c t h ih =>
    rw [unixNewlines_cons h, trimEndBy_cons, trimEndBy_cons, ih]
    by_cases ht : trimEndBy p t = []
    · cases hc : p c <;> simp [ht, unixNewlines, h]
    · simp [ht, unixNewlines_cons h]

end TakeAndDrop

/-- Skipping blanks does not depend on how lines end. -/
theorem skipBlanks_unixNewlines (t : Text) :
    skipBlanks (unixNewlines t) = unixNewlines (skipBlanks t) :=
  dropWhile_unixNewlines (by decide) t

/-- Trimming does not depend on how lines end. -/
theorem trim_unixNewlines (t : Text) : trim (unixNewlines t) = unixNewlines (trim t) := by
  rw [trim, trimBy, dropWhile_unixNewlines (by decide), trimEndBy_unixNewlines (by decide)]
  rfl

/-- Whether a text is blank does not depend on how lines end. -/
theorem isAllBlank_unixNewlines (t : Text) : isAllBlank (unixNewlines t) = isAllBlank t :=
  all_unixNewlines (by decide) t

/-- The first word does not depend on how lines end. -/
theorem firstWord_unixNewlines (t : Text) : firstWord (unixNewlines t) = firstWord t :=
  takeWhile_unixNewlines (by decide) (by decide) t

/-- Nor does what stands behind a blank. -/
theorem afterBlanks?_unixNewlines (t : Text) :
    afterBlanks? (unixNewlines t) = (afterBlanks? t).map unixNewlines := by
  have hr : isBlank '\r' := by decide
  have hn : isBlank '\n' := by decide
  induction t using newlineCases with
  | nil => rfl
  | pair t ih =>
    have hskip : skipBlanks ('\n' :: t) = skipBlanks t := by simp [skipBlanks, hn]
    rw [unixNewlines_pair, afterBlanks?_cons hn, afterBlanks?_cons hr, hskip,
      skipBlanks_unixNewlines]
    rfl
  | single t h ih =>
    rw [unixNewlines_return h, afterBlanks?_cons hn, afterBlanks?_cons hr, skipBlanks_unixNewlines]
    rfl
  | plain c t h ih =>
    rw [unixNewlines_cons h, afterBlanks?, afterBlanks?]
    split
    · rw [skipBlanks_unixNewlines]
      rfl
    · rfl

section Parts

variable {part : Text}

/-- What stands behind a text of one line does not depend on how lines end. -/
theorem after?_unixNewlines (h : IsLine part) (t : Text) :
    after? part (unixNewlines t) = (after? part t).map unixNewlines := by
  induction part generalizing t with
  | nil => cases t <;> simp [after?]
  | cons k ks ih =>
    obtain ⟨⟨hr, hn⟩, hks⟩ := List.forall_mem_cons.1 h
    induction t using newlineCases with
    | nil => rfl
    | pair t => simp [unixNewlines_pair, after?, hr, hn]
    | single t ht => simp [unixNewlines_return ht, after?, hr, hn]
    | plain c t hc =>
      rw [unixNewlines_cons hc, after?, after?]
      split
      · exact ih hks t
      · rfl

/-- A different character in front is a different beginning. -/
theorem isPrefixOf_cons_of_ne {k c : Char} (h : k ≠ c) (ks t : Text) :
    (k :: ks).isPrefixOf (c :: t) = false := by
  rw [List.isPrefixOf, beq_false_of_ne h, Bool.false_and]

/-- Whether a text of one line stands in front does not depend on how lines end. -/
theorem isPrefixOf_unixNewlines (h : IsLine part) (t : Text) :
    part.isPrefixOf (unixNewlines t) = part.isPrefixOf t := by
  induction part generalizing t with
  | nil => simp
  | cons k ks ih =>
    obtain ⟨⟨hr, hn⟩, hks⟩ := List.forall_mem_cons.1 h
    induction t using newlineCases with
    | nil => rfl
    | pair t =>
      rw [unixNewlines_pair, isPrefixOf_cons_of_ne hn, isPrefixOf_cons_of_ne hr]
    | single t ht =>
      rw [unixNewlines_return ht, isPrefixOf_cons_of_ne hn, isPrefixOf_cons_of_ne hr]
    | plain c t hc => rw [unixNewlines_cons hc, List.isPrefixOf, List.isPrefixOf, ih hks]

/-- Whether it stands anywhere does not depend on how lines end. -/
theorem contains_unixNewlines (hne : part ≠ []) (h : IsLine part) (t : Text) :
    contains part (unixNewlines t) = contains part t := by
  obtain ⟨k, ks, rfl⟩ := List.exists_cons_of_ne_nil hne
  obtain ⟨hr, hn⟩ := h k (List.mem_cons_self ..)
  induction t using newlineCases with
  | nil => rfl
  | pair t ih =>
    rw [unixNewlines_pair, contains, contains, contains, ih, isPrefixOf_cons_of_ne hn,
      isPrefixOf_cons_of_ne hr, isPrefixOf_cons_of_ne hn, Bool.false_or, Bool.false_or]
  | single t ht ih =>
    rw [unixNewlines_return ht, contains, contains, ih, isPrefixOf_cons_of_ne hn,
      isPrefixOf_cons_of_ne hr]
  | plain c t hc ih =>
    have hprefix := isPrefixOf_unixNewlines h (c :: t)
    rw [unixNewlines_cons hc] at hprefix ⊢
    rw [contains, contains, ih, hprefix]

end Parts

/-- **The lines of a text do not depend on its line endings.** -/
theorem lines_unixNewlines (t : Text) : lines (unixNewlines t) = lines t := by
  have hr : isLineBreak '\r' := by decide
  have hn : isLineBreak '\n' := by decide
  have hnewline : ∀ t, lines ('\n' :: t) = [] :: lines t := fun t => by
    rw [lines, if_pos hn]
    simp
  induction t using newlineCases with
  | nil => rfl
  | pair t ih => rw [unixNewlines_pair, hnewline, ih, lines]
  | single t h ih =>
    rw [unixNewlines_return h, hnewline, ih, lines, if_pos hr]
    rintro cs - rfl
    exact h rfl
  | plain c t h ih =>
    have hplain : ∀ t, lines (c :: t) = if isLineBreak c then [] :: lines t
        else consHead c (lines t) := fun t => by
      rw [lines]
      rintro cs hc -
      exact h hc
    rw [unixNewlines_cons h, hplain, hplain, ih]

/-- A character more in front of the first piece. -/
theorem map_unixNewlines_consHead_cons {c : Char} (h : c ≠ '\r') (pieces : List Text) :
    (consHead c pieces).map unixNewlines = consHead c (pieces.map unixNewlines) := by
  cases pieces with
  | nil => simp [consHead, unixNewlines_cons h, unixNewlines]
  | cons p ps => simp [consHead, unixNewlines_cons h]

/-- A pair in front of the first piece comes to one newline in front of it. -/
theorem map_unixNewlines_consHead_pair (pieces : List Text) :
    (consHead '\r' (consHead '\n' pieces)).map unixNewlines =
      consHead '\n' (pieces.map unixNewlines) := by
  cases pieces with
  | nil => simp [consHead, unixNewlines]
  | cons p ps => simp [consHead, unixNewlines_pair]

/-- So does a carriage return, if no newline follows it. -/
theorem map_unixNewlines_consHead_return {pieces : List Text}
    (h : ∀ p ∈ pieces.head?, p.head? ≠ some '\n') :
    (consHead '\r' pieces).map unixNewlines = consHead '\n' (pieces.map unixNewlines) := by
  cases pieces with
  | nil => simp [consHead, unixNewlines]
  | cons p ps => simp [consHead, unixNewlines_return (h p rfl)]

end Text
end Tablesmith
