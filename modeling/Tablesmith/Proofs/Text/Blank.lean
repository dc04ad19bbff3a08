/-
# Blanks at the ends of a text

What trimming leaves alone, and where a word ends. A word character is never blank
(`isBlank_of_isWord`), so a name is never cut by what skips blanks. A text that begins and ends with
characters that are not blank is its own trimmed form (`trim_eq_self`), also with blanks in front of
it (`trim_append`). Other characters that are trimmed are treated alike (`trimBy_eq_self`,
`not_of_mem_ends_trimBy`).

From its end a text is trimmed character by character: `trimEndBy_cons` says what trimming does to a
text in terms of what it does behind the first character, which is the form that inductions on a
text need.
-/

import Tablesmith.Text.Blank
import Tablesmith.Text.Word

namespace Tablesmith
namespace Text

/-- What holds of all ASCII characters by their numbers holds of them. -/
theorem ascii_of_forall {P : Char → Prop} (h : ∀ n < 128, P (Char.ofNat n)) {c : Char}
    (hc : c.toNat < 128) : P c := by
  have := h c.toNat hc
  rwa [Char.ofNat_toNat] at this

/-- The blanks above `\x7f` as ranges. -/
def highBlanks : List (Nat × Nat) :=
  [(0x85, 0x85), (0xA0, 0xA0), (0x1680, 0x1680), (0x2000, 0x200A), (0x2028, 0x2029),
    (0x202F, 0x202F), (0x205F, 0x205F), (0x3000, 0x3000)]

/-- A blank above `\x7f` is in one of the ranges. -/
theorem inRanges_highBlanks {c : Char} (h : isBlank c) (hc : 128 ≤ c.toNat) :
    inRanges highBlanks c.toNat := by
  simp only [isBlank, isSpace, Bool.or_eq_true, Bool.and_eq_true, decide_eq_true_eq,
    beq_iff_eq] at h
  simp only [inRanges, highBlanks, List.any_cons, List.any_nil, Bool.or_eq_true, Bool.and_eq_true,
    decide_eq_true_eq, Bool.false_eq_true]
  omega

/-- Ranges that lie apart have no number in common. -/
theorem inRanges_of_apart {as bs : List (Nat × Nat)} {n : Nat}
    (apart : as.all fun r => bs.all fun s => r.2 < s.1 || s.2 < r.1) (h : inRanges as n) :
    inRanges bs n = false := by
  simp only [inRanges, List.any_eq_true, Bool.and_eq_true, decide_eq_true_eq] at h
  obtain ⟨r, hr, hlow, hhigh⟩ := h
  simp only [List.all_eq_true, Bool.or_eq_true, decide_eq_true_eq] at apart
  simp only [inRanges, List.any_eq_false, Bool.and_eq_true, decide_eq_true_eq]
  intro s hs
  have := apart r hr s hs
  omega

/-- **Word characters are not blank.** -/
theorem isBlank_of_isWord {c : Char} (h : isWord c) : isBlank c = false := by
  by_cases hc : c.toNat < 128
  · have hascii : ∀ n < 128, isWord (Char.ofNat n) → isBlank (Char.ofNat n) = false := by
      decide +kernel
    exact ascii_of_forall (P := fun c => isWord c → isBlank c = false) hascii hc h
  · rw [Bool.eq_false_iff]
    intro hb
    have : inRanges wordRanges c.toNat = false :=
      inRanges_of_apart (by decide +kernel) (inRanges_highBlanks hb (by omega))
    rw [isWord, if_neg hc, this] at h
    cases h

/-- A blank is no word character. -/
theorem isWord_of_isBlank {c : Char} (h : isBlank c) : isWord c = false := by
  rw [Bool.eq_false_iff]
  intro hword
  rw [isBlank_of_isWord hword] at h
  cases h

/-- What is left begins with no character that was dropped. -/
theorem not_of_mem_head?_dropWhile {p : Char → Bool} {t : Text} :
    ∀ c ∈ (t.dropWhile p).head?, p c = false := by
  intro c hc
  have hnot := List.head?_dropWhile_not p t
  rw [Option.mem_def.1 hc] at hnot
  simpa using hnot

/-- The text does not begin with a blank. -/
def IsFlush (t : Text) : Prop := ∀ c ∈ t.head?, isBlank c = false

/-- The text neither begins nor ends with a blank. -/
def IsTrimmed (t : Text) : Prop :=
  (∀ c ∈ t.head?, isBlank c = false) ∧ ∀ c ∈ t.getLast?, isBlank c = false

instance decidableIsTrimmed (t : Text) : Decidable (IsTrimmed t) :=
  @instDecidableAnd _ _ (Option.decidableForallMem _) (Option.decidableForallMem _)

/-- In front of what is not blank nothing is skipped. -/
theorem skipBlanks_cons {c : Char} {t : Text} (h : isBlank c = false) :
    skipBlanks (c :: t) = c :: t := by
  simp [skipBlanks, h]

/-- Behind the blanks in front stands none. -/
theorem isFlush_skipBlanks (t : Text) : (skipBlanks t).IsFlush := not_of_mem_head?_dropWhile

/-- Nothing is skipped of a text that does not begin with a blank. -/
theorem skipBlanks_eq_self {t : Text} (h : t.IsFlush) : skipBlanks t = t := by
  cases t with
  | nil => rfl
  | cons c t => exact skipBlanks_cons (h c rfl)

/-- A blank text in front is skipped over. -/
theorem skipBlanks_append_of_isAllBlank {front : Text} (h : isAllBlank front) (t : Text) :
    skipBlanks (front ++ t) = skipBlanks t :=
  List.dropWhile_append_of_pos (List.all_eq_true.1 h)

/-- Nothing is left of a text of blanks. -/
theorem skipBlanks_of_isAllBlank {t : Text} (h : isAllBlank t) : skipBlanks t = [] := by
  have hskip := skipBlanks_append_of_isAllBlank h []
  rwa [List.append_nil] at hskip

/-- Behind one blank all others are skipped. -/
theorem afterBlanks?_cons {b : Char} {t : Text} (h : isBlank b) :
    afterBlanks? (b :: t) = some (skipBlanks t) := by
  rw [afterBlanks?, if_pos h]

/-- Trimming the end, seen from the front. -/
theorem trimEndBy_cons (p : Char → Bool) (c : Char) (t : Text) :
    trimEndBy p (c :: t) =
      if trimEndBy p t = [] then (if p c then [] else [c]) else c :: trimEndBy p t := by
  rw [trimEndBy, List.reverse_cons, List.dropWhile_append]
  cases h : t.reverse.dropWhile p with
  | nil =>
    have : trimEndBy p t = [] := by simp [trimEndBy, h]
    rw [if_pos this]
    cases hc : p c <;> simp [hc]
  | cons d ds =>
    have : trimEndBy p t ≠ [] := by simp [trimEndBy, h]
    rw [if_neg this]
    simp [trimEndBy, h]

/-- A text that ends with no blank has nothing to trim at its end. -/
theorem trimEndBy_eq_self {p : Char → Bool} {t : Text}
    (h : ∀ c, t.getLast? = some c → p c = false) : trimEndBy p t = t := by
  rw [trimEndBy]
  cases hr : t.reverse with
  | nil => rw [List.reverse_eq_nil_iff.1 hr]; rfl
  | cons c cs =>
    have ht : t = cs.reverse ++ [c] := by rw [← List.reverse_reverse t, hr, List.reverse_cons]
    have hc : p c = false := h c (by simp [ht])
    rw [List.dropWhile_cons_of_neg (by simp [hc]), ht, List.reverse_cons]

/-- **Trimming changes nothing** where no character to trim stands at an end. -/
theorem trimBy_eq_self {p : Char → Bool} {t : Text} (hfront : ∀ c ∈ t.head?, p c = false)
    (hback : ∀ c ∈ t.getLast?, p c = false) : trimBy p t = t := by
  have hdrop : t.dropWhile p = t := by
    cases t with
    | nil => rfl
    | cons c t => exact List.dropWhile_cons_of_neg (by simp [hfront c rfl])
  rw [trimBy, hdrop, trimEndBy_eq_self hback]

/-- A trimmed text needs no trimming. -/
theorem trim_eq_self {t : Text} (h : IsTrimmed t) : trim t = t := trimBy_eq_self h.1 h.2

/-- A text is what trimming leaves of it, and what it takes off the end. -/
theorem trimEndBy_append (p : Char → Bool) (t : Text) :
    trimEndBy p t ++ (t.reverse.takeWhile p).reverse = t := by
  rw [trimEndBy, ← List.reverse_append, List.takeWhile_append_dropWhile, List.reverse_reverse]

/-- Trimming takes away nothing but what is to be trimmed, at both ends. -/
theorem exists_eq_trimBy (p : Char → Bool) (t : Text) :
    ∃ front back : Text, front.all p ∧ back.all p ∧ t = front ++ trimBy p t ++ back := by
  refine ⟨t.takeWhile p, ((t.dropWhile p).reverse.takeWhile p).reverse, ?_, ?_, ?_⟩
  · exact List.all_takeWhile
  · rw [List.all_reverse]
    exact List.all_takeWhile
  · rw [trimBy, List.append_assoc, trimEndBy_append, List.takeWhile_append_dropWhile]

/-- A text is what it is trimmed to, between blanks. -/
theorem exists_eq_trim (t : Text) :
    ∃ front back, isAllBlank front ∧ isAllBlank back ∧ t = front ++ trim t ++ back :=
  exists_eq_trimBy isBlank t

/-- **Trimming leaves no character to trim** at an end. -/
theorem not_of_mem_ends_trimBy {p : Char → Bool} {t : Text} :
    (∀ c ∈ (trimBy p t).head?, p c = false) ∧ ∀ c ∈ (trimBy p t).getLast?, p c = false := by
  constructor
  · intro c hc
    refine not_of_mem_head?_dropWhile (t := t) c ?_
    rw [← trimEndBy_append p (t.dropWhile p), List.head?_append]
    exact Option.or_eq_some_iff.2 (.inl hc)
  · intro c hc
    rw [trimBy, trimEndBy, List.getLast?_reverse] at hc
    exact not_of_mem_head?_dropWhile c hc

/-- Trimming leaves no blank at either end. -/
theorem isTrimmed_trim (t : Text) : IsTrimmed (trim t) := not_of_mem_ends_trimBy

/-- What is to be trimmed does not matter behind a text. -/
theorem trimBy_append_of_back {p : Char → Bool} {back : Text} (h : ∀ c ∈ back, p c) (t : Text) :
    trimBy p (t ++ back) = trimBy p t := by
  rw [trimBy, List.dropWhile_append]
  cases hdrop : t.dropWhile p with
  | nil =>
    have hnone : (back ++ []).dropWhile p = [] := List.dropWhile_append_of_pos h
    rw [List.append_nil] at hnone
    simp [trimBy, hdrop, hnone]
  | cons c u =>
    have hback : trimEndBy p (c :: u ++ back) = trimEndBy p (c :: u) := by
      rw [trimEndBy, List.reverse_append, List.dropWhile_append_of_pos, trimEndBy]
      exact fun c hc => h c (List.mem_reverse.1 hc)
    rw [List.isEmpty_cons, if_neg Bool.false_ne_true, hback, trimBy, hdrop]

/-- Nor does it in front of one. -/
theorem trimBy_append_of_front {p : Char → Bool} {front : Text} (h : ∀ c ∈ front, p c) (t : Text) :
    trimBy p (front ++ t) = trimBy p t := by
  rw [trimBy, List.dropWhile_append_of_pos h]
  rfl

/-- Blanks in front make no difference to trimming. -/
theorem trim_append {gap : Text} (h : ∀ c ∈ gap, isBlank c) (t : Text) :
    trim (gap ++ t) = trim t :=
  trimBy_append_of_front h t

end Text
end Tablesmith
