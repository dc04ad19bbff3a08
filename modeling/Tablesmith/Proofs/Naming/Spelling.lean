/-
# How names are spelled

An identifier is made of word characters, whatever the name is that it comes from, and so is every
form of it that keeps it apart from others. What matters of this to a generated module is that a
name ends no line and opens no parenthesis (`Fits`), so that it can be read off the head of its
definition. A label ends no line either.

Main statements: `fits_unique` for the names in one scope, `isLine_label`.
-/

import Tablesmith.Naming.Label
import Tablesmith.Naming.Unique
import Tablesmith.Proofs.Text.Case
import Tablesmith.Proofs.Text.OneLine

namespace Tablesmith

open Text (IsInLine IsLine IsLow)

namespace Naming

/-- Neither does anything in the text end a line, nor is there an opening parenthesis. -/
def Fits (t : Text) : Prop := ∀ c ∈ t, IsInLine c ∧ c ≠ '('

instance decidableFits (t : Text) : Decidable (Fits t) :=
  List.decidableBAll (fun c => IsInLine c ∧ c ≠ '(') t

/-- Two texts fit together if each of them does. -/
@[simp] theorem fits_append_iff {s t : Text} : Fits (s ++ t) ↔ Fits s ∧ Fits t :=
  List.forall_mem_append

/-- What fits is one line. -/
theorem Fits.isLine {t : Text} (h : Fits t) : IsLine t := fun c hc => (h c hc).1

/-- A low character that is no word character does not fit; all others do. -/
theorem fits_of_isLow {c : Char} (h : IsLow c → Text.isWord c) : IsInLine c ∧ c ≠ '(' := by
  refine ⟨⟨?_, ?_⟩, ?_⟩ <;> rintro rfl
  · cases h (by decide)
  · cases h (by decide)
  · cases h (by decide)

/-- Trimming adds no character. -/
theorem mem_of_mem_trimBy {p : Char → Bool} {t : Text} {c : Char} (h : c ∈ Text.trimBy p t) :
    c ∈ t := by
  rw [Text.trimBy, Text.trimEndBy, List.mem_reverse] at h
  have hback : c ∈ t.dropWhile p := List.mem_reverse.1 (List.dropWhile_subset p h)
  exact List.dropWhile_subset p hback

/-- Joining gives word characters only. -/
theorem isWord_of_mem_joinWords {inRun : Bool} {t : Text} {c : Char}
    (h : c ∈ joinWords inRun t) : Text.isWord c := by
  fun_induction joinWords inRun t with
  | case1 => cases h
  | case2 inRun d ds hd ih =>
    rcases List.mem_cons.1 h with rfl | h
    · exact hd
    · exact ih h
  | case3 d ds _ ih => exact ih h
  | case4 inRun d ds _ _ ih =>
    rcases List.mem_cons.1 h with rfl | h
    · decide
    · exact ih h

/-- The word characters of a name are word characters. -/
theorem isWord_of_mem_core {name : Text} {c : Char} (h : c ∈ core name) : Text.isWord c :=
  isWord_of_mem_joinWords (mem_of_mem_trimBy h)

/-- A numeral is made of word characters. -/
theorem isWord_of_mem_ofNat {n : Nat} {c : Char} (h : c ∈ Text.ofNat n) : Text.isWord c := by
  have hdigit : c.isDigit := Nat.isDigit_of_mem_toDigits (by decide) (by decide) h
  have hle : c.toNat ≤ 57 := by
    simp only [Char.isDigit, ge_iff_le, Bool.and_eq_true, decide_eq_true_eq] at hdigit
    exact UInt32.le_iff_toNat_le.1 hdigit.2
  refine Text.isWord_of_isAlphanum (by omega) ?_
  rw [Char.isAlphanum, hdigit, Bool.or_true]

section

variable {P : Char → Prop} (hP : ∀ c, Text.isWord c → P c)
include hP

/-- The guards put nothing but word characters into a word. -/
theorem forall_mem_guards {word : Text} (h : ∀ c ∈ word, P c) :
    ∀ c ∈ guardReserved (guardDigit (orColumn word)), P c := by
  have hcolumn : ∀ c ∈ orColumn word, P c := by
    rw [orColumn]
    split
    · have hword : ("col" : Text).all Text.isWord := by decide
      exact fun c hc => hP c (List.all_eq_true.1 hword c hc)
    · exact h
  have hdigit : ∀ c ∈ guardDigit (orColumn word), P c := by
    rw [guardDigit]
    split
    · exact List.forall_mem_cons.2 ⟨hP _ (by decide), hcolumn⟩
    · exact hcolumn
  rw [guardReserved]
  split
  · exact List.forall_mem_append.2 ⟨hdigit, List.forall_mem_singleton.2 (hP _ (by decide))⟩
  · exact hdigit

/-- An identifier is made of word characters. -/
theorem forall_mem_identifier (name : Text) : ∀ c ∈ identifier name, P c :=
  forall_mem_guards hP fun c hc => hP c (isWord_of_mem_core hc)

/-- What holds of word characters holds in a fresh form if it did in the name. -/
theorem forall_mem_fresh {name : Text} (h : ∀ c ∈ name, P c) (taken : List Text) :
    ∀ c ∈ fresh taken name, P c := by
  rw [fresh]
  split
  · refine List.forall_mem_append.2 ⟨h, List.forall_mem_cons.2 ⟨hP _ (by decide), fun c hc => ?_⟩⟩
    exact hP c (isWord_of_mem_ofNat hc)
  · exact h

/-- What holds of word characters holds in names that are kept apart if it did before. -/
theorem forall_mem_unique {names : List Text} (h : ∀ name ∈ names, ∀ c ∈ name, P c)
    (taken : List Text) : ∀ name ∈ unique taken names, ∀ c ∈ name, P c := by
  induction names generalizing taken with
  | nil => rintro name ⟨⟩
  | cons name names ih =>
    obtain ⟨hname, hnames⟩ := List.forall_mem_cons.1 h
    exact List.forall_mem_cons.2 ⟨forall_mem_fresh hP hname taken, ih hnames _⟩

end

/-- A word character ends no line, and is no parenthesis. -/
theorem fits_of_isWord (c : Char) (h : Text.isWord c) : IsInLine c ∧ c ≠ '(' :=
  fits_of_isLow fun _ => h

/-- **An identifier fits,** whatever its name. -/
theorem fits_identifier (name : Text) : Fits (identifier name) :=
  forall_mem_identifier fits_of_isWord name

/-- So it does in lower case, which brings no low character. -/
theorem fits_lowerIdentifier (name : Text) : Fits (lowerIdentifier name) :=
  forall_mem_guards fits_of_isWord fun _ hc =>
    fits_of_isLow fun hlow => isWord_of_mem_core (Text.mem_of_mem_lower hlow hc)

/-- A fresh form fits where the name does. -/
theorem fits_fresh {name : Text} (h : Fits name) (taken : List Text) : Fits (fresh taken name) :=
  forall_mem_fresh fits_of_isWord h taken

/-- **Names that are kept apart fit** if they did before. -/
theorem fits_unique {names : List Text} (h : ∀ name ∈ names, Fits name) (taken : List Text) :
    ∀ name ∈ unique taken names, Fits name :=
  forall_mem_unique fits_of_isWord h taken

/-- **A label stays on its line,** whatever its name. -/
@[simp] theorem isLine_label (name : Text) : IsLine (label name) := by
  simp only [label]
  split
  · decide
  · intro c hc
    have hlabel : isLabelChar c := (List.mem_filter.1 hc).2
    constructor
    · rintro rfl
      cases hlabel
    · rintro rfl
      cases hlabel

end Naming
end Tablesmith
