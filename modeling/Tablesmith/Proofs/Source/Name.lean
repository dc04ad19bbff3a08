/-
# Names in source text

An identifier is made of word characters, and every word character belongs to a word of the source
text. So an identifier is one word wherever it stands by itself, with a number behind it as well,
and in lower case, which makes letters of letters and leaves the rest alone. In a literal it stands
for itself, and so does a label.
-/

import Tablesmith.Proofs.Naming.Validity
import Tablesmith.Proofs.Source.Line

namespace Tablesmith
namespace Source

/-- Every word character can stand in a name. -/
theorem isNameChar_of_isWord (c : Char) (h : Text.isWord c) : isNameChar c := by
  rw [Text.isWord] at h
  rw [isNameChar]
  split at h
  · rw [h, Bool.true_or]
  · next hc =>
    rw [decide_eq_true (by omega), Bool.or_true]

/-- A word stays one with a name behind it. -/
theorem IsWord.append {s t : Text} (hs : IsWord s) (ht : IsName t) : IsWord (s ++ t) :=
  ⟨List.append_ne_nil_of_left_ne_nil hs.ne_nil t, isName_append_iff.2 ⟨hs.isName, ht⟩⟩

/-- An identifier is a word. -/
theorem isWord_identifier (name : Text) : IsWord (Naming.identifier name) := by
  refine ⟨?_, Naming.forall_mem_identifier isNameChar_of_isWord name⟩
  exact Naming.guardReserved_ne_nil (Naming.guardDigit_ne_nil (Naming.orColumn_ne_nil _))

/-- A fresh form of a word is a word. -/
theorem isWord_fresh {name : Text} (h : IsWord name) (taken : List Text) :
    IsWord (Naming.fresh taken name) := by
  refine ⟨?_, Naming.forall_mem_fresh isNameChar_of_isWord h.isName taken⟩
  rw [Naming.fresh]
  split
  · exact List.append_ne_nil_of_left_ne_nil h.ne_nil _
  · exact h.ne_nil

/-- Words are still words when they are kept apart. -/
theorem isWord_unique {names : List Text} (h : ∀ n ∈ names, IsWord n) (taken : List Text) :
    ∀ n ∈ Naming.unique taken names, IsWord n := by
  induction names generalizing taken with
  | nil => exact List.forall_mem_nil _
  | cons name names ih =>
    obtain ⟨hname, hnames⟩ := List.forall_mem_cons.1 h
    exact List.forall_mem_cons.2 ⟨isWord_fresh hname taken, ih hnames _⟩

/-- Marks are above ASCII. -/
theorem isNameChar_of_mark {c : Char} (h : Text.category c = .M) : isNameChar c := by
  have hmarks : (Text.rangesOf (· == .M)).all fun r => 128 ≤ r.1 := by decide +kernel
  have hranges : Text.inRanges (Text.rangesOf (· == .M)) c.toNat := by
    rw [Text.inRanges_rangesOf rfl, h]
    rfl
  have hc : ¬ c.toNat < 128 := fun hlow => by
    rw [Text.not_inRanges_of_ascii hmarks hlow] at hranges
    cases hranges
  rw [isNameChar, decide_eq_true (by omega), Bool.or_true]

/-- In lower case, word characters are still those of names. -/
theorem isName_lowerFrom {before t : Text} (h : ∀ c ∈ t, Text.isWord c) :
    IsName (Text.lowerFrom before t) := by
  induction t generalizing before with
  | nil => exact List.forall_mem_nil _
  | cons c t ih =>
    obtain ⟨hword, ht⟩ := List.forall_mem_cons.1 h
    obtain ⟨piece, hlower, hpiece⟩ := Text.lowerFrom_cons hword before t
    rw [hlower, isName_append_iff]
    refine ⟨?_, ih ht⟩
    rcases hpiece with rfl | ⟨-, d, ds, rfl, hd, hmarks⟩
    · exact List.forall_mem_singleton.2 (isNameChar_of_isWord c hword)
    · exact List.forall_mem_cons.2 ⟨isNameChar_of_isWord d (Text.isWord_of_isLetter hd),
        fun e he => isNameChar_of_mark (hmarks e he)⟩

/-- Lower case brings nothing into an identifier that ends a word. -/
theorem isName_lowerIdentifier (name : Text) : IsName (Naming.lowerIdentifier name) :=
  Naming.forall_mem_guards isNameChar_of_isWord
    (isName_lowerFrom fun _ hc => Naming.isWord_of_mem_core hc)

/-- Characters of names stand for themselves in literals. -/
theorem isPlain_of_isNameChar {c : Char} (h : isNameChar c) : isPlain c := by
  have hbroken : ("\"\\\n\r\x00\x7b\x7d" : Text).all fun d => !isNameChar d := by decide
  rw [isPlain, Bool.not_eq_true', List.contains_eq_mem, decide_eq_false_iff_not]
  intro hmem
  have hc := List.all_eq_true.1 hbroken c hmem
  rw [h] at hc
  cases hc

/-- So names stand for themselves. -/
theorem IsName.isVerbatim {t : Text} (h : IsName t) : IsVerbatim t :=
  fun c hc => isPlain_of_isNameChar (h c hc)

/-- **A label stands for itself in every literal,** whatever its name. -/
theorem isVerbatim_label (name : Text) : IsVerbatim (Naming.label name) := by
  have hdot : isPlain '.' := by decide
  have hdash : isPlain '-' := by decide
  simp only [Naming.label]
  split
  · decide
  · intro c hc
    have hlabel := (List.mem_filter.1 hc).2
    simp only [Naming.isLabelChar, Bool.or_eq_true, beq_iff_eq] at hlabel
    rcases hlabel with (hword | rfl) | rfl
    · exact isPlain_of_isNameChar (isNameChar_of_isWord c hword)
    · exact hdot
    · exact hdash

end Source
end Tablesmith
