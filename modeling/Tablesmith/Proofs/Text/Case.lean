/-
# What a change of case leaves alone

Below the capital `A` there are no letters. A change of case puts no character from there into a
text that was not there before (`mem_of_mem_lower`, `eq_of_mem_upperChar`). The characters that give
a text its form are among them: line endings, quotes, parentheses, the equals sign. So a text in
another case has the form that it had, and `upper_unixNewlines` says so of its line endings.

The tables lead above `A` everywhere: each run does, as its first character does, and each of the
longer forms. The character zero is kept out of the statements, because a number that is no
character's stands for it.
-/

import Tablesmith.Proofs.Text.Newline
import Tablesmith.Text.Case

namespace Tablesmith
namespace Text

/-- Not zero, and below the capital letters. -/
def IsLow (c : Char) : Prop := 0 < c.toNat ∧ c.toNat < 0x41

instance decidableIsLow (c : Char) : Decidable (IsLow c) := inferInstanceAs (Decidable (_ ∧ _))

/-- The character of a number has this number, unless there is none. -/
theorem toNat_ofNat (n : Nat) : (Char.ofNat n).toNat = n ∨ (Char.ofNat n).toNat = 0 := by
  by_cases h : n.isValidChar
  · rw [Char.ofNat, dif_pos h]
    exact .inl rfl
  · rw [Char.ofNat, dif_neg h]
    exact .inr rfl

/-- A number from `A` on is that of no low character. -/
theorem not_isLow_ofNat {n : Nat} (h : 0x41 ≤ n) : ¬ IsLow (Char.ofNat n) := by
  rintro ⟨hpos, hlow⟩
  rcases toNat_ofNat n with hn | hn <;> omega

/-- No run leads below `A`. -/
def LeadHigh (runs : List CaseRun) : Prop := ∀ r ∈ runs, 0x41 ≤ (r.first : Int) + r.shift

/-- A run above ASCII leads to no low character. -/
theorem not_isLow_shiftBy {runs : List CaseRun} (h : LeadHigh runs) {c : Char}
    (hc : 128 ≤ c.toNat) : ¬ IsLow (shiftBy runs c) := by
  rw [shiftBy]
  split
  · next r hfind =>
    have hrun := h r (List.mem_of_find?_eq_some hfind)
    have hcovers : r.covers c.toNat := by simpa using List.find?_some hfind
    simp only [CaseRun.covers, Bool.and_eq_true, decide_eq_true_eq] at hcovers
    exact not_isLow_ofNat (by omega)
  · rintro ⟨-, hlow⟩
    omega

/-- No run of lower case leads to a low character. -/
theorem leadHigh_lowerRuns : LeadHigh lowerRuns := by
  have : lowerRuns.all fun r => 0x41 ≤ (r.first : Int) + r.shift := by decide +kernel
  simpa [LeadHigh] using this

/-- No run of upper case does. -/
theorem leadHigh_upperRuns : LeadHigh upperRuns := by
  have : upperRuns.all fun r => 0x41 ≤ (r.first : Int) + r.shift := by decide +kernel
  simpa [LeadHigh] using this

/-- In lower case, a low character comes of itself only. -/
theorem eq_of_mem_lowerChar {c d : Char} (hd : IsLow d) (h : d ∈ lowerChar c) : c = d := by
  rw [lowerChar] at h
  split at h
  · next hc =>
    have hascii : ∀ n < 128, IsLow (Char.ofNat n).toLower →
        Char.ofNat n = (Char.ofNat n).toLower := by decide +kernel
    rw [List.mem_singleton.1 h] at hd ⊢
    exact ascii_of_forall (P := fun c => IsLow c.toLower → c = c.toLower) hascii hc hd
  · next hc =>
    exfalso
    split at h
    · have hdotted : ∀ d ∈ (['i', '\u0307'] : Text), ¬ IsLow d :=
        List.forall_mem_cons.2 ⟨by decide, List.forall_mem_singleton.2 (by decide)⟩
      exact hdotted d h hd
    · rw [List.mem_singleton.1 h] at hd
      exact not_isLow_shiftBy leadHigh_lowerRuns (by omega) hd

/-- No low character comes of a text in lower case that was not there before. -/
theorem mem_of_mem_lowerFrom {d : Char} (hd : IsLow d) {before t : Text}
    (h : d ∈ lowerFrom before t) : d ∈ t := by
  induction t generalizing before with
  | nil => cases h
  | cons c t ih =>
    rw [lowerFrom, List.mem_append] at h
    rcases h with h | h
    · split at h
      · have hsigma : ∀ e ∈ (['\u03c2', '\u03c3'] : Text), ¬ IsLow e :=
          List.forall_mem_cons.2 ⟨by decide, List.forall_mem_singleton.2 (by decide)⟩
        refine absurd hd (hsigma d ?_)
        split at h <;> simp_all
      · rw [eq_of_mem_lowerChar hd h]
        exact List.mem_cons_self ..
    · exact List.mem_cons_of_mem _ (ih h)

/-- **Lower case brings no low character.** -/
theorem mem_of_mem_lower {d : Char} (hd : IsLow d) {t : Text} (h : d ∈ lower t) : d ∈ t :=
  mem_of_mem_lowerFrom hd h

/-- The longer forms have no low characters, and none of them is empty. -/
theorem upperForms_high {n : Nat} {form : List Nat} (h : upperForms.lookup n = some form) :
    form ≠ [] ∧ ∀ m ∈ form, 0x41 ≤ m := by
  have hall : upperForms.all fun f => f.2 ≠ [] && f.2.all fun m => 0x41 ≤ m := by decide +kernel
  obtain ⟨front, back, hforms, -⟩ := List.lookup_eq_some_iff.1 h
  rw [hforms] at hall
  simp only [List.all_append, List.all_cons, Bool.and_eq_true, decide_eq_true_eq,
    List.all_eq_true] at hall
  exact hall.2.1

/-- Every character has something for its upper form. -/
theorem upperChar_ne_nil (c : Char) : upperChar c ≠ [] := by
  rw [upperChar]
  split
  · simp
  · split
    · next h => simpa using (upperForms_high h).1
    · simp

/-- In upper case, too, a low character comes of itself only. -/
theorem eq_of_mem_upperChar {c d : Char} (hd : IsLow d) (h : d ∈ upperChar c) : c = d := by
  rw [upperChar] at h
  split at h
  · next hc =>
    have hascii : ∀ n < 128, IsLow (Char.ofNat n).toUpper →
        Char.ofNat n = (Char.ofNat n).toUpper := by decide +kernel
    rw [List.mem_singleton.1 h] at hd ⊢
    exact ascii_of_forall (P := fun c => IsLow c.toUpper → c = c.toUpper) hascii hc hd
  · next hc =>
    exfalso
    split at h
    · next form hform =>
      obtain ⟨m, hm, rfl⟩ := List.mem_map.1 h
      exact not_isLow_ofNat ((upperForms_high hform).2 m hm) hd
    · rw [List.mem_singleton.1 h] at hd
      exact not_isLow_shiftBy leadHigh_upperRuns (by omega) hd

/-- No low character comes first in upper case that did not before. -/
theorem head?_upper {t : Text} {d : Char} (hd : IsLow d) (h : t.head? ≠ some d) :
    (upper t).head? ≠ some d := by
  cases t with
  | nil => simp [upper]
  | cons c t =>
    obtain ⟨e, es, hform⟩ := List.exists_cons_of_ne_nil (upperChar_ne_nil c)
    rw [upper, List.flatMap_cons, hform, List.cons_append, List.head?_cons]
    intro heq
    have hmem : d ∈ upperChar c := by
      rw [hform, Option.some.inj heq]
      exact List.mem_cons_self ..
    exact h (congrArg some (eq_of_mem_upperChar hd hmem))

/-- **Upper case has the line endings of the text.** -/
theorem upper_unixNewlines (t : Text) : upper (unixNewlines t) = unixNewlines (upper t) := by
  have hr : ∀ t, upper ('\r' :: t) = '\r' :: upper t := fun _ => rfl
  have hn : ∀ t, upper ('\n' :: t) = '\n' :: upper t := fun _ => rfl
  induction t using newlineCases with
  | nil => rfl
  | pair t ih => rw [unixNewlines_pair, hn, hr, hn, unixNewlines_pair, ih]
  | single t h ih =>
    rw [unixNewlines_return h, hn, hr, unixNewlines_return (head?_upper (by decide) h), ih]
  | plain c t h ih =>
    have hform : '\r' ∉ upperChar c := fun hmem => h (eq_of_mem_upperChar (by decide) hmem)
    have hcons : ∀ t, upper (c :: t) = upperChar c ++ upper t := fun _ => List.flatMap_cons
    rw [unixNewlines_cons h, hcons, ih, hcons, unixNewlines_append hform]

end Text
end Tablesmith
