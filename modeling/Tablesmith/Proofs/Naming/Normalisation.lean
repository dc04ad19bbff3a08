/-
# Identifiers and labels as normal forms

An identifier is made in steps each of which may put an underscore where another one takes it away.
The steps still undo each other on an identifier, because what they do to its ends goes by the word
between them:

| identifier | word | step that puts the underscore back |
| --- | --- | --- |
| `_2fa` | `2fa` | a digit stands in front |
| `class_` | `class` | the word is reserved |
| `Order_Item` | `Order_Item` | none |

A word that has no underscore at its ends (`IsBare`) is what is left of its guarded form
(`core_guards`), and each identifier is the guarded form of one (`identifier_eq_guards`). So an
identifier is its own identifier. Quotes and brackets around a name do not show in it.

A label has no such steps: what it is made of is kept, and it is its own label for that
(`label_label`).
-/

import Tablesmith.Proofs.Naming.Validity
import Tablesmith.Proofs.Text.Lines

namespace Tablesmith
namespace Naming

/-- A word as it is between the guards: word characters with no underscore at either end. -/
structure IsBare (w : Text) : Prop where
  ne_nil : w ≠ []
  isWord : ∀ c ∈ w, Text.isWord c
  head : ∀ c ∈ w.head?, (c == '_') = false
  last : ∀ c ∈ w.getLast?, (c == '_') = false

/-- Word characters need no joining. -/
theorem joinWords_eq_self {t : Text} (h : ∀ c ∈ t, Text.isWord c) : joinWords false t = t := by
  induction t with
  | nil => rfl
  | cons c t ih =>
    obtain ⟨hc, ht⟩ := List.forall_mem_cons.1 h
    rw [joinWords, if_pos hc, ih ht]

/-- A text without quotes has none to strip. -/
theorem stripQuotes_eq_self {t : Text} (h : ∀ c ∈ t, isQuote c = false) : stripQuotes t = t :=
  Text.trimBy_eq_self (fun c hc => h c (List.mem_of_mem_head? hc))
    fun c hc => h c (List.mem_of_getLast? hc)

/-- Of word characters only underscores at the ends are lost. -/
theorem core_of_forall_isWord {t : Text} (h : ∀ c ∈ t, Text.isWord c) :
    core t = Text.trimBy (· == '_') t := by
  rw [core, stripQuotes_eq_self fun c hc => isQuote_of_isWord (h c hc), joinWords_eq_self h]

/-- The guard puts nothing but underscores in front. -/
theorem exists_guardDigit_eq (t : Text) :
    ∃ front : Text, (∀ c ∈ front, (c == '_') = true) ∧ guardDigit t = front ++ t := by
  rw [guardDigit]
  split
  · exact ⟨['_'], List.forall_mem_singleton.2 rfl, rfl⟩
  · exact ⟨[], List.forall_mem_nil _, rfl⟩

/-- This one puts nothing but underscores behind. -/
theorem exists_guardReserved_eq (t : Text) :
    ∃ back : Text, (∀ c ∈ back, (c == '_') = true) ∧ guardReserved t = t ++ back := by
  rw [guardReserved]
  split
  · exact ⟨['_'], List.forall_mem_singleton.2 rfl, rfl⟩
  · exact ⟨[], List.forall_mem_nil _, (List.append_nil t).symm⟩

/-- A word that is there stays what it is. -/
theorem orColumn_of_ne_nil {w : Text} (h : w ≠ []) : orColumn w = w :=
  if_neg (by simpa using h)

/-- **What the guards put around a word is taken away again.** -/
theorem core_guards {w : Text} (h : IsBare w) : core (guardReserved (guardDigit w)) = w := by
  have hword : ∀ c ∈ guardReserved (guardDigit (orColumn w)), Text.isWord c :=
    forall_mem_guards (fun _ hc => hc) h.isWord
  rw [orColumn_of_ne_nil h.ne_nil] at hword
  rw [core_of_forall_isWord hword]
  obtain ⟨back, hback, hreserved⟩ := exists_guardReserved_eq (guardDigit w)
  obtain ⟨front, hfront, hdigit⟩ := exists_guardDigit_eq w
  rw [hreserved, Text.trimBy_append_of_back hback, hdigit, Text.trimBy_append_of_front hfront,
    Text.trimBy_eq_self h.head h.last]

/-- The middle of an identifier is bare, also where nothing was left of the name. -/
theorem isBare_orColumn_core (name : Text) : IsBare (orColumn (core name)) := by
  by_cases h : core name = []
  · have hword : ("col" : Text).all Text.isWord := by decide
    rw [h]
    exact ⟨orColumn_ne_nil [], List.all_eq_true.1 hword, by simp [orColumn], by simp [orColumn]⟩
  · rw [orColumn_of_ne_nil h]
    exact ⟨h, fun c => isWord_of_mem_core, Text.not_of_mem_ends_trimBy.1,
      Text.not_of_mem_ends_trimBy.2⟩

/-- **A guarded word is its own identifier.** -/
theorem identifier_guards {w : Text} (h : IsBare w) :
    identifier (guardReserved (guardDigit w)) = guardReserved (guardDigit w) := by
  rw [identifier, core_guards h, orColumn_of_ne_nil h.ne_nil]

/-- The identifiers are the guarded words. -/
theorem identifier_eq_self_iff {t : Text} :
    identifier t = t ↔ ∃ w, IsBare w ∧ t = guardReserved (guardDigit w) := by
  constructor
  · intro h
    exact ⟨_, isBare_orColumn_core t, h.symm⟩
  · rintro ⟨w, hw, rfl⟩
    exact identifier_guards hw

/-- No digit is first behind the guard. -/
theorem isDigit_head?_guardDigit (t : Text) :
    ∀ c ∈ (guardDigit t).head?, Text.isDigit c = false := by
  rw [guardDigit]
  split
  · rintro _ ⟨⟩
    decide
  · next h =>
    intro c hc
    rw [Option.mem_def.1 hc] at h
    simpa using h

/-- The guard against reserved words leaves the first character. -/
theorem head?_guardReserved {t : Text} (h : t ≠ []) : (guardReserved t).head? = t.head? := by
  obtain ⟨back, -, hreserved⟩ := exists_guardReserved_eq t
  obtain ⟨c, cs, rfl⟩ := List.exists_cons_of_ne_nil h
  rw [hreserved]
  rfl

/-- Quotes and brackets around a name are taken away with those that it has. -/
theorem stripQuotes_append {front back : Text} (hfront : ∀ c ∈ front, isQuote c)
    (hback : ∀ c ∈ back, isQuote c) (name : Text) :
    stripQuotes (front ++ name ++ back) = stripQuotes name := by
  rw [stripQuotes, Text.trimBy_append_of_back hback, Text.trimBy_append_of_front hfront]
  rfl

/-- **An identifier is a normal form of its name:** it is its own identifier, and the one of the
name in any quotes and brackets. It is not empty, it is made of word characters of which the first
is no digit, and it is not reserved. -/
theorem identifier_normalises (name : Text) :
    identifier (identifier name) = identifier name ∧ identifier name ≠ [] ∧
      (∀ c ∈ identifier name, Text.isWord c) ∧
      (∀ c ∈ (identifier name).head?, Text.isDigit c = false) ∧ identifier name ∉ reserved ∧
      ∀ front back : Text, (∀ c ∈ front, isQuote c) → (∀ c ∈ back, isQuote c) →
        identifier (front ++ name ++ back) = identifier name := by
  have hguarded : guardDigit (orColumn (core name)) ≠ [] :=
    guardDigit_ne_nil (orColumn_ne_nil (core name))
  refine ⟨identifier_eq_self_iff.2 ⟨_, isBare_orColumn_core name, rfl⟩,
    guardReserved_ne_nil hguarded, forall_mem_identifier (fun _ hc => hc) name, ?_,
    guardReserved_not_mem_reserved _, fun front back hfront hback => ?_⟩
  · rw [identifier, head?_guardReserved hguarded]
    exact isDigit_head?_guardDigit _
  · rw [identifier, core, stripQuotes_append hfront hback]
    rfl

/-- Brackets in quotes that do not match them, around a name that the guards lengthen. -/
theorem identifier_normalises_bracketed :
    ((∀ c ∈ ("\"[" : Text), isQuote c) ∧ ∀ c ∈ ("\x60]]" : Text), isQuote c) ∧
      identifier (identifier "_2 fa_") = identifier "_2 fa_" ∧
      identifier ("\"[" ++ "_2 fa_" ++ "\x60]]") = identifier "_2 fa_" := by
  have hfront : ∀ c ∈ ("\"[" : Text), isQuote c := List.all_eq_true.1 (by decide)
  have hback : ∀ c ∈ ("\x60]]" : Text), isQuote c := List.all_eq_true.1 (by decide)
  obtain ⟨hself, -, -, -, -, hquoted⟩ := identifier_normalises "_2 fa_"
  exact ⟨⟨hfront, hback⟩, hself, hquoted _ _ hfront hback⟩

example : identifier "_2 fa_" = "_2_fa" ∧ identifier "__class__" = "class_" := by decide +kernel

/-- A character of a label is no quote. -/
theorem isQuote_of_isLabelChar {c : Char} (h : isLabelChar c) : isQuote c = false := by
  rw [isLabelChar, Bool.or_eq_true, Bool.or_eq_true, beq_iff_eq, beq_iff_eq] at h
  rcases h with (hword | rfl) | rfl
  · exact isQuote_of_isWord hword
  · decide
  · decide

/-- Nor is it a blank. -/
theorem isBlank_of_isLabelChar {c : Char} (h : isLabelChar c) : Text.isBlank c = false := by
  rw [isLabelChar, Bool.or_eq_true, Bool.or_eq_true, beq_iff_eq, beq_iff_eq] at h
  rcases h with (hword | rfl) | rfl
  · exact Text.isBlank_of_isWord hword
  · decide
  · decide

/-- What a label keeps, or the question mark. -/
theorem label_cases (name : Text) :
    label name = ['?'] ∨ label name ≠ [] ∧ ∀ c ∈ label name, isLabelChar c := by
  simp only [label]
  split
  · exact .inl rfl
  · next h => exact .inr ⟨by simpa using h, fun c hc => (List.mem_filter.1 hc).2⟩

/-- Characters with which a name could end the text around it, or open a field in it. -/
def breakers : Text := "\"\x27\x60\\\x7b\x7d"

/-- No character of a label ends the text around it, or separates words or lines. -/
theorem not_mem_breakers_of_mem_label {name : Text} {c : Char} (h : c ∈ label name) :
    c ∉ breakers ∧ Text.isBlank c = false ∧ Text.isLineBreak c = false := by
  have hbreakers : breakers.all fun d => !isLabelChar d && d != '?' := by decide
  rcases label_cases name with heq | ⟨-, hlabel⟩
  · rw [heq] at h
    obtain rfl := List.mem_singleton.1 h
    decide
  · have hblank : Text.isBlank c = false := isBlank_of_isLabelChar (hlabel c h)
    refine ⟨fun hmem => ?_, hblank, ?_⟩
    · have hc := List.all_eq_true.1 hbreakers c hmem
      rw [hlabel c h] at hc
      cases hc
    · cases hbreak : Text.isLineBreak c with
      | false => rfl
      | true =>
        rw [Text.isBlank_of_isLineBreak hbreak] at hblank
        cases hblank

/-- A label loses nothing that it keeps. -/
theorem label_eq_self {t : Text} (hne : t ≠ []) (h : ∀ c ∈ t, isLabelChar c) : label t = t := by
  have hstrip : stripQuotes t = t :=
    stripQuotes_eq_self fun c hc => isQuote_of_isLabelChar (h c hc)
  have hkept : t.filter isLabelChar = t := List.filter_eq_self.2 h
  have hempty : t.isEmpty = false := by simpa using hne
  simp only [label, hstrip, hkept, hempty, Bool.false_eq_true, if_false]

/-- **A label is its own label.** -/
theorem label_label (name : Text) : label (label name) = label name := by
  rcases label_cases name with heq | ⟨hne, h⟩
  · rw [heq]
    decide
  · exact label_eq_self hne h

end Naming
end Tablesmith
