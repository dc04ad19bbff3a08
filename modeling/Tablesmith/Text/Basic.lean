/-
# Texts

A text is the list of its characters. Everything the library reads or writes is a text, and every
reader works from the front of one, so the operations here are the few that the readers and the
printers share: trimming, cutting at a separator, joining with one, and looking for a part.
-/

namespace Tablesmith

/-- A text is the list of its characters. -/
abbrev Text := List Char

instance : Coe String Text := ⟨String.toList⟩

/-- Texts are compared character by character. -/
instance lawfulBEqText : LawfulBEq Text := inferInstance

namespace Text

/-- The text without its longest end part whose characters all satisfy `p`. -/
def trimEndBy (p : Char → Bool) (t : Text) : Text := (t.reverse.dropWhile p).reverse

/-- The text without the characters satisfying `p` at both ends. -/
def trimBy (p : Char → Bool) (t : Text) : Text := trimEndBy p (t.dropWhile p)

/-- Puts a character in front of the first piece. -/
def consHead (c : Char) : List Text → List Text
  | [] => [[c]]
  | p :: ps => (c :: p) :: ps

/-- Cuts a text at every `sep`; there is always one piece more than there are separators. -/
def cutAt (sep : Char) : Text → List Text
  | [] => [[]]
  | c :: cs => if c = sep then [] :: cutAt sep cs else consHead c (cutAt sep cs)

/-- The parts one after another with `sep` between them. -/
def join (sep : Text) (parts : List Text) : Text := sep.intercalate parts

/-- Lines one after another with a newline between them. -/
def unlines (lines : List Text) : Text := join ['\n'] lines

/-- What is left of `t` behind `part`, if `t` begins with `part`. -/
def after? : (part t : Text) → Option Text
  | [], t => some t
  | _ :: _, [] => none
  | p :: ps, c :: cs => if p = c then after? ps cs else none

/-- Does `part` stand anywhere in the text? -/
def contains (part : Text) : Text → Bool
  | [] => part.isEmpty
  | c :: cs => part.isPrefixOf (c :: cs) || contains part cs

/-- Does the text end with `part`? -/
def endsWith (part t : Text) : Bool := part.isSuffixOf t

/-- The text, unless it is missing or empty. -/
def nonempty? : Option Text → Option Text
  | some (c :: cs) => some (c :: cs)
  | _ => none

/-- One part is joined to itself. -/
@[simp] theorem join_singleton (sep p : Text) : join sep [p] = p := by
  simp [join, List.intercalate]

/-- What joins parts stands behind the first one, if others follow. -/
theorem join_cons_cons (sep p q : Text) (qs : List Text) :
    join sep (p :: q :: qs) = p ++ (sep ++ join sep (q :: qs)) := by
  simp [join, List.intercalate]

/-- A text has a piece wherever it is cut. -/
theorem cutAt_ne_nil (sep : Char) (t : Text) : cutAt sep t ≠ [] := by
  cases t with
  | nil => simp [cutAt]
  | cons c cs =>
    simp only [cutAt]
    split
    · simp
    · cases cutAt sep cs <;> simp [consHead]

/-- Behind the front of a text stands the rest. -/
@[simp] theorem after?_append (part rest : Text) : after? part (part ++ rest) = some rest := by
  induction part with
  | nil => cases rest <;> rfl
  | cons p ps ih => simp [after?, ih]

/-- A text that has a rest behind a part is both together. -/
theorem eq_append_of_after? {part t rest : Text} (h : after? part t = some rest) :
    t = part ++ rest := by
  induction part generalizing t with
  | nil => simpa [after?] using h
  | cons p ps ih =>
    cases t with
    | nil => simp [after?] at h
    | cons c cs =>
      by_cases hc : p = c
      · simp only [after?, hc, if_true] at h
        simp [hc, ih h]
      · simp [after?, hc] at h

/-- **Cutting loses nothing:** the pieces joined by the separator are the text. -/
theorem join_cutAt (sep : Char) (t : Text) : join [sep] (cutAt sep t) = t := by
  induction t with
  | nil => rfl
  | cons c cs ih =>
    have hcs := cutAt_ne_nil sep cs
    simp only [cutAt]
    generalize cutAt sep cs = ps at ih hcs ⊢
    cases ps with
    | nil => exact absurd rfl hcs
    | cons p qs =>
      by_cases h : c = sep
      · subst h
        simp only [if_true, join] at ih ⊢
        rw [← ih]
        simp [List.intercalate]
      · simp only [h, if_false, consHead, join] at ih ⊢
        rw [← ih]
        cases qs <;> simp [List.intercalate]

end Text
end Tablesmith
