/-
# What is skipped in a script

Whatever is no declaration is passed over. That is so only as long as it does not look like the
beginning of one: a body goes on until a closing parenthesis with a semicolon behind it, whatever
stands in between, so an opening whose statement has no such end takes the end of a later statement,
and the text up to there into its body (`Declaration.read?_of_mem_opening`).

No opening contains a semicolon (`semicolon_notMem_of_mem_opening`), so none can begin in front of
one and end behind it. A text that ends with a semicolon is therefore skipped in front of every
script exactly if it holds no opening (`ofScript_append_iff`). That it declares no table on its own
is not enough (`ofScript_append_unended`).
-/

import Mathlib.Data.List.Infix
import Tablesmith.Proofs.Sql.Grammar
import Tablesmith.Schema.Basic

namespace Tablesmith
namespace Sql
namespace Grammar

/-- Somewhere in the text stands an opening. -/
def HasOpening (t : Text) : Prop := ∃ n, ∃ u ∈ opening n, u <:+: t

/-- The character stands in no text of the language. -/
def Avoids (c : Char) (L : Language Char) : Prop := ∀ u ∈ L, c ∉ u

section

variable {c : Char} {L M : Language Char}

/-- The empty text avoids every character. -/
theorem avoids_one : Avoids c 1 := by
  intro u hu
  rw [(Language.mem_one u).1 hu]
  exact List.not_mem_nil

/-- Of two languages that avoid a character, the choice avoids it. -/
theorem Avoids.add (hL : Avoids c L) (hM : Avoids c M) : Avoids c (L + M) :=
  fun u hu => hu.elim (hL u) (hM u)

/-- So does the one behind the other. -/
theorem Avoids.mul (hL : Avoids c L) (hM : Avoids c M) : Avoids c (L * M) := by
  intro w hw
  obtain ⟨u, hu, v, hv, rfl⟩ := Language.mem_mul.1 hw
  rw [List.mem_append, not_or]
  exact ⟨hL u hu, hM v hv⟩

/-- A part of a language that avoids a character avoids it. -/
theorem Avoids.mono (hM : Avoids c M) (h : ∀ u ∈ L, u ∈ M) : Avoids c L :=
  fun u hu => hM u (h u hu)

/-- A character that does not satisfy what all the others do is none of them. -/
theorem avoids_of_forall {p : Char → Bool} (hc : p c = false) (h : ∀ u ∈ L, ∀ d ∈ u, p d) :
    Avoids c L := by
  intro u hu hmem
  rw [h u hu c hmem] at hc
  cases hc

/-- A word without the character avoids it. -/
theorem avoids_singleton {u : Text} (h : c ∉ u) : Avoids c {u} := by
  rintro _ rfl
  exact h

end

/-- Blanks hold no semicolon. -/
theorem avoids_blanks : Avoids ';' blanks :=
  avoids_of_forall (by decide) fun _ hu => List.all_eq_true.1 hu

/-- A gap holds no semicolon. -/
theorem avoids_gap : Avoids ';' gap := avoids_blanks.mono fun _ hu => hu.2

/-- Words of capitals hold no semicolon, nor do the gaps between them. -/
theorem avoids_keywords {words : List Text} (h : ∀ w ∈ words, IsCapital w) :
    Avoids ';' (keywords words) := by
  have hkeyword : ∀ w ∈ words, Avoids ';' (keyword w) := fun w hw =>
    avoids_of_forall (by decide) fun _ hu => isNameChar_of_mem_keyword (h w hw) hu
  clear h
  induction words with
  | nil => exact avoids_one
  | cons w words ih =>
    obtain ⟨hw, hwords⟩ := List.forall_mem_cons.1 hkeyword
    rcases eq_or_ne words [] with rfl | hne
    · exact hw
    · rw [keywords_cons w hne]
      exact (hw.mul avoids_gap).mul (ih hwords)

/-- An optional character of another kind is no semicolon. -/
theorem avoids_optional {p : Char → Bool} (h : p ';' = false) : Avoids ';' (optional p) := by
  refine avoids_of_forall h fun u hu => ?_
  rcases hu with rfl | ⟨c, hc, rfl⟩
  · exact List.forall_mem_nil _
  · exact List.forall_mem_singleton.2 hc

/-- The name of a table holds no semicolon. -/
theorem avoids_name : Avoids ';' name := by
  have hword : Avoids ';' word := avoids_of_forall (by decide) fun _ hu => hu.2
  exact ((avoids_optional (by decide)).mul hword).mul (avoids_optional (by decide))

/-- What opens a declaration holds no semicolon. -/
theorem semicolon_notMem_of_mem_opening {n u : Text} (h : u ∈ opening n) : ';' ∉ u := by
  have htest : Avoids ';' existenceTest :=
    avoids_one.add ((avoids_keywords (by decide)).mul avoids_gap)
  have hname : Avoids ';' (nameOf n) := avoids_name.mono fun _ hu => hu.1
  have hopening : Avoids ';' (opening n) :=
    (((((avoids_keywords (by decide)).mul avoids_gap).mul htest).mul hname).mul avoids_blanks).mul
      (avoids_singleton (by decide))
  exact hopening u h

/-- What does not contain a character does not reach beyond it. -/
theorem isPrefix_of_isPrefix_append {c : Char} {u s rest : Text} (hc : c ∉ u)
    (h : u <+: s ++ c :: rest) : u <+: s := by
  rcases List.prefix_or_prefix_of_prefix h (List.prefix_append s (c :: rest)) with hu | ⟨v, rfl⟩
  · exact hu
  · rw [List.prefix_append_right_inj] at h
    cases v with
    | nil => rw [List.append_nil]
    | cons d v =>
      obtain ⟨rfl, -⟩ := List.cons_prefix_cons.1 h
      simp at hc

end Grammar

open Grammar (HasOpening opening)

/-- Where a text without an opening ends with a semicolon, no declaration is read. -/
theorem read?_eq_none_of_not_hasOpening {t : Text} (h : ¬ HasOpening t) (rest : Text) :
    Declaration.read? (t ++ ';' :: rest) = none := by
  rw [Option.eq_none_iff_forall_ne_some]
  rintro ⟨d, left⟩ hread
  obtain ⟨x, hopening, -⟩ := Declaration.read?_eq_some_iff_opening?.1 hread
  obtain ⟨u, hu, hsplit⟩ := Declaration.opening?_eq_some_iff.1 hopening
  have hprefix := Grammar.isPrefix_of_isPrefix_append
    (Grammar.semicolon_notMem_of_mem_opening hu) ⟨x, hsplit.symm⟩
  exact h ⟨d.name, u, hu, hprefix.isInfix⟩

/-- **A text without an opening is skipped,** up to the semicolon at its end. -/
theorem all_append_of_not_hasOpening {t : Text} (h : ¬ HasOpening t) (rest : Text) :
    Declaration.all (t ++ ';' :: rest) = Declaration.all rest := by
  induction t with
  | nil => exact Declaration.all_of_read?_eq_none (read?_eq_none_of_not_hasOpening h rest)
  | cons c t ih =>
    have htail : ¬ HasOpening t := fun ⟨n, u, hu, hinfix⟩ =>
      h ⟨n, u, hu, hinfix.trans (List.suffix_cons c t).isInfix⟩
    have hread := read?_eq_none_of_not_hasOpening h rest
    exact (Declaration.all_of_read?_eq_none hread).trans (ih htail)

/-- Where a declaration is read somewhere in a text, the scan finds one. -/
theorem all_append_ne_nil {t : Text} (h : (Declaration.read? t).isSome) (front : Text) :
    Declaration.all (front ++ t) ≠ [] := by
  have hfound : ∀ {t : Text}, (Declaration.read? t).isSome → Declaration.all t ≠ [] := by
    intro t h
    obtain ⟨⟨d, rest⟩, hread⟩ := Option.isSome_iff_exists.1 h
    rw [Declaration.all_of_read? hread]
    exact List.cons_ne_nil _ _
  induction front with
  | nil => exact hfound h
  | cons c front ih =>
    cases hread : Declaration.read? (c :: (front ++ t)) with
    | none =>
      rw [List.cons_append, Declaration.all_of_read?_eq_none hread]
      exact ih
    | some answer => exact hfound (Option.isSome_iff_exists.2 ⟨answer, hread⟩)

/-- **What is skipped in front of every script.** A text with a semicolon and a line's end behind it
leaves the tables of each script that follows as they are, in both modes, exactly if it holds no
opening. -/
theorem ofScript_append_iff (mode : SplitMode) (a : Text) :
    (∀ b, Table.ofScript mode (a ++ ";\n" ++ b) = Table.ofScript mode b) ↔ ¬ HasOpening a := by
  have hsplit : ∀ b : Text, a ++ ";\n" ++ b = a ++ ';' :: '\n' :: b :=
    fun b => List.append_assoc ..
  constructor
  · rintro hskip ⟨n, u, hu, front, back, rfl⟩
    -- the end of a statement declares nothing, but the opening takes it
    have hread : (Declaration.read? (u ++ (back ++ ";\n" ++ ");"))).isSome := by
      have hends : EndsStatement (back ++ ";\n" ++ ");") := ⟨back ++ ";\n", [], [], rfl, rfl⟩
      exact Declaration.isSome_read?_iff.2 ⟨n, _, ⟨u, hu, rfl⟩, hends⟩
    have hnone : Table.ofScript mode ");" = [] := rfl
    have hempty := (hskip ");").trans hnone
    rw [Table.ofScript, List.map_eq_nil_iff] at hempty
    refine all_append_ne_nil hread front ?_
    simpa only [List.append_assoc] using hempty
  · intro h b
    rw [Table.ofScript, hsplit, all_append_of_not_hasOpening h,
      Declaration.all_of_read?_eq_none (Declaration.read?_eq_none_of_head (by decide))]
    rfl

/-- A parenthesis is missing in the first of two declarations: on its own it declares nothing, and
in front of the other it takes it into its body. -/
theorem ofScript_append_unended :
    Table.ofScript .legacy "CREATE TABLE a (x INT;" = [] ∧
    Table.ofScript .legacy "CREATE TABLE b (y INT);" = [{ name := "b", columns := ["y"] }] ∧
    Table.ofScript .legacy ("CREATE TABLE a (x INT;" ++ "\n" ++ "CREATE TABLE b (y INT);") =
      [{ name := "a", columns := ["x"] }] := by
  decide +kernel

end Sql
end Tablesmith
