/-
# Literals and parentheses in a body

A comma separates two segments of a body if it stands outside literals and outside parentheses.
Where a text stands in this sense is a matter of the characters in front of it, one after another:

| outside literals | inside one |
| --- | --- |
| a quote opens a literal | the same quote closes it |
| `(` opens a parenthesis | nothing else does anything |
| `)` closes one, if any is open | |

The cutting of a body also looks one character ahead, to take a quote written twice for a quote
within its literal. That makes no difference to where it cuts: the two quotes close the literal and
open it again (`cut_eq`).

Main statement: `cut_join`, pieces that end outside and have no comma outside are what is cut out of
them once they are joined by commas.
-/

import Tablesmith.Proofs.Text.Blank
import Tablesmith.Sql.Segment

namespace Tablesmith
namespace Sql

/-- Where a text stands: the quote of the literal around it, and the number of parentheses open. -/
structure Nesting where
  quote : Option Char := none
  depth : Nat := 0
deriving Repr, DecidableEq

namespace Nesting

/-- Outside all literals and parentheses. -/
def outside : Nesting := {}

/-- What one character changes. -/
def advance (n : Nesting) (c : Char) : Nesting :=
  match n.quote with
  | some q => if c = q then { n with quote := none } else n
  | none =>
    if Segment.isQuote c then { n with quote := some c }
    else if c = '(' then { n with depth := n.depth + 1 }
    else if c = ')' then { n with depth := n.depth - 1 }
    else n

/-- Where the text behind `t` stands, if `t` itself stands at `n`. -/
def behind (t : Text) (n : Nesting) : Nesting := t.foldl advance n

/-- Cuts at the commas outside, without looking ahead. -/
def cut : (n : Nesting) → Text → List Text
  | _, [] => [[]]
  | n, c :: cs =>
    if c = ',' ∧ n = outside then [] :: cut n cs else Text.consHead c (cut (n.advance c) cs)

/-- From `n` on, no comma of the text stands outside. -/
def Covers (n : Nesting) (t : Text) : Prop :=
  ∀ front back, t = front ++ ',' :: back → behind front n ≠ outside

/-- The text ends outside, and no comma of it stands outside. -/
def IsPiece (t : Text) : Prop := behind t outside = outside ∧ outside.Covers t

/-- An empty text has no comma outside. -/
theorem covers_nil (n : Nesting) : n.Covers [] := by
  rintro front back hsplit
  cases front <;> cases hsplit

/-- One character after another. -/
theorem covers_cons_iff {n : Nesting} {c : Char} {t : Text} :
    n.Covers (c :: t) ↔ (c = ',' → n ≠ outside) ∧ (n.advance c).Covers t := by
  constructor
  · intro h
    refine ⟨?_, fun front back hsplit => ?_⟩
    · rintro rfl
      exact h [] t rfl
    · exact h (c :: front) back (by rw [hsplit, List.cons_append])
  · rintro ⟨hc, ht⟩ front back hsplit
    cases front with
    | nil => exact hc (List.cons.inj hsplit).1
    | cons d front =>
      obtain ⟨rfl, htail⟩ := List.cons.inj hsplit
      exact ht front back htail

instance decidableCovers : (n : Nesting) → (t : Text) → Decidable (n.Covers t)
  | n, [] => .isTrue (covers_nil n)
  | n, c :: t =>
    have := decidableCovers (n.advance c) t
    decidable_of_iff _ covers_cons_iff.symm

instance decidableIsPiece (t : Text) : Decidable (IsPiece t) :=
  inferInstanceAs (Decidable (_ ∧ _))

/-- Only quotes open literals. -/
def IsProper (n : Nesting) : Prop := ∀ q ∈ n.quote, Segment.isQuote q

/-- Outside of literals there is no quote to ask for. -/
theorem isProper_none (depth : Nat) : IsProper ⟨none, depth⟩ := by
  rintro q ⟨⟩

/-- Within a literal it is the quote that opened it. -/
theorem isProper_some {q : Char} (h : Segment.isQuote q) (depth : Nat) :
    IsProper ⟨some q, depth⟩ := by
  rintro d ⟨⟩
  exact h

/-- The beginning of a body is proper. -/
theorem isProper_outside : IsProper outside := isProper_none 0

/-- Only a quote opens a literal, so a character leads from proper to proper. -/
theorem IsProper.advance {n : Nesting} (h : n.IsProper) (c : Char) : (n.advance c).IsProper := by
  obtain ⟨quote, depth⟩ := n
  cases quote with
  | some q =>
    simp only [Nesting.advance]
    split
    · exact isProper_none depth
    · exact h
  | none =>
    simp only [Nesting.advance]
    split
    · next hc => exact isProper_some hc depth
    · split
      · exact h
      · split <;> exact h

/-- A character that is neither a quote nor a parenthesis changes nothing. -/
theorem IsProper.advance_eq_self {n : Nesting} (h : n.IsProper) {c : Char}
    (hquote : Segment.isQuote c = false) (hopen : c ≠ '(') (hclose : c ≠ ')') :
    n.advance c = n := by
  obtain ⟨quote, depth⟩ := n
  cases quote with
  | none => simp [Nesting.advance, hquote, hopen, hclose]
  | some q =>
    have hc : c ≠ q := by
      rintro rfl
      rw [h c rfl] at hquote
      cases hquote
    simp [Nesting.advance, hc]

/-- A blank changes nothing. -/
theorem IsProper.advance_blank {n : Nesting} (h : n.IsProper) {c : Char} (hc : Text.isBlank c) :
    n.advance c = n := by
  have hne : ∀ {d}, Text.isBlank d = false → c ≠ d := by
    rintro d hd rfl
    rw [hc] at hd
    cases hd
  refine h.advance_eq_self ?_ (hne (by decide)) (hne (by decide))
  simp [Segment.isQuote, hne (by decide : Text.isBlank '\'' = false),
    hne (by decide : Text.isBlank '"' = false), hne (by decide : Text.isBlank '\x60' = false)]

/-- A character that is no comma outside belongs to the piece that is being cut. -/
theorem cut_cons_of_not {n : Nesting} {c : Char} (h : ¬(c = ',' ∧ n = outside)) (cs : Text) :
    cut n (c :: cs) = Text.consHead c (cut (n.advance c) cs) := by
  rw [cut, if_neg h]

/-- Within a literal nothing is cut. -/
theorem cut_cons_literal (q : Char) (depth : Nat) (c : Char) (cs : Text) :
    cut ⟨some q, depth⟩ (c :: cs) = Text.consHead c (cut (advance ⟨some q, depth⟩ c) cs) :=
  cut_cons_of_not (by simp [outside]) cs

/-- **Looking ahead does not matter** to where a body is cut. -/
theorem cut_eq (quote : Option Char) (depth : Nat) (t : Text) (h : IsProper ⟨quote, depth⟩) :
    Segment.cut quote depth t = cut ⟨quote, depth⟩ t := by
  fun_induction Segment.cut quote depth t with
  | case1 => rfl
  | case2 depth q c => rw [cut_cons_literal]; rfl
  | case3 depth q cs ih =>
    -- the literal is closed and opened again
    have hq : Segment.isQuote q := h q rfl
    have hclose : advance ⟨some q, depth⟩ q = ⟨none, depth⟩ := by simp [advance]
    have hopen : advance ⟨none, depth⟩ q = ⟨some q, depth⟩ := by simp [advance, hq]
    have hcomma : ¬(q = ',' ∧ (⟨none, depth⟩ : Nesting) = outside) := by
      rintro ⟨rfl, -⟩
      cases hq
    rw [ih h, cut_cons_literal, hclose, cut_cons_of_not hcomma, hopen]
  | case4 depth q d cs _ ih =>
    rw [ih (isProper_none depth), cut_cons_literal q]
    simp [advance]
  | case5 q depth c d cs hc ih =>
    rw [ih h, cut_cons_literal q depth c]
    simp [advance, hc]
  | case6 depth c cs hc ih =>
    have hcomma : ¬(c = ',' ∧ (⟨none, depth⟩ : Nesting) = outside) := by
      rintro ⟨rfl, -⟩
      cases hc
    rw [ih (isProper_some hc depth), cut_cons_of_not hcomma]
    simp [advance, hc]
  | case7 depth cs _ ih => rw [ih h, cut_cons_of_not (by simp)]; rfl
  | case8 depth cs _ _ ih => rw [ih h, cut_cons_of_not (by simp)]; rfl
  | case9 depth c cs _ _ _ hcomma ih =>
    obtain ⟨rfl, rfl⟩ := hcomma
    rw [ih h, cut, if_pos ⟨rfl, rfl⟩]
  | case10 depth c cs hc ho hcl hcomma ih =>
    have hcomma : ¬(c = ',' ∧ (⟨none, depth⟩ : Nesting) = outside) := by
      simpa [outside] using hcomma
    rw [ih h, cut_cons_of_not hcomma]
    simp [advance, hc, ho, hcl]

/-- The first comma outside ends the first piece. -/
theorem cut_append_comma {n : Nesting} {t : Text} (hend : behind t n = outside) (h : n.Covers t)
    (rest : Text) : cut n (t ++ ',' :: rest) = t :: cut outside rest := by
  induction t generalizing n with
  | nil =>
    obtain rfl : n = outside := hend
    rw [List.nil_append, cut, if_pos ⟨rfl, rfl⟩]
  | cons c cs ih =>
    obtain ⟨hc, hcs⟩ := covers_cons_iff.1 h
    rw [List.cons_append, cut_cons_of_not fun hcomma => hc hcomma.1 hcomma.2, ih hend hcs]
    rfl

/-- Without a comma outside there is one piece only. -/
theorem cut_of_covers {n : Nesting} {t : Text} (h : n.Covers t) : cut n t = [t] := by
  induction t generalizing n with
  | nil => rfl
  | cons c cs ih =>
    obtain ⟨hc, hcs⟩ := covers_cons_iff.1 h
    rw [cut_cons_of_not fun hcomma => hc hcomma.1 hcomma.2, ih hcs]
    rfl

/-- **Cutting undoes joining:** pieces joined by commas are cut at these commas and no others. -/
theorem cut_join {pieces : List Text} (hne : pieces ≠ []) (h : ∀ p ∈ pieces, IsPiece p) :
    cut outside (Text.join [','] pieces) = pieces := by
  induction pieces with
  | nil => exact absurd rfl hne
  | cons p ps ih =>
    obtain ⟨hend, hcovers⟩ := h p (List.mem_cons_self ..)
    cases ps with
    | nil =>
      rw [Text.join_singleton, cut_of_covers hcovers]
    | cons q qs =>
      rw [Text.join_cons_cons, List.singleton_append, cut_append_comma hend hcovers,
        ih (by simp) fun r hr => h r (List.mem_cons_of_mem _ hr)]

/-- The segments of a body, without looking ahead. -/
theorem depthAware_eq (body : Text) :
    Segment.depthAware body = Segment.tidy (cut outside body) := by
  rw [Segment.depthAware, cut_eq none 0 body isProper_outside]
  rfl

end Nesting
end Sql
end Tablesmith
