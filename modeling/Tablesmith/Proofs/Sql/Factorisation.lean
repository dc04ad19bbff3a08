/-
# The pieces of a body

A body is cut at some of its commas and at no other place. Which commas these are can be said
without telling how the cutting goes: they are the ones that stand outside literals and parentheses,
by the characters in front of them (`IsFactorisation`). A text has one list of pieces of this kind,
and it is what the cutting finds (`isFactorisation_iff`).

The induction goes along the body. Its first character is a comma outside, and then the first piece
is empty (`isFactorisation_comma_iff`); or it is none, and then it belongs to the first piece
(`isFactorisation_cons_iff`).

Main statement: `depthAware_factorisation`, the segments of a body are its pieces, trimmed, without
the blank ones. Nothing else of the body is lost, and where a quote is written twice the pieces do
not depend on whether one looks ahead.
-/

import Tablesmith.Proofs.Sql.Nesting

namespace Tablesmith
namespace Sql
namespace Nesting

/-- What stands in front of one of the commas between the pieces. -/
def IsBorder (pieces : List Text) (front : Text) : Prop :=
  ∃ left right, left ≠ [] ∧ right ≠ [] ∧ pieces = left ++ right ∧ front = Text.join [','] left

/-- The pieces make up the text, with commas between them that are exactly the commas of the text
that stand outside. The text itself stands at `n`. -/
structure IsFactorisation (n : Nesting) (t : Text) (pieces : List Text) : Prop where
  ne_nil : pieces ≠ []
  join : Text.join [','] pieces = t
  commas : ∀ front back, t = front ++ ',' :: back →
    (IsBorder pieces front ↔ behind front n = outside)

/-- One character after another tells where the text behind them stands. -/
@[simp] theorem behind_cons (c : Char) (t : Text) (n : Nesting) :
    behind (c :: t) n = behind t (n.advance c) := rfl

/-- A comma outside changes nothing. -/
theorem advance_comma : outside.advance ',' = outside := rfl

/-- Every text has a piece, if only an empty one. -/
theorem cut_ne_nil (n : Nesting) (t : Text) : cut n t ≠ [] := by
  cases t with
  | nil => exact List.cons_ne_nil _ _
  | cons c t =>
    rw [cut]
    split
    · exact List.cons_ne_nil _ _
    · cases cut (n.advance c) t <;> exact List.cons_ne_nil _ _

/-- What stands in front of the first piece stands in front of all of them. -/
theorem join_cons_head (c : Char) (p : Text) (ps : List Text) :
    Text.join [','] ((c :: p) :: ps) = c :: Text.join [','] (p :: ps) := by
  cases ps <;> simp [Text.join_cons_cons]

/-- An empty first piece leaves the comma behind it. -/
theorem join_nil_cons {ps : List Text} (h : ps ≠ []) :
    Text.join [','] ([] :: ps) = ',' :: Text.join [','] ps := by
  obtain ⟨q, qs, rfl⟩ := List.exists_cons_of_ne_nil h
  exact Text.join_cons_cons ..

/-- A character more in the first piece is one more in front of every border. -/
theorem isBorder_cons_iff {c : Char} {p front : Text} {ps : List Text} :
    IsBorder ((c :: p) :: ps) front ↔ ∃ f, front = c :: f ∧ IsBorder (p :: ps) f := by
  constructor
  · rintro ⟨left, right, hleft, hright, hpieces, rfl⟩
    obtain ⟨q, left, rfl⟩ := List.exists_cons_of_ne_nil hleft
    obtain ⟨rfl, rfl⟩ := List.cons.inj hpieces
    exact ⟨_, join_cons_head c p left, p :: left, right, List.cons_ne_nil _ _, hright, rfl, rfl⟩
  · rintro ⟨f, rfl, left, right, hleft, hright, hpieces, rfl⟩
    obtain ⟨q, left, rfl⟩ := List.exists_cons_of_ne_nil hleft
    obtain ⟨rfl, rfl⟩ := List.cons.inj hpieces
    exact ⟨(c :: p) :: left, right, List.cons_ne_nil _ _, hright, rfl,
      (join_cons_head c p left).symm⟩

/-- Behind an empty first piece stands a border, and the others are those of the other pieces. -/
theorem isBorder_nil_cons_iff {front : Text} {ps : List Text} (hne : ps ≠ []) :
    IsBorder ([] :: ps) front ↔ front = [] ∨ ∃ f, front = ',' :: f ∧ IsBorder ps f := by
  constructor
  · rintro ⟨left, right, hleft, hright, hpieces, rfl⟩
    obtain ⟨q, left, rfl⟩ := List.exists_cons_of_ne_nil hleft
    obtain ⟨rfl, rfl⟩ := List.cons.inj hpieces
    cases left with
    | nil => exact .inl (Text.join_singleton ..)
    | cons q left =>
      have hrest := List.cons_ne_nil q left
      exact .inr ⟨_, join_nil_cons hrest, q :: left, right, hrest, hright, rfl, rfl⟩
  · rintro (rfl | ⟨f, rfl, left, right, hleft, hright, rfl, rfl⟩)
    · exact ⟨[[]], ps, List.cons_ne_nil _ _, hne, rfl, (Text.join_singleton ..).symm⟩
    · exact ⟨[] :: left, right, List.cons_ne_nil _ _, hright, rfl, (join_nil_cons hleft).symm⟩

/-- Of nothing there is one piece, the empty one. -/
theorem isFactorisation_nil_iff {n : Nesting} {pieces : List Text} :
    n.IsFactorisation [] pieces ↔ pieces = [[]] := by
  constructor
  · rintro ⟨hne, hjoin, -⟩
    match pieces, hne with
    | [p], _ => rw [← hjoin, Text.join_singleton]
    | p :: q :: qs, _ =>
      rw [Text.join_cons_cons] at hjoin
      simp at hjoin
  · rintro rfl
    refine ⟨List.cons_ne_nil _ _, Text.join_singleton .., fun front back hsplit => ?_⟩
    cases front <;> cases hsplit

/-- A comma outside ends the first piece. -/
theorem isFactorisation_comma_iff {t : Text} {pieces : List Text} :
    outside.IsFactorisation (',' :: t) pieces ↔
      ∃ ps, pieces = [] :: ps ∧ outside.IsFactorisation t ps := by
  constructor
  · rintro ⟨-, hjoin, hcommas⟩
    -- nothing stands in front of the comma, so the border there is behind an empty piece
    obtain ⟨left, ps, hleft, hps, rfl, hfront⟩ := (hcommas [] t rfl).2 rfl
    obtain rfl : left = [[]] := by
      obtain ⟨p, left, rfl⟩ := List.exists_cons_of_ne_nil hleft
      cases left with
      | nil => rw [hfront, Text.join_singleton]
      | cons q left =>
        rw [Text.join_cons_cons] at hfront
        simp at hfront
    rw [List.singleton_append] at hjoin hcommas ⊢
    rw [join_nil_cons hps] at hjoin
    refine ⟨ps, rfl, hps, (List.cons.inj hjoin).2, fun front back hsplit => ?_⟩
    have hborder := hcommas (',' :: front) back (congrArg (',' :: ·) hsplit)
    rw [isBorder_nil_cons_iff hps, behind_cons, advance_comma] at hborder
    simpa using hborder
  · rintro ⟨ps, rfl, hps, rfl, hcommas⟩
    refine ⟨List.cons_ne_nil _ _, join_nil_cons hps, fun front back hsplit => ?_⟩
    rw [isBorder_nil_cons_iff hps]
    cases front with
    | nil => exact iff_of_true (.inl rfl) rfl
    | cons c front =>
      obtain ⟨rfl, htail⟩ := List.cons.inj hsplit
      rw [behind_cons, advance_comma]
      simpa using hcommas front back htail

/-- Any other character belongs to the first piece. -/
theorem isFactorisation_cons_iff {n : Nesting} {c : Char} {t : Text} {pieces : List Text}
    (h : ¬(c = ',' ∧ n = outside)) :
    n.IsFactorisation (c :: t) pieces ↔
      ∃ p ps, pieces = (c :: p) :: ps ∧ (n.advance c).IsFactorisation t (p :: ps) := by
  constructor
  · rintro ⟨hne, hjoin, hcommas⟩
    obtain ⟨q, ps, rfl⟩ := List.exists_cons_of_ne_nil hne
    cases q with
    | nil =>
      cases ps with
      | nil =>
        rw [Text.join_singleton] at hjoin
        cases hjoin
      | cons r rs =>
        -- an empty first piece would have a border behind it, and a comma outside there
        have hps := List.cons_ne_nil r rs
        rw [join_nil_cons hps] at hjoin
        obtain ⟨rfl, -⟩ := List.cons.inj hjoin
        have hborder := (isBorder_nil_cons_iff hps).2 (.inl rfl)
        exact absurd ⟨rfl, (hcommas [] t rfl).1 hborder⟩ h
    | cons d p =>
      rw [join_cons_head] at hjoin
      obtain ⟨rfl, htail⟩ := List.cons.inj hjoin
      refine ⟨p, ps, rfl, List.cons_ne_nil _ _, htail, fun front back hsplit => ?_⟩
      have hborder := hcommas (d :: front) back (congrArg (d :: ·) hsplit)
      rw [isBorder_cons_iff, behind_cons] at hborder
      simpa using hborder
  · rintro ⟨p, ps, rfl, -, rfl, hcommas⟩
    refine ⟨List.cons_ne_nil _ _, join_cons_head .., fun front back hsplit => ?_⟩
    rw [isBorder_cons_iff]
    cases front with
    | nil =>
      obtain ⟨rfl, -⟩ := List.cons.inj hsplit
      refine iff_of_false ?_ fun hn => h ⟨rfl, hn⟩
      rintro ⟨f, hfront, -⟩
      cases hfront
    | cons d front =>
      obtain ⟨rfl, htail⟩ := List.cons.inj hsplit
      simpa using hcommas front back htail

/-- **A text has one factorisation,** and it is what the cutting finds. -/
theorem isFactorisation_iff {n : Nesting} {t : Text} {pieces : List Text} :
    n.IsFactorisation t pieces ↔ pieces = cut n t := by
  induction t generalizing n pieces with
  | nil => exact isFactorisation_nil_iff
  | cons c t ih =>
    by_cases h : c = ',' ∧ n = outside
    · obtain ⟨rfl, rfl⟩ := h
      rw [isFactorisation_comma_iff, cut, if_pos ⟨rfl, rfl⟩]
      simp only [ih, exists_eq_right]
    · obtain ⟨p, ps, hcut⟩ := List.exists_cons_of_ne_nil (cut_ne_nil (n.advance c) t)
      rw [isFactorisation_cons_iff h, cut_cons_of_not h]
      simp only [ih, hcut, Text.consHead, List.cons.injEq]
      constructor
      · rintro ⟨q, qs, rfl, rfl, rfl⟩
        rfl
      · rintro rfl
        exact ⟨p, ps, rfl, rfl, rfl⟩

/-- **The segments of a body.** There is exactly one list of pieces with commas between them such
that these are the commas of the body outside literals and parentheses. Looking ahead does not
change the pieces, and the segments are the pieces, trimmed, without the blank ones. So nothing is
lost of a body but these commas and blanks at the ends of its pieces. -/
theorem depthAware_factorisation (body : Text) :
    ∃ pieces, (∀ others, outside.IsFactorisation body others ↔ others = pieces) ∧
      Segment.cut none 0 body = pieces ∧
      Segment.depthAware body = (pieces.filter fun p => !Text.isAllBlank p).map Text.trim ∧
      ∀ p ∈ pieces, Text.IsTrimmed (Text.trim p) ∧
        ∃ front back, Text.isAllBlank front ∧ Text.isAllBlank back ∧
          p = front ++ Text.trim p ++ back :=
  ⟨cut outside body, fun _ => isFactorisation_iff, cut_eq none 0 body isProper_outside,
    depthAware_eq body, fun p _ => ⟨Text.isTrimmed_trim p, Text.exists_eq_trim p⟩⟩

/-- A quote that is written twice, one of another kind within a literal, a parenthesis too many, and
a literal that is not closed. -/
example : Segment.cut none 0 "a 'x''\",', b), c (d, e) \"f, g" =
    ["a 'x''\",'".toList, " b)".toList, " c (d, e) \"f, g".toList] := by
  decide +kernel

end Nesting
end Sql
end Tablesmith
