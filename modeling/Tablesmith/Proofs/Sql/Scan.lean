/-
# How the scan goes on

The scan for declarations counts the characters that it still has to skip. Seen from outside it does
something simpler: where a declaration is read it goes on with what is left behind it
(`all_of_read?`), and elsewhere with the next character (`all_of_read?_eq_none`).

The two say the same because every reader leaves a suffix of what it is given (`suffix_of_read?`),
so that the number of characters skipped determines what is left.
-/

import Tablesmith.Sql.Declaration

namespace Tablesmith

/-- What stands behind blanks is an end of the text. -/
theorem Text.suffix_of_afterBlanks? {t rest : Text} (h : Text.afterBlanks? t = some rest) :
    rest <:+ t := by
  cases t with
  | nil => simp [afterBlanks?] at h
  | cons c cs =>
    rw [afterBlanks?] at h
    split at h
    · obtain rfl := Option.some.inj h
      exact (List.dropWhile_suffix _).trans (List.suffix_cons _ _)
    · cases h

/-- What stands behind a part is an end of the text. -/
theorem Text.suffix_of_after? {part t rest : Text} (h : Text.after? part t = some rest) :
    rest <:+ t :=
  ⟨part, (eq_append_of_after? h).symm⟩

namespace Sql

/-- What a keyword leaves is an end of the text. -/
theorem suffix_of_keyword? {word t rest : Text} (h : keyword? word t = some rest) :
    rest <:+ t := by
  induction word generalizing t with
  | nil => simp_all [keyword?]
  | cons k ks ih =>
    cases t with
    | nil => simp [keyword?] at h
    | cons c cs =>
      rw [keyword?] at h
      split at h
      · exact (ih h).trans (List.suffix_cons _ _)
      · cases h

/-- So is what several keywords leave. -/
theorem suffix_of_keywords? {words : List Text} {t rest : Text}
    (h : keywords? words t = some rest) :
    rest <:+ t := by
  fun_induction keywords? words t with
  | case1 t => simp_all
  | case2 t w => exact suffix_of_keyword? h
  | case3 t w ws hws ih =>
    obtain ⟨a, ha, h⟩ := Option.bind_eq_some_iff.1 h
    obtain ⟨b, hb, h⟩ := Option.bind_eq_some_iff.1 h
    exact ((ih b h).trans (Text.suffix_of_afterBlanks? hb)).trans (suffix_of_keyword? ha)

/-- What is left when one character is taken, or none, is an end of the text. -/
theorem suffix_takeOne (p : Char → Bool) (t : Text) : (takeOne p t).2 <:+ t := by
  cases t with
  | nil => exact List.suffix_rfl
  | cons c cs =>
    rw [takeOne]
    split
    · exact List.suffix_cons _ _
    · exact List.suffix_rfl

/-- What stands behind a name is an end of the text. -/
theorem suffix_of_tableName? {t name rest : Text} (h : tableName? t = some (name, rest)) :
    rest <:+ t := by
  simp only [tableName?] at h
  split at h
  · cases h
  · obtain ⟨-, rfl⟩ := Prod.mk.inj (Option.some.inj h)
    exact ((suffix_takeOne _ _).trans (List.dropWhile_suffix _)).trans (suffix_takeOne _ _)

/-- So is what stands behind a semicolon. -/
theorem suffix_of_afterSemicolon? {t rest : Text} (h : afterSemicolon? t = some rest) :
    rest <:+ t :=
  (Text.suffix_of_after? h).trans (List.dropWhile_suffix _)

/-- So is what stands behind a body. -/
theorem suffix_of_body? {t body rest : Text} (h : body? t = some (body, rest)) : rest <:+ t := by
  induction t generalizing body with
  | nil => cases h
  | cons c cs ih =>
    rw [body?] at h
    split at h
    · next left hleft =>
      obtain ⟨-, rfl⟩ := Prod.mk.inj (Option.some.inj h)
      split at hleft
      · exact (suffix_of_afterSemicolon? hleft).trans (List.suffix_cons _ _)
      · cases hleft
    · obtain ⟨⟨b, r⟩, hb, heq⟩ := Option.map_eq_some_iff.1 h
      obtain ⟨-, rfl⟩ := Prod.mk.inj heq
      exact (ih hb).trans (List.suffix_cons _ _)

namespace Declaration

/-- Skipping a test for existence leaves an end of the text. -/
theorem suffix_skipExistenceTest (t : Text) : skipExistenceTest t <:+ t := by
  rw [skipExistenceTest]
  cases h : (keywords? ["IF", "NOT", "EXISTS"] t).bind Text.afterBlanks? with
  | none => exact List.suffix_rfl
  | some rest =>
    obtain ⟨a, ha, hrest⟩ := Option.bind_eq_some_iff.1 h
    exact (Text.suffix_of_afterBlanks? hrest).trans (suffix_of_keywords? ha)

/-- The steps of reading a declaration. -/
theorem read?_eq_some_iff {t rest : Text} {d : Declaration} :
    read? t = some (d, rest) ↔ ∃ u v w x,
      keywords? ["CREATE", "TABLE"] t = some u ∧ Text.afterBlanks? u = some v ∧
      tableName? (skipExistenceTest v) = some (d.name, w) ∧
      Text.after? ['('] (Text.skipBlanks w) = some x ∧ body? x = some (d.body, rest) := by
  constructor
  · intro h
    obtain ⟨u, hu, h⟩ := Option.bind_eq_some_iff.1 h
    obtain ⟨v, hv, h⟩ := Option.bind_eq_some_iff.1 h
    obtain ⟨⟨name, w⟩, hw, h⟩ := Option.bind_eq_some_iff.1 h
    obtain ⟨x, hx, h⟩ := Option.bind_eq_some_iff.1 h
    obtain ⟨⟨body, r⟩, hr, h⟩ := Option.bind_eq_some_iff.1 h
    obtain ⟨rfl, rfl⟩ := Prod.mk.inj (Option.some.inj h)
    exact ⟨u, v, w, x, hu, hv, hw, hx, hr⟩
  · rintro ⟨u, v, w, x, hu, hv, hw, hx, hr⟩
    simp only [read?, Option.bind_eq_bind, hu, hv, hw, hx, hr, Option.bind_some]

/-- What is left behind a declaration is a proper suffix of the text. -/
theorem suffix_of_read? {t rest : Text} {d : Declaration} (h : read? t = some (d, rest)) :
    rest <:+ t ∧ rest.length < t.length := by
  obtain ⟨u, v, w, x, hu, hv, hw, hx, hr⟩ := read?_eq_some_iff.1 h
  have hvt : v <:+ t := (Text.suffix_of_afterBlanks? hv).trans (suffix_of_keywords? hu)
  have hwv : w <:+ v := (suffix_of_tableName? hw).trans (suffix_skipExistenceTest v)
  have hxw : x <:+ w := (Text.suffix_of_after? hx).trans (List.dropWhile_suffix _)
  refine ⟨(((suffix_of_body? hr).trans hxw).trans hwv).trans hvt, ?_⟩
  -- the opening parenthesis is gone in any case
  have hskip := congrArg List.length (Text.eq_append_of_after? hx)
  have hdrop : (Text.skipBlanks w).length ≤ w.length := (List.dropWhile_suffix _).length_le
  have := (suffix_of_body? hr).length_le
  have := hwv.length_le
  have := hvt.length_le
  simp only [List.cons_append, List.nil_append, List.length_cons] at hskip
  omega

/-- Where nothing is skipped a declaration is read or none. -/
theorem scan_cons (c : Char) (cs : Text) :
    scan 0 (c :: cs) =
      match read? (c :: cs) with
      | some (d, rest) => d :: scan (cs.length - rest.length) cs
      | none => scan 0 cs := by
  rfl

/-- Where a declaration is read, the scan goes on behind it. -/
theorem all_of_read? {t rest : Text} {d : Declaration} (h : read? t = some (d, rest)) :
    all t = d :: all rest := by
  obtain ⟨⟨used, hused⟩, hlt⟩ := suffix_of_read? h
  cases t with
  | nil => simp at hlt
  | cons c cs =>
    have hdrop : cs.drop (cs.length - rest.length) = rest := by
      cases used with
      | nil => rw [← hused] at hlt; simp at hlt
      | cons u us =>
        obtain ⟨-, rfl⟩ := List.cons.inj hused
        simp
    rw [all, scan_cons, h]
    exact congrArg (d :: ·) ((scan_eq_drop _ _).trans (by rw [hdrop, all]))

/-- Where none is read, the scan goes on with the next character. -/
theorem all_of_read?_eq_none {c : Char} {cs : Text} (h : read? (c :: cs) = none) :
    all (c :: cs) = all cs := by
  rw [all, scan_cons, h]
  rfl

/-- No declaration begins with a character that is no letter of a keyword. -/
theorem read?_eq_none_of_head {c : Char} {cs : Text} (h : isLetter 'C' c = false) :
    read? (c :: cs) = none := by
  have : keywords? ["CREATE", "TABLE"] (c :: cs) = none := by
    simp [keywords?, keyword?, h]
  rw [read?, this]
  rfl

end Declaration
end Sql
end Tablesmith
