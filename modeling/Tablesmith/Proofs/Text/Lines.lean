/-
# Lines with their breaks

Cutting a text into lines drops the breaks between them, and with them the positions at which the
lines stood. Here a line keeps its break, so that the lines one behind another are the text again
(`flatMap_whole_endedLines`); the one exception is a last line without a break, which gets a newline
as the others have theirs. Lines without their breaks may also be put together with newlines between
them, and are the lines of what this makes (`lines_unlines`).

Which breaks there are is of no account to most readers, and two steps make newlines of all of them.
A line break of one character is written as another of one character, which leaves every position as
it is (`plainBreak`), and a pair of a carriage return and a newline is written as a newline
(`unixNewlines`). Between the two the pairs alone are left, so no carriage return can form a new one
with what stands behind it (`unixNewlines_spelled`).
-/

import Tablesmith.Proofs.Text.Newline

namespace Tablesmith
namespace Text

/-- What ends a line: the pair of a carriage return and a newline, or one character. -/
inductive Break where
  | pair
  | single (c : Char) (h : isLineBreak c)
deriving DecidableEq

namespace Break

/-- The break as it stands in a text. -/
def text : Break → Text
  | pair => "\r\n"
  | single c _ => [c]

/-- The break with a newline for any single character. -/
def spelled : Break → Text
  | pair => "\r\n"
  | single _ _ => "\n"

end Break

/-- A line and the break behind it. -/
structure Line where
  text : Text
  ending : Break
  unbroken : ∀ c ∈ text, isLineBreak c = false

namespace Line

/-- The line as it stands in a text. -/
def whole (l : Line) : Text := l.text ++ l.ending.text

/-- The line with a newline behind it, unless it is a pair that ends it. -/
def spelled (l : Line) : Text := l.text ++ l.ending.spelled

/-- The line with a newline behind it. -/
def plain (l : Line) : Text := l.text ++ "\n"

/-- The line without characters. -/
def empty (ending : Break) : Line := ⟨[], ending, List.forall_mem_nil _⟩

/-- One character more in front of the first line. -/
def consHead (c : Char) (h : isLineBreak c = false) : List Line → List Line
  | [] => [⟨[c], .single '\n' rfl, List.forall_mem_singleton.2 h⟩]
  | l :: ls => ⟨c :: l.text, l.ending, List.forall_mem_cons.2 ⟨h, l.unbroken⟩⟩ :: ls

end Line

/-- The lines of a text with their breaks. If the last one has none it gets a newline. -/
def endedLines : Text → List Line
  | [] => []
  | '\r' :: '\n' :: t => .empty .pair :: endedLines t
  | c :: t =>
    if h : isLineBreak c then .empty (.single c h) :: endedLines t
    else Line.consHead c (Bool.eq_false_iff.2 h) (endedLines t)

/-- **These are the lines** that the text is cut into. -/
theorem map_text_endedLines (t : Text) : (endedLines t).map Line.text = lines t := by
  fun_induction endedLines t with
  | case1 => rfl
  | case2 t ih => rw [lines, List.map_cons, ih]; rfl
  | case3 c t hpair hc ih =>
    rw [lines, if_pos hc, List.map_cons, ih]
    · rfl
    · exact hpair
  | case4 c t hpair hc ih =>
    rw [lines, if_neg hc, ← ih]
    · cases endedLines t <;> rfl
    · exact hpair

/-- **One behind another they are the text,** perhaps with a newline at its end. -/
theorem flatMap_whole_endedLines (t : Text) :
    (endedLines t).flatMap Line.whole = t ∨ (endedLines t).flatMap Line.whole = t ++ "\n" := by
  have hcons : ∀ {c : Char} {t u : Text}, u = t ∨ u = t ++ "\n" →
      c :: u = c :: t ∨ c :: u = c :: t ++ "\n" :=
    fun h => h.imp (congrArg _) (congrArg _)
  fun_induction endedLines t with
  | case1 => exact .inl rfl
  | case2 t ih => exact hcons (hcons ih)
  | case3 c t hpair hc ih => exact hcons ih
  | case4 c t hpair hc ih =>
    cases hlines : endedLines t with
    | nil =>
      rw [hlines] at ih
      obtain rfl : t = [] := by
        rcases ih with h | h
        · exact h.symm
        · cases t <;> cases h
      exact .inr rfl
    | cons l ls =>
      rw [hlines] at ih
      exact hcons ih

example : (endedLines "a\r\n\rb\u2028c").map Line.whole =
    ["a\r\n".toList, "\r".toList, "b\u2028".toList, "c\n".toList] := by decide

/-- Newlines behind the lines, or between them. -/
theorem flatMap_plain {ls : List Line} (h : ls ≠ []) :
    ls.flatMap Line.plain = unlines (ls.map Line.text) ++ "\n" := by
  induction ls with
  | nil => exact absurd rfl h
  | cons l ls ih =>
    cases ls with
    | nil => simp [Line.plain, unlines]
    | cons m ls =>
      rw [List.flatMap_cons, ih (List.cons_ne_nil _ _)]
      simp [Line.plain, unlines, join_cons_cons]

/-- No line of a text has a break in it. -/
theorem isLineBreak_of_mem_lines {l t : Text} (h : l ∈ lines t) :
    ∀ c ∈ l, isLineBreak c = false := by
  rw [← map_text_endedLines] at h
  obtain ⟨line, -, rfl⟩ := List.mem_map.1 h
  exact line.unbroken

/-- A character that ends no line belongs to the first one. -/
theorem lines_cons_of_not {c : Char} (h : isLineBreak c = false) (t : Text) :
    lines (c :: t) = consHead c (lines t) := by
  rw [lines, if_neg (by simp [h])]
  rintro _ rfl -
  cases h

/-- A newline ends a line, and the others follow. -/
theorem lines_append_newline {l : Text} (h : ∀ c ∈ l, isLineBreak c = false) (t : Text) :
    lines (l ++ '\n' :: t) = l :: lines t := by
  induction l with
  | nil => rfl
  | cons c l ih =>
    obtain ⟨hc, hl⟩ := List.forall_mem_cons.1 h
    rw [List.cons_append, lines_cons_of_not hc, ih hl]
    rfl

/-- A text without breaks is one line, if there is anything in it. -/
theorem lines_eq_singleton {l : Text} (hne : l ≠ []) (h : ∀ c ∈ l, isLineBreak c = false) :
    lines l = [l] := by
  induction l with
  | nil => exact absurd rfl hne
  | cons c l ih =>
    obtain ⟨hc, hl⟩ := List.forall_mem_cons.1 h
    rw [lines_cons_of_not hc]
    cases l with
    | nil => rfl
    | cons d l =>
      rw [ih (List.cons_ne_nil d l) hl]
      rfl

/-- **Lines put together are the lines of what they make,** but for an empty one at the end: the
newline in front of it ends the text. -/
theorem lines_unlines {ls : List Text} (h : ∀ l ∈ ls, ∀ c ∈ l, isLineBreak c = false) :
    ls = lines (unlines ls) ∨ ls = lines (unlines ls) ++ [[]] := by
  induction ls with
  | nil => exact .inl rfl
  | cons l ls ih =>
    obtain ⟨hl, hls⟩ := List.forall_mem_cons.1 h
    cases ls with
    | nil =>
      rw [unlines, join_singleton]
      cases l with
      | nil => exact .inr rfl
      | cons c l => exact .inl (lines_eq_singleton (List.cons_ne_nil c l) hl).symm
    | cons m ls =>
      have hcons : lines (unlines (l :: m :: ls)) = l :: lines (unlines (m :: ls)) := by
        rw [unlines, join_cons_cons]
        exact lines_append_newline hl _
      rw [hcons]
      exact (ih hls).imp (congrArg (l :: ·)) (congrArg (l :: ·))

/-- The characters that end a line. -/
def lineBreaks : List Char :=
  ['\n', '\x0b', '\x0c', '\r', '\x1c', '\x1d', '\x1e', '\x85', '\u2028', '\u2029']

/-- What ends a line is in the list. -/
theorem mem_lineBreaks {c : Char} (h : isLineBreak c) : c ∈ lineBreaks := by
  have hofNat : ∀ {n}, c.toNat = n → c = Char.ofNat n := by
    rintro n rfl
    exact (Char.ofNat_toNat c).symm
  simp only [isLineBreak, Bool.or_eq_true, Bool.and_eq_true, decide_eq_true_eq, beq_iff_eq] at h
  have hcases : c.toNat = 10 ∨ c.toNat = 11 ∨ c.toNat = 12 ∨ c.toNat = 13 ∨ c.toNat = 28 ∨
      c.toNat = 29 ∨ c.toNat = 30 ∨ c.toNat = 0x85 ∨ c.toNat = 0x2028 ∨ c.toNat = 0x2029 := by
    omega
  rcases hcases with h | h | h | h | h | h | h | h | h | h <;> rw [hofNat h] <;> decide

/-- A newline for every character that ends a line. -/
def plainBreak (c : Char) : Char := if isLineBreak c then '\n' else c

/-- Any character that ends a line comes to a newline. -/
theorem plainBreak_of_isLineBreak {c : Char} (h : isLineBreak c) : plainBreak c = '\n' := if_pos h

/-- Any other stays as it is. -/
theorem plainBreak_eq_self {c : Char} (h : isLineBreak c = false) : plainBreak c = c :=
  if_neg (by simp [h])

/-- What ends a line is blank. -/
theorem isBlank_of_isLineBreak {c : Char} (h : isLineBreak c) : isBlank c :=
  List.all_eq_true.1 (by decide : lineBreaks.all isBlank = true) c (mem_lineBreaks h)

/-- A newline in its place is no more and no less blank. -/
theorem isBlank_plainBreak (c : Char) : isBlank (plainBreak c) = isBlank c := by
  cases hc : isLineBreak c with
  | true => rw [plainBreak_of_isLineBreak hc, isBlank_of_isLineBreak hc]; rfl
  | false => rw [plainBreak_eq_self hc]

/-- What holds of no blank does not hold of line breaks, whichever they are. -/
theorem apply_plainBreak {p : Char → Bool} (h : ∀ {c}, p c → isBlank c = false) (c : Char) :
    p (plainBreak c) = p c := by
  have hnot : ∀ {d}, isBlank d → p d = false := by
    intro d hd
    rw [Bool.eq_false_iff]
    intro hp
    rw [h hp] at hd
    cases hd
  cases hc : isLineBreak c with
  | true => rw [plainBreak_of_isLineBreak hc, hnot (isBlank_of_isLineBreak hc), hnot (by decide)]
  | false => rw [plainBreak_eq_self hc]

/-- What ends no line comes from itself alone. -/
theorem plainBreak_eq_iff {c d : Char} (hd : isLineBreak d = false) :
    plainBreak c = d ↔ c = d := by
  have hne : ∀ {b}, isLineBreak b → b ≠ d := by
    rintro b hb rfl
    rw [hb] at hd
    cases hd
  cases hc : isLineBreak c with
  | true =>
    rw [plainBreak_of_isLineBreak hc]
    exact iff_of_false (hne (by decide)) (hne hc)
  | false => rw [plainBreak_eq_self hc]

/-- A text without blanks has no line breaks. -/
theorem map_plainBreak_eq_self {t : Text} (h : ∀ c ∈ t, isBlank c = false) :
    t.map plainBreak = t := by
  have hself : ∀ c ∈ t, plainBreak c = c := by
    intro c hc
    refine plainBreak_eq_self (Bool.eq_false_iff.2 fun hbreak => ?_)
    have hblank := isBlank_of_isLineBreak hbreak
    rw [h c hc] at hblank
    cases hblank
  rw [List.map_congr_left hself, List.map_id']

/-- The breaks of one character have a form in common. -/
theorem map_plainBreak_spelled (l : Line) : l.spelled.map plainBreak = l.whole.map plainBreak := by
  rw [Line.spelled, Line.whole, List.map_append, List.map_append]
  cases l.ending with
  | pair => rfl
  | single c h => exact congrArg (l.text.map plainBreak ++ [·]) (plainBreak_of_isLineBreak h).symm

/-- The pairs that are left are the only ones. -/
theorem unixNewlines_spelled (ls : List Line) :
    unixNewlines (ls.flatMap Line.spelled) = ls.flatMap Line.plain := by
  induction ls with
  | nil => rfl
  | cons l ls ih =>
    have hreturn : '\r' ∉ l.text := fun h => absurd (l.unbroken _ h) (by decide)
    have hending : ∀ t, unixNewlines (l.ending.spelled ++ t) = '\n' :: unixNewlines t := by
      intro t
      cases l.ending with
      | pair => exact unixNewlines_pair t
      | single c h => exact unixNewlines_cons (by decide) t
    rw [List.flatMap_cons, List.flatMap_cons, Line.spelled, List.append_assoc,
      unixNewlines_append hreturn, hending, ih, Line.plain, List.append_assoc]
    rfl

end Text
end Tablesmith
