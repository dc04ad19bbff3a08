/-
# Tables and database lines

The database lines of a script are taken out line by line, and what is left is read for tables as
the script is. Nothing is known of tables when the lines are taken out, and nothing of lines when
the tables are read. So a table that spans such a line loses it, and two lines that become
neighbours may be read as one table (`not_ofScript_withoutStatements`).

These are the only ways in which a table can change. Each place where a line was taken out is a cut
of the script and a cut of what is left. If no declaration stands across them, both are read part by
part between the cuts, and the parts are the same up to line breaks (`ofScript_eq_of_apart`).

Main statement: `ofScript_withoutStatements`.
-/

import Tablesmith.Proofs.Sql.Cutting
import Tablesmith.Proofs.Sql.LineBreak

namespace Tablesmith
namespace Sql

open Text (Line endedLines)

/-- The characters from `start` on and up to the one before `stop`; none if both are the same. -/
structure Stretch where
  start : Nat
  stop : Nat
deriving Repr, DecidableEq

/-- Each declaration ends in front of each stretch or begins behind it. -/
def Apart (spans : List Span) (stretches : List Stretch) : Prop :=
  ∀ s ∈ spans, ∀ p ∈ stretches, s.stop ≤ p.start ∨ p.stop ≤ s.start

instance decidableApart (spans : List Span) (stretches : List Stretch) :
    Decidable (Apart spans stretches) :=
  inferInstanceAs (Decidable (∀ s ∈ spans, ∀ p ∈ stretches, _ ∨ _))

/-- Spans are apart from several stretches if they are from each of them. -/
theorem apart_cons_iff {spans : List Span} {p : Stretch} {ps : List Stretch} :
    Apart spans (p :: ps) ↔ Apart spans [p] ∧ Apart spans ps := by
  simp only [Apart, List.forall_mem_cons, List.not_mem_nil, false_imp_iff, imp_true_iff, and_true]
  exact ⟨fun h => ⟨fun s hs => (h s hs).1, fun s hs => (h s hs).2⟩,
    fun h s hs => ⟨h.1 s hs, h.2 s hs⟩⟩

/-- What is apart stays so if some of the spans are left out. -/
theorem Apart.filter {spans : List Span} {stretches : List Stretch} (h : Apart spans stretches)
    (p : Span → Bool) : Apart (spans.filter p) stretches :=
  fun s hs => h s (List.mem_filter.1 hs).1

namespace Database

/-- The database lines among the lines of a text that stand from the position `k` on. -/
def placesFrom : (k : Nat) → List Line → List Stretch
  | _, [] => []
  | k, l :: ls =>
    let others := placesFrom (k + l.whole.length) ls
    if isStatement l.text then ⟨k, k + l.text.length⟩ :: others else others

/-- Where the database lines of a script stand. -/
def places (script : Text) : List Stretch := placesFrom 0 (endedLines script)

/-- Where the database lines among the lines would stand in what is left without them, from the
position `k` on. -/
def seamsFrom : (k : Nat) → List Line → List Stretch
  | _, [] => []
  | k, l :: ls =>
    if isStatement l.text then ⟨k, k⟩ :: seamsFrom k ls else seamsFrom (k + l.plain.length) ls

/-- Where the database lines were taken out of a script. -/
def seams (script : Text) : List Stretch := seamsFrom 0 (endedLines script)

/-- The lines that are no database lines. -/
def kept (ls : List Line) : List Line := ls.filter fun l => !isStatement l.text

/-- A line that is a statement is not kept. -/
theorem kept_cons_of_isStatement {l : Line} (h : isStatement l.text) (ls : List Line) :
    kept (l :: ls) = kept ls := List.filter_cons_of_neg (by simp [h])

/-- Any other line is kept. -/
theorem kept_cons_of_not {l : Line} (h : ¬ isStatement l.text) (ls : List Line) :
    kept (l :: ls) = l :: kept ls := List.filter_cons_of_pos (by simp [h])

/-- What is left of a script are these lines, but for a newline at the end. -/
theorem flatMap_plain_kept (script : Text) :
    (kept (endedLines script)).flatMap Line.plain = withoutStatements script ∨
      (kept (endedLines script)).flatMap Line.plain = withoutStatements script ++ "\n" := by
  have hrest : withoutStatements script =
      Text.unlines ((kept (endedLines script)).map Line.text) := by
    rw [withoutStatements, ← Text.map_text_endedLines, List.filter_map, kept]
    rfl
  rcases eq_or_ne (kept (endedLines script)) [] with hnone | hsome
  · rw [hrest, hnone]
    exact .inl rfl
  · rw [hrest]
    exact .inr (Text.flatMap_plain hsome)

end Database

open Database (placesFrom seamsFrom kept isStatement)

/-- What the reading has of a text with or without a newline at its end. -/
theorem IsReading.of_newline {t u : Text} {spans : List Span} (h : IsReading t 0 spans)
    (hu : u = t ∨ u = t ++ "\n") : IsReading u 0 spans := by
  rcases hu with rfl | rfl
  · exact h
  · exact h.append_blanks (by decide)

/-- The ending of a line is blank. -/
theorem isAllBlank_ending (l : Line) : Text.isAllBlank l.ending.text := by
  cases l.ending with
  | pair => rfl
  | single c h => simp [Text.Break.text, Text.isAllBlank, Text.isBlank_of_isLineBreak h]

/-- **A line that no declaration has a character of** can be taken out of a text, and its break with
it: what is declared stands in front of it or behind it. -/
theorem IsReading.take_out {front x y : Text} {l : Line} {spans : List Span}
    (h : IsReading (front ++ (x ++ (l.whole ++ y))) front.length spans)
    (hplace : Apart spans [⟨(front ++ x).length, (front ++ x).length + l.text.length⟩]) :
    IsReading (front ++ x ++ l.whole ++ y) (front ++ x ++ l.whole).length
        (spans.filter fun s => (front ++ x).length ≤ s.start) ∧
      Declaration.all (x ++ (l.whole ++ y)) = Declaration.all x ++ Declaration.all y := by
  have hsides : ∀ s ∈ spans, s.stop ≤ (front ++ x).length ∨
      (front ++ x).length + l.text.length ≤ s.start :=
    fun s hs => hplace s hs _ (List.mem_singleton_self _)
  obtain ⟨hbehind, hall⟩ := h.cut fun s hs =>
    (hsides s hs).imp_right (Nat.le_trans (Nat.le_add_right ..))
  have hstart : ∀ s ∈ spans.filter fun s => (front ++ x).length ≤ s.start,
      (front ++ x ++ l.text).length ≤ s.start := by
    intro s hs
    have hlt := (hbehind.holds s hs).start_lt_stop
    have hle := hbehind.behind s hs
    rw [List.length_append]
    rcases hsides s (List.mem_filter.1 hs).1 with hfront | hback
    · omega
    · exact hback
  have hbreak := hbehind.mono (by simp) hstart
  have hsplit : front ++ x ++ (l.whole ++ y) = front ++ x ++ l.text ++ (l.ending.text ++ y) := by
    simp [Line.whole]
  rw [hsplit] at hbreak
  have hrest := hbreak.skip_blanks (isAllBlank_ending l)
  have hwhole : front ++ x ++ l.text ++ l.ending.text = front ++ x ++ l.whole :=
    List.append_assoc ..
  rw [← List.append_assoc, hwhole] at hrest
  exact ⟨hrest, by rw [hall, ← hbehind.map_declaration, hrest.map_declaration]⟩

/-- **Part by part the tables are the same.** The lines `xs` were passed already, and there was no
database line among them. The induction is on the lines that follow: at the next database line both
texts are cut. -/
theorem ofScript_eq_of_apart (mode : SplitMode) (front before : Text) (xs ls : List Line)
    {spans others : List Span}
    (hspans : IsReading (front ++ (xs ++ ls).flatMap Line.whole) front.length spans)
    (hothers : IsReading (before ++ (xs ++ kept ls).flatMap Line.plain) before.length others)
    (hplaces : Apart spans (placesFrom (front ++ xs.flatMap Line.whole).length ls))
    (hseams : Apart others (seamsFrom (before ++ xs.flatMap Line.plain).length ls)) :
    Table.ofScript mode ((xs ++ kept ls).flatMap Line.plain) =
      Table.ofScript mode ((xs ++ ls).flatMap Line.whole) := by
  induction ls generalizing front before xs spans others with
  | nil => exact (Table.ofScript_flatMap_whole mode (xs ++ [])).symm
  | cons l ls ih =>
    by_cases hl : isStatement l.text
    · rw [placesFrom, if_pos hl, apart_cons_iff] at hplaces
      rw [seamsFrom, if_pos hl, apart_cons_iff] at hseams
      have hwhole : (xs ++ l :: ls).flatMap Line.whole =
          xs.flatMap Line.whole ++ (l.whole ++ ls.flatMap Line.whole) := by
        rw [List.flatMap_append, List.flatMap_cons]
      rw [hwhole] at hspans ⊢
      rw [Database.kept_cons_of_isStatement hl, List.flatMap_append] at hothers ⊢
      obtain ⟨hrest, hall⟩ := hspans.take_out hplaces.1
      obtain ⟨hothersRest, hallOthers⟩ := hothers.cut fun s hs =>
        hseams.1 s hs _ (List.mem_singleton_self _)
      have hpassed := Table.ofScript_flatMap_whole mode xs
      have hfollowing := ih _ _ [] hrest hothersRest
        (by simpa [Nat.add_assoc] using hplaces.2.filter _) (by simpa using hseams.2.filter _)
      rw [Table.ofScript, Table.ofScript, hall, hallOthers, List.map_append, List.map_append]
      exact congrArg₂ (· ++ ·) hpassed.symm hfollowing
    · rw [List.append_cons] at hspans ⊢
      rw [Database.kept_cons_of_not hl, List.append_cons] at hothers ⊢
      rw [placesFrom, if_neg hl] at hplaces
      rw [seamsFrom, if_neg hl] at hseams
      refine ih front before (xs ++ [l]) hspans hothers ?_ ?_
      · simpa [Nat.add_assoc] using hplaces
      · simpa [Nat.add_assoc] using hseams

/-- **Taking the database lines out of a script** leaves its tables as they are, in both modes, if
no declaration of the script has a character of such a line, and no declaration of what is left
stands across a place where one was taken out. -/
theorem ofScript_withoutStatements (mode : SplitMode) (script : Text)
    (hplaces : Apart (Declaration.spans script) (Database.places script))
    (hseams : Apart (Declaration.spans (Database.withoutStatements script))
      (Database.seams script)) :
    Table.ofScript mode (Database.withoutStatements script) = Table.ofScript mode script := by
  have hwhole := (isReading_spans script).of_newline (Text.flatMap_whole_endedLines script)
  have hplain := (isReading_spans (Database.withoutStatements script)).of_newline
    (Database.flatMap_plain_kept script)
  have hsame := ofScript_eq_of_apart mode [] [] [] (endedLines script) hwhole hplain hplaces hseams
  have hall : ∀ {t u : Text}, IsReading u 0 (Declaration.spans t) →
      Table.ofScript mode u = Table.ofScript mode t := by
    intro t u hu
    have hself : IsReading ([] ++ t) ([] : Text).length (Declaration.spans t) := isReading_spans t
    have hother : IsReading ([] ++ u) ([] : Text).length (Declaration.spans t) := hu
    rw [Table.ofScript, Table.ofScript, ← hself.map_declaration, ← hother.map_declaration]
  rw [← hall hwhole, ← hall hplain]
  exact hsame

/-- Two tables with database lines around them and between them, and lines that end in several
ways. -/
def shop : Text :=
  "CREATE DATABASE d;\r\nCREATE TABLE a (\r x INT);\n use d;\x0bCREATE TABLE b (y\u2028);\nUSE e"

/-- The declarations of the shop are apart from its database lines and from the seams that
these leave. -/
theorem ofScript_withoutStatements_shop :
    Apart (Declaration.spans shop) (Database.places shop) ∧
      Apart (Declaration.spans (Database.withoutStatements shop)) (Database.seams shop) ∧
      Table.ofScript .depthAware (Database.withoutStatements shop) =
        [{ name := "a", columns := ["x"] }, { name := "b", columns := ["y"] }] := by
  have hplaces : Apart (Declaration.spans shop) (Database.places shop) := by decide +kernel
  have hseams : Apart (Declaration.spans (Database.withoutStatements shop))
      (Database.seams shop) := by decide +kernel
  refine ⟨hplaces, hseams, (ofScript_withoutStatements .depthAware shop hplaces hseams).trans ?_⟩
  decide +kernel

/-- Without the conditions tables change. A column that is called as a database statement begins is
lost with its line, and so is a table on the line of such a statement; two lines that become
neighbours declare a table together. -/
theorem not_ofScript_withoutStatements :
    Table.ofScript .legacy (Database.withoutStatements "CREATE TABLE t (\nid INT,\nuse INT\n);") ≠
        Table.ofScript .legacy "CREATE TABLE t (\nid INT,\nuse INT\n);" ∧
      Table.ofScript .legacy (Database.withoutStatements "USE d; CREATE TABLE t (id INT);") ≠
        Table.ofScript .legacy "USE d; CREATE TABLE t (id INT);" ∧
      Table.ofScript .legacy (Database.withoutStatements "CREATE\nUSE d;\nTABLE t (id INT);") ≠
        Table.ofScript .legacy "CREATE\nUSE d;\nTABLE t (id INT);" := by
  decide +kernel

end Sql
end Tablesmith
