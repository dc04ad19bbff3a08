/-
# What is read from the database lines

A script's database name, its database statements and the script without them are read from the same
lines, each in a way of its own: the name is read from the lines as they are and its reader goes on
behind the keywords, the statements are trimmed, and what is left is put together again with
newlines. The lines are those of a small language:

| part | texts |
| --- | --- |
| `createDatabase` | `CREATE DATABASE`, perhaps blanks in front of it |
| `useDatabase` | `USE` and a blank, perhaps blanks in front of it |
| `databaseTest` | `IF NOT EXISTS`, blanks in front of it |

The three agree. Blanks at the end of a line are left where they stand by every reader of keywords
(`LeavesEnd`), so a trimmed line gives the name that the line gives (`given?_trim`), and it has no
line break, so the statements put together are read as they were (`name?_unlines_statements`). Of
the lines that are left none is a database line, and no new one comes about where they are put
together (`statements_withoutStatements`).

Main statement: `split_agrees`.
-/

import Tablesmith.Proofs.Interleave
import Tablesmith.Proofs.Sql.Grammar
import Tablesmith.Proofs.Sql.Refinement
import Tablesmith.Proofs.Text.Lines
import Tablesmith.Proofs.Text.Part
import Tablesmith.Sql.Database

namespace Tablesmith
namespace Sql

namespace Grammar

/-- What a line begins with that creates a database. -/
def createDatabase : Language Char := blanks * keywords ["CREATE", "DATABASE"]

/-- What a line begins with that goes over to a database. -/
def useDatabase : Language Char := blanks * (keyword "USE" * gap)

/-- `IF NOT EXISTS` and the blanks in front of it. -/
def databaseTest : Language Char := gap * keywords ["IF", "NOT", "EXISTS"]

/-- The words of the test for existence are spelled in capitals. -/
theorem isCapital_databaseTest : ∀ w ∈ [("IF" : Text), "NOT", "EXISTS"], IsCapital w := by
  decide

/-- What is left behind the language, the last word of which ends there. -/
def LeadsToEnd (L : Language Char) (t rest : Text) : Prop := Leads L t rest ∧ atWordEnd rest

section

variable {L : Language Char} {words : List Text} {t rest : Text}

/-- Blanks in front of what does not begin with one. -/
theorem leads_blanks_mul_iff (hL : ∀ {t rest}, Leads L t rest → t.IsFlush) :
    Leads (blanks * L) t rest ↔ Leads L (Text.skipBlanks t) rest := by
  rw [leads_mul_iff]
  constructor
  · rintro ⟨x, hx, h⟩
    rwa [(leads_blanks_iff (hL h)).1 hx]
  · intro h
    exact ⟨_, (leads_blanks_iff (Text.isFlush_skipBlanks t)).2 rfl, h⟩

/-- One blank at least in front of what does not begin with one. -/
theorem leads_gap_mul_iff (hL : ∀ {t rest}, Leads L t rest → t.IsFlush) :
    Leads (gap * L) t rest ↔ ∃ x, Text.afterBlanks? t = some x ∧ Leads L x rest := by
  rw [leads_mul_iff]
  constructor
  · rintro ⟨x, hx, h⟩
    exact ⟨x, afterBlanks?_eq_some_iff.2 ⟨hL h, hx⟩, h⟩
  · rintro ⟨x, hx, h⟩
    exact ⟨x, (afterBlanks?_eq_some_iff.1 hx).2, h⟩

/-- Blanks can be skipped where the text begins with one at least. -/
theorem isSome_afterBlanks?_iff : (Text.afterBlanks? t).isSome ↔ ∃ rest, Leads gap t rest := by
  constructor
  · intro h
    obtain ⟨rest, hrest⟩ := Option.isSome_iff_exists.1 h
    exact ⟨rest, (afterBlanks?_eq_some_iff.1 hrest).2⟩
  · rintro ⟨rest, u, ⟨hne, hblank⟩, rfl⟩
    cases u with
    | nil => exact absurd rfl hne
    | cons b u =>
      have hb : Text.isBlank b := List.all_eq_true.1 hblank b (List.mem_cons_self ..)
      rw [List.cons_append, Text.afterBlanks?_cons hb]
      rfl

/-- Keywords are read to the end of the last one just where the language leads there. -/
theorem wholeKeywords?_eq_some_iff (hw : ∀ w ∈ words, IsCapital w) :
    wholeKeywords? words t = some rest ↔ LeadsToEnd (keywords words) t rest := by
  rw [wholeKeywords?, Option.filter_eq_some_iff, keywords?_eq_some_iff hw, LeadsToEnd]

end
end Grammar

namespace Database

open Grammar (Leads LeadsToEnd)

/-- The line is a database statement: it creates a database or goes over to one. -/
def IsDatabaseLine (line : Text) : Prop :=
  (∃ behind, LeadsToEnd Grammar.createDatabase line behind) ∨
    ∃ behind, Leads Grammar.useDatabase line behind

/-- Behind the keywords of a line stands this part with its name: all that stands there, or what
stands behind `IF NOT EXISTS`. -/
def HasNamePart (behind part : Text) : Prop :=
  LeadsToEnd Grammar.databaseTest behind part ∨
    part = behind ∧ ∀ other, ¬ LeadsToEnd Grammar.databaseTest behind other

/-- The line creates a database of this name, which may be empty: what stands behind the keywords up
to a semicolon, trimmed. -/
def Creates (line n : Text) : Prop :=
  ∃ behind part, LeadsToEnd Grammar.createDatabase line behind ∧ HasNamePart behind part ∧
    n = Text.trim (part.takeWhile (· != ';'))

/-- What stands behind `CREATE DATABASE` is what the language of these words leaves. -/
theorem afterCreate?_eq_some_iff {line behind : Text} :
    afterCreate? line = some behind ↔ LeadsToEnd Grammar.createDatabase line behind := by
  rw [afterCreate?, Grammar.wholeKeywords?_eq_some_iff (by decide), LeadsToEnd, LeadsToEnd,
    Grammar.createDatabase, Grammar.leads_blanks_mul_iff]
  exact Grammar.isFlush_of_leads_keywords (List.cons_ne_nil _ _) (by decide)

/-- A line goes over to a database if it begins as the language says. -/
theorem beginsUse_iff {line : Text} :
    beginsUse line ↔ ∃ behind, Leads Grammar.useDatabase line behind := by
  have hflush : ∀ {t rest}, Leads (Grammar.keyword "USE" * Grammar.gap) t rest → t.IsFlush := by
    intro t rest h
    obtain ⟨x, hx, -⟩ := Grammar.leads_mul_iff.1 h
    exact Grammar.isFlush_of_leads_keyword (by decide) hx
  simp only [beginsUse, Option.isSome_bind, Option.any_eq_true, Grammar.isSome_afterBlanks?_iff,
    Grammar.keyword?_eq_some_iff, Grammar.useDatabase, Grammar.leads_blanks_mul_iff hflush,
    Grammar.leads_mul_iff]
  constructor
  · rintro ⟨x, hx, rest, h⟩
    exact ⟨rest, x, hx, h⟩
  · rintro ⟨rest, x, hx, h⟩
    exact ⟨x, hx, rest, h⟩

/-- **A database line is told by the language** of its beginning. -/
theorem isStatement_iff {line : Text} : isStatement line ↔ IsDatabaseLine line := by
  simp only [isStatement, Bool.or_eq_true, beginsUse_iff, Option.isSome_iff_exists,
    afterCreate?_eq_some_iff, IsDatabaseLine]

/-- There is one part with the name, and skipping the test for existence finds it. -/
theorem hasNamePart_iff {behind part : Text} :
    HasNamePart behind part ↔ part = skipExistenceTest behind := by
  have htest : ∀ rest, (Text.afterBlanks? behind).bind (wholeKeywords? ["IF", "NOT", "EXISTS"]) =
      some rest ↔ LeadsToEnd Grammar.databaseTest behind rest := by
    intro rest
    have hflush : ∀ {t rest}, Leads (Grammar.keywords ["IF", "NOT", "EXISTS"]) t rest →
        t.IsFlush :=
      Grammar.isFlush_of_leads_keywords (List.cons_ne_nil _ _) Grammar.isCapital_databaseTest
    simp only [Option.bind_eq_some_iff, LeadsToEnd, Grammar.databaseTest,
      Grammar.wholeKeywords?_eq_some_iff Grammar.isCapital_databaseTest,
      Grammar.leads_gap_mul_iff hflush, ← and_assoc, exists_and_right]
  rw [HasNamePart, skipExistenceTest]
  simp only [← htest]
  cases (Text.afterBlanks? behind).bind (wholeKeywords? ["IF", "NOT", "EXISTS"]) with
  | none => simp
  | some rest => simp [eq_comm]

/-- The name that a line gives, empty or not, if it creates a database. -/
def given? (line : Text) : Option Text := (afterCreate? line).map nameIn

/-- **The name is the one that the line gives** by the language of its beginning. -/
theorem given?_eq_some_iff {line n : Text} : given? line = some n ↔ Creates line n := by
  simp only [given?, Option.map_eq_some_iff, afterCreate?_eq_some_iff, Creates, hasNamePart_iff,
    nameIn]
  constructor
  · rintro ⟨behind, hbehind, rfl⟩
    exact ⟨behind, _, hbehind, rfl, rfl⟩
  · rintro ⟨behind, _, hbehind, rfl, rfl⟩
    exact ⟨behind, hbehind, rfl⟩

end Database

/-- The reader leaves these characters where they stand at the end of a text. -/
def LeavesEnd (back : Text) (f : Text → Option Text) : Prop :=
  ∀ t, f (t ++ back) = (f t).map (· ++ back)

/-- Keywords are not read where there is nothing. -/
theorem keywords?_nil {words : List Text} (hne : words ≠ [])
    (hw : ∀ w ∈ words, Grammar.IsCapital w) : keywords? words [] = none := by
  obtain ⟨w, ws, rfl⟩ := List.exists_cons_of_ne_nil hne
  obtain ⟨k, ks, rfl⟩ := List.exists_cons_of_ne_nil (hw w (List.mem_cons_self ..)).1
  cases ws <;> rfl

section

variable {back : Text} (hback : Text.isAllBlank back)
include hback

/-- Whether a word ends here does not depend on blanks at the far end. -/
theorem atWordEnd_append_blanks (t : Text) : atWordEnd (t ++ back) = atWordEnd t := by
  cases t with
  | cons c t => rfl
  | nil =>
    cases back with
    | nil => rfl
    | cons b back =>
      have hb : Text.isBlank b := List.all_eq_true.1 hback b (List.mem_cons_self ..)
      rw [List.nil_append, atWordEnd, atWordEnd, Text.isWord_of_isBlank hb, Bool.not_false]

/-- Blanks skipped in front make no difference, if nothing is read where nothing stands. -/
theorem LeavesEnd.of_skipBlanks {f : Text → Option Text} (hf : LeavesEnd back f)
    (hnil : f [] = none) : LeavesEnd back fun t => f (Text.skipBlanks t) := by
  intro t
  have hskip := Text.skipBlanks_of_isAllBlank hback
  simp only [Text.skipBlanks, List.dropWhile_append] at hskip ⊢
  cases t.dropWhile Text.isBlank with
  | nil => rw [List.isEmpty_nil, if_pos rfl, hskip, hnil, Option.map_none]
  | cons c t => exact hf (c :: t)

/-- What leaves the end of a text leaves it behind blanks as well. -/
theorem LeavesEnd.of_afterBlanks? {f : Text → Option Text} (hf : LeavesEnd back f)
    (hnil : f [] = none) : LeavesEnd back fun t => (Text.afterBlanks? t).bind f := by
  have hskip := hf.of_skipBlanks hback hnil
  intro t
  cases t with
  | nil =>
    cases back with
    | nil => rfl
    | cons b back =>
      rw [Text.isAllBlank, List.all_cons, Bool.and_eq_true] at hback
      simp only [List.nil_append, Text.afterBlanks?_cons hback.1,
        Text.skipBlanks_of_isAllBlank hback.2, Option.bind_some, hnil]
      rfl
  | cons c t =>
    simp only [List.cons_append, Text.afterBlanks?]
    split
    · exact hskip t
    · rfl

/-- A keyword is read without a look at the end of the text. -/
theorem leavesEnd_keyword? {w : Text} (hw : Grammar.IsCapital w) : LeavesEnd back (keyword? w) := by
  obtain ⟨-, hw⟩ := hw
  intro t
  induction w generalizing t with
  | nil => cases t <;> cases back <;> rfl
  | cons k ks ih =>
    obtain ⟨hk, hks⟩ := List.forall_mem_cons.1 hw
    cases t with
    | nil =>
      cases back with
      | nil => rfl
      | cons b back =>
        have hb : Text.isBlank b := List.all_eq_true.1 hback b (List.mem_cons_self ..)
        have hletter : ¬ isLetter k b := by
          intro h
          have hword := Grammar.isWord_of_isLetter hk h
          rw [Text.isWord_of_isBlank hb] at hword
          cases hword
        exact if_neg hletter
    | cons c t =>
      rw [List.cons_append, keyword?, keyword?]
      split
      · exact ih hks t
      · rfl

/-- So is a row of keywords. -/
theorem leavesEnd_keywords? {words : List Text} (hw : ∀ w ∈ words, Grammar.IsCapital w) :
    LeavesEnd back (keywords? words) := by
  induction words with
  | nil => intro t; rfl
  | cons w ws ih =>
    obtain ⟨hfirst, hothers⟩ := List.forall_mem_cons.1 hw
    cases ws with
    | nil => exact leavesEnd_keyword? hback hfirst
    | cons v vs =>
      have hnil := keywords?_nil (List.cons_ne_nil v vs) hothers
      have hrest := (ih hothers).of_afterBlanks? hback hnil
      intro t
      simp only [keywords?, Option.bind_eq_bind, leavesEnd_keyword? hback hfirst t]
      cases keyword? w t with
      | none => rfl
      | some x => exact hrest x

/-- Where the last keyword ends is not a matter of the blanks behind it. -/
theorem leavesEnd_wholeKeywords? {words : List Text} (hw : ∀ w ∈ words, Grammar.IsCapital w) :
    LeavesEnd back (wholeKeywords? words) := by
  intro t
  have hcomp : atWordEnd ∘ (· ++ back) = atWordEnd := funext (atWordEnd_append_blanks hback)
  rw [wholeKeywords?, leavesEnd_keywords? hback hw, Option.filter_map, hcomp, wholeKeywords?]

end

/-- Where nothing stands, no keyword does. -/
theorem wholeKeywords?_nil {words : List Text} (hne : words ≠ [])
    (hw : ∀ w ∈ words, Grammar.IsCapital w) : wholeKeywords? words [] = none := by
  rw [wholeKeywords?, keywords?_nil hne hw, Option.filter_none]

namespace Database

section

variable {back : Text} (hback : Text.isAllBlank back)
include hback

/-- What creates a database is read without a look at the end of the line. -/
theorem leavesEnd_afterCreate? : LeavesEnd back afterCreate? :=
  (leavesEnd_wholeKeywords? hback (by decide)).of_skipBlanks hback
    (wholeKeywords?_nil (List.cons_ne_nil _ _) (by decide))

/-- The test for existence is skipped without a look at the end of the line. -/
theorem skipExistenceTest_append_blanks (t : Text) :
    skipExistenceTest (t ++ back) = skipExistenceTest t ++ back := by
  have hcapital := Grammar.isCapital_databaseTest
  have htest := (leavesEnd_wholeKeywords? hback hcapital).of_afterBlanks? hback
    (wholeKeywords?_nil (List.cons_ne_nil _ _) hcapital) t
  beta_reduce at htest
  rw [skipExistenceTest, htest, skipExistenceTest]
  cases (Text.afterBlanks? t).bind (wholeKeywords? ["IF", "NOT", "EXISTS"]) <;> rfl

/-- Blanks behind a name are not part of it. -/
theorem nameIn_append_blanks (t : Text) : nameIn (t ++ back) = nameIn t := by
  have hstop : ∀ c ∈ back, (c != ';') = true := by
    intro c hc
    rw [bne_iff_ne]
    rintro rfl
    cases List.all_eq_true.1 hback ';' hc
  rw [nameIn, skipExistenceTest_append_blanks hback, List.takeWhile_append, nameIn]
  split
  · next hwhole =>
    have hnone : back.takeWhile (· != ';') = back := List.takeWhile_eq_self_iff.2 hstop
    rw [hnone, Text.trim_append_blanks hback, (List.takeWhile_prefix _).eq_of_length hwhole]
  · rfl

end

/-- **A trimmed line gives the name that the line gives.** -/
theorem given?_trim (line : Text) : given? (Text.trim line) = given? line := by
  obtain ⟨front, back, hfront, hback, hline⟩ := Text.exists_eq_trim line
  have hskip : Text.skipBlanks line = Text.skipBlanks (Text.trim line ++ back) := by
    have hdrop := congrArg Text.skipBlanks hline
    rwa [List.append_assoc, Text.skipBlanks_append_of_isAllBlank hfront] at hdrop
  have hafter : afterCreate? line = (afterCreate? (Text.trim line)).map (· ++ back) := by
    rw [← leavesEnd_afterCreate? hback, afterCreate?, hskip, afterCreate?]
  rw [given?, given?, hafter, Option.map_map]
  exact congrArg (Option.map · _) (funext (nameIn_append_blanks hback)).symm

/-- This is the name that a script gives its database: that of the first line that creates one, if
there is anything in it. -/
def NamesDatabase (script n : Text) : Prop :=
  n ≠ [] ∧ ∃ front line back, Text.lines script = front ++ line :: back ∧
    (∀ l ∈ front, ∀ m, ¬ Creates l m) ∧ Creates line n

/-- The name of a script is the first one given, unless it is empty. -/
theorem name?_eq (script : Text) :
    name? script = ((Text.lines script).findSome? given?).filter fun n => !n.isEmpty := by
  have hgiven : (Text.lines script).findSome? given? =
      ((Text.lines script).findSome? afterCreate?).map nameIn := List.map_findSome?.symm
  rw [name?, hgiven]
  cases (Text.lines script).findSome? afterCreate? with
  | none => rfl
  | some t =>
    rw [Option.bind_some, Option.map_some, Option.filter_some]
    show (if (nameIn t).isEmpty then none else some (nameIn t)) = _
    cases (nameIn t).isEmpty <;> rfl

/-- **The name is that of the first line** that creates a database, and of no other. -/
theorem name?_eq_some_iff {script n : Text} : name? script = some n ↔ NamesDatabase script n := by
  have hnone : ∀ l, given? l = none ↔ ∀ m, ¬ Creates l m := by
    intro l
    simp only [Option.eq_none_iff_forall_ne_some, ne_eq, given?_eq_some_iff]
  rw [name?_eq, Option.filter_eq_some_iff, List.findSome?_eq_some_iff, NamesDatabase]
  simp only [given?_eq_some_iff, hnone, Bool.not_eq_true', List.isEmpty_eq_false_iff]
  constructor
  · rintro ⟨⟨front, line, back, hlines, hline, hfront⟩, hne⟩
    exact ⟨hne, front, line, back, hlines, hfront, hline⟩
  · rintro ⟨hne, front, line, back, hlines, hfront, hline⟩
    exact ⟨⟨front, line, back, hlines, hline, hfront⟩, hne⟩

/-- A name is part of the line that gives it, in front of a semicolon. -/
theorem Creates.isInfix {line n : Text} (h : Creates line n) : n <:+: line ∧ ';' ∉ n := by
  obtain ⟨behind, part, ⟨⟨u, -, rfl⟩, -⟩, hpart, rfl⟩ := h
  have hsuffix : part <:+ behind := by
    rcases hpart with ⟨⟨v, -, rfl⟩, -⟩ | ⟨rfl, -⟩
    · exact List.suffix_append v part
    · exact List.suffix_rfl
  have htake := Text.trim_isInfix (part.takeWhile (· != ';'))
  constructor
  · exact htake.trans ((List.takeWhile_prefix _).isInfix.trans
      (hsuffix.trans (List.suffix_append u behind)).isInfix)
  · intro hmem
    have hstop := List.mem_takeWhile_imp (htake.subset hmem)
    rw [bne_self_eq_false] at hstop
    cases hstop

/-- A name is not blank, for it is trimmed. -/
theorem Creates.not_blank {line n : Text} (h : Creates line n) (hne : n ≠ []) :
    Text.isAllBlank n = false := by
  obtain ⟨behind, part, -, -, rfl⟩ := h
  obtain ⟨c, t, ht⟩ := List.exists_cons_of_ne_nil hne
  have hflush := (Text.isTrimmed_trim (part.takeWhile (· != ';'))).1
  rw [ht] at hflush ⊢
  rw [Text.isAllBlank, List.all_cons, hflush c rfl, Bool.false_and]

/-- Sifting sets the statements apart from the other lines, in their order, and trims them. -/
theorem sift_eq (ls : List Text) :
    sift ls = ((ls.filter isStatement).map Text.trim, ls.filter fun l => !isStatement l) := by
  induction ls with
  | nil => rfl
  | cons l ls ih =>
    rw [sift, ih]
    cases hl : isStatement l <;> simp [hl]

/-- **One pass finds both:** the database statements and what is left of the script. -/
theorem split_eq (script : Text) :
    split script = (statements script, withoutStatements script) := by
  rw [split, sift_eq]
  rfl

/-- A line that gives a name is a database statement. -/
theorem given?_of_not {l : Text} (h : isStatement l = false) : given? l = none := by
  rw [isStatement, Bool.or_eq_false_iff, Option.isSome_eq_false_iff, Option.isNone_iff_eq_none] at h
  rw [given?, h.1, Option.map_none]

/-- Only database statements give names, so the other lines can be left out. -/
theorem findSome?_filter_isStatement (ls : List Text) :
    (ls.filter isStatement).findSome? given? = ls.findSome? given? := by
  induction ls with
  | nil => rfl
  | cons l ls ih =>
    cases hl : isStatement l with
    | true => rw [List.filter_cons_of_pos hl, List.findSome?_cons, List.findSome?_cons, ih]
    | false =>
      rw [List.filter_cons_of_neg (by simp [hl]), List.findSome?_cons, given?_of_not hl, ih]

/-- The database lines of lines put together are those that were put together. -/
theorem filter_lines_unlines {ls : List Text}
    (h : ∀ l ∈ ls, ∀ c ∈ l, Text.isLineBreak c = false) :
    (Text.lines (Text.unlines ls)).filter isStatement = ls.filter isStatement := by
  rcases Text.lines_unlines h with hls | hls
  · exact congrArg _ hls.symm
  · have hempty : [([] : Text)].filter isStatement = [] := by decide
    calc (Text.lines (Text.unlines ls)).filter isStatement
        = (Text.lines (Text.unlines ls) ++ [[]]).filter isStatement := by
          rw [List.filter_append, hempty, List.append_nil]
      _ = ls.filter isStatement := congrArg _ hls.symm

/-- The name of lines put together is the first one given by a line. -/
theorem name?_unlines {ls : List Text} (h : ∀ l ∈ ls, ∀ c ∈ l, Text.isLineBreak c = false) :
    name? (Text.unlines ls) = (ls.findSome? given?).filter fun n => !n.isEmpty := by
  rw [name?_eq, ← findSome?_filter_isStatement, filter_lines_unlines h,
    findSome?_filter_isStatement]

/-- What is left of the lines of a script has no line breaks. -/
theorem unbroken_of_not_isStatement (script : Text) :
    ∀ l ∈ (Text.lines script).filter fun l => !isStatement l,
      ∀ c ∈ l, Text.isLineBreak c = false :=
  fun _ hl => Text.isLineBreak_of_mem_lines (List.mem_filter.1 hl).1

/-- Nor have the statements. -/
theorem unbroken_of_mem_statements (script : Text) :
    ∀ l ∈ statements script, ∀ c ∈ l, Text.isLineBreak c = false := by
  intro l hl c hc
  obtain ⟨line, hline, rfl⟩ := List.mem_map.1 hl
  exact Text.isLineBreak_of_mem_lines (List.mem_filter.1 hline).1 c
    ((Text.trim_isInfix line).subset hc)

/-- **What is left of a script** has no database statements. -/
theorem statements_withoutStatements (script : Text) :
    statements (withoutStatements script) = [] := by
  have hnone : ∀ l ∈ Text.lines script, ¬ (isStatement l && !isStatement l) := by simp
  rw [statements, withoutStatements, filter_lines_unlines (unbroken_of_not_isStatement script),
    List.filter_filter, List.filter_eq_nil_iff.2 hnone, List.map_nil]

/-- Nor does it name a database. -/
theorem name?_withoutStatements (script : Text) : name? (withoutStatements script) = none := by
  have hnone : ∀ l ∈ (Text.lines script).filter fun l => !isStatement l, given? l = none := by
    intro l hl
    exact given?_of_not (by simpa using (List.mem_filter.1 hl).2)
  rw [withoutStatements, name?_unlines (unbroken_of_not_isStatement script),
    List.findSome?_eq_none_iff.2 hnone, Option.filter_none]

/-- **The statements put together give the name** that the script gives. -/
theorem name?_unlines_statements (script : Text) :
    name? (Text.unlines (statements script)) = name? script := by
  have htrim : given? ∘ Text.trim = given? := funext given?_trim
  rw [name?_unlines (unbroken_of_mem_statements script), statements, List.findSome?_map, htrim,
    findSome?_filter_isStatement, name?_eq]

/-- **The readers of database lines agree.** The lines of a script are an interleaving of two lists:
the database lines, which are the statements when they are trimmed, and the others, which are left
when they are put together. What is left has neither statements nor a name, and the statements give
the name that the script gives: what stands behind the keywords of the first line that creates a
database, which is never blank and has neither a semicolon nor a line break in it. -/
theorem split_agrees {script rest : Text} {found : List Text} (h : split script = (found, rest)) :
    found = statements script ∧
      (∃ kept taken, rest = Text.unlines kept ∧ found = taken.map Text.trim ∧
        Interleave kept taken (Text.lines script) ∧
        (∀ l ∈ kept, ¬ IsDatabaseLine l) ∧ ∀ l ∈ taken, IsDatabaseLine l) ∧
      statements rest = [] ∧ name? rest = none ∧
      name? (Text.unlines found) = name? script ∧
      (∀ n, name? script = some n ↔ NamesDatabase script n) ∧
      ∀ n, name? script = some n →
        Text.isAllBlank n = false ∧ ';' ∉ n ∧ ∀ c ∈ n, Text.isLineBreak c = false := by
  rw [split_eq] at h
  obtain ⟨rfl, rfl⟩ := Prod.mk.inj h
  refine ⟨rfl, ⟨_, _, rfl, rfl, interleave_filter isStatement (Text.lines script), ?_, ?_⟩,
    statements_withoutStatements script, name?_withoutStatements script,
    name?_unlines_statements script, fun n => name?_eq_some_iff, ?_⟩
  · intro l hl
    rw [← isStatement_iff]
    simpa using (List.mem_filter.1 hl).2
  · intro l hl
    exact isStatement_iff.1 (List.mem_filter.1 hl).2
  · intro n hn
    obtain ⟨hne, front, line, back, hlines, -, hline⟩ := name?_eq_some_iff.1 hn
    obtain ⟨hpart, hsemicolon⟩ := hline.isInfix
    have hmem : line ∈ Text.lines script := by
      rw [hlines]
      exact List.mem_append_right front (List.mem_cons_self ..)
    exact ⟨hline.not_blank hne, hsemicolon,
      fun c hc => Text.isLineBreak_of_mem_lines hmem c (hpart.subset hc)⟩

namespace bakery

/-- Two databases: of the first the line says nothing more than the name, with blanks around it. -/
def script : Text :=
  "-- shop\n\tcreate  database if not exists  tienda ; -- d\r\nUSE tienda;\u2028CREATE DATABASE b"

/-- Three statements are found in the script, and the first one names its database. -/
theorem split_agrees_script :
    split script = (["create  database if not exists  tienda ; -- d".toList, "USE tienda;".toList,
        "CREATE DATABASE b".toList], "-- shop".toList) ∧
      NamesDatabase script "tienda" := by
  have hsplit : split script = (["create  database if not exists  tienda ; -- d".toList,
      "USE tienda;".toList, "CREATE DATABASE b".toList], "-- shop".toList) := by
    decide +kernel
  have hname : name? script = some "tienda".toList := by decide +kernel
  exact ⟨hsplit, ((split_agrees hsplit).2.2.2.2.2.1 "tienda").1 hname⟩

end bakery

end Database
end Sql
end Tablesmith
