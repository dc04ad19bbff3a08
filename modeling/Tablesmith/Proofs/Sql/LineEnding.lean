/-
# Scripts with other line endings

A script declares the same whether its lines end in newlines, in carriage returns, or in both. No
reader tells the two apart, so each of them reads the same from the form with newlines, up to the
line endings of the bodies that it hands on (`all_unixNewlines`). What is made of a body has none:
a column name is a word.

Main statements: `Schema.ofScript_unixNewlines`, the schema of a script is that of its form with
newlines, and `Schema.ofRequest_lineEndings`, so is what a request for it is answered.
-/

import Tablesmith.Proofs.Sql.Nesting
import Tablesmith.Proofs.Sql.Scan
import Tablesmith.Proofs.Text.Case
import Tablesmith.Schema.Basic

namespace Tablesmith

open Text (unixNewlines IsInLine newlineCases unixNewlines_pair unixNewlines_return
  unixNewlines_cons)

namespace Sql

/-- Every letter of the keyword is one, and no line ending passes for it. -/
def IsKeyword (word : Text) : Prop := ∀ k ∈ word, isLetter k '\r' = false ∧ isLetter k '\n' = false

instance decidableIsKeyword (word : Text) : Decidable (IsKeyword word) :=
  List.decidableBAll (fun k => isLetter k '\r' = false ∧ isLetter k '\n' = false) word

/-- A keyword has no line endings, so it is found in front of the same rest. -/
theorem keyword?_unixNewlines {word : Text} (h : IsKeyword word) (t : Text) :
    keyword? word (unixNewlines t) = (keyword? word t).map unixNewlines := by
  induction word generalizing t with
  | nil => cases t <;> rfl
  | cons k ks ih =>
    obtain ⟨⟨hr, hn⟩, hks⟩ := List.forall_mem_cons.1 h
    induction t using newlineCases with
    | nil => rfl
    | pair t => simp [unixNewlines_pair, keyword?, hr, hn]
    | single t ht => simp [unixNewlines_return ht, keyword?, hr, hn]
    | plain c t hc =>
      rw [unixNewlines_cons hc, keyword?, keyword?]
      split
      · exact ih hks t
      · rfl

/-- So are several keywords, with any line endings between them. -/
theorem keywords?_unixNewlines {words : List Text} (h : ∀ w ∈ words, IsKeyword w) (t : Text) :
    keywords? words (unixNewlines t) = (keywords? words t).map unixNewlines := by
  induction words generalizing t with
  | nil => rfl
  | cons w ws ih =>
    obtain ⟨hw, hws⟩ := List.forall_mem_cons.1 h
    cases ws with
    | nil => exact keyword?_unixNewlines hw t
    | cons v vs =>
      simp only [keywords?, Option.bind_eq_bind]
      rw [keyword?_unixNewlines hw]
      cases keyword? w t with
      | none => rfl
      | some u =>
        rw [Option.map_some, Option.bind_some, Option.bind_some, Text.afterBlanks?_unixNewlines]
        cases Text.afterBlanks? u with
        | none => rfl
        | some v => exact ih hws v

/-- No line ending is part of a word. -/
theorem atWordEnd_unixNewlines (t : Text) : atWordEnd (unixNewlines t) = atWordEnd t := by
  have hr : Text.isWord '\r' = false := by decide
  have hn : Text.isWord '\n' = false := by decide
  induction t using newlineCases with
  | nil => rfl
  | pair t => simp [unixNewlines_pair, atWordEnd, hr, hn]
  | single t h => simp [unixNewlines_return h, atWordEnd, hr, hn]
  | plain c t h => rw [unixNewlines_cons h]; rfl

/-- Whole keywords stand in front of a text, or do not, with any line endings. -/
theorem isSome_wholeKeywords?_unixNewlines {words : List Text} (h : ∀ w ∈ words, IsKeyword w)
    (t : Text) :
    (wholeKeywords? words (unixNewlines t)).isSome = (wholeKeywords? words t).isSome := by
  rw [wholeKeywords?, wholeKeywords?, keywords?_unixNewlines h]
  cases keywords? words t with
  | none => rfl
  | some rest =>
    rw [Option.map_some, Option.filter_some, Option.filter_some, atWordEnd_unixNewlines]
    split <;> rfl

/-- A character that is no line ending is taken as before. -/
theorem takeOne_unixNewlines {p : Char → Bool} (hr : p '\r' = false) (hn : p '\n' = false)
    (t : Text) : takeOne p (unixNewlines t) = ((takeOne p t).1, unixNewlines (takeOne p t).2) := by
  induction t using newlineCases with
  | nil => rfl
  | pair t => simp [unixNewlines_pair, takeOne, hr, hn]
  | single t h => simp [unixNewlines_return h, takeOne, hr, hn]
  | plain c t h =>
    rw [unixNewlines_cons h, takeOne, takeOne]
    split <;> simp [unixNewlines_cons h]

/-- A name is found as it stands, and what is behind it has newlines for its line endings. -/
theorem tableName?_unixNewlines (t : Text) :
    tableName? (unixNewlines t) =
      (tableName? t).map fun (name, rest) => (name, unixNewlines rest) := by
  simp only [tableName?]
  rw [takeOne_unixNewlines (by decide) (by decide)]
  simp only []
  rw [Text.takeWhile_unixNewlines (by decide) (by decide), Text.dropWhile_unixNewlines (by decide),
    takeOne_unixNewlines (by decide) (by decide)]
  split <;> rfl

/-- The semicolon is found behind any line endings. -/
theorem afterSemicolon?_unixNewlines (t : Text) :
    afterSemicolon? (unixNewlines t) = (afterSemicolon? t).map unixNewlines := by
  rw [afterSemicolon?, Text.skipBlanks_unixNewlines, Text.after?_unixNewlines (by decide)]
  rfl

/-- A body begins as the text does that it is read from. -/
theorem head?_of_body? {t body rest : Text} (h : body? t = some (body, rest)) {d : Char}
    (hd : t.head? ≠ some d) : body.head? ≠ some d := by
  cases t with
  | nil => cases h
  | cons c cs =>
    have hcd : c ≠ d := by simpa using hd
    rw [body?] at h
    split at h
    · obtain ⟨rfl, -⟩ := Prod.mk.inj (Option.some.inj h)
      simp
    · obtain ⟨⟨b, r⟩, -, heq⟩ := Option.map_eq_some_iff.1 h
      obtain ⟨rfl, -⟩ := Prod.mk.inj heq
      simpa using hcd

/-- A body ends at the same place, and has newlines for its line endings. -/
theorem body?_unixNewlines (t : Text) :
    body? (unixNewlines t) =
      (body? t).map fun (body, rest) => (unixNewlines body, unixNewlines rest) := by
  have hother : ∀ {c : Char} {cs : Text}, c ≠ ')' →
      body? (c :: cs) = (body? cs).map fun (body, rest) => (c :: body, rest) := by
    intro c cs hc
    rw [body?, if_neg hc]
  induction t using newlineCases with
  | nil => rfl
  | pair t ih =>
    rw [unixNewlines_pair, hother (by decide), hother (by decide), hother (by decide), ih]
    cases body? t <;> simp [unixNewlines_pair]
  | single t h ih =>
    rw [unixNewlines_return h, hother (by decide), hother (by decide), ih]
    cases hbody : body? t with
    | none => rfl
    | some b => simp [unixNewlines_return (head?_of_body? hbody h)]
  | plain c t h ih =>
    by_cases hc : c = ')'
    · subst hc
      rw [unixNewlines_cons h, body?, body?, if_pos rfl, if_pos rfl, afterSemicolon?_unixNewlines,
        ih]
      cases afterSemicolon? t with
      | none => cases body? t <;> simp [unixNewlines_cons h]
      | some rest => rfl
    · rw [unixNewlines_cons h, hother hc, hother hc, ih]
      cases body? t <;> simp [unixNewlines_cons h]

namespace Declaration

/-- The declaration with the line endings of its body written as newlines. -/
def withNewlines (d : Declaration) : Declaration := ⟨d.name, unixNewlines d.body⟩

/-- A test for existence is skipped with any line endings in it. -/
theorem skipExistenceTest_unixNewlines (t : Text) :
    skipExistenceTest (unixNewlines t) = unixNewlines (skipExistenceTest t) := by
  rw [skipExistenceTest, skipExistenceTest, keywords?_unixNewlines (by decide)]
  cases keywords? ["IF", "NOT", "EXISTS"] t with
  | none => rfl
  | some u =>
    rw [Option.map_some, Option.bind_some, Option.bind_some, Text.afterBlanks?_unixNewlines]
    cases Text.afterBlanks? u <;> rfl

/-- The first declaration is found, with newlines in its body. -/
theorem read?_unixNewlines (t : Text) :
    read? (unixNewlines t) =
      (read? t).map fun (d, rest) => (d.withNewlines, unixNewlines rest) := by
  simp only [read?, Option.bind_eq_bind]
  rw [keywords?_unixNewlines (by decide)]
  cases keywords? ["CREATE", "TABLE"] t with
  | none => rfl
  | some u =>
    rw [Option.map_some, Option.bind_some, Option.bind_some, Text.afterBlanks?_unixNewlines]
    cases Text.afterBlanks? u with
    | none => rfl
    | some v =>
      rw [Option.map_some, Option.bind_some, Option.bind_some, skipExistenceTest_unixNewlines,
        tableName?_unixNewlines]
      cases tableName? (skipExistenceTest v) with
      | none => rfl
      | some named =>
        rw [Option.map_some, Option.bind_some, Option.bind_some, Text.skipBlanks_unixNewlines,
          Text.after?_unixNewlines (by decide)]
        cases Text.after? ['('] (Text.skipBlanks named.2) with
        | none => rfl
        | some x =>
          rw [Option.map_some, Option.bind_some, Option.bind_some, body?_unixNewlines]
          cases body? x <;> rfl

/-- **The same declarations are found,** by induction on the length of what is left of the script.
-/
theorem all_unixNewlines (t : Text) : all (unixNewlines t) = (all t).map withNewlines := by
  have hskip : ∀ {c : Char} {cs : Text}, isLetter 'C' c = false → all (c :: cs) = all cs :=
    fun h => all_of_read?_eq_none (read?_eq_none_of_head h)
  induction hlen : t.length using Nat.strongRecOn generalizing t with
  | ind n ih =>
    subst hlen
    cases hread : read? t with
    | some read =>
      obtain ⟨d, rest⟩ := read
      have hform : read? (unixNewlines t) = some (d.withNewlines, unixNewlines rest) := by
        rw [read?_unixNewlines, hread]
        rfl
      rw [all_of_read? hread, all_of_read? hform, ih _ (suffix_of_read? hread).2 rest rfl]
      rfl
    | none =>
      have hform : read? (unixNewlines t) = none := by
        rw [read?_unixNewlines, hread]
        rfl
      cases t using newlineCases with
      | nil => rfl
      | pair t =>
        rw [unixNewlines_pair, hskip (by decide), hskip (by decide), hskip (by decide)]
        refine ih _ ?_ t rfl
        rw [List.length_cons, List.length_cons]
        omega
      | single t h =>
        rw [unixNewlines_return h, hskip (by decide), hskip (by decide)]
        exact ih _ (by simp) t rfl
      | plain c t h =>
        rw [unixNewlines_cons h] at hform ⊢
        rw [all_of_read?_eq_none hform, all_of_read?_eq_none hread]
        exact ih _ (by simp) t rfl

end Declaration

namespace Segment

/-- The first piece begins as the body does. -/
theorem head?_consHead {c d : Char} (h : c ≠ d) (pieces : List Text) :
    ∀ p ∈ (Text.consHead c pieces).head?, p.head? ≠ some d := by
  cases pieces <;> simpa [Text.consHead] using h

/-- If a text does not begin with a character, its first piece does not either. -/
theorem head?_cutAt {sep d : Char} {t : Text} (h : t.head? ≠ some d) :
    ∀ p ∈ (Text.cutAt sep t).head?, p.head? ≠ some d := by
  cases t with
  | nil => simp [Text.cutAt]
  | cons c t =>
    rw [Text.cutAt]
    split
    · simp
    · exact head?_consHead (by simpa using h) _

/-- Nor does the first piece of a depth-aware cut. -/
theorem head?_cut {n : Nesting} {d : Char} {t : Text} (h : t.head? ≠ some d) :
    ∀ p ∈ (n.cut t).head?, p.head? ≠ some d := by
  cases t with
  | nil => simp [Nesting.cut]
  | cons c t =>
    rw [Nesting.cut]
    split
    · simp
    · exact head?_consHead (by simpa using h) _

/-- A body is cut at the same commas. -/
theorem cutAt_unixNewlines (t : Text) :
    Text.cutAt ',' (unixNewlines t) = (Text.cutAt ',' t).map unixNewlines := by
  have hother : ∀ {c : Char} {t : Text}, c ≠ ',' →
      Text.cutAt ',' (c :: t) = Text.consHead c (Text.cutAt ',' t) := by
    intro c t hc
    rw [Text.cutAt, if_neg hc]
  induction t using newlineCases with
  | nil => rfl
  | pair t ih =>
    rw [unixNewlines_pair, hother (by decide), hother (by decide), hother (by decide), ih,
      Text.map_unixNewlines_consHead_pair]
  | single t h ih =>
    rw [unixNewlines_return h, hother (by decide), hother (by decide), ih,
      Text.map_unixNewlines_consHead_return (head?_cutAt h)]
  | plain c t h ih =>
    rw [unixNewlines_cons h]
    by_cases hc : c = ','
    · rw [Text.cutAt, Text.cutAt, if_pos hc, if_pos hc, ih]
      rfl
    · rw [hother hc, hother hc, ih, Text.map_unixNewlines_consHead_cons h]

/-- Also where parentheses and literals are heeded: line endings change neither. -/
theorem cut_unixNewlines {n : Nesting} (hn : n.IsProper) (t : Text) :
    n.cut (unixNewlines t) = (n.cut t).map unixNewlines := by
  have hr : ∀ {n : Nesting}, n.IsProper → ∀ t,
      n.cut ('\r' :: t) = Text.consHead '\r' (n.cut t) := by
    intro n hn t
    rw [Nesting.cut_cons_of_not fun h => absurd h.1 (by decide),
      hn.advance_eq_self (by decide) (by decide) (by decide)]
  have hl : ∀ {n : Nesting}, n.IsProper → ∀ t,
      n.cut ('\n' :: t) = Text.consHead '\n' (n.cut t) := by
    intro n hn t
    rw [Nesting.cut_cons_of_not fun h => absurd h.1 (by decide),
      hn.advance_eq_self (by decide) (by decide) (by decide)]
  induction t using newlineCases generalizing n with
  | nil => rfl
  | pair t ih =>
    rw [unixNewlines_pair, hl hn, hr hn, hl hn, ih hn, Text.map_unixNewlines_consHead_pair]
  | single t h ih =>
    rw [unixNewlines_return h, hl hn, hr hn, ih hn,
      Text.map_unixNewlines_consHead_return (head?_cut h)]
  | plain c t h ih =>
    rw [unixNewlines_cons h, Nesting.cut, Nesting.cut]
    split
    · rw [ih hn]
      rfl
    · rw [ih (hn.advance c), Text.map_unixNewlines_consHead_cons h]

section

variable {f : Text → Text}

/-- Pieces can be changed before they are tidied, if the change leaves blank ones blank and does not
depend on whether they are trimmed. -/
theorem tidy_map (hblank : ∀ p, Text.isAllBlank (f p) = Text.isAllBlank p)
    (htrim : ∀ p, Text.trim (f p) = f (Text.trim p)) (pieces : List Text) :
    tidy (pieces.map f) = (tidy pieces).map f := by
  have hsame : ((fun p => !Text.isAllBlank p) ∘ f) = fun p => !Text.isAllBlank p :=
    funext fun p => by rw [Function.comp_apply, hblank]
  rw [tidy, tidy, List.filter_map, List.map_map, List.map_map, hsame]
  exact List.map_congr_left fun p _ => htrim p

/-- The segments of a changed body are those of the body, changed, if the pieces are. -/
theorem all_of_pieces {body : Text} (hcutAt : Text.cutAt ',' (f body) = (Text.cutAt ',' body).map f)
    (hcut : Nesting.outside.cut (f body) = (Nesting.outside.cut body).map f)
    (hblank : ∀ p, Text.isAllBlank (f p) = Text.isAllBlank p)
    (htrim : ∀ p, Text.trim (f p) = f (Text.trim p)) (mode : SplitMode) :
    all mode (f body) = (all mode body).map f := by
  cases mode with
  | legacy => rw [all, legacy, hcutAt, tidy_map hblank htrim]; rfl
  | depthAware =>
    rw [all, Nesting.depthAware_eq, hcut, tidy_map hblank htrim, ← Nesting.depthAware_eq]

end

/-- The segments of a body are those of the body with newlines, respelled. -/
theorem all_unixNewlines (mode : SplitMode) (body : Text) :
    all mode (unixNewlines body) = (all mode body).map unixNewlines :=
  all_of_pieces (cutAt_unixNewlines body) (cut_unixNewlines Nesting.isProper_outside body)
    Text.isAllBlank_unixNewlines Text.trim_unixNewlines mode

end Segment

namespace Column

/-- A foreign key has a space between its words and no line ending. -/
theorem mentionsForeignKey_unixNewlines (segment : Text) :
    mentionsForeignKey (unixNewlines segment) = mentionsForeignKey segment := by
  rw [mentionsForeignKey, Text.upper_unixNewlines,
    Text.contains_unixNewlines (by decide) (by decide)]
  rfl

/-- A constraint begins with the same keywords. -/
theorem beginsConstraint_unixNewlines (segment : Text) :
    beginsConstraint (unixNewlines segment) = beginsConstraint segment := by
  have hheads : ∀ head ∈ constraintHeads, ∀ w ∈ head, IsKeyword w := by decide
  rw [beginsConstraint, beginsConstraint, Text.skipBlanks_unixNewlines]
  rw [Bool.eq_iff_iff, List.any_eq_true, List.any_eq_true]
  refine exists_congr fun head => and_congr_right fun hhead => ?_
  rw [isSome_wholeKeywords?_unixNewlines (hheads head hhead)]

/-- A segment is a constraint, or not, with any line endings. -/
theorem isConstraint_unixNewlines (mode : SplitMode) (segment : Text) :
    isConstraint mode (unixNewlines segment) = isConstraint mode segment := by
  cases mode with
  | legacy => exact mentionsForeignKey_unixNewlines segment
  | depthAware =>
    rw [isConstraint, mentionsForeignKey_unixNewlines, beginsConstraint_unixNewlines]
    rfl

/-- A changed body has the columns of the body, if the segments are changed in the same way and in
none of them what it declares. -/
theorem all_of_segments {f : Text → Text} {mode : SplitMode} {body : Text}
    (hsegments : Segment.all mode (f body) = (Segment.all mode body).map f)
    (hconstraint : ∀ s, isConstraint mode (f s) = isConstraint mode s)
    (hword : ∀ s, Text.firstWord (f s) = Text.firstWord s) :
    all mode (f body) = all mode body := by
  have hsame : ((fun s => !isConstraint mode s) ∘ f) = fun s => !isConstraint mode s :=
    funext fun s => by rw [Function.comp_apply, hconstraint]
  rw [all, all, hsegments, List.filter_map, List.map_map, hsame]
  exact List.map_congr_left fun s _ => hword s

/-- **The columns of a body** do not depend on its line endings. -/
theorem all_unixNewlines (mode : SplitMode) (body : Text) :
    all mode (unixNewlines body) = all mode body :=
  all_of_segments (Segment.all_unixNewlines mode body) (isConstraint_unixNewlines mode)
    Text.firstWord_unixNewlines

end Column
end Sql

namespace Schema

/-- **A script declares the same with any line endings.** -/
theorem ofScript_unixNewlines (mode : Sql.SplitMode) (script : Text) :
    ofScript mode (unixNewlines script) = ofScript mode script := by
  have htables : Table.ofScript mode (unixNewlines script) = Table.ofScript mode script := by
    rw [Table.ofScript, Sql.Declaration.all_unixNewlines, List.map_map]
    refine List.map_congr_left fun d _ => ?_
    rw [Function.comp_apply, Table.ofDeclaration, Sql.Declaration.withNewlines,
      Sql.Column.all_unixNewlines]
    rfl
  rw [ofScript, htables, Sql.Database.name?, Sql.Database.statements, Text.lines_unixNewlines]
  rfl

/-- **The line endings of a script are of no account.** If first every pair of a carriage return and
a newline and then every carriage return that is left is replaced by a newline, the script declares
the same in either mode: tables, columns, database name and database statements. A request for it,
in whatever mode and with whatever default, is answered by the same schema or refused for the same
reason. -/
theorem ofRequest_lineEndings (script : Text) :
    let replaced := Text.replace "\r" "\n" (Text.replace "\r\n" "\n" script)
    (∀ mode, ofScript mode replaced = ofScript mode script) ∧
      ∀ (default : Except Fault Sql.SplitMode) (mode : Option Text),
        ofRequest default mode replaced = ofRequest default mode script := by
  intro replaced
  have hreplaced : replaced = unixNewlines script := Text.replace_replace script
  have hscript : ∀ mode, ofScript mode replaced = ofScript mode script := fun mode => by
    rw [hreplaced, ofScript_unixNewlines]
  have hisEmpty :
      (Sql.Declaration.all replaced).isEmpty = (Sql.Declaration.all script).isEmpty := by
    rw [hreplaced, Sql.Declaration.all_unixNewlines, List.isEmpty_map]
  refine ⟨hscript, fun default mode => ?_⟩
  have hnamed : ∀ name, ofScriptNamed name replaced = ofScriptNamed name script := fun name => by
    rw [ofScriptNamed, ofScriptNamed, hisEmpty]
    simp only [hscript]
  rw [ofRequest, ofRequest]
  simp only [hscript, hnamed]

end Schema
end Tablesmith
