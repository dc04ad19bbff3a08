/-
# Scripts with other line breaks

No part of a declaration tells one line break from another: all of them are blank, and none belongs
to a name or a keyword. So the languages of the grammar hold the same texts when newlines are
written for all line breaks of one character (`Respects`), the same declarations are read
(`Declaration.all_map`), and they have the same columns (`Column.all_map`).

A pair of a carriage return and a newline is two such breaks here. That it may be written as one was
seen before; both together say that a script declares the same tables whatever its lines end with.

Main statement: `Table.ofScript_flatMap_whole`.
-/

import Tablesmith.Proofs.Sql.Constraint
import Tablesmith.Proofs.Sql.LineEnding
import Tablesmith.Proofs.Sql.Shape
import Tablesmith.Proofs.Text.Lines

namespace Tablesmith

open Text (plainBreak isLineBreak isBlank_plainBreak apply_plainBreak plainBreak_eq_iff
  map_plainBreak_eq_self)

namespace Text

/-- The characters before and after the change are blank alike. -/
theorem isBlank_comp_plainBreak : isBlank ∘ plainBreak = isBlank :=
  funext isBlank_plainBreak

/-- A text is blank, or not, whatever its line breaks are. -/
theorem isAllBlank_map (t : Text) : isAllBlank (t.map plainBreak) = isAllBlank t := by
  rw [isAllBlank, isAllBlank, List.all_map, isBlank_comp_plainBreak]

/-- The blanks in front of a text are the same number of characters with any line breaks. -/
theorem skipBlanks_map (t : Text) :
    skipBlanks (t.map plainBreak) = (skipBlanks t).map plainBreak := by
  rw [skipBlanks, skipBlanks, List.dropWhile_map, isBlank_comp_plainBreak]

/-- Trimming and writing newlines for line breaks may come in either order. -/
theorem trim_map (t : Text) : trim (t.map plainBreak) = (trim t).map plainBreak := by
  rw [trim, trim, trimBy, trimBy, trimEndBy, trimEndBy,
    List.dropWhile_map, ← List.map_reverse, List.dropWhile_map, ← List.map_reverse,
    isBlank_comp_plainBreak]

/-- A part without line breaks stands where it stood. -/
theorem contains_map {part : Text} (h : ∀ k ∈ part, isLineBreak k = false) (t : Text) :
    contains part (t.map plainBreak) = contains part t := by
  have hprefix : ∀ t : Text, part.isPrefixOf (t.map plainBreak) = part.isPrefixOf t := by
    induction part with
    | nil => intro t; rfl
    | cons k ks ih =>
      obtain ⟨hk, hks⟩ := List.forall_mem_cons.1 h
      intro t
      cases t with
      | nil => rfl
      | cons c t =>
        have hsame : (k == plainBreak c) = (k == c) := by
          rw [Bool.eq_iff_iff, beq_iff_eq, beq_iff_eq, eq_comm, plainBreak_eq_iff hk, eq_comm]
        rw [List.map_cons, List.isPrefixOf, List.isPrefixOf, hsame, ih hks]
  induction t with
  | nil => rfl
  | cons c t ih =>
    have hhead := hprefix (c :: t)
    rw [List.map_cons] at hhead ⊢
    rw [contains, contains, ih, hhead]

/-- A line break is its own upper case form. -/
theorem upper_map (t : Text) :
    (upper (t.map plainBreak)).map plainBreak = (upper t).map plainBreak := by
  have hbreak : ∀ c ∈ lineBreaks, upperChar c = [c] := by
    have : (lineBreaks.all fun c => upperChar c == [c]) = true := by decide +kernel
    simpa only [List.all_eq_true, beq_iff_eq] using this
  rw [upper, upper, List.flatMap_map, List.map_flatMap, List.map_flatMap]
  refine congrArg (t.flatMap ·) (funext fun c => ?_)
  cases hc : isLineBreak c with
  | true =>
    rw [plainBreak_of_isLineBreak hc, hbreak c (mem_lineBreaks hc), List.map_singleton,
      plainBreak_of_isLineBreak hc]
    rfl
  | false => rw [plainBreak_eq_self hc]

end Text

namespace Sql

open Text (isAllBlank_map skipBlanks_map trim_map)

namespace Grammar

/-- A text belongs to the language if it does so with newlines for its line breaks. -/
def Respects (L : Language Char) : Prop := ∀ u : Text, u.map plainBreak ∈ L ↔ u ∈ L

section

variable {L M : Language Char}

/-- The empty text has no line breaks to tell apart. -/
theorem respects_one : Respects 1 := by
  intro u
  rw [Language.mem_one, Language.mem_one, List.map_eq_nil_iff]

/-- A choice between two languages that do not tell line breaks apart does not either. -/
theorem Respects.add (hL : Respects L) (hM : Respects M) : Respects (L + M) :=
  fun u => or_congr (hL u) (hM u)

/-- Nor does one language behind the other. -/
theorem Respects.mul (hL : Respects L) (hM : Respects M) : Respects (L * M) := by
  intro w
  constructor
  · intro hw
    obtain ⟨_, hu, _, hv, hsplit⟩ := Language.mem_mul.1 hw
    obtain ⟨u, v, rfl, rfl, rfl⟩ := List.map_eq_append_iff.1 hsplit.symm
    exact Language.append_mem_mul ((hL u).1 hu) ((hM v).1 hv)
  · intro hw
    obtain ⟨u, hu, v, hv, rfl⟩ := Language.mem_mul.1 hw
    rw [List.map_append]
    exact Language.append_mem_mul ((hL u).2 hu) ((hM v).2 hv)

/-- What a text leads to does not depend on its line breaks. -/
theorem Respects.leads_map_iff (hL : Respects L) {t rest : Text} :
    Leads L (t.map plainBreak) rest ↔ ∃ r, r.map plainBreak = rest ∧ Leads L t r := by
  constructor
  · rintro ⟨_, hu, hsplit⟩
    obtain ⟨u, r, rfl, rfl, rfl⟩ := List.map_eq_append_iff.1 hsplit
    exact ⟨r, rfl, u, (hL u).1 hu, rfl⟩
  · rintro ⟨r, rfl, u, hu, rfl⟩
    exact ⟨_, (hL u).2 hu, List.map_append⟩

end

/-- Line breaks are blank, so blanks may be any of them. -/
theorem respects_blanks : Respects blanks := by
  intro u
  show Text.isAllBlank _ = true ↔ Text.isAllBlank _ = true
  rw [isAllBlank_map]

/-- The blanks between two keywords may be any line breaks. -/
theorem respects_gap : Respects gap := fun u =>
  and_congr (not_congr List.map_eq_nil_iff) (respects_blanks u)

/-- What is said of each character, and holds of no blank. -/
theorem forall_map_plainBreak {p : Char → Bool} (h : ∀ {c}, p c → Text.isBlank c = false)
    (t : Text) : (∀ c ∈ t.map plainBreak, p c) ↔ ∀ c ∈ t, p c := by
  simp only [List.forall_mem_map, apply_plainBreak h]

/-- The letters of a keyword are no line breaks. -/
theorem respects_keyword {w : Text} (hw : IsCapital w) : Respects (keyword w) := by
  have hletters : ∀ {w : Text}, (∀ k ∈ w, k.isUpper) → Respects (keyword w) := by
    intro w hw u
    induction w generalizing u with
    | nil =>
      show List.Forall₂ _ _ _ ↔ List.Forall₂ _ _ _
      rw [List.forall₂_nil_left_iff, List.forall₂_nil_left_iff, List.map_eq_nil_iff]
    | cons k w ih =>
      obtain ⟨hk, hw⟩ := List.forall_mem_cons.1 hw
      cases u with
      | nil => exact iff_of_false (fun h => by cases h) fun h => by cases h
      | cons c u =>
        show List.Forall₂ _ _ _ ↔ List.Forall₂ _ _ _
        rw [List.map_cons, List.forall₂_cons, List.forall₂_cons,
          apply_plainBreak fun hc => Text.isBlank_of_isWord (isWord_of_isLetter hk hc)]
        exact and_congr_right fun _ => ih hw u
  exact hletters hw.2

/-- Keywords with blanks between them do not tell line breaks apart. -/
theorem respects_keywords {words : List Text} (h : ∀ w ∈ words, IsCapital w) :
    Respects (keywords words) := by
  induction words with
  | nil => exact respects_one
  | cons w words ih =>
    obtain ⟨hw, hwords⟩ := List.forall_mem_cons.1 h
    rcases eq_or_ne words [] with rfl | hne
    · exact respects_keyword hw
    · rw [keywords_cons w hne]
      exact ((respects_keyword hw).mul respects_gap).mul (ih hwords)

/-- A text begins with keywords, or does not, whatever its line breaks are. -/
theorem beginsWith_map_iff {words : List Text} (h : ∀ w ∈ words, IsCapital w) {t : Text} :
    BeginsWith words (t.map plainBreak) ↔ BeginsWith words t := by
  have hend : ∀ t : Text, atWordEnd (t.map plainBreak) = atWordEnd t := by
    intro t
    cases t with
    | nil => rfl
    | cons c t =>
      rw [List.map_cons, atWordEnd, atWordEnd, apply_plainBreak Text.isBlank_of_isWord]
  simp only [BeginsWith, (respects_keywords h).leads_map_iff]
  constructor
  · rintro ⟨_, ⟨r, rfl, hr⟩, hword⟩
    exact ⟨r, hr, by rwa [hend] at hword⟩
  · rintro ⟨r, hr, hword⟩
    exact ⟨_, ⟨r, rfl, hr⟩, by rwa [hend]⟩

/-- A character that is no line break is found where it was. -/
theorem respects_singleton {c : Char} (hc : isLineBreak c = false) : Respects {[c]} := by
  intro u
  show u.map plainBreak = [c] ↔ u = [c]
  cases u with
  | nil => exact iff_of_false (List.cons_ne_nil _ _).symm (List.cons_ne_nil _ _).symm
  | cons d u =>
    rw [List.map_cons, List.cons.injEq, List.cons.injEq, plainBreak_eq_iff hc, List.map_eq_nil_iff]

/-- So is one of several, or none, if no blank is among them. -/
theorem respects_optional {p : Char → Bool} (h : ∀ {c}, p c → Text.isBlank c = false) :
    Respects (optional p) := by
  intro u
  have hone : ∀ t, t ∈ optional p ↔ t.length ≤ 1 ∧ ∀ c ∈ t, p c := by
    intro t
    constructor
    · rintro (rfl | ⟨c, hc, rfl⟩)
      · simp
      · simp [hc]
    · rintro ⟨hlength, hp⟩
      match t, hlength with
      | [], _ => exact .inl rfl
      | [c], _ => exact .inr ⟨c, hp c (List.mem_singleton_self c), rfl⟩
  rw [hone, hone, List.length_map, forall_map_plainBreak h]

/-- A quoted or bare name holds no line breaks. -/
theorem respects_name : Respects name := by
  have hword : Respects word := fun u =>
    and_congr (not_congr List.map_eq_nil_iff) (forall_map_plainBreak isBlank_of_isNameChar u)
  exact ((respects_optional fun hc => isBlank_of_quote (.inl hc)).mul hword).mul
    (respects_optional fun hc => isBlank_of_quote (.inr hc))

/-- A name has no blanks. -/
theorem isBlank_of_mem_name {n : Text} (h : n ∈ name) : ∀ c ∈ n, Text.isBlank c = false := by
  intro c hc
  have hpart := (isNamePart_of_mem_name h).2 c hc
  rw [isNamePart, Bool.or_eq_true, Bool.or_eq_true, or_assoc] at hpart
  exact hpart.elim isBlank_of_isNameChar isBlank_of_quote

/-- One name in particular does not tell line breaks apart, either. -/
theorem respects_nameOf (n : Text) : Respects (nameOf n) := by
  intro u
  show u.map plainBreak ∈ name ∧ _ ↔ u ∈ name ∧ _
  rw [respects_name u]
  refine and_congr_right fun hu => ?_
  rw [map_plainBreak_eq_self (isBlank_of_mem_name hu)]

/-- The beginning of a declaration, up to its parenthesis, does not tell line breaks apart. -/
theorem respects_opening (n : Text) : Respects (opening n) := by
  have htest : Respects existenceTest :=
    respects_one.add ((respects_keywords (by decide)).mul respects_gap)
  exact (((((respects_keywords (by decide)).mul respects_gap).mul htest).mul
    (respects_nameOf n)).mul respects_blanks).mul (respects_singleton (by decide))

/-- Nor does its end. -/
theorem respects_ending : Respects ending :=
  ((respects_singleton (by decide)).mul respects_blanks).mul (respects_singleton (by decide))

end Grammar

/-- A body ends where it does with newlines for its line breaks. -/
theorem endsStatement_map_iff {t : Text} : EndsStatement (t.map plainBreak) ↔ EndsStatement t := by
  have hending : ∀ c t, (c = ')' ∧ (afterSemicolon? t).isSome) ↔
      ∃ rest, Grammar.Leads Grammar.ending (c :: t) rest := by
    intro c t
    simp only [leads_ending_iff, List.cons.injEq, Option.isSome_iff_exists]
    constructor
    · rintro ⟨rfl, rest, hrest⟩
      exact ⟨rest, t, ⟨rfl, rfl⟩, hrest⟩
    · rintro ⟨rest, _, ⟨rfl, rfl⟩, hrest⟩
      exact ⟨rfl, rest, hrest⟩
  induction t with
  | nil => exact Iff.rfl
  | cons c t ih =>
    rw [List.map_cons, endsStatement_cons_iff, endsStatement_cons_iff, hending, hending,
      ← List.map_cons]
    simp only [Grammar.respects_ending.leads_map_iff]
    refine or_congr ⟨?_, ?_⟩ ih
    · rintro ⟨-, r, -, hr⟩
      exact ⟨r, hr⟩
    · rintro ⟨r, hr⟩
      exact ⟨_, r, rfl, hr⟩

namespace Declaration

open Grammar (Leads)

/-- The declaration with newlines for the line breaks of its body. -/
def respelled (d : Declaration) : Declaration := ⟨d.name, d.body.map plainBreak⟩

/-- A statement is read off a text with newlines for its line breaks exactly if one that differs
from it in these alone is read off the text. -/
theorem leads_statement_map_iff {t rest : Text} {d : Declaration} :
    Leads (Grammar.statement d) (t.map plainBreak) rest ↔
      ∃ e r, e.respelled = d ∧ r.map plainBreak = rest ∧ Leads (Grammar.statement e) t r := by
  simp only [Grammar.statement, mul_assoc, Grammar.leads_mul_iff, Grammar.leads_singleton_iff,
    (Grammar.respects_opening d.name).leads_map_iff]
  constructor
  · rintro ⟨_, ⟨x, rfl, hx⟩, y, hbody, hy⟩
    obtain ⟨b, y, rfl, hb, rfl⟩ := List.map_eq_append_iff.1 hbody
    obtain ⟨r, hr, hending⟩ := Grammar.respects_ending.leads_map_iff.1 hy
    exact ⟨⟨d.name, b⟩, r, by rw [respelled, hb], hr, _, hx, y, rfl, hending⟩
  · rintro ⟨e, r, rfl, rfl, _, hx, y, rfl, hending⟩
    exact ⟨_, ⟨_, rfl, hx⟩, _, List.map_append,
      Grammar.respects_ending.leads_map_iff.2 ⟨r, rfl, hending⟩⟩

/-- The first declaration is read with newlines for the line breaks of its body. -/
theorem read?_map (t : Text) :
    read? (t.map plainBreak) =
      (read? t).map fun (d, rest) => (d.respelled, rest.map plainBreak) := by
  ext ⟨d, rest⟩
  rw [read?_eq_some_iff_leads, leads_statement_map_iff, Option.map_eq_some_iff]
  constructor
  · rintro ⟨hends, e, r, rfl, rfl, hleads⟩
    have hends : ¬ EndsStatement e.body := fun h => hends (endsStatement_map_iff.2 h)
    exact ⟨(e, r), read?_eq_some_iff_leads.2 ⟨hends, hleads⟩, rfl⟩
  · rintro ⟨⟨e, r⟩, hread, heq⟩
    obtain ⟨rfl, rfl⟩ := Prod.mk.inj heq
    obtain ⟨hends, hleads⟩ := read?_eq_some_iff_leads.1 hread
    exact ⟨fun h => hends (endsStatement_map_iff.1 h), e, r, rfl, rfl, hleads⟩

/-- A search for declarations finds the same ones, respelled. -/
theorem scan_map (skip : Nat) (t : Text) :
    scan skip (t.map plainBreak) = (scan skip t).map respelled := by
  induction t generalizing skip with
  | nil => cases skip <;> rfl
  | cons c t ih =>
    cases skip with
    | succ skip => exact ih skip
    | zero =>
      have hread := read?_map (c :: t)
      rw [List.map_cons] at hread ⊢
      rw [scan_cons, scan_cons, hread]
      cases read? (c :: t) with
      | none => exact ih 0
      | some answer => simp only [Option.map_some, List.map_cons, List.length_map, ih]

/-- **The same declarations are found.** -/
theorem all_map (t : Text) : all (t.map plainBreak) = (all t).map respelled := scan_map 0 t

end Declaration

/-- Putting a character in front of the first piece is done before or after the change alike. -/
theorem map_consHead (c : Char) (pieces : List Text) :
    (Text.consHead c pieces).map (List.map plainBreak) =
      Text.consHead (plainBreak c) (pieces.map (List.map plainBreak)) := by
  cases pieces <;> rfl

/-- A line break leaves the state of a depth-aware reader as a newline leaves it. -/
theorem Nesting.IsProper.advance_plainBreak {n : Nesting} (h : n.IsProper) (c : Char) :
    n.advance (plainBreak c) = n.advance c := by
  cases hc : isLineBreak c with
  | true =>
    rw [Text.plainBreak_of_isLineBreak hc, h.advance_blank (Text.isBlank_of_isLineBreak hc),
      h.advance_blank (by decide)]
  | false => rw [Text.plainBreak_eq_self hc]

namespace Segment

/-- Commas cut a text in the same places with any line breaks. -/
theorem cutAt_map (t : Text) :
    Text.cutAt ',' (t.map plainBreak) = (Text.cutAt ',' t).map (List.map plainBreak) := by
  induction t with
  | nil => rfl
  | cons c t ih =>
    rw [List.map_cons, Text.cutAt, Text.cutAt, ih]
    simp only [plainBreak_eq_iff (by decide : isLineBreak ',' = false)]
    split
    · rfl
    · rw [map_consHead]

/-- So do those that stand outside of literals and parentheses. -/
theorem cut_map {n : Nesting} (hn : n.IsProper) (t : Text) :
    n.cut (t.map plainBreak) = (n.cut t).map (List.map plainBreak) := by
  induction t generalizing n with
  | nil => rfl
  | cons c t ih =>
    rw [List.map_cons, Nesting.cut, Nesting.cut, hn.advance_plainBreak, ih hn, ih (hn.advance c)]
    simp only [plainBreak_eq_iff (by decide : isLineBreak ',' = false)]
    split
    · rfl
    · rw [map_consHead]

/-- The segments of a body keep their places. -/
theorem all_map (mode : SplitMode) (body : Text) :
    all mode (body.map plainBreak) = (all mode body).map (List.map plainBreak) :=
  all_of_pieces (cutAt_map body) (cut_map Nesting.isProper_outside body) isAllBlank_map trim_map
    mode

end Segment

namespace Column

/-- The words of a foreign key have one space between them, which is no line break. -/
theorem mentionsForeignKey_map (segment : Text) :
    mentionsForeignKey (segment.map plainBreak) = mentionsForeignKey segment := by
  have hpart : ∀ k ∈ "FOREIGN KEY".toList, isLineBreak k = false := by
    have : ("FOREIGN KEY".toList.all fun k => !isLineBreak k) = true := by decide
    simpa only [List.all_eq_true, Bool.not_eq_true'] using this
  rw [mentionsForeignKey, ← Text.contains_map hpart, Text.upper_map, Text.contains_map hpart]
  rfl

/-- A constraint begins with the same keywords. -/
theorem beginsConstraint_map (segment : Text) :
    beginsConstraint (segment.map plainBreak) = beginsConstraint segment := by
  rw [Bool.eq_iff_iff, beginsConstraint_iff, beginsConstraint_iff, skipBlanks_map]
  exact exists_congr fun head => and_congr_right fun hhead =>
    Grammar.beginsWith_map_iff (isCapital_of_mem_constraintHeads head hhead)

/-- A segment is a constraint, or not, whatever its line breaks are. -/
theorem isConstraint_map (mode : SplitMode) (segment : Text) :
    isConstraint mode (segment.map plainBreak) = isConstraint mode segment := by
  cases mode with
  | legacy => exact mentionsForeignKey_map segment
  | depthAware =>
    rw [isConstraint, mentionsForeignKey_map, beginsConstraint_map]
    rfl

/-- The first word of a segment ends at the same place. -/
theorem firstWord_map (t : Text) : Text.firstWord (t.map plainBreak) = Text.firstWord t := by
  rw [Text.firstWord, Text.firstWord, List.takeWhile_map]
  have hword : ((fun c => !Text.isBlank c) ∘ plainBreak) = fun c => !Text.isBlank c :=
    funext fun c => by rw [Function.comp_apply, isBlank_plainBreak]
  rw [hword]
  exact map_plainBreak_eq_self fun c => Text.not_blank_of_mem_firstWord

/-- **The columns of a body** do not depend on its line breaks. -/
theorem all_map (mode : SplitMode) (body : Text) :
    all mode (body.map plainBreak) = all mode body :=
  all_of_segments (Segment.all_map mode body) (isConstraint_map mode) firstWord_map

end Column
end Sql

namespace Table

/-- With newlines for all line breaks of one character a script declares the same tables. -/
theorem ofScript_map (mode : Sql.SplitMode) (script : Text) :
    ofScript mode (script.map plainBreak) = ofScript mode script := by
  rw [ofScript, Sql.Declaration.all_map, List.map_map]
  refine List.map_congr_left fun d _ => ?_
  rw [Function.comp_apply, ofDeclaration, Sql.Declaration.respelled, Sql.Column.all_map]
  rfl

/-- **A script declares the same tables whatever its lines end with.** -/
theorem ofScript_flatMap_whole (mode : Sql.SplitMode) (ls : List Text.Line) :
    ofScript mode (ls.flatMap Text.Line.whole) = ofScript mode (ls.flatMap Text.Line.plain) := by
  have hbreaks : (ls.flatMap Text.Line.whole).map plainBreak =
      (ls.flatMap Text.Line.spelled).map plainBreak := by
    simp only [List.map_flatMap, Text.map_plainBreak_spelled]
  calc ofScript mode (ls.flatMap Text.Line.whole)
      = ofScript mode (ls.flatMap Text.Line.spelled) := by
        rw [← ofScript_map, hbreaks, ofScript_map]
    _ = ofScript mode (ls.flatMap Text.Line.plain) := by
        rw [← Text.unixNewlines_spelled]
        exact (congrArg Schema.tables (Schema.ofScript_unixNewlines mode _)).symm

end Table
end Tablesmith
