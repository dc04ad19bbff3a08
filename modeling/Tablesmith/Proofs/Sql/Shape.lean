/-
# What is found in a script

Whatever the script, a table's name is made of word characters, dots and quotes, and is not empty
(`name_of_mem_all`), and a column is a word without blanks (`not_blank_of_mem_all`). What is
generated from a script rests on no more than this.

A column is a word of the body, as it stands there (`isInfix_of_mem_all`), so it has nothing in it
that no body has: no end of a statement. Every segment of a body has a first word
(`head?_words_of_mem_all`), so a reader that gives up where none is found never gives up.

Main statement: `ofScript_shape`.
-/

import Tablesmith.Proofs.Sql.Contribution
import Tablesmith.Proofs.Sql.Grammar
import Tablesmith.Schema.Basic

namespace Tablesmith
namespace Sql

/-- A character that a table's name can be made of. -/
def isNamePart (c : Char) : Bool := isNameChar c || isOpeningQuote c || isClosingQuote c

/-- A name is not empty, and every character of it may stand in a name. -/
theorem Grammar.isNamePart_of_mem_name {n : Text} (h : n ∈ name) :
    n ≠ [] ∧ ∀ c ∈ n, isNamePart c := by
  obtain ⟨opening, hopening, w, ⟨hne, hword⟩, closing, hclosing, rfl⟩ := mem_name_iff.1 h
  have hone : ∀ {p : Char → Bool} {t : Text}, t ∈ optional p → ∀ c ∈ t, p c := by
    rintro p t (rfl | ⟨d, hd, rfl⟩)
    · exact List.forall_mem_nil _
    · exact List.forall_mem_singleton.2 hd
  constructor
  · simp [hne]
  · simp only [isNamePart, Bool.or_eq_true, List.forall_mem_append]
    exact ⟨⟨fun c hc => .inl (.inr (hone hopening c hc)), fun c hc => .inl (.inl (hword c hc))⟩,
      fun c hc => .inr (hone hclosing c hc)⟩

namespace Declaration

/-- Every declaration of a script was read somewhere. By induction on what is left of the script. -/
theorem exists_read?_of_mem_all {t : Text} {d : Declaration} (h : d ∈ all t) :
    ∃ u rest, u <:+ t ∧ read? u = some (d, rest) := by
  induction hlen : t.length using Nat.strongRecOn generalizing t with
  | ind n ih =>
    subst hlen
    cases hread : read? t with
    | some read =>
      obtain ⟨e, rest⟩ := read
      obtain ⟨hsuffix, hlt⟩ := suffix_of_read? hread
      rw [all_of_read? hread] at h
      rcases List.mem_cons.1 h with rfl | h
      · exact ⟨t, rest, List.suffix_rfl, hread⟩
      · obtain ⟨u, left, hu, hleft⟩ := ih _ hlt h rfl
        exact ⟨u, left, hu.trans hsuffix, hleft⟩
    | none =>
      cases t with
      | nil => cases h
      | cons c cs =>
        rw [all_of_read?_eq_none hread] at h
        obtain ⟨u, left, hu, hleft⟩ := ih _ (by simp) h rfl
        exact ⟨u, left, hu.trans (List.suffix_cons c cs), hleft⟩

section

variable {t : Text} {d : Declaration}

/-- A declaration's name is one of the grammar. -/
theorem mem_name_of_mem_all (h : d ∈ all t) : d.name ∈ Grammar.name := by
  obtain ⟨u, rest, -, hread⟩ := exists_read?_of_mem_all h
  obtain ⟨_, _, _, _, _, _, hname, _⟩ := read?_eq_some_iff.1 hread
  exact (Grammar.mem_name_of_tableName? hname).1

/-- Nothing in a declaration's body ends a statement. -/
theorem not_endsStatement_of_mem_all (h : d ∈ all t) : ¬ EndsStatement d.body := by
  obtain ⟨u, rest, -, hread⟩ := exists_read?_of_mem_all h
  exact (read?_eq_some_iff_leads.1 hread).1

/-- A declaration's body stands in the script. -/
theorem body_isInfix_of_mem_all (h : d ∈ all t) : d.body <:+: t := by
  obtain ⟨u, rest, hu, hread⟩ := exists_read?_of_mem_all h
  obtain ⟨-, hleads⟩ := read?_eq_some_iff_leads.1 hread
  simp only [Grammar.statement, Grammar.leads_mul_iff, Grammar.leads_singleton_iff] at hleads
  obtain ⟨x, ⟨_, ⟨front, -, rfl⟩, rfl⟩, -⟩ := hleads
  have hbody : d.body <:+: front ++ (d.body ++ x) := List.infix_append' ..
  exact hbody.trans hu.isInfix

/-- **A table's name** is made of word characters, dots and quotes. -/
theorem name_of_mem_all (h : d ∈ all t) : d.name ≠ [] ∧ ∀ c ∈ d.name, isNamePart c :=
  Grammar.isNamePart_of_mem_name (mem_name_of_mem_all h)

end

end Declaration

/-- What is found for each is found for all. -/
theorem mapM_eq_some_map {α β : Type} {f : α → Option β} {g : α → β} {l : List α}
    (h : ∀ a ∈ l, f a = some (g a)) : l.mapM f = some (l.map g) := by
  induction l with
  | nil => rfl
  | cons a l ih =>
    obtain ⟨ha, hl⟩ := List.forall_mem_cons.1 h
    rw [List.mapM_cons, ha, ih hl]
    rfl

/-- What stands in a text ends no statement if the text does not. -/
theorem EndsStatement.of_isInfix {s t : Text} (h : s <:+: t) (hs : EndsStatement s) :
    EndsStatement t := by
  obtain ⟨left, right, rfl⟩ := h
  obtain ⟨front, gap, back, rfl, hgap⟩ := hs
  exact ⟨left ++ front, gap, back ++ right, by simp, hgap⟩

namespace Column

section

variable {mode : SplitMode} {body column : Text}

/-- **A column** has no blanks in it. -/
theorem not_blank_of_mem_all (h : column ∈ all mode body) :
    ∀ c ∈ column, Text.isBlank c = false := by
  obtain ⟨s, -, -, rfl⟩ := mem_all_iff.1 h
  exact fun c => Text.not_blank_of_mem_firstWord

/-- A column stands in the body. -/
theorem isInfix_of_mem_all (h : column ∈ all mode body) : column <:+: body := by
  obtain ⟨s, hs, -, rfl⟩ := mem_all_iff.1 h
  exact (Text.firstWord_isPrefix s).isInfix.trans (Segment.isInfix_of_mem_all hs)

/-- No column is empty. -/
theorem ne_nil_of_mem_all (h : column ∈ all mode body) : column ≠ [] := by
  obtain ⟨s, hs, -, rfl⟩ := mem_all_iff.1 h
  exact Text.firstWord_ne_nil (Segment.ne_nil_of_mem_all hs) (Segment.isTrimmed_of_mem_all hs).1

/-- Cut at every comma, no column holds one. -/
theorem comma_notMem_of_mem_legacy (h : column ∈ all .legacy body) : ',' ∉ column := by
  obtain ⟨s, hs, -, rfl⟩ := mem_all_iff.1 h
  exact fun hmem =>
    Segment.comma_notMem_of_mem_legacy hs ((Text.firstWord_isPrefix s).subset hmem)

end

/-- Every segment has a first word. -/
theorem head?_words_of_mem_all {mode : SplitMode} {body s : Text} (h : s ∈ Segment.all mode body) :
    (Text.words s).head? = some (Text.firstWord s) :=
  Text.head?_words (Segment.ne_nil_of_mem_all h) (Segment.isTrimmed_of_mem_all h).1

/-- The columns of a body, read by a reader that gives up at a segment without words. -/
def all? (mode : SplitMode) (body : Text) : Option (List Text) :=
  ((Segment.all mode body).filter fun s => !isConstraint mode s).mapM fun s =>
    (Text.words s).head?

/-- **The partial reader never gives up.** -/
theorem all?_eq_some (mode : SplitMode) (body : Text) : all? mode body = some (all mode body) :=
  mapM_eq_some_map fun _ hs => head?_words_of_mem_all (List.mem_filter.1 hs).1

end Column
end Sql

/-- What is true of the tables of every script: their names and columns are as they are read. -/
structure Table.IsRead (t : Table) : Prop where
  name_ne_nil : t.name ≠ []
  name : ∀ c ∈ t.name, Sql.isNamePart c
  columns : ∀ column ∈ t.columns, ∀ c ∈ column, Text.isBlank c = false

/-- **Tables are as they are read:** named, and with columns that have no blanks. -/
theorem Table.isRead_of_mem_ofScript {mode : Sql.SplitMode} {script : Text} {t : Table}
    (h : t ∈ Table.ofScript mode script) : t.IsRead := by
  obtain ⟨d, hd, rfl⟩ := List.mem_map.1 h
  obtain ⟨hne, hname⟩ := Sql.Declaration.name_of_mem_all hd
  exact ⟨hne, hname, fun column hcolumn => Sql.Column.not_blank_of_mem_all hcolumn⟩

namespace Table

/-- The tables of a script, read by a reader that gives up at a segment without words. -/
def ofScript? (mode : Sql.SplitMode) (script : Text) : Option (List Table) :=
  (Sql.Declaration.all script).mapM fun d =>
    (Sql.Column.all? mode d.body).map fun columns => { name := d.name, columns }

/-- What is true of the table of a declaration with the given body, whatever the body. -/
structure IsShaped (mode : Sql.SplitMode) (body : Text) (t : Table) : Prop where
  /-- A quote or none, word characters and dots, a quote or none. -/
  name : t.name ∈ Sql.Grammar.name
  ne_nil : ∀ column ∈ t.columns, column ≠ []
  not_blank : ∀ column ∈ t.columns, ∀ c ∈ column, Text.isBlank c = false
  isInfix : ∀ column ∈ t.columns, column <:+: body
  comma_notMem : mode = .legacy → ∀ column ∈ t.columns, ',' ∉ column
  not_ending : ∀ column ∈ t.columns, ¬ (");" : Text) <:+: column

/-- A declaration makes a table of the shape that its body allows. -/
theorem isShaped_ofDeclaration {mode : Sql.SplitMode} {script : Text} {d : Sql.Declaration}
    (h : d ∈ Sql.Declaration.all script) : (ofDeclaration mode d).IsShaped mode d.body where
  name := Sql.Declaration.mem_name_of_mem_all h
  ne_nil _ hcolumn := Sql.Column.ne_nil_of_mem_all hcolumn
  not_blank _ hcolumn := Sql.Column.not_blank_of_mem_all hcolumn
  isInfix _ hcolumn := Sql.Column.isInfix_of_mem_all hcolumn
  comma_notMem hmode _ hcolumn := by
    subst hmode
    exact Sql.Column.comma_notMem_of_mem_legacy hcolumn
  not_ending column hcolumn hending := by
    have hends : Sql.EndsStatement ");" := ⟨[], [], [], rfl, rfl⟩
    have hbody := hending.trans (Sql.Column.isInfix_of_mem_all hcolumn)
    exact Sql.Declaration.not_endsStatement_of_mem_all h (hends.of_isInfix hbody)

/-- **Every script can be read,** whatever its characters: no segment is found without a word. Each
of its tables is that of a declaration whose body stands in the script, and its name and columns are
of the shape that they are to have. -/
theorem ofScript_shape (mode : Sql.SplitMode) (script : Text) :
    ofScript? mode script = some (ofScript mode script) ∧
      ∀ t ∈ ofScript mode script, ∃ d ∈ Sql.Declaration.all script,
        t = ofDeclaration mode d ∧ d.body <:+: script ∧ t.IsShaped mode d.body := by
  constructor
  · refine Sql.mapM_eq_some_map fun d _ => ?_
    rw [Sql.Column.all?_eq_some]
    rfl
  · intro t ht
    obtain ⟨d, hd, rfl⟩ := List.mem_map.1 ht
    exact ⟨d, hd, rfl, Sql.Declaration.body_isInfix_of_mem_all hd, isShaped_ofDeclaration hd⟩

/-- An opening quote without a closing one, blanks beyond ASCII, a literal that is not closed, and a
parenthesis too many. -/
theorem ofScript_shape_untidy :
    let script : Text := "x); Create\u2003Table \"a (\u3000'b\x1fINT, c)d( e, ) );"
    let t : Table := { name := "\"a", columns := ["'b", "c)d(", ")"] }
    t ∈ ofScript .legacy script ∧ ∃ d ∈ Sql.Declaration.all script,
      t = ofDeclaration .legacy d ∧ d.body <:+: script ∧ t.IsShaped .legacy d.body := by
  intro script t
  have ht : t ∈ ofScript .legacy script := by decide +kernel
  exact ⟨ht, (ofScript_shape .legacy script).2 t ht⟩

end Table

end Tablesmith
