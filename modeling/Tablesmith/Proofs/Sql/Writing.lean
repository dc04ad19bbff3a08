/-
# Scripts that are written

A script can be written from what it is to declare: for each table its name, as it is to stand
there, and the segments of its body. Reading such a script gives back what was written, provided
that each part can be told from what stands around it:

* a name is a word of word characters and dots, perhaps between quotes that belong together;
* a segment is not blank, has no blanks at its ends, ends outside literals and parentheses, and has
  no comma there;
* no body holds what ends a statement.

Main statement: `ofScript_script`, the tables of a written script are the ones that were written,
with the first words of those segments that are no constraints for columns.
-/

import Tablesmith.Proofs.Sql.Grammar
import Tablesmith.Proofs.Sql.Nesting
import Tablesmith.Schema.Basic

namespace Tablesmith
namespace Sql

/-- A declaration that is to be written: the name of the table and the segments of its body. -/
structure Written where
  name : Text
  segments : List Text
deriving Repr, DecidableEq

/-- The quotes that a name may stand between. -/
def namePairs : List (Text × Text) :=
  [([], []), (['\x60'], ['\x60']), (['"'], ['"']), (['['], [']'])]

/-- Word characters and dots, one at least, perhaps between quotes that belong together. -/
def IsName (t : Text) : Prop :=
  ∃ pair ∈ namePairs, ∃ word : Text, word ≠ [] ∧ (∀ c ∈ word, isNameChar c) ∧
    t = pair.1 ++ word ++ pair.2

/-- What can stand between two commas: one piece, not blank and with no blanks at its ends. -/
structure IsSegment (t : Text) : Prop where
  not_blank : Text.isAllBlank t = false
  trimmed : Text.IsTrimmed t
  piece : Nesting.IsPiece t

instance decidableIsSegment (t : Text) : Decidable (IsSegment t) :=
  decidable_of_iff (Text.isAllBlank t = false ∧ Text.IsTrimmed t ∧ Nesting.IsPiece t)
    ⟨fun ⟨hblank, htrim, hpiece⟩ => ⟨hblank, htrim, hpiece⟩,
      fun h => ⟨h.not_blank, h.trimmed, h.piece⟩⟩

namespace Written

/-- The body: the segments with a comma and a space between them. -/
def body (d : Written) : Text := Text.join ", " d.segments

/-- The statement, in a line of its own. -/
def text (d : Written) : Text := ("CREATE TABLE " : Text) ++ d.name ++ " (" ++ d.body ++ ");\n"

/-- The script of several declarations. -/
def script (ds : List Written) : Text := ds.flatMap text

/-- The columns that a declaration names: the first words of the segments that neither begin with
the head of a table constraint nor mention a foreign key. -/
def columns (d : Written) : List Text :=
  (d.segments.filter fun s => !(Column.beginsConstraint s || Column.mentionsForeignKey s)).map
    Text.firstWord

/-- The text of a declaration, piece by piece. -/
theorem text_eq (d : Written) :
    d.text = ("CREATE TABLE " : Text) ++ d.name ++ " (" ++ d.body ++ ");\n" := rfl

/-- The declaration can be told from what stands around it. -/
structure IsReadable (d : Written) : Prop where
  name : IsName d.name
  segments : ∀ s ∈ d.segments, IsSegment s
  body : ¬ EndsStatement d.body

end Written

/-- A name that is to be written is a name of the grammar. -/
theorem IsName.mem_name {t : Text} (h : IsName t) : t ∈ Grammar.name := by
  obtain ⟨pair, hpair, word, hne, hword, rfl⟩ := h
  have hquotes : pair.1 ∈ Grammar.optional isOpeningQuote ∧
      pair.2 ∈ Grammar.optional isClosingQuote := by
    simp only [namePairs, List.mem_cons, List.not_mem_nil, or_false] at hpair
    rcases hpair with rfl | rfl | rfl | rfl
    · exact ⟨.inl rfl, .inl rfl⟩
    all_goals exact ⟨.inr ⟨_, by decide, rfl⟩, .inr ⟨_, by decide, rfl⟩⟩
  exact Grammar.mem_name_iff.2 ⟨_, hquotes.1, word, ⟨hne, hword⟩, _, hquotes.2, rfl⟩

/-- What is written in front of a body is an opening. -/
theorem Grammar.mem_opening_of_mem_name {n : Text} (h : n ∈ name) :
    ("CREATE TABLE " : Text) ++ n ++ " (" ∈ opening n := by
  have hkeywords : ("CREATE TABLE" : Text) ∈ keywords ["CREATE", "TABLE"] := by
    have hread : keywords? ["CREATE", "TABLE"] "CREATE TABLE" = some [] := rfl
    obtain ⟨u, hu, hsplit⟩ := (keywords?_eq_some_iff (by decide)).1 hread
    rwa [hsplit, List.append_nil]
  have hgap : [' '] ∈ gap := ⟨by decide, by decide⟩
  have hblanks : [' '] ∈ blanks := (by decide : Text.isAllBlank [' '])
  have htest : [] ∈ existenceTest := .inl rfl
  have hname : n ∈ nameOf n := ⟨h, rfl⟩
  have hopening := Language.append_mem_mul (Language.append_mem_mul (Language.append_mem_mul
    (Language.append_mem_mul (Language.append_mem_mul hkeywords hgap) htest) hname) hblanks)
    (Set.mem_singleton ['('])
  rwa [List.append_nil, List.append_assoc] at hopening

/-- The statement of a declaration is read, and the line's end is left. -/
theorem read?_text {d : Written} (hname : d.name ∈ Grammar.name) (hbody : ¬ EndsStatement d.body)
    (rest : Text) :
    Declaration.read? (d.text ++ rest) = some (⟨d.name, d.body⟩, '\n' :: rest) := by
  have htext : d.text ++ rest = ("CREATE TABLE " : Text) ++ d.name ++ " (" ++
      (d.body ++ ')' :: ([] ++ ';' :: '\n' :: rest)) := by
    rw [Written.text_eq, List.append_assoc, List.append_assoc]
    rfl
  rw [htext]
  exact Declaration.read?_of_mem_opening (Grammar.mem_opening_of_mem_name hname) hbody rfl

/-- What is written can be told apart already if the names are names and no body holds what ends a
statement. -/
theorem all_script_of_forall {ds : List Written} (hname : ∀ d ∈ ds, d.name ∈ Grammar.name)
    (hbody : ∀ d ∈ ds, ¬ EndsStatement d.body) :
    Declaration.all (Written.script ds) = ds.map fun d => ⟨d.name, d.body⟩ := by
  induction ds with
  | nil => rfl
  | cons d ds ih =>
    obtain ⟨hnameHead, hnameTail⟩ := List.forall_mem_cons.1 hname
    obtain ⟨hbodyHead, hbodyTail⟩ := List.forall_mem_cons.1 hbody
    have hline : Declaration.read? ('\n' :: Written.script ds) = none :=
      Declaration.read?_eq_none_of_head (by decide)
    rw [Written.script, List.flatMap_cons,
      Declaration.all_of_read? (read?_text hnameHead hbodyHead _)]
    rw [← Written.script, Declaration.all_of_read?_eq_none hline, ih hnameTail hbodyTail]
    rfl

/-- **The declarations of a written script** are the ones that were written. -/
theorem all_script {ds : List Written} (h : ∀ d ∈ ds, d.IsReadable) :
    Declaration.all (Written.script ds) = ds.map fun d => ⟨d.name, d.body⟩ :=
  all_script_of_forall (fun d hd => (h d hd).name.mem_name) fun d hd => (h d hd).body

/-- A space changes nothing about where a text stands. -/
theorem IsSegment.isPiece_space {t : Text} (h : IsSegment t) : Nesting.IsPiece (' ' :: t) := by
  obtain ⟨hend, hcovers⟩ := h.piece
  refine ⟨hend, fun front back hsplit => ?_⟩
  cases front with
  | nil => cases hsplit
  | cons c front =>
    obtain ⟨rfl, htail⟩ := List.cons.inj hsplit
    exact hcovers front back htail

/-- The space in front of a segment is trimmed away, and nothing else is. -/
theorem tidy_space {segments : List Text} (hblank : ∀ s ∈ segments, Text.isAllBlank s = false)
    (htrimmed : ∀ s ∈ segments, Text.IsTrimmed s) :
    Segment.tidy (segments.map (' ' :: ·)) = segments := by
  have hspace : Text.isBlank ' ' := by decide
  have hkept : ∀ s ∈ segments, Text.isAllBlank (' ' :: s) = false := fun s hs => by
    rw [Text.isAllBlank, List.all_cons, hspace, Bool.true_and]
    exact hblank s hs
  have htrim : ∀ s ∈ segments, Text.trim (' ' :: s) = s := fun s hs => by
    have hgap : ∀ c ∈ ([' '] : Text), Text.isBlank c := List.forall_mem_singleton.2 hspace
    rw [← List.singleton_append, Text.trim_append hgap, Text.trim_eq_self (htrimmed s hs)]
  rw [Segment.tidy, List.filter_eq_self.2 (by simpa using hkept), List.map_map]
  exact (List.map_congr_left htrim).trans (List.map_id _)

/-- Of the pieces that a written body is cut into the segments are left. -/
theorem tidy_written {s : Text} {segments : List Text}
    (hblank : ∀ t ∈ s :: segments, Text.isAllBlank t = false)
    (htrimmed : ∀ t ∈ s :: segments, Text.IsTrimmed t) :
    Segment.tidy (s :: segments.map (' ' :: ·)) = s :: segments := by
  obtain ⟨hblankHead, hblankTail⟩ := List.forall_mem_cons.1 hblank
  obtain ⟨htrimmedHead, htrimmedTail⟩ := List.forall_mem_cons.1 htrimmed
  have hkept : Segment.tidy (s :: segments.map (' ' :: ·)) =
      Text.trim s :: Segment.tidy (segments.map (' ' :: ·)) := by
    simp [Segment.tidy, hblankHead]
  rw [hkept, Text.trim_eq_self htrimmedHead, tidy_space hblankTail htrimmedTail]

/-- What is joined by a comma and a space is joined by a comma, with a space in front of each part
but the first. -/
theorem join_comma_space (s : Text) (segments : List Text) :
    Text.join ", " (s :: segments) = Text.join [','] (s :: segments.map (' ' :: ·)) := by
  induction segments generalizing s with
  | nil => rw [Text.join_singleton, List.map_nil, Text.join_singleton]
  | cons t ts ih =>
    have hfront : ∀ t : Text, Text.join [','] ((' ' :: t) :: ts.map (' ' :: ·)) =
        ' ' :: Text.join [','] (t :: ts.map (' ' :: ·)) := by
      intro t
      cases ts <;> simp [Text.join_cons_cons]
    rw [Text.join_cons_cons, ih, List.map_cons, Text.join_cons_cons, hfront]
    rfl

/-- **The segments of a written body** are the ones that were written. -/
theorem depthAware_body {d : Written} (h : ∀ s ∈ d.segments, IsSegment s) :
    Segment.depthAware d.body = d.segments := by
  rw [Nesting.depthAware_eq, Written.body]
  cases hsegments : d.segments with
  | nil => rfl
  | cons s segments =>
    rw [hsegments] at h
    obtain ⟨hs, hrest⟩ := List.forall_mem_cons.1 h
    have hpieces : ∀ p ∈ s :: segments.map (' ' :: ·), Nesting.IsPiece p := by
      refine List.forall_mem_cons.2 ⟨hs.piece, List.forall_mem_map.2 fun t ht => ?_⟩
      exact (hrest t ht).isPiece_space
    rw [join_comma_space, Nesting.cut_join (List.cons_ne_nil _ _) hpieces,
      tidy_written (fun t ht => (h t ht).not_blank) fun t ht => (h t ht).trimmed]

/-- The columns read from the body written are the columns it was written for. -/
theorem all_body {d : Written} (h : ∀ s ∈ d.segments, IsSegment s) :
    Column.all .depthAware d.body = d.columns := by
  have hconstraint : ∀ s, Column.isConstraint .depthAware s =
      (Column.beginsConstraint s || Column.mentionsForeignKey s) := fun s => Bool.or_comm ..
  rw [Column.all, Segment.all, depthAware_body h, Written.columns]
  simp only [hconstraint]

/-- **Reading undoes writing:** the tables of a written script are the ones that were written, in
their order, none of them selected, with the first words of those segments that are no constraints
for columns. -/
theorem ofScript_script (ds : List Written) (h : ∀ d ∈ ds, d.IsReadable) :
    Table.ofScript .depthAware (Written.script ds) =
      ds.map fun d => { name := d.name, columns := d.columns, selected := false } := by
  rw [Table.ofScript, all_script h, List.map_map]
  refine List.map_congr_left fun d hd => ?_
  rw [Function.comp_apply, Table.ofDeclaration, all_body (h d hd).segments]

/-- Commas and a semicolon within a literal, a quote written twice, commas within parentheses, a
column that comes twice, and constraints of both kinds. -/
def orders : List Written :=
  [⟨"[shop.order]", ["id INT", "price NUMERIC(8, (2))", "note TEXT DEFAULT 'a'',(;'",
      "CHECK (price > 0)", "id TEXT"]⟩,
    ⟨"if", []⟩,
    ⟨"\x60line\x60", ["unique_code TEXT", "Foreign Key (a) REFERENCES \"b,)\""]⟩]

/-- The declarations of the example can be read. -/
theorem orders_isReadable : ∀ d ∈ orders, d.IsReadable := by
  have hname : ∀ d ∈ orders, IsName d.name := by
    refine List.forall_mem_cons.2 ⟨?_, List.forall_mem_cons.2 ⟨?_, List.forall_mem_singleton.2 ?_⟩⟩
    · exact ⟨(['['], [']']), by decide, "shop.order", by decide, List.all_eq_true.1 (by decide),
        rfl⟩
    · exact ⟨([], []), by decide, "if", by decide, List.all_eq_true.1 (by decide), rfl⟩
    · exact ⟨(['\x60'], ['\x60']), by decide, "line", by decide, List.all_eq_true.1 (by decide),
        rfl⟩
  have hsegments : ∀ d ∈ orders, ∀ s ∈ d.segments, IsSegment s := by decide +kernel
  have hbody : ∀ d ∈ orders, ¬ EndsStatement d.body := by decide +kernel
  exact fun d hd => ⟨hname d hd, hsegments d hd, hbody d hd⟩

/-- The declarations of the example are read back, with their names and columns. -/
theorem ofScript_orders : (∀ d ∈ orders, d.IsReadable) ∧
    Table.ofScript .depthAware (Written.script orders) =
      [{ name := "[shop.order]", columns := ["id", "price", "note", "id"] },
        { name := "if", columns := [] },
        { name := "\x60line\x60", columns := ["unique_code"] }] :=
  ⟨orders_isReadable, (ofScript_script orders orders_isReadable).trans (by decide +kernel)⟩

end Sql
end Tablesmith
