/-
# The key that a check looks up

The database reports a column under its name. A script writes the name as it is if the database may
fold it to lower case, and else as a delimited identifier: between double quotes, with each double
quote in it written twice (`delimited`). A row key is to lead from what is written back to the name:

| name | written | row key |
| --- | --- | --- |
| `id` | `ID` | `id` |
| `Order Id` | `"Order Id"` | `Order Id` |
| `a"b` | `"a""b"` | `a""b` |
| `[x]` | `"[x]"` | `x` |

It takes quotes and brackets away at both ends, as many as there are, and leaves those within as
they are. So a delimited identifier leads back to its name exactly if there is no double quote in
the name, and no quote or bracket at an end of it (`rowKey_delimited_iff`). The check of a table
looks up the row key of the column that is its key (`lookedUp?_checkFunction`).

Main statement: `rowKey_eq_reported`.
-/

import Tablesmith.Module.Check
import Tablesmith.Proofs.Source.Call
import Tablesmith.Proofs.Text.Blank
import Tablesmith.Schema.Basic

namespace Tablesmith
namespace Naming

/-- A character between double quotes. -/
def doubled (c : Char) : Text := if c = '"' then ['"', '"'] else [c]

/-- A name as a delimited identifier. -/
def delimited (name : Text) : Text := '"' :: name.flatMap doubled ++ ['"']

/-- No double quote is in the name, and no quote or bracket is at an end of it. -/
structure IsRecoverable (name : Text) : Prop where
  not_mem : '"' ∉ name
  head : ∀ c ∈ name.head?, isQuote c = false
  last : ∀ c ∈ name.getLast?, isQuote c = false

/-- Doubling quotes leaves the first character. -/
theorem head?_flatMap_doubled (name : Text) : (name.flatMap doubled).head? = name.head? := by
  cases name with
  | nil => rfl
  | cons c name =>
    rw [List.flatMap_cons, doubled]
    split
    · next hc => rw [hc]; rfl
    · rfl

/-- It leaves the last one, too. -/
theorem getLast?_flatMap_doubled (name : Text) :
    (name.flatMap doubled).getLast? = name.getLast? := by
  rcases List.eq_nil_or_concat name with rfl | ⟨front, c, rfl⟩
  · rfl
  · rw [List.concat_eq_append, List.flatMap_append, List.flatMap_singleton, doubled]
    split
    · next hc => simp [hc]
    · simp

/-- Each double quote makes the text longer by one. -/
theorem length_flatMap_doubled (name : Text) :
    (name.flatMap doubled).length = name.length + name.count '"' := by
  induction name with
  | nil => rfl
  | cons c name ih =>
    rw [List.flatMap_cons, List.length_append, ih, doubled, List.count_cons, List.length_cons]
    by_cases hc : c = '"'
    · rw [if_pos hc, if_pos (beq_iff_eq.2 hc), List.length_cons, List.length_singleton]
      omega
    · rw [if_neg hc, if_neg (by simpa using hc), List.length_singleton]
      omega

/-- Doubling quotes leaves a text as it is just where there is no quote in it. -/
theorem flatMap_doubled_eq_self_iff {name : Text} :
    name.flatMap doubled = name ↔ '"' ∉ name := by
  constructor
  · intro h hmem
    have hlength := length_flatMap_doubled name
    have hcount := List.count_pos_iff.2 hmem
    rw [h] at hlength
    omega
  · intro h
    induction name with
    | nil => rfl
    | cons c name ih =>
      rw [List.mem_cons, not_or] at h
      rw [List.flatMap_cons, ih h.2, doubled, if_neg (Ne.symm h.1)]
      rfl

/-- The quotes around a name are taken away, but those in it stay written twice. -/
theorem rowKey_delimited (name : Text) :
    rowKey (delimited name) = stripQuotes (name.flatMap doubled) := by
  have hlength : 1 < (delimited name).length := by simp [delimited]
  have hquoted : isQuoted (delimited name) := by
    rw [isQuoted, decide_eq_true hlength, delimited, List.getLast?_concat]
    rfl
  have hquote : isQuote '"' := by decide
  have hback : Text.trimBy isQuote ('"' :: name.flatMap doubled ++ ['"']) =
      Text.trimBy isQuote ('"' :: name.flatMap doubled) :=
    Text.trimBy_append_of_back (List.forall_mem_singleton.2 hquote) _
  rw [rowKey, if_pos hquoted, stripQuotes, delimited, hback, Text.trimBy,
    List.dropWhile_cons_of_pos hquote]
  rfl

/-- **A delimited identifier leads back to its name** exactly if the name is recoverable. -/
theorem rowKey_delimited_iff {name : Text} :
    rowKey (delimited name) = name ↔ IsRecoverable name := by
  rw [rowKey_delimited]
  constructor
  · intro h
    obtain ⟨hhead, hlast⟩ := Text.not_of_mem_ends_trimBy (p := isQuote) (t := name.flatMap doubled)
    rw [← stripQuotes, h] at hhead hlast
    -- the ends of the name are those of the text within the quotes, which is therefore not stripped
    have hself : stripQuotes (name.flatMap doubled) = name.flatMap doubled :=
      Text.trimBy_eq_self (by rwa [head?_flatMap_doubled]) (by rwa [getLast?_flatMap_doubled])
    exact ⟨flatMap_doubled_eq_self_iff.1 (hself.symm.trans h), hhead, hlast⟩
  · rintro ⟨hmem, hhead, hlast⟩
    rw [flatMap_doubled_eq_self_iff.2 hmem]
    exact Text.trimBy_eq_self hhead hlast

/-- A name that is written as it is gets folded. -/
theorem rowKey_of_not_isQuote {column : Text} (h : ∀ c ∈ column, isQuote c = false) :
    rowKey column = Text.lower column := by
  have hquoted : isQuoted column = false := by
    cases column with
    | nil => rfl
    | cons c column =>
      have hc : isQuote c = false := h c (List.mem_cons_self ..)
      simp [isQuoted, hc]
  rw [rowKey, hquoted, if_neg Bool.false_ne_true]

end Naming

/-- What the first line that looks a key up in the row `created` looks up. -/
def Function.lookedUp? (named : Text → Option Char) (f : Function) : Option Text := do
  let (arguments, rest) ← (f.body.findSome? (Text.after? "key = created.get(")).bind
    Source.arguments?
  match arguments, rest with
  | [key], [] => Source.literal? named key
  | _, _ => none

/-- **A check looks up the row key** of the column that is the key. -/
theorem Plan.lookedUp?_checkFunction (named : Text → Option Char) (p : Plan) :
    p.checkFunction.lookedUp? named = some (Naming.rowKey p.key) := by
  have hfind : p.checkFunction.body.findSome? (Text.after? "key = created.get(") =
      some (Function.commas [Text.literal (Naming.rowKey p.key)] ++ ')' :: []) := by
    iterate 11 refine (List.findSome?_cons_of_isNone rfl).trans ?_
    exact (List.findSome?_cons_of_isSome rfl).trans rfl
  have hread := Source.arguments?_commas
    (List.forall_mem_singleton.2 (Source.isArgument_literal (Naming.rowKey p.key))) Source.reads_nil
  rw [Function.lookedUp?, hfind, Option.bind_some, hread]
  exact Source.literal?_literal named _

namespace Naming

/-- **The name under which the database reports a column is its row key,** which is what the check
looks up: for a delimited identifier exactly if its name is recoverable, and for a name without
quotes and brackets always. -/
theorem rowKey_eq_reported (named : Text → Option Char) :
    (∀ name, rowKey (delimited name) = name ↔ IsRecoverable name) ∧
      (∀ column, (∀ c ∈ column, isQuote c = false) → rowKey column = Text.lower column) ∧
      ∀ p : Plan, p.checkFunction.lookedUp? named = some (rowKey p.key) :=
  ⟨fun _ => rowKey_delimited_iff, fun _ => rowKey_of_not_isQuote,
    Plan.lookedUp?_checkFunction named⟩

/-- A delimited name of two words and a plain one in capitals have their keys. -/
theorem rowKey_eq_reported_ids :
    IsRecoverable "Order Id" ∧ rowKey (delimited "Order Id") = "Order Id".toList ∧
      rowKey "ID" = "id".toList := by
  obtain ⟨hdelimited, hfolded, -⟩ := rowKey_eq_reported fun _ => none
  have hname : IsRecoverable "Order Id" := ⟨by decide, by simp [isQuote], by simp [isQuote]⟩
  have hbare : ∀ c ∈ ("ID" : Text), isQuote c = false := by simp [isQuote]
  exact ⟨hname, (hdelimited _).2 hname, (hfolded _ hbare).trans (by decide +kernel)⟩

/-- A table with one column, whose name has a double quote in it. -/
def inches : Table where
  name := "inches"
  columns := ["\"a\"\"b\""]

/-- The check looks up a key that no row has: the database reports `a"b`. Brackets at the ends of a
name get lost. -/
theorem rowKey_ne_reported_inches :
    inches ∈ Table.ofScript .legacy "CREATE TABLE inches (\"a\"\"b\" INT);" ∧
      (Plan.ofTable inches "inches").key = delimited "a\"b" ∧
      (Plan.ofTable inches "inches").checkFunction.lookedUp? (fun _ => none) =
        some "a\"\"b".toList ∧
      rowKey (delimited "a\"b") ≠ "a\"b".toList ∧ rowKey (delimited "[x]") = "x".toList := by
  have hkey : (Plan.ofTable inches "inches").key = delimited "a\"b" := by decide +kernel
  refine ⟨by decide +kernel, hkey, ?_, by decide, by decide⟩
  rw [Plan.lookedUp?_checkFunction, hkey]
  rfl

end Naming
end Tablesmith
