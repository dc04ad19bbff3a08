/-
# Placeholders and values

The database takes every percent sign of a statement that comes with values for the beginning of a
placeholder. The statements of a table have a placeholder for each of their values. But they are
made of names as well, which stand in them as they stand in the script, and what a column is called
may hold percent signs:

| part of a statement | percent signs |
| --- | --- |
| placeholders | one each, with an `s` behind it |
| the name of a table | none, since it is made of word characters, dots and quotes |
| the name of a column | as many as the script has there |

So a statement has a value for each of its percent signs exactly if no column in it has one
(`matches_iff`). All other characters that a column may have do no harm.
-/

import Tablesmith.Proofs.Module.Execution
import Tablesmith.Proofs.Sql.Shape

namespace Tablesmith

namespace Text

/-- Does an `s` follow every percent sign? -/
def isFollowed : Text → Bool
  | [] => true
  | c :: t => (c != '%' || t.head? == some 's') && isFollowed t

/-- Two texts in which every percent sign has its `s` are such a text together. -/
theorem isFollowed_append {s t : Text} (hs : isFollowed s) (ht : isFollowed t) :
    isFollowed (s ++ t) := by
  induction s with
  | nil => exact ht
  | cons c s ih =>
    rw [isFollowed, Bool.and_eq_true] at hs
    rw [List.cons_append, isFollowed, ih hs.2, Bool.and_true]
    cases s with
    | nil =>
      -- a percent sign at the end of the first text is followed by nothing
      have hc : (c != '%') = true := by simpa using hs.1
      rw [hc, Bool.true_or]
    | cons d s => exact hs.1

/-- Without percent signs nothing has to follow. -/
theorem isFollowed_of_not_mem {t : Text} (h : '%' ∉ t) : isFollowed t := by
  induction t with
  | nil => rfl
  | cons c t ih =>
    rw [List.mem_cons, not_or] at h
    rw [isFollowed, ih h.2, bne_iff_ne.2 (Ne.symm h.1)]
    rfl

/-- There are so many percent signs in the text, and an `s` follows each. -/
structure IsTemplate (t : Text) (n : Nat) : Prop where
  count : t.count '%' = n
  isFollowed : isFollowed t

/-- A text without percent signs has no placeholders. -/
theorem isTemplate_of_not_mem {t : Text} (h : '%' ∉ t) : IsTemplate t 0 :=
  ⟨List.count_eq_zero.2 h, isFollowed_of_not_mem h⟩

/-- The placeholders of two texts add up. -/
theorem IsTemplate.append {s t : Text} {m n : Nat} (hs : IsTemplate s m) (ht : IsTemplate t n) :
    IsTemplate (s ++ t) (m + n) :=
  ⟨by rw [List.count_append, hs.count, ht.count], isFollowed_append hs.isFollowed ht.isFollowed⟩

/-- Each part brings so many percent signs, and what is between the parts brings none. -/
theorem IsTemplate.commas {parts : List Text} {n : Nat} (h : ∀ t ∈ parts, IsTemplate t n) :
    IsTemplate (Function.commas parts) (parts.length * n) := by
  induction parts with
  | nil => exact ⟨by simp [Function.commas, join], rfl⟩
  | cons t parts ih =>
    obtain ⟨ht, hparts⟩ := List.forall_mem_cons.1 h
    cases parts with
    | nil => simpa [Function.commas] using ht
    | cons u parts =>
      have hcomma : IsTemplate ", " 0 := ⟨rfl, rfl⟩
      have hall := ht.append (hcomma.append (ih hparts))
      have hlength : (t :: u :: parts).length * n = n + (0 + (u :: parts).length * n) := by
        rw [List.length_cons, Nat.succ_mul, Nat.zero_add, Nat.add_comm]
      rw [Function.commas, join_cons_cons, hlength]
      exact hall

/-- What stands between commas has a percent sign if one of the parts has. -/
theorem mem_commas {parts : List Text} {t : Text} {c : Char} (ht : t ∈ parts) (hc : c ∈ t) :
    c ∈ Function.commas parts := by
  induction parts with
  | nil => cases ht
  | cons u parts ih =>
    cases parts with
    | nil =>
      rw [List.mem_singleton.1 ht] at hc
      simpa [Function.commas] using hc
    | cons v parts =>
      rw [Function.commas, join_cons_cons, List.mem_append, List.mem_append]
      rcases List.mem_cons.1 ht with rfl | ht
      · exact .inl hc
      · exact .inr (.inr (ih ht))

end Text

open Text (IsTemplate isTemplate_of_not_mem)

namespace Execution

/-- Every percent sign of the statement begins a placeholder, and there is a value for each. Without
values, percent signs are nothing but themselves. -/
def Matches (e : Execution) : Prop := ∀ values ∈ e.values, IsTemplate e.statement values.length

/-- Without values a statement is handed over as it is. -/
theorem matches_none (s : Text) : Matches ⟨s, none⟩ := by
  rintro values ⟨⟩

/-- With values there is a placeholder for each, and no other percent sign. -/
theorem matches_some_iff {s : Text} {values : List Text} :
    Matches ⟨s, some values⟩ ↔ IsTemplate s values.length :=
  ⟨fun h => h values rfl, by rintro h _ ⟨⟩; exact h⟩

end Execution

namespace Plan

/-- What the functions of a table are read to execute, if all of it can be read. -/
def executions? (named : Text → Option Char) (p : Plan) : Option (List Execution) :=
  (p.functions.mapM (Execution.ofFunction? named)).map List.flatten

/-- What the functions of a table execute. -/
def executions (p : Plan) : List Execution :=
  [⟨p.listStatement, none⟩, ⟨p.lookupStatement, some [p.keyParam]⟩,
      ⟨p.insertStatement, if p.insertColumns.isEmpty then none else some p.insertParams⟩]
    ++ (if p.updateColumns.isEmpty then [] else [⟨p.updateStatement, some p.updateValues⟩])
    ++ [⟨p.deleteStatement, some [p.keyParam]⟩]

/-- All that the functions of a table execute is read off them. -/
theorem executions?_eq (named : Text → Option Char) {p : Plan} (h : p.IsNamed) :
    p.executions? named = some p.executions := by
  rw [executions?, functions, List.mapM_cons, List.mapM_cons, List.mapM_cons, List.mapM_cons,
    List.mapM_cons, Execution.ofFunction?_listFunction,
    Execution.ofFunction?_lookupFunction named h, Execution.ofFunction?_insertFunction named h,
    Execution.ofFunction?_updateFunction named h,
    Execution.ofFunction?_deleteFunction named h]
  simp [executions]

/-- The values that are handed over, function by function. -/
theorem filterMap_values_executions (p : Plan) : p.executions.filterMap Execution.values =
    [[p.keyParam]] ++ (if p.insertColumns.isEmpty then [] else [p.insertParams])
      ++ (if p.updateColumns.isEmpty then [] else [p.updateValues]) ++ [[p.keyParam]] := by
  rw [executions]
  cases p.insertColumns.isEmpty <;> cases p.updateColumns.isEmpty <;> rfl

section

variable {p : Plan}

/-- The condition on the key has one placeholder. -/
theorem isTemplate_keyCondition (hkey : '%' ∉ p.key) : IsTemplate p.keyCondition 1 := by
  have hfront : IsTemplate " WHERE " 0 := ⟨rfl, rfl⟩
  have hback : IsTemplate " = %s" 1 := ⟨rfl, rfl⟩
  exact (hfront.append (isTemplate_of_not_mem hkey)).append hback

/-- The placeholders for columns are one for each. -/
theorem isTemplate_placeholders (columns : List Text) :
    IsTemplate (Function.commas (placeholders columns)) columns.length := by
  have hone : ∀ t ∈ placeholders columns, IsTemplate t 1 :=
    List.forall_mem_map.2 fun _ _ => ⟨rfl, rfl⟩
  simpa using IsTemplate.commas hone

section

variable (hname : '%' ∉ p.table.name)
include hname

/-- Looking up takes one value. -/
theorem isTemplate_lookupStatement (hkey : '%' ∉ p.key) : IsTemplate p.lookupStatement 1 := by
  have hfront : IsTemplate "SELECT * FROM " 0 := ⟨rfl, rfl⟩
  have hback : IsTemplate ";" 0 := ⟨rfl, rfl⟩
  exact ((hfront.append (isTemplate_of_not_mem hname)).append
    (isTemplate_keyCondition hkey)).append hback

/-- Inserting takes a value for each column. -/
theorem isTemplate_insertStatement (hne : p.insertColumns.isEmpty = false)
    (hcolumns : ∀ c ∈ p.insertColumns, '%' ∉ c) :
    IsTemplate p.insertStatement p.insertColumns.length := by
  have hfront : IsTemplate "INSERT INTO " 0 := ⟨rfl, rfl⟩
  have hopen : IsTemplate " (" 0 := ⟨rfl, rfl⟩
  have hvalues : IsTemplate ") VALUES (" 0 := ⟨rfl, rfl⟩
  have hback : IsTemplate ") RETURNING *;" 0 := ⟨rfl, rfl⟩
  have hnames := IsTemplate.commas fun c hc => isTemplate_of_not_mem (hcolumns c hc)
  have hall := (((((hfront.append (isTemplate_of_not_mem hname)).append hopen).append
    hnames).append hvalues).append (isTemplate_placeholders p.insertColumns)).append hback
  rw [insertStatement, hne]
  simpa using hall

/-- Updating takes a value for each column, and one for the key. -/
theorem isTemplate_updateStatement (hkey : '%' ∉ p.key)
    (hcolumns : ∀ c ∈ p.updateColumns, '%' ∉ c) :
    IsTemplate p.updateStatement (p.updateColumns.length + 1) := by
  have hfront : IsTemplate "UPDATE " 0 := ⟨rfl, rfl⟩
  have hset : IsTemplate " SET " 0 := ⟨rfl, rfl⟩
  have hone : IsTemplate " = %s" 1 := ⟨rfl, rfl⟩
  have hback : IsTemplate " RETURNING *;" 0 := ⟨rfl, rfl⟩
  have hassigned : ∀ t ∈ p.updateColumns.map fun c : Text => c ++ (" = %s" : Text),
      IsTemplate t 1 :=
    List.forall_mem_map.2 fun c hc => (isTemplate_of_not_mem (hcolumns c hc)).append hone
  have hall := ((((hfront.append (isTemplate_of_not_mem hname)).append hset).append
    (IsTemplate.commas hassigned)).append (isTemplate_keyCondition hkey)).append hback
  have hlength : 0 + 0 + 0 + (p.updateColumns.map fun c : Text => c ++ (" = %s" : Text)).length * 1
      + 1 + 0 = p.updateColumns.length + 1 := by
    rw [List.length_map]
    omega
  rw [hlength] at hall
  exact hall

/-- Deleting takes one value. -/
theorem isTemplate_deleteStatement (hkey : '%' ∉ p.key) : IsTemplate p.deleteStatement 1 := by
  have hfront : IsTemplate "DELETE FROM " 0 := ⟨rfl, rfl⟩
  have hback : IsTemplate ";" 0 := ⟨rfl, rfl⟩
  exact ((hfront.append (isTemplate_of_not_mem hname)).append
    (isTemplate_keyCondition hkey)).append hback

end

/-- The statement that looks up, piece by piece. -/
theorem lookupStatement_eq (p : Plan) : p.lookupStatement = ("SELECT * FROM " : Text)
    ++ p.table.name ++ ((" WHERE " : Text) ++ p.key ++ " = %s") ++ ";" := rfl

/-- A percent sign in the key is one too many where a row is looked up. -/
theorem one_lt_count_lookupStatement (hkey : '%' ∈ p.key) : 1 < p.lookupStatement.count '%' := by
  have hpos := List.count_pos_iff.2 hkey
  have hcount : p.lookupStatement.count '%' =
      p.table.name.count '%' + (p.key.count '%' + 1) := by
    rw [lookupStatement_eq, List.count_append, List.count_append, List.count_append,
      List.count_append, List.count_append]
    show 0 + _ + (0 + _ + 1) + 0 = _
    omega
  omega

/-- A percent sign in a column is one too many where a row is inserted. -/
theorem length_lt_count_insertStatement {c : Text} (hc : c ∈ p.insertColumns) (hpercent : '%' ∈ c) :
    p.insertColumns.length < p.insertStatement.count '%' := by
  have hpos := List.count_pos_iff.2 (Text.mem_commas hc hpercent)
  have hne : p.insertColumns.isEmpty = false :=
    List.isEmpty_eq_false_iff.2 (List.ne_nil_of_mem hc)
  have hcount : p.insertStatement.count '%' = p.table.name.count '%'
      + (Function.commas p.insertColumns).count '%' + p.insertColumns.length := by
    rw [insertStatement, hne, if_neg Bool.false_ne_true, List.count_append, List.count_append,
      List.count_append, List.count_append, List.count_append, List.count_append,
      (isTemplate_placeholders p.insertColumns).count]
    show 0 + _ + 0 + _ + 0 + _ + 0 = _
    omega
  omega

end

section

variable {p : Plan}

open Execution (Matches matches_none matches_some_iff)

/-- Without percent signs in names, every statement has a placeholder for each value. -/
theorem matches_of_not_mem (hname : '%' ∉ p.table.name)
    (hinserts : p.insertParams.length = p.insertColumns.length)
    (hupdates : p.updateParams.length = p.updateColumns.length)
    (hkey : '%' ∉ p.key) (hinsert : ∀ c ∈ p.insertColumns, '%' ∉ c)
    (hupdate : ∀ c ∈ p.updateColumns, '%' ∉ c) : ∀ e ∈ p.executions, e.Matches := by
  have hinsertMatches : Matches ⟨p.insertStatement,
      if p.insertColumns.isEmpty then none else some p.insertParams⟩ := by
    split
    · exact matches_none _
    · next hne =>
      rw [matches_some_iff, hinserts]
      exact isTemplate_insertStatement hname (Bool.eq_false_iff.2 hne) hinsert
  have hupdateMatches : Matches ⟨p.updateStatement, some p.updateValues⟩ := by
    have hlength : p.updateValues.length = p.updateColumns.length + 1 := by
      rw [updateValues, List.length_append, hupdates]
      rfl
    rw [matches_some_iff, hlength]
    exact isTemplate_updateStatement hname hkey hupdate
  have hlookup : Matches ⟨p.lookupStatement, some [p.keyParam]⟩ :=
    matches_some_iff.2 (isTemplate_lookupStatement hname hkey)
  have hdelete : Matches ⟨p.deleteStatement, some [p.keyParam]⟩ :=
    matches_some_iff.2 (isTemplate_deleteStatement hname hkey)
  simp only [executions, List.forall_mem_append, List.forall_mem_cons]
  refine ⟨⟨⟨matches_none _, hlookup, hinsertMatches, List.forall_mem_nil _⟩, ?_⟩, hdelete,
    List.forall_mem_nil _⟩
  split
  · exact List.forall_mem_nil _
  · exact List.forall_mem_singleton.2 hupdateMatches

/-- Where every statement matches its values, no percent sign is in the key or an
inserted column. -/
theorem not_mem_of_matches (hinserts : p.insertParams.length = p.insertColumns.length)
    (h : ∀ e ∈ p.executions, e.Matches) :
    '%' ∉ p.key ∧ ∀ c ∈ p.insertColumns, '%' ∉ c := by
  have hlookup := h ⟨p.lookupStatement, some [p.keyParam]⟩ (by simp [executions])
  refine ⟨fun hkey => ?_, fun c hc hpercent => ?_⟩
  · exact absurd (matches_some_iff.1 hlookup).count (one_lt_count_lookupStatement hkey).ne'
  · have hne : p.insertColumns.isEmpty = false :=
      List.isEmpty_eq_false_iff.2 (List.ne_nil_of_mem hc)
    have hinsert := h ⟨p.insertStatement, some p.insertParams⟩ (by simp [executions, hne])
    have hcount := (matches_some_iff.1 hinsert).count
    rw [hinserts] at hcount
    exact absurd hcount (length_lt_count_insertStatement hc hpercent).ne'

end

/-- **A statement of a script's table has a value for each percent sign** exactly if there is no
percent sign in its key and in the columns that are written. Values are handed over in looking up,
inserting, updating and deleting, the second and third only if there are columns to write. -/
theorem matches_iff (named : Text → Option Char) {mode : Sql.SplitMode} {script : Text} {t : Table}
    (ht : t ∈ Table.ofScript mode script) (base : Text) :
    ∃ es, (ofTable t base).executions? named = some es ∧
      es.filterMap Execution.values =
        [[(ofTable t base).keyParam]]
          ++ (if (ofTable t base).insertColumns.isEmpty then []
            else [(ofTable t base).insertParams])
          ++ (if (ofTable t base).updateColumns.isEmpty then []
            else [(ofTable t base).updateValues])
          ++ [[(ofTable t base).keyParam]] ∧
      ((∀ e ∈ es, e.Matches) ↔
        '%' ∉ (ofTable t base).key ∧
          ∀ c ∈ (ofTable t base).insertColumns ++ (ofTable t base).updateColumns, '%' ∉ c) := by
  have hname : '%' ∉ (ofTable t base).table.name := fun hmem =>
    absurd ((Table.isRead_of_mem_ofScript ht).name '%' hmem) (by decide)
  have hcolumns : (ofTable t base).updateColumns = (ofTable t base).insertColumns :=
    Role.updated_eq_inserted t.columns
  refine ⟨_, executions?_eq named (isNamed_ofTable t base), filterMap_values_executions _,
    fun h => ?_, fun h => ?_⟩
  · obtain ⟨hkey, hinsert⟩ := not_mem_of_matches (length_params _) h
    exact ⟨hkey, List.forall_mem_append.2 ⟨hinsert, hcolumns ▸ hinsert⟩⟩
  · obtain ⟨hinsert, hupdate⟩ := List.forall_mem_append.1 h.2
    exact matches_of_not_mem hname (length_params _) (length_params _) h.1 hinsert hupdate

/-- A table without percent signs. -/
def prices : Table where
  name := "prices"
  columns := ["id", "amount"]

/-- The functions for the prices execute statements that match their values. -/
theorem matches_prices :
    prices ∈ Table.ofScript .legacy "CREATE TABLE prices (id INT, amount INT);" ∧
      ∃ es, (ofTable prices "prices").executions? (fun _ => none) = some es ∧
        ∀ e ∈ es, e.Matches := by
  have hmem : prices ∈ Table.ofScript .legacy "CREATE TABLE prices (id INT, amount INT);" := by
    decide +kernel
  obtain ⟨es, hread, -, hmatches⟩ := matches_iff (fun _ => none) hmem "prices"
  exact ⟨hmem, es, hread, hmatches.2 (by decide +kernel)⟩

/-- A table with a column that is called after a percentage. -/
def discounts : Table where
  name := "discounts"
  columns := ["id", "\"pct%\""]

/-- The statement that inserts a row has a percent sign more than there are values. -/
theorem not_matches_discounts :
    discounts ∈ Table.ofScript .legacy "CREATE TABLE discounts (id INT, \"pct%\" INT);" ∧
      ∃ es, (ofTable discounts "discounts").executions? (fun _ => none) = some es ∧
        ⟨"INSERT INTO discounts (\"pct%\") VALUES (%s) RETURNING *;", some ["pct"]⟩ ∈ es ∧
        ∃ e ∈ es, ¬ e.Matches := by
  have hinsert : ⟨"INSERT INTO discounts (\"pct%\") VALUES (%s) RETURNING *;", some ["pct"]⟩ ∈
      (ofTable discounts "discounts").executions := by decide +kernel
  refine ⟨by decide +kernel, _, executions?_eq _ (isNamed_ofTable _ _), hinsert, _, hinsert, ?_⟩
  exact fun h => absurd (Execution.matches_some_iff.1 h).count (by decide)

end Plan
end Tablesmith
