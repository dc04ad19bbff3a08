/-
# What the functions of a table execute

A function of a table hands the database a statement, and values for its placeholders if it has any.
Both are read off the text of its body, as whoever runs the function finds them: the statement is
what a literal stands for, and the values are what stands in a tuple. Where the statement goes by
the name `sql`, it is what the body binds this name to.

| function | statement | values |
| --- | --- | --- |
| list | `listStatement` | none |
| look up | `lookupStatement` | the key's parameter |
| insert | `insertStatement` | the columns' parameters, if there are any |
| update | `updateStatement`, if a column is to be written | the columns' parameters, the key's |
| delete | `deleteStatement` | the key's parameter |

Literals read back and the parameters are names (`isNamed_ofTable`), so this is what is found,
whatever the table is and whatever its functions are named after.
-/

import Tablesmith.Proofs.Module.Parameters
import Tablesmith.Proofs.Source.Call
import Tablesmith.Proofs.Source.Name

namespace Tablesmith

open Source (IsWord IsValue IsArgument arguments? tuple? tokensOf unescape?)

namespace Plan

open Source (isWord_identifier isWord_fresh isWord_unique)

/-- The parameters are names. -/
structure IsNamed (p : Plan) : Prop where
  keyParam : IsWord p.keyParam
  insertParams : ∀ x ∈ p.insertParams, IsWord x
  updateParams : ∀ x ∈ p.updateParams, IsWord x

/-- The parameters of columns are words. -/
theorem isWord_params (columns : List Text) : ∀ x ∈ params columns, IsWord x :=
  isWord_unique (List.forall_mem_map.2 fun c _ => isWord_identifier c) bodyNames

/-- The parameter of the key is a word. -/
theorem isWord_keyParamFor (key : Text) (others : List Text) : IsWord (keyParamFor key others) := by
  have hfront : IsWord ("current_" : Text) := ⟨by decide, by decide⟩
  simp only [keyParamFor]
  split
  · exact isWord_fresh (hfront.append (isWord_identifier key).isName) _
  · exact isWord_identifier key

/-- **Parameters are names,** whatever the columns are. -/
theorem isNamed_ofTable (t : Table) (base : Text) : (ofTable t base).IsNamed :=
  ⟨isWord_keyParamFor _ _, isWord_params _, isWord_params _⟩

/-- The plans for tables have names for parameters. -/
theorem isNamed_of_mem_all {tables : List Table} : ∀ p ∈ all tables, p.IsNamed := by
  intro p hp
  rw [all, ← List.map_uncurry_zip_eq_zipWith] at hp
  obtain ⟨⟨t, base⟩, -, rfl⟩ := List.mem_map.1 hp
  exact isNamed_ofTable t base

/-- What functions are named after is a name. -/
theorem isName_base_of_mem_all {tables : List Table} : ∀ p ∈ all tables, Source.IsName p.base := by
  intro p hp
  rw [all, ← List.map_uncurry_zip_eq_zipWith] at hp
  obtain ⟨⟨t, base⟩, hpair, rfl⟩ := List.mem_map.1 hp
  refine Naming.forall_mem_unique Source.isNameChar_of_isWord
    (List.forall_mem_map.2 fun u _ => ?_) [] base (List.of_mem_zip hpair).2
  exact Source.isName_lowerIdentifier u.name

end Plan

/-- What the database is given to execute: a statement, and how the values for its placeholders are
written, if any are handed over. -/
structure Execution where
  statement : Text
  values : Option (List Text)
deriving Repr, DecidableEq

namespace Execution

/-- What stands in front of the arguments where a statement is executed. -/
def fronts : List Text := ["return run_query(", "rows = run_query(", "cur.execute("]

/-- What stands behind the front, if a statement is executed on the line. -/
def back? (line : Text) : Option Text :=
  let code := line.dropWhile (· == ' ')
  fronts.findSome? fun front => Text.after? front code

/-- The statement that an argument stands for, where `sql` stands for the given one. -/
def statement? (named : Text → Option Char) (sql : Option Text) : List Source.Token → Option Text
  | [.word name] => if name = "sql".toList then sql else none
  | [.literal body] => unescape? named body
  | _ => none

/-- The statement that a body binds the name `sql` to. -/
def bound? (named : Text → Option Char) (body : List Text) : Option Text :=
  (body.findSome? (Text.after? "sql = ")).bind fun back => statement? named none (tokensOf back)

/-- The execution with these arguments. -/
def ofArguments? (named : Text → Option Char) (sql : Option Text) :
    List (List Source.Token) → Option Execution
  | [s] => (statement? named sql s).map fun text => ⟨text, none⟩
  | [s, values] =>
    (statement? named sql s).bind fun text => (tuple? values).map fun found => ⟨text, some found⟩
  | _ => none

/-- The execution with the arguments at the front of the text. Nothing may follow them. -/
def ofCall? (named : Text → Option Char) (sql : Option Text) (back : Text) : Option Execution :=
  (arguments? back).bind fun found =>
    if found.2 = [] then ofArguments? named sql found.1 else none

/-- What a function executes, if all of it can be read. -/
def ofFunction? (named : Text → Option Char) (f : Function) : Option (List Execution) :=
  (f.body.filterMap back?).mapM (ofCall? named (bound? named f.body))

example : ofFunction? (fun _ => none) { name := "f", body := ["sql = \"\\u0041 %s;\"",
      "print(sql)", "    cur.execute(sql, (a, b))", "return run_query(\"B;\")"] } =
    some [⟨"A %s;", some ["a", "b"]⟩, ⟨"B;", none⟩] := by decide +kernel

section

variable {named : Text → Option Char} {sql : Option Text} {s : Text}

/-- A literal stands for its text, also where another text goes by the name `sql`. -/
theorem statement?_literal : statement? named sql (tokensOf (Text.literal s)) = some s := by
  rw [Source.tokensOf_literal]
  exact Source.unescape?_escape named s

/-- A single argument is the statement, and there are no values. -/
theorem ofCall?_single (h : IsArgument s) :
    ofCall? named sql (Function.commas [s] ++ ")") =
      (statement? named sql (tokensOf s)).map fun text => ⟨text, none⟩ := by
  have hread := Source.arguments?_commas (List.forall_mem_singleton.2 h) Source.reads_nil
  have hclose : (")" : Text) = ')' :: [] := rfl
  rw [ofCall?, hclose, hread]
  rfl

/-- An argument with a tuple behind it is the statement for the tuple's values. -/
theorem ofCall?_pair (h : IsArgument s) {values : List Text} (hvalues : ∀ v ∈ values, IsValue v) :
    ofCall? named sql (Function.commas [s, Function.tuple values] ++ ")") =
      (statement? named sql (tokensOf s)).map fun text => ⟨text, some values⟩ := by
  obtain ⟨htuple, hread⟩ := Source.isArgument_tuple hvalues
  have hall : ∀ t ∈ [s, Function.tuple values], IsArgument t :=
    List.forall_mem_cons.2 ⟨h, List.forall_mem_singleton.2 htuple⟩
  have hclose : (")" : Text) = ')' :: [] := rfl
  rw [ofCall?, hclose, Source.arguments?_commas hall Source.reads_nil]
  show (statement? named sql (tokensOf s)).bind (fun text =>
    (tuple? (tokensOf (Function.tuple values))).map fun found => Execution.mk text (some found)) = _
  rw [hread]
  cases statement? named sql (tokensOf s) <;> rfl

end

section

open Plan (guarded)

/-- The lines around a statement execute it and nothing else. -/
theorem filterMap_guarded {function sql args result failed : Text}
    (hresult : back? (("                " : Text) ++ result) = none)
    (hfailed : back? (("    return " : Text) ++ failed) = none) :
    (guarded function sql args result failed).filterMap back? = [args ++ ")"] := by
  have hcall : back? (("                cur.execute(" : Text) ++ args ++ ")") =
      some (args ++ ")") := rfl
  simp only [guarded]
  rw [List.filterMap_cons_none rfl, List.filterMap_cons_none rfl, List.filterMap_cons_none rfl,
    List.filterMap_cons_none rfl, List.filterMap_cons_none rfl, List.filterMap_cons_some hcall,
    List.filterMap_cons_none hresult, List.filterMap_cons_none rfl, List.filterMap_cons_none rfl,
    List.filterMap_cons_none rfl, List.filterMap_cons_none rfl, List.filterMap_cons_none rfl,
    List.filterMap_cons_none rfl, List.filterMap_cons_none hfailed, List.filterMap_nil]

variable {named : Text → Option Char} {sentence function s args result failed : Text}
  {others : List Text} {e : Execution}

/-- A function that runs its statement on a connection of its own executes just this. -/
theorem ofFunction?_of_guarded {f : Function}
    (hbody : f.body = [Function.doc sentence]
      ++ guarded function (Text.literal s) args result failed ++ others)
    (hresult : back? (("                " : Text) ++ result) = none)
    (hfailed : back? (("    return " : Text) ++ failed) = none)
    (hothers : others.filterMap back? = [])
    (hargs : ofCall? named (some s) (args ++ ")") = some e) :
    ofFunction? named f = some [e] := by
  have hbound : bound? named f.body = some s := by
    rw [hbody]
    exact statement?_literal
  have hcalls : f.body.filterMap back? = [args ++ ")"] := by
    rw [hbody, List.filterMap_append, List.filterMap_append, filterMap_guarded hresult hfailed,
      hothers, List.filterMap_cons_none rfl]
    rfl
  rw [ofFunction?, hbound, hcalls, List.mapM_cons, hargs]
  rfl

/-- The name `sql` can be an argument. -/
theorem isArgument_sql : IsArgument "sql" :=
  (IsWord.isValue ⟨by decide, by decide⟩).toIsArgument

/-- It is read as one word. -/
theorem tokensOf_sql : tokensOf "sql" = [.word "sql"] := by decide

/-- It stands in front of a comma and what follows. -/
theorem commas_sql (t : Text) : Function.commas ["sql", t] = ("sql, " : Text) ++ t := by
  rw [Function.commas, Text.join_cons_cons, Text.join_singleton]
  rfl

/-- Where the statement goes by `sql`, values are handed over behind it. -/
theorem ofCall?_sql {values : List Text} (h : ∀ v ∈ values, IsWord v) :
    ofCall? named (some s) (("sql, " : Text) ++ Function.tuple values ++ ")") =
      some ⟨s, some values⟩ := by
  have hpair : ofCall? named (some s) _ = _ := ofCall?_pair isArgument_sql
    fun v hv => (h v hv).isValue
  rw [tokensOf_sql, commas_sql] at hpair
  exact hpair

end

variable (named : Text → Option Char) {p : Plan}

/-- Listing executes one statement, without values. -/
theorem ofFunction?_listFunction (p : Plan) :
    ofFunction? named p.listFunction = some [⟨p.listStatement, none⟩] := by
  have hcalls : p.listFunction.body.filterMap back? =
      [Function.commas [Text.literal p.listStatement] ++ ")"] := by
    rw [Plan.listFunction, List.filterMap_cons_none rfl]
    rfl
  rw [ofFunction?, hcalls, List.mapM_cons, ofCall?_single (Source.isArgument_literal _),
    statement?_literal]
  rfl

/-- Looking up executes one statement with the key's parameter. -/
theorem ofFunction?_lookupFunction (h : p.IsNamed) :
    ofFunction? named p.lookupFunction = some [⟨p.lookupStatement, some [p.keyParam]⟩] := by
  have hcalls : p.lookupFunction.body.filterMap back? =
      [Function.commas [Text.literal p.lookupStatement, Function.tuple [p.keyParam]] ++ ")"] := by
    rw [Plan.lookupFunction, List.filterMap_cons_none rfl]
    rfl
  rw [ofFunction?, hcalls, List.mapM_cons, ofCall?_pair (Source.isArgument_literal _)
    (List.forall_mem_singleton.2 h.keyParam.isValue), statement?_literal]
  rfl

/-- Inserting executes one statement with the parameters of the columns, if there are any. -/
theorem ofFunction?_insertFunction (h : p.IsNamed) :
    ofFunction? named p.insertFunction = some [⟨p.insertStatement,
      if p.insertColumns.isEmpty then none else some p.insertParams⟩] := by
  refine ofFunction?_of_guarded rfl rfl rfl rfl ?_
  split
  · have hsingle : ofCall? named (some p.insertStatement) _ = _ := ofCall?_single isArgument_sql
    rw [tokensOf_sql] at hsingle
    exact hsingle
  · exact ofCall?_sql h.insertParams

/-- Updating executes one statement with the parameters, the key's last, if there is a column
to write. -/
theorem ofFunction?_updateFunction (h : p.IsNamed) :
    ofFunction? named p.updateFunction = some (if p.updateColumns.isEmpty then []
      else [⟨p.updateStatement, some p.updateValues⟩]) := by
  rw [Plan.updateFunction]
  split
  · rfl
  · refine ofFunction?_of_guarded rfl rfl rfl rfl (ofCall?_sql ?_)
    exact List.forall_mem_append.2 ⟨h.updateParams, List.forall_mem_singleton.2 h.keyParam⟩

/-- Deleting executes one statement with the key's parameter. -/
theorem ofFunction?_deleteFunction (h : p.IsNamed) :
    ofFunction? named p.deleteFunction = some [⟨p.deleteStatement, some [p.keyParam]⟩] := by
  refine ofFunction?_of_guarded rfl rfl rfl rfl (ofCall?_sql ?_)
  exact List.forall_mem_singleton.2 h.keyParam

end Execution
end Tablesmith
