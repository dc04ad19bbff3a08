/-
# Names of the script in literals

The functions of a table carry names of the script in their documentation, in their messages and in
the fields of messages, and the documentation of the module carries the names of the database and
of all tables. None of them ends the literal that it stands in, or opens a field in it:

| text | stands in | why it ends nothing |
| --- | --- | --- |
| a label | documentation, messages | it has no quote, backslash, brace or line break |
| the name of a function | messages, fields | it is made of word characters |
| a parameter | a field | it is a name |
| a statement, the key of a row | a literal of its own | a literal escapes |

So the functions are read as code with the literals of `functionQuotations` and `checkQuotations`,
which say for each template what stands between its quotes and in its fields
(`labels_stay_inside`). The columns of a table stand as they are in the comment above its functions,
and nowhere else: as long as they stay on their line, the same holds of the section as a whole. They
do if a script declares them, because a column of a script has no blanks; only a zero is neither
blank nor part of source code (`isRemark_of_mem_columns`).
-/

import Tablesmith.Module.Preamble
import Tablesmith.Proofs.Module.Hiding
import Tablesmith.Proofs.Module.Section
import Tablesmith.Proofs.Naming.Normalisation
import Tablesmith.Proofs.Source.Quotation
import Tablesmith.Proofs.Sql.Shape

namespace Tablesmith

open Source (Field Quotation quotationsOf Quotes IsName IsWord IsVerbatim isVerbatim_append_iff
  isVerbatim_label)
open Source.Cut

namespace Plan

/-- The literals of the lines that run a statement on a connection of their own. -/
def guardedQuotations (function statement : Text) : List Quotation :=
  [.plain (Text.escape statement), .formatted [⟨function ++ " failed: ", "error", none⟩] []]

/-- The literals of the function that lists all rows. -/
def listQuotations (p : Plan) : List Quotation :=
  [.long ("Return every row of " ++ p.label ++ " (an empty list when the table is empty)."),
    .plain (Text.escape p.listStatement)]

/-- The literals of the function that looks a row up. -/
def lookupQuotations (p : Plan) : List Quotation :=
  [.long ("Return the " ++ p.label ++ " row whose " ++ Naming.label p.key ++ " matches, or None."),
    .plain (Text.escape p.lookupStatement)]

/-- The literals of the function that adds a row. -/
def insertQuotations (p : Plan) : List Quotation :=
  .long ("Insert one row into " ++ p.label ++ " and return it, or None on failure.")
    :: guardedQuotations p.insert p.insertStatement

/-- The literals of the function that changes a row. -/
def updateQuotations (p : Plan) : List Quotation :=
  if p.updateColumns.isEmpty then
    [.long (p.label ++ " has no updatable columns; returns the current row, or None.")]
  else
    .long ("Update the " ++ p.label ++ " row whose " ++ Naming.label p.key
        ++ " matches and return it, or None.")
      :: guardedQuotations p.update p.updateStatement
      ++ [.formatted [⟨p.update ++ ": no row in " ++ p.label ++ " with " ++ Naming.label p.key
        ++ " = ", p.keyParam, some 'r'⟩] " (not found)"]

/-- The literals of the function that removes a row. -/
def deleteQuotations (p : Plan) : List Quotation :=
  .long ("Delete the " ++ p.label ++ " row whose " ++ Naming.label p.key
      ++ " matches; True if a row was deleted.")
    :: guardedQuotations p.delete p.deleteStatement

/-- The literals of each of the five functions. -/
def functionQuotations (p : Plan) : List (List Quotation) :=
  [p.listQuotations, p.lookupQuotations, p.insertQuotations, p.updateQuotations, p.deleteQuotations]

/-- A message of the check. -/
def noted (p : Plan) (message : Text) : Quotation := .plain (p.label ++ ": " ++ message)

/-- A message of the check with one field. -/
def logged (p : Plan) (before expression last : Text) : Quotation :=
  .formatted [⟨p.label ++ ": " ++ before, expression, none⟩] last

/-- The literals of the check. Sample values bring their own. -/
def checkQuotations (p : Plan) : List Quotation :=
  let rows := Function.call "len" [Function.call p.listAll []]
  let fetched := Function.call p.getById ["key"]
  [.long ("Round-trip one synthesized row through the " ++ p.label ++ " functions."),
    p.noted "checking connectivity", .plain "SELECT 1;",
    p.logged [] rows " existing row(s)"]
  ++ p.insertArgs.flatMap quotationsOf
  ++ [p.noted "insert failed, skipping remaining steps",
    p.logged "inserted " "created" [], .plain (Text.escape (Naming.rowKey p.key)),
    p.logged "fetched " fetched []]
  ++ p.updateArgs.flatMap quotationsOf
  ++ [p.logged "updated " "updated" [], p.logged "re-fetched " fetched [],
    p.logged [] rows " row(s) after the check"]

section

variable {p : Plan} (hbase : IsName p.base)
include hbase

/-- The function that lists has a word for its name. -/
theorem isWord_listAll : IsWord p.listAll := IsWord.append ⟨by decide, by decide⟩ hbase

/-- So has the one that looks up. -/
theorem isWord_getById : IsWord p.getById :=
  IsWord.append (IsWord.append ⟨by decide, by decide⟩ hbase) (by decide)

/-- So has the one that inserts. -/
theorem isWord_insert : IsWord p.insert := IsWord.append ⟨by decide, by decide⟩ hbase

/-- So has the one that updates. -/
theorem isWord_update : IsWord p.update := IsWord.append ⟨by decide, by decide⟩ hbase

/-- So has the one that deletes. -/
theorem isWord_delete : IsWord p.delete := IsWord.append ⟨by decide, by decide⟩ hbase

/-- So has the check. -/
theorem isWord_check : IsWord p.check := IsWord.append ⟨by decide, by decide⟩ hbase

end

/-- Documentation that is plain around its labels. -/
theorem lineQuotes_doc {t : Text} (h : IsVerbatim t) : LineQuotes [Function.doc t] [.long t] :=
  (holds_doc (isUnbroken_of_isVerbatim h)).lineQuotes

/-- The message that the database refused a statement. -/
theorem holds_failed {function : Text} (h : IsWord function) :
    Holds (("    print(f\"" : Text) ++ function ++ " failed: \x7berror\x7d\")")
      [.formatted [⟨function ++ " failed: ", "error", none⟩] []] := by
  have hopen : Goes outside ("    print(f\"" : Text) [] (.opened true) := ⟨_, rfl, rfl⟩
  have herror : IsName ("error" : Text) := by decide
  have hfield : IsReadable ⟨function ++ " failed: ", "error", none⟩ :=
    ⟨List.append_ne_nil_of_left_ne_nil h.ne_nil _,
      isVerbatim_append_iff.2 ⟨h.isName.isVerbatim, by decide⟩, spans_name herror 0, nofun⟩
  have hall := holds_field hopen hfield (List.forall_mem_nil _) (by decide : IsCode [')'])
  simpa [Field.text] using hall

/-- The lines around a statement hold it and the message that the database refused it. -/
theorem lineQuotes_guarded {function s args result failed : Text} (hfunction : IsWord function)
    (hargs : IsCode args) (hresult : IsCode result) (hfailed : IsCode failed) :
    LineQuotes (guarded function (Text.literal s) args result failed)
      (guardedQuotations function s) := by
  have hfront : Goes outside ("sql = " : Text) [] outside := ⟨_, rfl, rfl⟩
  have hsql := (Holds.of_goes hfront (holds_literal s)).lineQuotes
  have hbody : LineQuotes ["try:", "    with get_connection() as conn:", "        try:",
      "            with conn.cursor() as cur:",
      ("                cur.execute(" : Text) ++ args ++ ")", ("                " : Text) ++ result,
      "            conn.commit()", "        except psycopg2.Error:", "            conn.rollback()",
      "            raise", "except psycopg2.Error as error:"] [] := by
    refine lineQuotes_code ?_
    simp only [List.forall_mem_cons, isCode_append_iff, hargs, hresult, and_true]
    repeat rw [String.toList_ofList]
    decide
  have hreturn : LineQuotes [("    return " : Text) ++ failed] [] :=
    lineQuotes_code (List.forall_mem_singleton.2 (isCode_append_iff.2 ⟨by decide, hfailed⟩))
  exact ((hsql.append hbody).append (holds_failed hfunction).lineQuotes).append hreturn

section

variable (p : Plan) (before expression last : Text)

/-- A message without fields is one literal. -/
theorem holds_logLine_plain (h : IsVerbatim last) :
    Holds (p.logLine false last) [p.noted last] := fun c hc => by
  have hfront : Goes outside ("_log(" : Text) [] outside := ⟨_, rfl, rfl⟩
  have hmessage : IsVerbatim (p.label ++ ": " ++ last) :=
    isVerbatim_append_iff.2
      ⟨isVerbatim_append_iff.2 ⟨isVerbatim_label p.table.name, by decide⟩, h⟩
  have hback : Holds [] [] := holds_code (List.forall_mem_nil _)
  have hall := Holds.of_goes hfront ((holds_verbatim hmessage).between (c := ')') (by decide) hback)
  simpa [logLine_eq, noted] using hall c hc

/-- A message with a field is one literal, with the expression between two parts of it. -/
theorem holds_logLine (hbefore : IsVerbatim before) (hexpression : Spans 0 expression 0)
    (hlast : IsVerbatim last) :
    Holds (p.logLine true (before ++ hole expression ++ last)) [p.logged before expression last] :=
    by
  have hopen : Goes outside ("_log(f\"" : Text) [] (.opened true) := ⟨_, rfl, rfl⟩
  have hlabel : p.label ++ (": " : Text) ≠ [] :=
    List.append_ne_nil_of_left_ne_nil (Naming.label_ne_nil _) _
  have hfield : IsReadable ⟨p.label ++ ": " ++ before, expression, none⟩ :=
    ⟨List.append_ne_nil_of_left_ne_nil hlabel _, isVerbatim_append_iff.2
      ⟨isVerbatim_append_iff.2 ⟨isVerbatim_label p.table.name, by decide⟩, hbefore⟩,
      hexpression, nofun⟩
  have hall := holds_field hopen hfield hlast (by decide : IsCode [')'])
  simpa [logLine_eq, hole, logged, Field.text] using hall

end

/-- Listing opens and closes its own literals. -/
theorem goes_listFunction (p : Plan) (hbase : IsName p.base) :
    Goes outside (p.listFunction.text ++ ['\n']) p.listQuotations outside := by
  have hname := isWord_listAll hbase
  have hdoc : IsVerbatim (("Return every row of " : Text) ++ p.label
      ++ " (an empty list when the table is empty).") := by
    simp only [isVerbatim_append_iff, label, isVerbatim_label, and_true]
    repeat rw [String.toList_ofList]
    decide
  have hreturn : Holds (("return " : Text)
      ++ Function.call "run_query" [Text.literal p.listStatement]) _ :=
    holds_call (by decide) (by decide) (.cons (holds_literal p.listStatement) .nil)
  exact goes_function (List.forall_mem_nil _) (isCode_of_isWord hname) (List.forall_mem_nil _)
    ((lineQuotes_doc hdoc).append hreturn.lineQuotes)

section

variable {p : Plan} (h : p.IsNamed) (hbase : IsName p.base)
include h hbase

/-- Looking up opens and closes its own literals. -/
theorem goes_lookupFunction :
    Goes outside (p.lookupFunction.text ++ ['\n']) p.lookupQuotations outside := by
  have hname := isWord_getById hbase
  have hdoc : IsVerbatim (("Return the " : Text) ++ p.label ++ " row whose "
      ++ Naming.label p.key ++ " matches, or None.") := by
    simp only [isVerbatim_append_iff, label, isVerbatim_label, and_true]
    repeat rw [String.toList_ofList]
    decide
  have hkey : IsCode (Function.tuple [p.keyParam]) :=
    isCode_tuple (List.forall_mem_singleton.2 (isCode_of_isWord h.keyParam))
  have hrows : Holds (("rows = " : Text) ++ Function.call "run_query"
      [Text.literal p.lookupStatement, Function.tuple [p.keyParam]]) _ :=
    holds_call (by decide) (by decide)
      (.cons (holds_literal p.lookupStatement) (.cons (holds_code hkey) .nil))
  have hreturn : LineQuotes ["return rows[0] if rows else None"] [] :=
    lineQuotes_code (List.forall_mem_singleton.2 (by decide))
  exact goes_function (List.forall_mem_nil _) (isCode_of_isWord hname)
    (List.forall_mem_singleton.2 (isCode_of_isWord h.keyParam))
    (((lineQuotes_doc hdoc).append hrows.lineQuotes).append hreturn)

/-- Inserting opens and closes its own literals. -/
theorem goes_insertFunction :
    Goes outside (p.insertFunction.text ++ ['\n']) p.insertQuotations outside := by
  have hname := isWord_insert hbase
  have hdoc : IsVerbatim (("Insert one row into " : Text) ++ p.label
      ++ " and return it, or None on failure.") := by
    simp only [isVerbatim_append_iff, label, isVerbatim_label, and_true]
    repeat rw [String.toList_ofList]
    decide
  have hargs : IsCode (if p.insertColumns.isEmpty then ("sql" : Text)
      else ("sql, " : Text) ++ Function.tuple p.insertParams) := by
    split
    · decide
    · exact isCode_append_iff.2
        ⟨by decide, isCode_tuple fun x hx => isCode_of_isWord (h.insertParams x hx)⟩
  have hreturn : LineQuotes ["return row"] [] :=
    lineQuotes_code (List.forall_mem_singleton.2 (by decide))
  exact goes_function (List.forall_mem_nil _) (isCode_of_isWord hname)
    (fun x hx => isCode_of_isWord (h.insertParams x hx))
    (((lineQuotes_doc hdoc).append
      (lineQuotes_guarded hname hargs (by decide) (by decide))).append hreturn)

/-- Deleting opens and closes its own literals. -/
theorem goes_deleteFunction :
    Goes outside (p.deleteFunction.text ++ ['\n']) p.deleteQuotations outside := by
  have hname := isWord_delete hbase
  have hdoc : IsVerbatim (("Delete the " : Text) ++ p.label ++ " row whose "
      ++ Naming.label p.key ++ " matches; True if a row was deleted.") := by
    simp only [isVerbatim_append_iff, label, isVerbatim_label, and_true]
    repeat rw [String.toList_ofList]
    decide
  have hargs : IsCode (("sql, " : Text) ++ Function.tuple [p.keyParam]) :=
    isCode_append_iff.2 ⟨by decide, isCode_tuple
      (List.forall_mem_singleton.2 (isCode_of_isWord h.keyParam))⟩
  have hreturn : LineQuotes ["return deleted > 0"] [] :=
    lineQuotes_code (List.forall_mem_singleton.2 (by decide))
  exact goes_function (List.forall_mem_nil _) (isCode_of_isWord hname)
    (List.forall_mem_singleton.2 (isCode_of_isWord h.keyParam))
    (((lineQuotes_doc hdoc).append
      (lineQuotes_guarded hname hargs (by decide) (by decide))).append hreturn)

/-- The message about a row that is not there. -/
theorem holds_missing :
    Holds (("    print(f\"" : Text) ++ p.update ++ ": no row in " ++ p.label ++ " with "
      ++ Naming.label p.key ++ " = \x7b" ++ p.keyParam ++ "!r\x7d (not found)\")")
      [.formatted [⟨p.update ++ ": no row in " ++ p.label ++ " with " ++ Naming.label p.key
        ++ " = ", p.keyParam, some 'r'⟩] " (not found)"] := by
  have hname := isWord_update hbase
  have hverbatim : IsVerbatim (p.update ++ ": no row in " ++ p.label ++ " with "
      ++ Naming.label p.key ++ " = ") :=
    isVerbatim_between _ (isVerbatim_between _
      (isVerbatim_append_iff.2 ⟨hname.isName.isVerbatim, by decide⟩) (by decide)) (by decide)
  have hopen : Goes outside ("    print(f\"" : Text) [] (.opened true) := ⟨_, rfl, rfl⟩
  have hfield : IsReadable ⟨p.update ++ ": no row in " ++ p.label ++ " with "
      ++ Naming.label p.key ++ " = ", p.keyParam, some 'r'⟩ :=
    ⟨by simp [hname.ne_nil], hverbatim, spans_name h.keyParam.isName 0, by
      rintro _ ⟨⟩
      exact .inl rfl⟩
  have hlast : IsVerbatim (" (not found)" : Text) := by decide
  have hall := holds_field hopen hfield hlast (by decide : IsCode [')'])
  simpa [Field.text] using hall

/-- Updating opens and closes its own literals. -/
theorem goes_updateFunction :
    Goes outside (p.updateFunction.text ++ ['\n']) p.updateQuotations outside := by
  have hname := isWord_update hbase
  have hkey := isCode_of_isWord h.keyParam
  rw [updateFunction, updateQuotations]
  split
  · have hdoc : IsVerbatim
        (p.label ++ " has no updatable columns; returns the current row, or None.") := by
      simp only [isVerbatim_append_iff, label, isVerbatim_label, true_and]
      repeat rw [String.toList_ofList]
      decide
    have hcall : Holds (("return " : Text) ++ Function.call p.getById [p.keyParam]) _ :=
      holds_call (by decide) (isCode_of_isWord (isWord_getById hbase))
        (.cons (holds_code hkey) .nil)
    exact goes_function (List.forall_mem_nil _) (isCode_of_isWord hname)
      (List.forall_mem_singleton.2 (isCode_of_isWord h.keyParam))
      ((lineQuotes_doc hdoc).append hcall.lineQuotes)
  · have hdoc : IsVerbatim (("Update the " : Text) ++ p.label ++ " row whose "
        ++ Naming.label p.key ++ " matches and return it, or None.") := by
      simp only [isVerbatim_append_iff, label, isVerbatim_label, and_true]
      repeat rw [String.toList_ofList]
      decide
    have hargs : IsCode (("sql, " : Text) ++ Function.tuple p.updateValues) := by
      refine isCode_append_iff.2 ⟨by decide, isCode_tuple (List.forall_mem_append.2 ⟨?_, ?_⟩)⟩
      · exact fun x hx => isCode_of_isWord (h.updateParams x hx)
      · exact List.forall_mem_singleton.2 hkey
    have hmissing : LineQuotes ["if row is None:"] [] :=
      lineQuotes_code (List.forall_mem_singleton.2 (by decide))
    have hreturn : LineQuotes ["    return None", "return row"] [] :=
      lineQuotes_code (by simp only [List.forall_mem_cons]; decide)
    have hmessage := (holds_missing h hbase).lineQuotes
    exact goes_function (List.forall_mem_nil _) (isCode_of_isWord hname)
      (List.forall_mem_cons.2 ⟨hkey, fun x hx => isCode_of_isWord (h.updateParams x hx)⟩)
      (((lineQuotes_doc hdoc).append
        (lineQuotes_guarded hname hargs (by decide) (by decide))).append
          ((hmissing.append hmessage).append hreturn))

/-- The five functions open and close the literals that are their own. -/
theorem goes_functions : List.Forall₂ (fun (f : Function) qs => Goes outside (f.text ++ ['\n']) qs
    outside) p.functions p.functionQuotations :=
  .cons (goes_listFunction p hbase) (.cons (goes_lookupFunction h hbase)
    (.cons (goes_insertFunction h hbase) (.cons (goes_updateFunction h hbase)
      (.cons (goes_deleteFunction h hbase) .nil))))

end

end Plan

namespace Sample

/-- A sample value is code, or a literal that is plain between its quotes. -/
theorem exists_holds_valueOf (column : Text) : ∃ qs, Holds (valueOf column) qs := by
  have hrules : ∀ s ∈ fallback :: rules, IsCode s.value ∨
      s.value = '"' :: s.value.tail.dropLast ++ ['"'] ∧ IsVerbatim s.value.tail.dropLast := by
    delta fallback rules
    simp only [List.forall_mem_cons]
    repeat rw [String.toList_ofList]
    decide
  obtain ⟨s, hs, hvalue⟩ := exists_valueOf_eq column
  rw [hvalue]
  rcases hrules s hs with hcode | ⟨heq, hverbatim⟩
  · exact ⟨_, holds_code hcode⟩
  · rw [heq]
    exact ⟨_, holds_verbatim hverbatim⟩

/-- A sample value is code, or one literal. -/
theorem holds_valueOf (column : Text) : Holds (valueOf column) (quotationsOf (valueOf column)) := by
  obtain ⟨_, h⟩ := exists_holds_valueOf column
  exact h.holds_quotationsOf

end Sample

namespace Plan

/-- Arguments hold the literals that each of them does. -/
theorem holds_args {args : List Text} (h : ∀ a ∈ args, Holds a (quotationsOf a)) :
    List.Forall₂ Holds args (args.map quotationsOf) :=
  List.forall₂_map_right_iff.2 (List.forall₂_same.2 h)

/-- The variable `key` is code. -/
theorem holds_key : Holds ("key" : Text) (quotationsOf "key") := by
  have hcode : Holds ("key" : Text) [] := holds_code (by decide)
  exact hcode.holds_quotationsOf

section

variable {p : Plan} (hbase : IsName p.base)
include hbase

/-- The message with the number of rows. -/
theorem holds_logLine_rows {last : Text} (hlast : IsVerbatim last) :
    Holds (p.logLine true (hole (("len(" : Text) ++ Function.call p.listAll [] ++ ")") ++ last))
      [p.logged [] (Function.call "len" [Function.call p.listAll []]) last] := by
  have hexpression : ("len(" : Text) ++ Function.call p.listAll [] ++ ")" =
      Function.call "len" [Function.call p.listAll []] := by
    simp [Function.call, Function.commas]
  have hcount : Spans 1 (Function.call p.listAll []) 1 :=
    spans_call (isWord_listAll hbase).isName (spans_name (List.forall_mem_nil _) 2)
  have hspans : Spans 0 (Function.call "len" [Function.call p.listAll []]) 0 := by
    refine spans_call (by decide) ?_
    rw [Function.commas, Text.join_singleton]
    exact hcount
  rw [hexpression]
  exact holds_logLine p [] _ last (List.forall_mem_nil _) hspans hlast

/-- The message with the row that was read back. -/
theorem holds_logLine_row {before : Text} (hbefore : IsVerbatim before) :
    Holds (p.logLine true (before ++ hole (Function.call p.getById ["key"])))
      [p.logged before (Function.call p.getById ["key"]) []] := by
  have hkey : IsName ("key" : Text) := by decide
  have hall := holds_logLine p before (Function.call p.getById ["key"]) [] hbefore
    (spans_call (isWord_getById hbase).isName (spans_name hkey 1)) (List.forall_mem_nil _)
  rwa [List.append_nil] at hall

/-- The lines behind the insertion, down to the row that was read back. -/
theorem lineQuotes_created :
    LineQuotes ["if created is None:",
        ("    " : Text) ++ p.logLine false "insert failed, skipping remaining steps",
        "    return False", p.logLine true ("inserted " ++ hole "created"), [],
        ("key = " : Text) ++ Function.call "created.get" [Text.literal (Naming.rowKey p.key)],
        p.logLine true ("fetched " ++ hole (Function.call p.getById ["key"])), []]
      [p.noted "insert failed, skipping remaining steps", p.logged "inserted " "created" [],
        .plain (Text.escape (Naming.rowKey p.key)),
        p.logged "fetched " (Function.call p.getById ["key"]) []] := by
  have hnone : LineQuotes ["if created is None:"] [] := lineQuotes_code (by decide)
  have hblanks : Goes outside ("    " : Text) [] outside := ⟨_, rfl, rfl⟩
  have hmessage : IsVerbatim ("insert failed, skipping remaining steps" : Text) := by decide
  have hgiven := Holds.of_goes hblanks (holds_logLine_plain p _ hmessage)
  have hfailed : LineQuotes ["    return False"] [] := lineQuotes_code (by decide)
  have hname : IsName ("created" : Text) := by decide
  have hinserted := holds_logLine p "inserted " "created" [] (by decide) (spans_name hname 0)
    (List.forall_mem_nil _)
  rw [List.append_nil] at hinserted
  have hempty : LineQuotes [[]] [] := lineQuotes_code (by decide)
  have hkey : Holds (("key = " : Text)
      ++ Function.call "created.get" [Text.literal (Naming.rowKey p.key)]) _ :=
    holds_call (by decide) (by decide) (.cons (holds_literal _) .nil)
  have hfetched := holds_logLine_row hbase (by decide : IsVerbatim ("fetched " : Text))
  exact hnone.append (hgiven.lineQuotes.append (hfailed.append (hinserted.lineQuotes.append
    (hempty.append (hkey.lineQuotes.append (hfetched.lineQuotes.append hempty))))))

/-- The lines behind the update. What removes the row is a comment. -/
theorem lineQuotes_updated :
    LineQuotes [p.logLine true ("updated " ++ hole "updated"),
        p.logLine true ("re-fetched " ++ hole (Function.call p.getById ["key"])),
        p.logLine true (hole (("len(" : Text) ++ Function.call p.listAll [] ++ ")")
          ++ " row(s) after the check"), [],
        "# Cleanup is left to you. Uncomment to remove the test row:",
        ("# " : Text) ++ Function.call p.delete ["key"], "return True"]
      [p.logged "updated " "updated" [],
        p.logged "re-fetched " (Function.call p.getById ["key"]) [],
        p.logged [] (Function.call "len" [Function.call p.listAll []])
          " row(s) after the check"] := by
  have hname : IsName ("updated" : Text) := by decide
  have hupdated := holds_logLine p "updated " "updated" [] (by decide) (spans_name hname 0)
    (List.forall_mem_nil _)
  rw [List.append_nil] at hupdated
  have hfetched := holds_logLine_row hbase (by decide : IsVerbatim ("re-fetched " : Text))
  have hrows := holds_logLine_rows hbase (by decide : IsVerbatim (" row(s) after the check" : Text))
  have hempty : LineQuotes [[]] [] := lineQuotes_code (by decide)
  have hcleanup : IsRemark ("# Cleanup is left to you. Uncomment to remove the test row:" : Text) :=
    by
    rw [String.toList_ofList]
    decide
  have hcall : IsVerbatim (("# " : Text) ++ (p.delete ++ "(" ++ "key" ++ ")")) := by
    simp only [isVerbatim_append_iff, (isWord_delete hbase).isName.isVerbatim, true_and]
    decide
  have hreturn : LineQuotes ["return True"] [] := lineQuotes_code (by decide)
  exact hupdated.lineQuotes.append (hfetched.lineQuotes.append (hrows.lineQuotes.append
    (hempty.append ((lineQuotes_comment rfl hcleanup).append
      ((lineQuotes_comment rfl (isRemark_of_isVerbatim hcall)).append hreturn)))))

/-- The check opens and closes its own literals. -/
theorem goes_checkFunction :
    Goes outside (p.checkFunction.text ++ ['\n']) p.checkQuotations outside := by
  have hdoc : IsVerbatim (("Round-trip one synthesized row through the " : Text) ++ p.label
      ++ " functions.") := by
    simp only [isVerbatim_append_iff, label, isVerbatim_label, and_true]
    repeat rw [String.toList_ofList]
    decide
  have hconnecting : IsVerbatim ("checking connectivity" : Text) := by decide
  have hselect : LineQuotes ["run_query(\"SELECT 1;\")"] [.plain "SELECT 1;"] :=
    lineQuotes_singleton ⟨_, rfl, rfl⟩
  have hrows := holds_logLine_rows hbase (by decide : IsVerbatim (" existing row(s)" : Text))
  have hempty : LineQuotes [[]] [] := lineQuotes_code (by decide)
  have hconnected := (lineQuotes_doc hdoc).append
    ((holds_logLine_plain p _ hconnecting).lineQuotes.append
      (hselect.append (hrows.lineQuotes.append hempty)))
  have hinsert : Holds (("created = " : Text) ++ Function.call p.insert p.insertArgs) _ :=
    holds_call (by decide) (isCode_of_isWord (isWord_insert hbase))
      (holds_args (List.forall_mem_map.2 fun c _ => Sample.holds_valueOf c))
  have hupdate : Holds (("updated = " : Text) ++ Function.call p.update p.updateArgs) _ :=
    holds_call (by decide) (isCode_of_isWord (isWord_update hbase))
      (holds_args (List.forall_mem_cons.2
        ⟨holds_key, List.forall_mem_map.2 fun c _ => Sample.holds_valueOf c⟩))
  rw [← List.flatMap_def] at hinsert hupdate
  have hall := (((hconnected.append hinsert.lineQuotes).append (lineQuotes_created hbase)).append
    hupdate.lineQuotes).append (lineQuotes_updated hbase)
  exact goes_function (List.forall_mem_nil _) (isCode_of_isWord (isWord_check hbase))
    (List.forall_mem_nil _) hall

end

/-- The comment above the functions holds no literals if the columns stay on their line. -/
theorem lineQuotes_header {p : Plan} (h : ∀ c ∈ p.table.columns, IsRemark c) :
    LineQuotes p.header [] := by
  have hrule : IsRemark rule := by
    delta rule
    rw [String.toList_ofList]
    decide
  have hlabel : ∀ name, IsRemark (Naming.label name) := fun name =>
    isRemark_of_isVerbatim (isVerbatim_label name)
  have hcolumns : IsRemark (if (Function.commas p.table.columns).isEmpty then ("(none)" : Text)
      else Function.commas p.table.columns) := by
    split
    · decide
    · exact forall_mem_join (by decide : IsRemark ", ") h
  have hedge := lineQuotes_comment rfl hrule
  have htable := lineQuotes_comment rfl
    (isRemark_append_iff.2 ⟨(by decide : IsRemark ("# Table: " : Text)), hlabel p.table.name⟩)
  have hlist := lineQuotes_comment rfl
    (isRemark_append_iff.2 ⟨(by decide : IsRemark ("# Columns: " : Text)), hcolumns⟩)
  have hkey := lineQuotes_comment rfl
    (isRemark_append_iff.2 ⟨(by decide : IsRemark ("# Key column: " : Text)), hlabel p.key⟩)
  exact hedge.append (htable.append (hlist.append (hkey.append hedge)))

/-- **The columns of a script stay on their line.** -/
theorem isRemark_of_mem_columns {mode : Sql.SplitMode} {script : Text} (hscript : '\x00' ∉ script)
    {t : Table} (ht : t ∈ Table.ofScript mode script) : ∀ c ∈ t.columns, IsRemark c := by
  obtain ⟨d, hd, rfl⟩ := List.mem_map.1 ht
  intro column hcolumn c hc
  have hmem : c ∈ script := (Sql.Declaration.body_isInfix_of_mem_all hd).mem
    ((Sql.Column.isInfix_of_mem_all hcolumn).mem hc)
  have hblank : Text.isBlank c = false := Sql.Column.not_blank_of_mem_all hcolumn c hc
  have hnewline : c ≠ '\n' := by
    rintro rfl
    cases hblank
  have hreturn : c ≠ '\r' := by
    rintro rfl
    cases hblank
  have hzero : c ≠ '\x00' := by
    rintro rfl
    exact hscript hmem
  exact ⟨hnewline, by simp [Source.isBroken, hreturn, hzero]⟩

/-- A section holds the literals of its functions and no others, if its comments stay comments. -/
theorem goes_sectionText {p : Plan} (h : p.IsNamed) (hbase : IsName p.base)
    (hcolumns : ∀ c ∈ p.table.columns, IsRemark c) :
    Goes outside (p.sectionText ++ ['\n']) p.functionQuotations.flatten outside := by
  have hheader : Goes outside (Text.unlines p.header ++ ['\n']) [] outside :=
    goes_unlines (lineQuotes_header hcolumns) (List.cons_ne_nil _ _)
  have hfunctions : List.Forall₂ (fun part qs => Goes outside (part ++ ['\n']) qs outside)
      (p.functions.map Function.text) p.functionQuotations :=
    List.forall₂_map_left_iff.2 (goes_functions h hbase)
  have hall := goes_apart (.cons hheader hfunctions) (List.cons_ne_nil _ _)
  exact hall

end Plan

namespace Preamble

/-- The documentation of the module between its quotes. -/
def description (database : Text) (tables : List Text) : Text :=
  Text.unlines
    [[], "Data-access module generated by GYSQL.", [],
      ("Database: " : Text) ++ Naming.label database,
      ("Tables: " : Text) ++ Function.commas tables, [],
      "Requires psycopg2 (pip install psycopg2-binary). Run this file directly to",
      "execute the non-destructive integration checks.", []]

/-- The literals of the preamble. -/
def quotations (database : Text) (tables : List Text) (s : Settings) : List Quotation :=
  [.long (description database tables),
    .plain "host", .plain (Text.escape s.connection.host), .plain "port",
    .plain "dbname", .plain (Text.escape database),
    .plain "user", .plain (Text.escape s.connection.user),
    .plain "password", .plain (Text.escape s.connection.password),
    .long "Open a row-cursor connection (rows as dicts); always closed on exit.",
    .long "Shared connection pool, created on first call and reused afterwards.",
    .long "Close every pooled connection; safe to call more than once.",
    .long "Run one statement on a pooled connection and return all rows."]

/-- The documentation is one literal over some lines. -/
theorem unlines_documentation (database : Text) (tables : List Text) :
    Text.unlines (documentation database tables) = Function.doc (description database tables) := by
  simp only [documentation, description, Function.doc, Text.unlines, Text.join_cons_cons,
    Text.join_singleton, List.nil_append, List.append_assoc]

/-- Nothing in the documentation ends it, whatever the database is called. -/
theorem isUnbroken_description (database : Text) {tables : List Text}
    (h : ∀ t ∈ tables, IsUnbroken t) : IsUnbroken (description database tables) := by
  have hdatabase : IsUnbroken (Naming.label database) :=
    isUnbroken_of_isVerbatim (isVerbatim_label database)
  have hlist : IsUnbroken (Function.commas tables) :=
    forall_mem_join (by decide : IsUnbroken ", ") h
  refine forall_mem_join (by decide : IsUnbroken ['\n']) ?_
  show ∀ l ∈ _, IsUnbroken l
  simp only [List.forall_mem_cons, isUnbroken_append_iff, hdatabase, hlist, and_true]
  repeat rw [String.toList_ofList]
  decide

/-- An entry of the settings is a literal that names it, and its value. -/
theorem lineQuotes_setting {front value : Text} {q : Quotation} {qs : List Quotation}
    (hfront : Goes outside front [q] outside) (hvalue : Holds value qs) :
    LineQuotes [front ++ value ++ ","] (q :: qs) := by
  have hend : Holds [] [] := holds_code (List.forall_mem_nil _)
  have hall := Holds.of_goes hfront (hvalue.between (c := ',') (by decide) hend)
  rw [List.append_nil] at hall
  have hline := hall.lineQuotes
  simpa using hline

/-- A natural numeral is code. -/
theorem isCode_ofNat (n : Nat) : IsCode (Text.ofNat n) := fun c hc =>
  .inl (Source.isNameChar_of_isWord c (Naming.isWord_of_mem_ofNat hc))

/-- A numeral is code, with its sign. -/
theorem isCode_ofInt (n : Int) : IsCode (Text.ofInt n) := by
  cases n with
  | ofNat n => exact isCode_ofNat n
  | negSucc n => exact List.forall_mem_cons.2 ⟨by decide, isCode_ofNat (n + 1)⟩

/-- The connection settings hold one literal for each text in them. -/
theorem lineQuotes_configuration (database : Text) (s : Settings) :
    LineQuotes (configuration database s)
      [.plain "host", .plain (Text.escape s.connection.host), .plain "port",
        .plain "dbname", .plain (Text.escape database),
        .plain "user", .plain (Text.escape s.connection.user),
        .plain "password", .plain (Text.escape s.connection.password)] := by
  have hopen : LineQuotes ["DB_CONFIG = \x7b"] [] := lineQuotes_code (by decide)
  have hhost : Goes outside ("    \"host\": " : Text) [.plain "host"] outside := ⟨_, rfl, rfl⟩
  have hport : Goes outside ("    \"port\": " : Text) [.plain "port"] outside := ⟨_, rfl, rfl⟩
  have hname : Goes outside ("    \"dbname\": " : Text) [.plain "dbname"] outside := ⟨_, rfl, rfl⟩
  have huser : Goes outside ("    \"user\": " : Text) [.plain "user"] outside := ⟨_, rfl, rfl⟩
  have hpassword : Goes outside ("    \"password\": " : Text) [.plain "password"] outside :=
    ⟨_, rfl, rfl⟩
  have hclose : LineQuotes ["\x7d", [], ("POOL_MIN_CONNECTIONS = " : Text)
      ++ Text.ofNat s.pool.minimum, ("POOL_MAX_CONNECTIONS = " : Text) ++ Text.ofNat s.pool.ceiling,
      [], "_pool = None"] [] := by
    refine lineQuotes_code ?_
    simp only [List.forall_mem_cons, isCode_append_iff, isCode_ofNat, and_true]
    decide
  exact hopen.append ((lineQuotes_setting hhost (holds_literal s.connection.host)).append
    ((lineQuotes_setting hport (holds_code (isCode_ofInt s.connection.port))).append
      ((lineQuotes_setting hname (holds_literal database)).append
        ((lineQuotes_setting huser (holds_literal s.connection.user)).append
          ((lineQuotes_setting hpassword (holds_literal s.connection.password)).append hclose)))))

/-- The functions of the preamble are code below their documentation. -/
theorem goes_functions : List.Forall₂ (fun part qs => Goes outside (part ++ ['\n']) qs outside)
    (functions.map Function.text)
    [[.long "Open a row-cursor connection (rows as dicts); always closed on exit."],
      [.long "Shared connection pool, created on first call and reused afterwards."],
      [.long "Close every pooled connection; safe to call more than once."],
      [.long "Run one statement on a pooled connection and return all rows."]] := by
  refine .cons (goes_documented rfl ?_ ?_ ?_ ?_ ?_) (.cons (goes_documented rfl ?_ ?_ ?_ ?_ ?_)
    (.cons (goes_documented rfl ?_ ?_ ?_ ?_ ?_) (.cons (goes_documented rfl ?_ ?_ ?_ ?_ ?_) .nil)))
  all_goals
    repeat rw [String.toList_ofList]
    decide

/-- The preamble opens and closes its own literals. -/
theorem goes_text (database : Text) {tables : List Text} (h : ∀ t ∈ tables, IsUnbroken t)
    (s : Settings) :
    Goes outside (text database tables s ++ ['\n']) (quotations database tables s) outside := by
  have hdoc : Goes outside (Text.unlines (documentation database tables) ++ ['\n'])
      [.long (description database tables)] outside := by
    rw [unlines_documentation]
    exact (goes_doc (isUnbroken_description database h)).append ⟨_, rfl, rfl⟩
  have himports : Goes outside (Text.unlines imports ++ ['\n']) [] outside := by
    refine goes_unlines (lineQuotes_code ?_) (List.cons_ne_nil _ _)
    delta imports
    repeat rw [String.toList_ofList]
    decide
  have hconfiguration := goes_unlines (lineQuotes_configuration database s) (List.cons_ne_nil _ _)
  have hfunctions := goes_apart goes_functions (List.cons_ne_nil _ _)
  have hgap : Goes outside ['\n'] [] outside := ⟨_, rfl, rfl⟩
  have hall := goes_join hgap (.cons hdoc (.cons himports (.cons hconfiguration
    (.cons hfunctions .nil)))) (List.cons_ne_nil _ _)
  exact hall

end Preamble

namespace Plan

/-- **Labels stay inside the text around them.** A label is not empty, nothing in it ends a text, a
word or a line, and it is its own label. So, whatever the database and the tables are called, the
preamble, the five functions of each table and its check are code with the literals that their
templates write: each ends at its own quote and has its own fields. The same holds of the section of
a table as a whole, if no column ends the comment that lists the columns, and so if a script without
zeros declares the columns. -/
theorem labels_stay_inside (name database : Text) (tables : List Table) (s : Settings) :
    (Naming.label name ≠ [] ∧
      (∀ c ∈ Naming.label name,
        c ∉ Naming.breakers ∧ Text.isBlank c = false ∧ Text.isLineBreak c = false) ∧
      Naming.label (Naming.label name) = Naming.label name) ∧
    Quotes (Preamble.text database ((all tables).map label) s)
      (Preamble.quotations database ((all tables).map label) s) ∧
    ∀ p ∈ all tables,
      List.Forall₂ (fun (f : Function) qs => Quotes f.text qs) p.functions p.functionQuotations ∧
      Quotes p.checkFunction.text p.checkQuotations ∧
      ((∀ c ∈ p.table.columns, IsRemark c) →
        Quotes p.sectionText p.functionQuotations.flatten) ∧
      ∀ mode script, '\x00' ∉ script →
        (∃ t ∈ Table.ofScript mode script, t.columns = p.table.columns) →
        Quotes p.sectionText p.functionQuotations.flatten := by
  have hlabels : ∀ t ∈ (all tables).map label, IsUnbroken t :=
    List.forall_mem_map.2 fun p _ => isUnbroken_of_isVerbatim (isVerbatim_label p.table.name)
  refine ⟨⟨Naming.label_ne_nil name, fun c => Naming.not_mem_breakers_of_mem_label,
    Naming.label_label name⟩, quotes_of_goes (Preamble.goes_text database hlabels s),
    fun p hp => ?_⟩
  have hbase : IsName p.base := isName_base_of_mem_all p hp
  have hnamed : p.IsNamed := isNamed_of_mem_all p hp
  have hsection : (∀ c ∈ p.table.columns, IsRemark c) →
      Quotes p.sectionText p.functionQuotations.flatten := fun hcolumns =>
    quotes_of_goes (goes_sectionText hnamed hbase hcolumns)
  refine ⟨(goes_functions hnamed hbase).imp fun _ _ => quotes_of_goes,
    quotes_of_goes (goes_checkFunction hbase), hsection, fun mode script hscript hdeclared => ?_⟩
  obtain ⟨t, ht, hcolumns⟩ := hdeclared
  exact hsection (hcolumns ▸ isRemark_of_mem_columns hscript ht)

/-- A table whose name and columns end literals, open fields and break lines where they can. -/
def hostile : Table where
  name := "t\"\"\"\x7bx\x7d\\\n"
  columns := ["id\"\"\"", "\x7bn\x7d\\"]

/-- A script that declares columns like these. -/
def hostileScript : Text := "CREATE TABLE t (id\"\"\" INT, \x7bn\x7d\\ TEXT);"

/-- The section and the check of the hostile table are read as their templates, in which its name is
`tx`. -/
theorem labels_stay_inside_hostile :
    ('x' ∈ Naming.label hostile.name ∧ 'x' ∉ Naming.breakers) ∧
      ofTable hostile "t_x" ∈ all [hostile] ∧ (∀ c ∈ hostile.columns, IsRemark c) ∧
      '\x00' ∉ hostileScript ∧
      (∃ t ∈ Table.ofScript .legacy hostileScript, t.columns = hostile.columns) ∧
      Quotes (ofTable hostile "t_x").sectionText
        (ofTable hostile "t_x").functionQuotations.flatten ∧
      Quotes (ofTable hostile "t_x").checkFunction.text
        (ofTable hostile "t_x").checkQuotations := by
  have hlabel : 'x' ∈ Naming.label hostile.name := by decide +kernel
  have hmem : ofTable hostile "t_x" ∈ all [hostile] := by decide +kernel
  have hcolumns : ∀ c ∈ hostile.columns, IsRemark c := by decide
  have hzero : '\x00' ∉ hostileScript := by decide
  have hdeclared : ∃ t ∈ Table.ofScript .legacy hostileScript, t.columns = hostile.columns := by
    decide +kernel
  obtain ⟨⟨-, hlabels, -⟩, -, hplans⟩ :=
    labels_stay_inside hostile.name "\"\"\"" [hostile] {}
  obtain ⟨-, hcheck, -, hsection⟩ := hplans _ hmem
  exact ⟨⟨hlabel, (hlabels _ hlabel).1⟩, hmem, hcolumns, hzero, hdeclared,
    hsection .legacy hostileScript hzero hdeclared, hcheck⟩

end Plan
end Tablesmith
