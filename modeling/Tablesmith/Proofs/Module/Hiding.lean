/-
# Names that a parameter could hide

The body of a generated function mentions its parameters, which it only reads, and names that it
relies on: functions to call, modules to ask for a member, variables that it binds. A parameter of
the same name would hide these. Parameters keep clear of a fixed list of names (`bodyNames`), and
all but one of the names that a body relies on are in this list:

| function | relies on |
| --- | --- |
| list, look up | names of the list |
| insert, delete | names of the list |
| update | names of the list |
| update without columns to write | the name of the function that looks up |

So a parameter hides something exactly if there is no column to write and the key, which is the
first column then, is called like the function that looks up (`hides_iff`). Names are compared as
they are written.
-/

import Tablesmith.Proofs.Module.Execution
import Tablesmith.Proofs.Source.Mention
import Tablesmith.Proofs.Text.Part

namespace Tablesmith

open Source (IsName Mention Says mentions? isNameWord)

namespace Function

/-- The body can be read, and each name that it mentions is a parameter or one that it relies on. -/
def IsClosed (f : Function) : Prop :=
  ∃ ms, mentions? f.body = some ms ∧
    ∀ m ∈ ms, m.name ∈ f.params ∨ ∃ n ∈ ms, n.relied ∧ n.name = m.name

/-- The body relies on a name that a parameter has. -/
def Hides (f : Function) : Prop :=
  ∃ ms, mentions? f.body = some ms ∧ ∃ m ∈ ms, m.relied ∧ m.name ∈ f.params

/-- The function mentions nothing but its parameters and names of the given list. -/
structure Keeps (f : Function) (names : List Text) : Prop where
  isClosed : f.IsClosed
  relied : ∀ ms, mentions? f.body = some ms → ∀ m ∈ ms, m.relied → m.name ∈ names

/-- A function that keeps to names hides nothing if its parameters are none of these. -/
theorem Keeps.not_hides {f : Function} {names : List Text} (h : f.Keeps names)
    (hdisjoint : f.params.Disjoint names) : ¬ f.Hides := by
  rintro ⟨ms, hms, m, hm, hrelied, hparam⟩
  exact hdisjoint hparam (h.relied ms hms m hm hrelied)

/-- Is each of the mentions of a name in the list, or of one that another mention relies on, or of
no name at all? -/
def isSettled (names : List Text) (ms : List Mention) : Bool :=
  ms.all fun m =>
    if m.relied then names.contains m.name else !isNameWord m.name || ms.contains ⟨m.name, true⟩

/-- A function keeps to names if its body mentions them only, its parameters and what it
binds itself. -/
theorem keeps_of_says {f : Function} {names : List Text} {own : List Mention}
    (h : Says f.params f.body own) (hsettled : isSettled names own) : f.Keeps names := by
  obtain ⟨ws, hws, hown, hall⟩ := h
  have hmentions : mentions? f.body = some (ws.filter fun m => isNameWord m.name) := by
    rw [mentions?, hws]
    rfl
  rw [isSettled, List.all_eq_true] at hsettled
  refine ⟨⟨_, hmentions, fun m hm => ?_⟩, fun ms hms m hm hrelied => ?_⟩
  · obtain ⟨hmem, hname⟩ := List.mem_filter.1 hm
    rcases hall m hmem with howned | ⟨-, hparam⟩
    · have hm := hsettled m howned
      split at hm
      · next hrelied => exact .inr ⟨m, List.mem_filter.2 ⟨hmem, hname⟩, hrelied, rfl⟩
      · rw [hname, Bool.not_true, Bool.false_or, List.contains_iff_mem] at hm
        exact .inr ⟨_, List.mem_filter.2 ⟨hown hm, hname⟩, rfl, rfl⟩
    · exact .inl hparam
  · rw [hmentions] at hms
    obtain rfl := Option.some.inj hms
    rcases hall m (List.mem_filter.1 hm).1 with howned | ⟨hread, -⟩
    · have hm := hsettled m howned
      rw [if_pos hrelied, List.contains_iff_mem] at hm
      exact hm
    · rw [hread] at hrelied
      cases hrelied

end Function

namespace Source

/-- Behind the front of a line that prints the reader is inside a text with fields. -/
theorem run_print : run step fresh ("    print(f\"" : Text) =
    some ([.word "print", .mark '('], .opened true) := by decide

/-- What is executed is called `sql` and the values are only read. -/
theorem words?_execute {names : List Text} (h : ∀ x ∈ names, IsWord x) :
    words? [("                cur.execute(" : Text) ++ (("sql, " : Text) ++ Function.tuple names)
      ++ ")"] = some ([⟨"cur", true⟩, ⟨"sql", false⟩] ++ names.map fun x => ⟨x, false⟩) := by
  have hfront : run step fresh ("                cur.execute(" : Text) =
      some ([.word "cur", .mark '.', .word "execute", .mark '('], fresh) := by decide
  have hread := reads_call_tuple hfront Execution.isArgument_sql h
  have hwords := (words_inTuple h [.mark ')']).trans (List.append_nil _)
  rw [Execution.commas_sql, Execution.tokensOf_sql] at hread
  rw [words?_singleton hread]
  exact congrArg (fun ms => some ([⟨"cur", true⟩, ⟨"sql", false⟩] ++ ms)) hwords

end Source

namespace Plan

open Source

/-- What is mentioned where a statement is bound and a connection opened. -/
def openMentions : List Mention :=
  [⟨"sql", true⟩, ⟨"try", false⟩, ⟨"with", false⟩, ⟨"get_connection", true⟩, ⟨"as", false⟩,
    ⟨"conn", true⟩, ⟨"try", false⟩, ⟨"with", false⟩, ⟨"conn", true⟩, ⟨"as", false⟩, ⟨"cur", true⟩]

/-- What is mentioned where a change is kept, taken back or found to have failed. -/
def closeMentions : List Mention :=
  [⟨"conn", true⟩, ⟨"except", false⟩, ⟨"psycopg2", true⟩, ⟨"conn", true⟩, ⟨"raise", false⟩,
    ⟨"except", false⟩, ⟨"psycopg2", true⟩, ⟨"as", false⟩, ⟨"error", true⟩, ⟨"print", true⟩,
    ⟨"error", false⟩]

/-- The line that fetches a row relies on two names. -/
theorem words?_fetched :
    words? ["                row = cur.fetchone()"] = some [⟨"row", true⟩, ⟨"cur", true⟩] := by
  repeat rw [String.toList_ofList]
  decide

/-- The line that returns `None` relies on no name. -/
theorem words?_returnNone :
    words? ["    return None"] = some [⟨"return", false⟩, ⟨"None", false⟩] := by
  repeat rw [String.toList_ofList]
  decide

/-- The line that returns a row only reads it. -/
theorem words?_returnRow :
    words? ["return row"] = some [⟨"return", false⟩, ⟨"row", false⟩] := by
  repeat rw [String.toList_ofList]
  decide

/-- The lines around a statement mention what the arguments and the two lines that vary do, and
fixed names. -/
theorem says_guarded {names : List Text} {function s args result failed : Text}
    {as rs fs : List Mention} (hfunction : IsWord function)
    (hargs : Says names [("                cur.execute(" : Text) ++ args ++ ")"] as)
    (hresult : words? [("                " : Text) ++ result] = some rs)
    (hfailed : words? [("    return " : Text) ++ failed] = some fs) :
    Says names (guarded function (Text.literal s) args result failed)
      (openMentions ++ as ++ rs ++ closeMentions ++ fs) := by
  have hsqlFront : run step fresh ("sql = " : Text) = some ([.word "sql", .mark '='], fresh) := by
    decide
  have hsql : Reads (("sql = " : Text) ++ Text.literal s)
      [.word "sql", .mark '=', .literal (Text.escape s)] :=
    Reads.of_front hsqlFront (reads_literal s)
  have hopen : words? ["try:", "    with get_connection() as conn:", "        try:",
      "            with conn.cursor() as cur:"] = some openMentions.tail := by
    delta openMentions
    repeat rw [String.toList_ofList]
    decide
  have hclose : words? ["            conn.commit()", "        except psycopg2.Error:",
      "            conn.rollback()", "            raise", "except psycopg2.Error as error:"] =
        some (closeMentions.take 9) := by
    delta closeMentions
    repeat rw [String.toList_ofList]
    decide
  have hmessage : words? [("    print(f\"" : Text) ++ function ++ " failed: \x7berror\x7d\")"] =
      some (closeMentions.drop 9) := by
    have hverbatim : IsVerbatim (function ++ " failed: ") :=
      isVerbatim_append_iff.2 ⟨hfunction.isName.isVerbatim, by decide⟩
    have hrest : run step (.code true []) ("error\x7d\")" : Text) =
        some ([.word "error", .mark '\x7d', .literal [], .mark ')'], fresh) := by decide
    have hne : function ++ (" failed: " : Text) ≠ [] :=
      List.append_ne_nil_of_left_ne_nil hfunction.ne_nil _
    have hline : ("    print(f\"" : Text) ++ function ++ " failed: \x7berror\x7d\")" =
        ("    print(f\"" : Text) ++ (function ++ " failed: ") ++ '\x7b' :: "error\x7d\")" := by
      simp
    rw [hline]
    exact words?_singleton (reads_formatted run_print hne hverbatim hrest)
  have hfront : Says names _ _ := says_of_words (words?_append (words?_singleton hsql) hopen)
  have hback : Says names _ _ := says_of_words (words?_append hclose hmessage)
  rw [List.take_append_drop] at hback
  exact (((hfront.append hargs).append (says_of_words hresult)).append hback).append
    (says_of_words hfailed)

/-- The label of a table or a column stands in its documentation between plain texts. -/
theorem isVerbatim_between {front back : Text} (name : Text) (hfront : IsVerbatim front)
    (hback : IsVerbatim back) : IsVerbatim (front ++ Naming.label name ++ back) :=
  isVerbatim_append_iff.2 ⟨isVerbatim_append_iff.2 ⟨hfront, isVerbatim_label name⟩, hback⟩

/-- Listing keeps to the list. -/
theorem keeps_listFunction (p : Plan) : p.listFunction.Keeps bodyNames := by
  have hdoc : words? [Function.doc (("Return every row of " : Text) ++ p.label
      ++ " (an empty list when the table is empty).")] = some [] :=
    words?_doc (isVerbatim_between _ (by decide) (by decide))
  have hfront : run step fresh ("return run_query(" : Text) =
      some ([.word "return", .word "run_query", .mark '('], fresh) := by decide
  have hread := reads_call (List.forall_mem_singleton.2 (isArgument_literal p.listStatement)) hfront
  have hreturn : words? [("return " : Text)
      ++ Function.call "run_query" [Text.literal p.listStatement]] =
        some [⟨"return", false⟩, ⟨"run_query", true⟩] := by
    rw [List.map_singleton, List.intercalate_singleton, tokensOf_literal] at hread
    exact words?_singleton hread
  refine Function.keeps_of_says ((says_of_words hdoc).append (says_of_words hreturn)) ?_
  delta bodyNames
  repeat rw [String.toList_ofList]
  decide

/-- The function that looks up has a name that is no reserved word, whatever the base is. -/
theorem isNameWord_getById (p : Plan) : isNameWord p.getById := by
  have hget : Text.after? "get_" p.getById = some (p.base ++ "_by_id") :=
    (congrArg (Text.after? "get_") (List.append_assoc ..)).trans (Text.after?_append ..)
  have hreserved : Naming.reserved.all fun r => Text.after? "get_" r == none := by decide
  have hmem : p.getById ∉ Naming.reserved := fun hmem => by
    have hnone : Text.after? "get_" p.getById = none :=
      beq_iff_eq.1 (List.all_eq_true.1 hreserved _ hmem)
    exact Option.some_ne_none _ (hget.symm.trans hnone)
  have hdigit : p.getById.head?.any Text.isDigit = false := by
    show Text.isDigit 'g' = false
    decide
  show (!Naming.reserved.contains p.getById && !p.getById.head?.any Text.isDigit) = true
  rw [hdigit, List.contains_eq_mem, decide_eq_false hmem]
  rfl

section

variable {p : Plan} (h : p.IsNamed)
include h

/-- Looking up keeps to the list. -/
theorem keeps_lookupFunction : p.lookupFunction.Keeps bodyNames := by
  have hdoc : words? [Function.doc (("Return the " : Text) ++ p.label ++ " row whose "
      ++ Naming.label p.key ++ " matches, or None.")] = some [] :=
    words?_doc (isVerbatim_between _ (isVerbatim_between _ (by decide) (by decide)) (by decide))
  have hfront : run step fresh ("rows = run_query(" : Text) =
      some ([.word "rows", .mark '=', .word "run_query", .mark '('], fresh) := by decide
  have hkey : ∀ x ∈ [p.keyParam], IsWord x := List.forall_mem_singleton.2 h.keyParam
  have hread := reads_call_tuple hfront (isArgument_literal p.lookupStatement) hkey
  have hrows : words? [("rows = " : Text) ++ Function.call "run_query"
      [Text.literal p.lookupStatement, Function.tuple [p.keyParam]]] =
        some ([⟨"rows", true⟩, ⟨"run_query", true⟩] ++ [p.keyParam].map fun x => ⟨x, false⟩) := by
    have hwords := (words_inTuple hkey [.mark ')']).trans (List.append_nil _)
    rw [tokensOf_literal] at hread
    refine (words?_singleton hread).trans ?_
    exact congrArg (fun ms => some ([⟨"rows", true⟩, ⟨"run_query", true⟩] ++ ms)) hwords
  have hreturn : words? ["return rows[0] if rows else None"] =
      some [⟨"return", false⟩, ⟨"rows", false⟩, ⟨"0", false⟩, ⟨"if", false⟩, ⟨"rows", false⟩,
        ⟨"else", false⟩, ⟨"None", false⟩] := by
    repeat rw [String.toList_ofList]
    decide
  refine Function.keeps_of_says (((says_of_words hdoc).append
    (says_of_words_append hrows (List.Subset.refl _))).append (says_of_words hreturn)) ?_
  delta bodyNames
  repeat rw [String.toList_ofList]
  decide

variable (hbase : IsName p.base)
include hbase

/-- Inserting keeps to the list. -/
theorem keeps_insertFunction : p.insertFunction.Keeps bodyNames := by
  have hdoc : words? [Function.doc (("Insert one row into " : Text) ++ p.label
      ++ " and return it, or None on failure.")] = some [] :=
    words?_doc (isVerbatim_between _ (by decide) (by decide))
  have hname : IsWord p.insert := IsWord.append ⟨by decide, by decide⟩ hbase
  have hargs : Says p.insertParams [("                cur.execute(" : Text)
      ++ (if p.insertColumns.isEmpty then ("sql" : Text)
        else ("sql, " : Text) ++ Function.tuple p.insertParams) ++ ")"]
      [⟨"cur", true⟩, ⟨"sql", false⟩] := by
    split
    · have hempty : words? [("                cur.execute(" : Text) ++ "sql" ++ ")"] =
          some [⟨"cur", true⟩, ⟨"sql", false⟩] := by
        repeat rw [String.toList_ofList]
        decide
      exact says_of_words hempty
    · exact says_of_words_append (words?_execute h.insertParams) (List.Subset.refl _)
  refine Function.keeps_of_says (((says_of_words hdoc).append
    (says_guarded hname hargs words?_fetched words?_returnNone)).append
      (says_of_words words?_returnRow)) ?_
  delta openMentions closeMentions bodyNames
  repeat rw [String.toList_ofList]
  decide

/-- Deleting keeps to the list. -/
theorem keeps_deleteFunction : p.deleteFunction.Keeps bodyNames := by
  have hdoc : words? [Function.doc (("Delete the " : Text) ++ p.label ++ " row whose "
      ++ Naming.label p.key ++ " matches; True if a row was deleted.")] = some [] :=
    words?_doc (isVerbatim_between _ (isVerbatim_between _ (by decide) (by decide)) (by decide))
  have hname : IsWord p.delete := IsWord.append ⟨by decide, by decide⟩ hbase
  have hargs := says_of_words_append (words?_execute (List.forall_mem_singleton.2 h.keyParam))
    (List.Subset.refl [p.keyParam])
  have hresult : words? ["                deleted = cur.rowcount"] =
      some [⟨"deleted", true⟩, ⟨"cur", true⟩] := by
    repeat rw [String.toList_ofList]
    decide
  have hfailed : words? ["    return False"] = some [⟨"return", false⟩, ⟨"False", false⟩] := by
    repeat rw [String.toList_ofList]
    decide
  have hreturn : words? ["return deleted > 0"] =
      some [⟨"return", false⟩, ⟨"deleted", false⟩, ⟨"0", false⟩] := by
    repeat rw [String.toList_ofList]
    decide
  refine Function.keeps_of_says (((says_of_words hdoc).append
    (says_guarded hname hargs hresult hfailed)).append (says_of_words hreturn)) ?_
  delta openMentions closeMentions bodyNames
  repeat rw [String.toList_ofList]
  decide

/-- The message about a row that is not there. -/
theorem words?_missing : words? [("    print(f\"" : Text) ++ p.update ++ ": no row in " ++ p.label
    ++ " with " ++ Naming.label p.key ++ " = \x7b" ++ p.keyParam ++ "!r\x7d (not found)\")"] =
      some ([⟨"print", true⟩] ++ [p.keyParam].map fun x => ⟨x, false⟩) := by
  have hname : IsWord p.update := IsWord.append ⟨by decide, by decide⟩ hbase
  let text := p.update ++ ": no row in " ++ p.label ++ " with " ++ Naming.label p.key ++ " = "
  have hverbatim : IsVerbatim text :=
    isVerbatim_between _ (isVerbatim_between _
      (isVerbatim_append_iff.2 ⟨hname.isName.isVerbatim, by decide⟩) (by decide)) (by decide)
  have hne : text ≠ [] := by simp [text, hname.ne_nil]
  have hrest : run step (.code true []) (p.keyParam ++ "!r\x7d (not found)\")") =
      some ([.word p.keyParam, .mark '\x7d', .literal " (not found)", .mark ')'], fresh) := by
    have hback : run step (.code true p.keyParam) ("!r\x7d (not found)\")" : Text) = some
        (ended p.keyParam ++ [.mark '\x7d', .literal " (not found)", .mark ')'], fresh) := rfl
    rw [run_append (run_name h.keyParam.isName true []), after_nil, List.nil_append, hback,
      h.keyParam.ended]
    rfl
  have hline : ("    print(f\"" : Text) ++ p.update ++ ": no row in " ++ p.label ++ " with "
      ++ Naming.label p.key ++ " = \x7b" ++ p.keyParam ++ "!r\x7d (not found)\")" =
        ("    print(f\"" : Text) ++ text ++ '\x7b' :: (p.keyParam ++ "!r\x7d (not found)\")") := by
    simp [text]
  rw [hline]
  exact words?_singleton (reads_formatted run_print hne hverbatim hrest)

/-- Updating keeps to the list if there is a column to write. -/
theorem keeps_updateFunction (hne : p.updateColumns.isEmpty = false) :
    p.updateFunction.Keeps bodyNames := by
  have hdoc : words? [Function.doc (("Update the " : Text) ++ p.label ++ " row whose "
      ++ Naming.label p.key ++ " matches and return it, or None.")] = some [] :=
    words?_doc (isVerbatim_between _ (isVerbatim_between _ (by decide) (by decide)) (by decide))
  have hname : IsWord p.update := IsWord.append ⟨by decide, by decide⟩ hbase
  have hvalues : ∀ x ∈ p.updateValues, IsWord x :=
    List.forall_mem_append.2 ⟨h.updateParams, List.forall_mem_singleton.2 h.keyParam⟩
  have hsubset : p.updateValues ⊆ p.updateSignature := by
    simp [updateValues, updateSignature]
  have hargs := says_of_words_append (words?_execute hvalues) hsubset
  have hmissing : words? ["if row is None:"] =
      some [⟨"if", false⟩, ⟨"row", false⟩, ⟨"is", false⟩, ⟨"None", false⟩] := by
    repeat rw [String.toList_ofList]
    decide
  have hmessage := says_of_words_append (words?_missing h hbase)
    (List.cons_subset_cons p.keyParam (List.nil_subset p.updateParams))
  have hreturn := words?_append words?_returnNone words?_returnRow
  rw [updateFunction, hne, if_neg Bool.false_ne_true]
  refine Function.keeps_of_says (((says_of_words hdoc).append
    (says_guarded hname hargs words?_fetched words?_returnNone)).append
      (((says_of_words hmissing).append hmessage).append (says_of_words hreturn))) ?_
  delta openMentions closeMentions bodyNames
  repeat rw [String.toList_ofList]
  decide

/-- Without columns to write, an update relies on the function that looks up, and on nothing else.
-/
theorem mentions?_updateFunction (hempty : p.updateColumns.isEmpty) :
    ∃ ms, mentions? p.updateFunction.body = some ms ∧ ⟨p.getById, true⟩ ∈ ms ∧
      ∀ m ∈ ms, m = ⟨p.getById, true⟩ ∨ m = ⟨p.keyParam, false⟩ := by
  have hdoc : words? [Function.doc (p.label
      ++ " has no updatable columns; returns the current row, or None.")] = some [] :=
    words?_doc (isVerbatim_append_iff.2 ⟨isVerbatim_label _, by decide⟩)
  have hreturn : IsWord "return" := ⟨by decide, by decide⟩
  have hget : IsWord p.getById :=
    (IsWord.append (IsWord.append ⟨by decide, by decide⟩ hbase) (by decide))
  have hread := hreturn.reads.between (c := ' ') (by decide) (hget.reads.between (c := '(')
    (by decide) (h.keyParam.reads.between (c := ')') (by decide) reads_nil))
  have hline : ("return " : Text) ++ Function.call p.getById [p.keyParam] =
      ("return" : Text) ++ ' ' :: (p.getById ++ '(' :: (p.keyParam ++ ')' :: [])) := by
    simp [Function.call, Function.commas]
  have hcall : words? [("return " : Text) ++ Function.call p.getById [p.keyParam]] =
      some [⟨"return", false⟩, ⟨p.getById, true⟩, ⟨p.keyParam, false⟩] := by
    rw [hline]
    exact words?_singleton hread
  have hws : words? p.updateFunction.body =
      some [⟨"return", false⟩, ⟨p.getById, true⟩, ⟨p.keyParam, false⟩] := by
    rw [updateFunction, if_pos hempty]
    exact words?_append hdoc hcall
  refine ⟨_, congrArg (Option.map _) hws, List.mem_filter.2 ⟨by simp, isNameWord_getById p⟩,
    fun m hm => ?_⟩
  obtain ⟨hmem, hname⟩ := List.mem_filter.1 hm
  simp only [List.mem_cons, List.not_mem_nil, or_false] at hmem
  rcases hmem with rfl | rfl | rfl
  · exact absurd hname (by decide)
  · exact .inl rfl
  · exact .inr rfl

/-- Without one, updating hides a name just if the key is called like the function that looks up. -/
theorem hides_updateFunction_iff (hempty : p.updateColumns.isEmpty) :
    p.updateFunction.Hides ↔ p.keyParam = p.getById := by
  have hparams : p.updateFunction.params = [p.keyParam] := by rw [updateFunction, if_pos hempty]
  obtain ⟨ms, hms, hget, hall⟩ := mentions?_updateFunction h hbase hempty
  rw [Function.Hides, hparams]
  constructor
  · rintro ⟨ns, hns, m, hm, hrelied, hparam⟩
    rw [hms] at hns
    obtain rfl := Option.some.inj hns
    rcases hall m hm with rfl | rfl
    · exact (List.mem_singleton.1 hparam).symm
    · cases hrelied
  · intro heq
    exact ⟨ms, hms, _, hget, rfl, List.mem_singleton.2 heq.symm⟩

/-- Without one, updating mentions its parameter and that function. -/
theorem isClosed_updateFunction (hempty : p.updateColumns.isEmpty) : p.updateFunction.IsClosed := by
  have hparams : p.updateFunction.params = [p.keyParam] := by rw [updateFunction, if_pos hempty]
  obtain ⟨ms, hms, hget, hall⟩ := mentions?_updateFunction h hbase hempty
  refine ⟨ms, hms, fun m hm => ?_⟩
  rcases hall m hm with rfl | rfl
  · exact .inr ⟨_, hget, rfl, rfl⟩
  · exact .inl (hparams ▸ List.mem_singleton_self _)

end

/-- The function that looks up is not in the list. -/
theorem getById_not_mem_bodyNames (p : Plan) : p.getById ∉ bodyNames := by
  have hnames : bodyNames.all fun n => !Text.endsWith "_by_id" n := by
    delta bodyNames
    repeat rw [String.toList_ofList]
    decide
  intro hmem
  have hends : Text.endsWith "_by_id" p.getById :=
    List.isSuffixOf_iff_suffix.2 ⟨_, rfl⟩
  have hnot := List.all_eq_true.1 hnames _ hmem
  rw [hends] at hnot
  cases hnot

/-- The key's parameter is called like that function just if its identifier is. -/
theorem keyParamFor_eq_getById_iff (p : Plan) (key : Text) :
    keyParamFor key [] = p.getById ↔ Naming.identifier key = p.getById := by
  simp only [keyParamFor, List.not_mem_nil, false_or]
  split
  · next hmem =>
    have hfresh : ∀ taken name, (Naming.fresh taken (("current_" : Text) ++ name)).head? =
        some 'c' := fun taken name => by
      rw [Naming.fresh]
      split <;> rfl
    refine iff_of_false (fun heq => ?_) (fun heq => getById_not_mem_bodyNames p (heq ▸ hmem))
    have hhead := hfresh ([] ++ bodyNames) (Naming.identifier key)
    rw [heq] at hhead
    cases hhead
  · exact Iff.rfl

end Plan

namespace Role

/-- A reference mentions an identity, and it is not empty. -/
theorem mentionsId_of_isReference {c : Text} (h : isReference c) : mentionsId c ∧ c ≠ [] := by
  refine ⟨?_, ?_⟩
  · rw [mentionsId, Text.contains_iff]
    rw [isReference, Bool.or_eq_true, beq_iff_eq, Text.endsWith, List.isSuffixOf_iff_suffix] at h
    rcases h with h | ⟨front, h⟩
    · rw [h]
    · exact ⟨front ++ ['_'], [], by rw [← h]; simp⟩
  · rintro rfl
    exact absurd h (by decide +kernel)

/-- No column is to be written just if all of them are references. -/
theorem updated_isEmpty_iff (columns : List Text) :
    (updated columns).isEmpty ↔ ∀ c ∈ columns, isReference c := by
  rw [updated_eq_inserted, inserted, List.isEmpty_iff, List.filter_eq_nil_iff]
  simp

/-- Where all columns are references, the first of them is the key. -/
theorem key?_of_forall_isReference {columns : List Text} (h : ∀ c ∈ columns, isReference c) :
    Text.nonempty? (key? columns) = columns.head? := by
  cases columns with
  | nil => rfl
  | cons c columns =>
    obtain ⟨hid, hne⟩ := mentionsId_of_isReference (h c (List.mem_cons_self ..))
    rw [key?, List.find?_cons_of_pos hid]
    cases c with
    | nil => exact absurd rfl hne
    | cons d c => rfl

end Role

namespace Plan

/-- None but an update without columns to write can have a parameter that hides a name. -/
theorem exists_hides_iff {p : Plan} (h : p.IsNamed) (hbase : IsName p.base)
    (hdisjoint : ∀ f ∈ p.functions, f.params.Disjoint bodyNames) :
    (∃ f ∈ p.functions, f.Hides) ↔ p.updateColumns.isEmpty ∧ p.keyParam = p.getById := by
  have hmem : p.updateFunction ∈ p.functions := by simp [functions]
  have hnot : ∀ f ∈ p.functions, f.Keeps bodyNames → ¬ f.Hides := fun f hf hkeeps =>
    hkeeps.not_hides (hdisjoint f hf)
  constructor
  · rintro ⟨f, hf, hhides⟩
    have hkeeps : ¬ f.Keeps bodyNames := fun hkeeps => hnot f hf hkeeps hhides
    simp only [functions, List.mem_cons, List.not_mem_nil, or_false] at hf
    rcases hf with rfl | rfl | rfl | rfl | rfl
    · exact absurd (keeps_listFunction p) hkeeps
    · exact absurd (keeps_lookupFunction h) hkeeps
    · exact absurd (keeps_insertFunction h hbase) hkeeps
    · cases hempty : p.updateColumns.isEmpty
      · exact absurd (keeps_updateFunction h hbase hempty) hkeeps
      · exact ⟨rfl, (hides_updateFunction_iff h hbase hempty).1 hhides⟩
    · exact absurd (keeps_deleteFunction h hbase) hkeeps
  · rintro ⟨hempty, heq⟩
    exact ⟨_, hmem, (hides_updateFunction_iff h hbase hempty).2 heq⟩

/-- Each function of a plan mentions only parameters and names it relies on. -/
theorem isClosed_functions {p : Plan} (h : p.IsNamed) (hbase : IsName p.base) :
    ∀ f ∈ p.functions, f.IsClosed := by
  have hupdate : p.updateFunction.IsClosed := by
    cases hempty : p.updateColumns.isEmpty
    · exact (keeps_updateFunction h hbase hempty).isClosed
    · exact isClosed_updateFunction h hbase hempty
  simp only [functions, List.forall_mem_cons]
  exact ⟨(keeps_listFunction p).isClosed, (keeps_lookupFunction h).isClosed,
    (keeps_insertFunction h hbase).isClosed, hupdate, (keeps_deleteFunction h hbase).isClosed,
    List.forall_mem_nil _⟩

/-- The key's parameter is called like the function that looks up exactly if the first column is, as
long as there is no column to write. -/
theorem keyParam_eq_getById_iff {t : Table} {base : Text}
    (hall : ∀ c ∈ t.columns, Role.isReference c) :
    (ofTable t base).keyParam = (ofTable t base).getById ↔
      ∃ c, t.columns.head? = some c ∧
        Naming.identifier c = ("get_" : Text) ++ base ++ "_by_id" := by
  have hupdated : Role.updated t.columns = [] :=
    List.isEmpty_iff.1 ((Role.updated_isEmpty_iff t.columns).2 hall)
  have hkey : (ofTable t base).keyParam = keyParamFor (t.columns.head?.getD "id") [] := by
    show keyParamFor ((Text.nonempty? (Role.key? t.columns)).getD "id")
      (params (Role.updated t.columns)) = _
    rw [Role.key?_of_forall_isReference hall, hupdated]
    rfl
  rw [hkey, keyParamFor_eq_getById_iff]
  cases t.columns.head? with
  | none =>
    have hid : Naming.identifier "id" = ("id" : Text) := by decide +kernel
    refine iff_of_false (fun heq => ?_) (by rintro ⟨c, ⟨⟩, -⟩)
    rw [Option.getD_none, hid] at heq
    cases heq
  | some c =>
    constructor
    · exact fun heq => ⟨c, rfl, heq⟩
    · rintro ⟨d, ⟨⟩, heq⟩
      exact heq

/-- **When a parameter hides a name.** The five functions mention nothing but their parameters and
names that they rely on. A parameter has such a name exactly if all columns are references and the
first of them is called like the function that looks up. -/
theorem hides_iff (t : Table) {base : Text} (hbase : IsName base) :
    (∀ f ∈ (ofTable t base).functions, f.IsClosed) ∧
      ((∃ f ∈ (ofTable t base).functions, f.Hides) ↔
        (∀ c ∈ t.columns, Role.isReference c) ∧
          ∃ c, t.columns.head? = some c ∧
            Naming.identifier c = ("get_" : Text) ++ base ++ "_by_id") := by
  have h := isNamed_ofTable t base
  refine ⟨isClosed_functions h hbase, ?_⟩
  rw [exists_hides_iff h hbase fun f hf => (params_of_mem_functions t base f hf).2]
  have hempty : (ofTable t base).updateColumns.isEmpty ↔ ∀ c ∈ t.columns, Role.isReference c :=
    Role.updated_isEmpty_iff t.columns
  rw [hempty]
  exact and_congr_right keyParam_eq_getById_iff

/-- An identity of its own is read under its own name. -/
def visits : Table where
  name := "visits"
  columns := ["id", "get_visits_by_id", "patient_id"]

/-- The functions for the visits are read, and none of them hides a name. -/
theorem not_hides_visits :
    IsName ("visits" : Text) ∧ (∀ f ∈ (ofTable visits "visits").functions, f.IsClosed) ∧
      ¬ ∃ f ∈ (ofTable visits "visits").functions, f.Hides := by
  have hbase : IsName ("visits" : Text) := by decide
  obtain ⟨hclosed, hiff⟩ := hides_iff visits hbase
  refine ⟨hbase, hclosed, fun hhides => ?_⟩
  obtain ⟨c, hhead, hname⟩ := (hiff.1 hhides).2
  obtain rfl : "id".toList = c := Option.some.inj hhead
  exact absurd hname (by decide +kernel)

/-- A table whose only column is called like the function that looks its rows up. -/
def selfNamed : Table where
  name := "t"
  columns := ["get_t_by_id"]

/-- The update of such a table calls its own parameter. -/
theorem hides_selfNamed :
    (ofTable selfNamed "t").updateFunction.params = ["get_t_by_id".toList] ∧
      (ofTable selfNamed "t").updateFunction.body.getLast? =
        some "return get_t_by_id(get_t_by_id)".toList ∧
      (ofTable selfNamed "t").updateFunction.Hides := by
  have hkey : (ofTable selfNamed "t").keyParam = (ofTable selfNamed "t").getById := by
    decide +kernel
  refine ⟨by decide +kernel, by decide +kernel, ?_⟩
  exact (hides_updateFunction_iff (isNamed_ofTable _ _) (by decide) (by decide +kernel)).2 hkey

end Plan

end Tablesmith
