/-
# What the checks report

The function that runs the checks goes through a list with a label and a function for each table,
and it records how each check ends in a dictionary under the label (`report`). What is recorded
under a label is overwritten if a later check has the same label, so the report has an entry for
each label and not for each check, and it says how the last check with the label ended
(`isReport_report`).

Labels are names without quotes (`label_of_mem_name`). Two tables of a script have one label exactly
if their names differ in nothing but quotes, as do `Users` and `"Users"`, which are two tables for
the database. Only if there are no such tables does the report say of each check how it ended
(`report_of_nodup`).

Main statement: `Checks.report_all`.
-/

import Mathlib.Data.List.Dedup
import Tablesmith.Proofs.Module.Execution
import Tablesmith.Proofs.Module.Layout
import Tablesmith.Proofs.Sql.Shape

namespace Tablesmith

namespace Naming

/-- A character of a plain name is no quote or bracket. -/
theorem isQuote_of_isNameChar {c : Char} (h : Sql.isNameChar c) : isQuote c = false := by
  rw [Sql.isNameChar, Bool.or_eq_true] at h
  rcases h with h | h
  · exact isQuote_of_isWord h
  · rw [beq_iff_eq.1 h]
    decide

/-- Nothing but the quotes around a table's name is taken away. -/
theorem stripQuotes_of_mem_word {front w back : Text} (hfront : ∀ c ∈ front, isQuote c)
    (hw : w ∈ Sql.Grammar.word) (hback : ∀ c ∈ back, isQuote c) :
    stripQuotes (front ++ w ++ back) = w := by
  have hplain : ∀ c ∈ w, isQuote c = false := fun c hc => isQuote_of_isNameChar (hw.2 c hc)
  rw [stripQuotes, Text.trimBy_append_of_back hback, Text.trimBy_append_of_front hfront]
  exact Text.trimBy_eq_self (fun c hc => hplain c (List.mem_of_mem_head? hc))
    fun c hc => hplain c (List.mem_of_getLast? hc)

/-- An optional quote is a quote or nothing. -/
theorem isQuote_of_mem_optional {p : Char → Bool} (hp : ∀ c, p c → isQuote c) {t : Text}
    (h : t ∈ Sql.Grammar.optional p) : ∀ c ∈ t, isQuote c := by
  rcases h with rfl | ⟨c, hc, rfl⟩
  · exact List.forall_mem_nil _
  · exact List.forall_mem_singleton.2 (hp c hc)

/-- **The label of a table's name** is the name without its quotes. -/
theorem label_of_mem_name {name : Text} (h : name ∈ Sql.Grammar.name) :
    label name = stripQuotes name := by
  obtain ⟨front, hfront, w, hw, back, hback, rfl⟩ := Sql.Grammar.mem_name_iff.1 h
  have hopening : ∀ c, Sql.isOpeningQuote c → isQuote c := by
    intro c hc
    simp only [Sql.isOpeningQuote, isQuote, Bool.or_eq_true] at hc ⊢
    exact .inl hc
  have hclosing : ∀ c, Sql.isClosingQuote c → isQuote c := by
    intro c hc
    simp only [Sql.isClosingQuote, isQuote, Bool.or_eq_true] at hc ⊢
    exact hc.imp_left .inl
  have hstrip := stripQuotes_of_mem_word (isQuote_of_mem_optional hopening hfront) hw
    (isQuote_of_mem_optional hclosing hback)
  have hkept : w.filter isLabelChar = w := by
    refine List.filter_eq_self.2 fun c hc => ?_
    have hname := hw.2 c hc
    rw [Sql.isNameChar] at hname
    rw [isLabelChar, hname, Bool.true_or]
  have hne : w.isEmpty = false := by simpa using hw.1
  simp only [label, hstrip, hkept, hne, Bool.false_eq_true, if_false]

end Naming

/-- The name of a table without its quotes. -/
def Table.bareName (t : Table) : Text := Naming.stripQuotes t.name

namespace Checks

/-- The label and the function of a check, from the line that registers it. -/
def checkOf? (named : Text → Option Char) (back : Text) : Option (Text × Text) :=
  match Source.arguments? back with
  | some ([label, [.word check]], [.mark ',']) =>
    (Source.literal? named label).map fun label => (label, check)
  | _ => none

/-- The checks that a function goes through, if all of them can be read. -/
def entries? (named : Text → Option Char) (f : Function) : Option (List (Text × Text)) :=
  (f.body.filterMap (Text.after? "    (")).mapM (checkOf? named)

/-- The label and the function of a check are read off the line that registers it. -/
theorem checkOf?_commas (named : Text → Option Char) (label : Text) {check : Text}
    (h : Source.IsWord check) :
    checkOf? named (Function.commas [Text.literal label, check] ++ ')' :: [',']) =
      some (label, check) := by
  have hcomma : Source.Reads [','] [.mark ','] :=
    Source.reads_nil.between (by decide) Source.reads_nil
  have hread := Source.arguments?_commas (List.forall_mem_cons.2
    ⟨Source.isArgument_literal label, List.forall_mem_singleton.2 h.isValue.toIsArgument⟩) hcomma
  have hcheck : Source.tokensOf check = [.word check] := Source.tokensOf_of_reads h.reads
  rw [List.map_cons, List.map_singleton, hcheck] at hread
  rw [checkOf?, hread]
  show (Source.literal? named _).map _ = _
  rw [Source.literal?_literal]
  rfl

/-- The check of every plan has a word for its name. -/
theorem isWord_check {tables : List Table} : ∀ p ∈ Plan.all tables, Source.IsWord p.check := by
  intro p hp
  have hfront : Source.IsWord ("check_" : Text) := ⟨by decide, by decide⟩
  exact hfront.append (Plan.isName_base_of_mem_all p hp)

/-- The line that registers a check lists two things, its label and its function. -/
theorem checkEntry_eq_commas (p : Plan) : p.checkEntry =
    ("    (" : Text) ++ (Function.commas [Text.literal p.label, p.check] ++ ')' :: [',']) := by
  have hcommas : Function.commas [Text.literal p.label, p.check] =
      Text.literal p.label ++ ((", " : Text) ++ p.check) := by
    rw [Function.commas, Text.join_cons_cons, Text.join_singleton]
  rw [Plan.checkEntry_eq, hcommas]
  simp only [List.append_assoc]
  rfl

/-- Nothing but checks is found in the list of checks. -/
theorem filterMap_body_runFunction (plans : List Plan) :
    (runFunction plans).body.filterMap (Text.after? "    (") = plans.map fun p =>
      Function.commas [Text.literal p.label, p.check] ++ ')' :: [','] := by
  have hlist : (if plans.isEmpty then [[]] else plans.map Plan.checkEntry).filterMap
      (Text.after? "    (") = plans.map fun p =>
        Function.commas [Text.literal p.label, p.check] ++ ')' :: [','] := by
    cases plans with
    | nil => rfl
    | cons p plans =>
      rw [List.isEmpty_cons, if_neg Bool.false_ne_true, List.filterMap_map]
      refine List.filterMap_eq_map_iff_forall_eq_some.2 fun q _ => ?_
      rw [Function.comp_apply, checkEntry_eq_commas, Text.after?_append]
  rw [runFunction, List.filterMap_append, List.filterMap_append, hlist]
  refine (congrArg₂ (· ++ ·) (congrArg (· ++ _) (?_ : _ = [])) (?_ : _ = [])).trans
    (List.append_nil _)
  all_goals repeat rw [String.toList_ofList]
  all_goals decide

/-- **The checks are read** with the labels of their tables. -/
theorem entries?_runFunction (named : Text → Option Char) (tables : List Table) :
    entries? named (runFunction (Plan.all tables)) =
      some ((Plan.all tables).map fun p => (p.label, p.check)) := by
  rw [entries?, filterMap_body_runFunction, List.mapM_map]
  refine Sql.mapM_eq_some_map fun p hp => ?_
  rw [Function.comp_apply, checkOf?_commas named p.label (isWord_check p hp)]

/-- How a check ends: with what it returns, or with an error of the database. -/
inductive Ending where
  | returned (ok : Bool)
  | refused (error : Text)
deriving Repr, DecidableEq

/-- What is recorded of a check: whether it returned that all is well. -/
def Ending.passed : Ending → Bool
  | returned ok => ok
  | refused _ => false

/-- What is recorded under the labels, in the order in which these came up. -/
abbrev Results := List (Text × Bool)

/-- Records how a check ended under its label. What was recorded there before is overwritten. -/
def Results.record : Results → Text × Ending → Results
  | [], check => [(check.1, check.2.passed)]
  | result :: results, check =>
    if result.1 = check.1 then (check.1, check.2.passed) :: results
    else result :: Results.record results check

/-- The number of checks that passed, as it is reported. -/
def Results.passed (results : Results) : Nat := results.countP Prod.snd

/-- What is recorded when checks with these labels end like this, one after the other. -/
def report (checks : List (Text × Ending)) : Results := checks.foldl Results.record []

/-- A label is recorded where it was before, and else at the end. -/
theorem map_fst_record (results : Results) (check : Text × Ending) :
    (results.record check).map Prod.fst =
      if check.1 ∈ results.map Prod.fst then results.map Prod.fst
      else results.map Prod.fst ++ [check.1] := by
  induction results with
  | nil => rfl
  | cons result results ih =>
    rw [Results.record]
    by_cases h : result.1 = check.1
    · simp [h]
    · rw [if_neg h, List.map_cons, ih, List.map_cons]
      simp only [List.mem_cons, Ne.symm h, false_or]
      split <;> rfl

/-- Recording changes what is found under its label, and nothing else. -/
theorem lookup_record (results : Results) (check : Text × Ending) (label : Text) :
    (results.record check).lookup label =
      if label = check.1 then some check.2.passed else results.lookup label := by
  induction results with
  | nil =>
    rw [Results.record, List.lookup_cons]
    split
    · next h => rw [if_pos (beq_iff_eq.1 h)]
    · next h => rw [if_neg (beq_eq_false_iff_ne.1 h)]
  | cons result results ih =>
    rw [Results.record]
    by_cases h : result.1 = check.1
    · rw [if_pos h, List.lookup_cons, List.lookup_cons, h]
      split
      · next hlabel => rw [if_pos (beq_iff_eq.1 hlabel)]
      · next hlabel => rw [if_neg (beq_eq_false_iff_ne.1 hlabel)]
    · rw [if_neg h, List.lookup_cons, List.lookup_cons, ih]
      split
      · next hlabel => rw [if_neg fun heq => h ((beq_iff_eq.1 hlabel).symm.trans heq)]
      · rfl

/-- A check with a new label is recorded behind the others. -/
theorem record_of_not_mem {results : Results} {check : Text × Ending}
    (h : check.1 ∉ results.map Prod.fst) :
    results.record check = results ++ [(check.1, check.2.passed)] := by
  induction results with
  | nil => rfl
  | cons result results ih =>
    rw [List.map_cons, List.mem_cons, not_or] at h
    rw [Results.record, if_neg (Ne.symm h.1), ih h.2]
    rfl

/-- What is recorded agrees with how the checks ended: there is one entry for each label, and it
says how the last check with the label ended. -/
structure IsReport (checks : List (Text × Ending)) (results : Results) : Prop where
  nodup : (results.map Prod.fst).Nodup
  mem_iff : ∀ label, label ∈ results.map Prod.fst ↔ label ∈ checks.map Prod.fst
  lookup : ∀ label, results.lookup label = (checks.reverse.lookup label).map Ending.passed

/-- What is recorded after one more check agrees with how all of them ended. -/
theorem IsReport.record {checks : List (Text × Ending)} {results : Results}
    (h : IsReport checks results) (check : Text × Ending) :
    IsReport (checks ++ [check]) (results.record check) where
  nodup := by
    rw [map_fst_record]
    split
    · exact h.nodup
    · next hnew =>
      rw [← List.concat_eq_append]
      exact h.nodup.concat hnew
  mem_iff label := by
    rw [map_fst_record, List.map_append, List.mem_append, ← h.mem_iff]
    split
    · next hold =>
      refine ⟨.inl, fun hlabel => hlabel.elim id fun heq => ?_⟩
      rwa [List.mem_singleton.1 heq]
    · exact List.mem_append
  lookup label := by
    rw [lookup_record, List.reverse_append, h.lookup]
    show _ = Option.map _ ((check :: checks.reverse).lookup label)
    rw [List.lookup_cons]
    split
    · next heq => rw [heq, beq_self_eq_true]; rfl
    · next hne => rw [beq_false_of_ne hne]

/-- **The report agrees with how the checks ended,** whatever their labels. -/
theorem isReport_report (checks : List (Text × Ending)) : IsReport checks (report checks) := by
  induction checks using List.reverseRecOn with
  | nil => exact ⟨List.nodup_nil, fun _ => Iff.rfl, fun _ => rfl⟩
  | append_singleton checks check ih =>
    rw [report, List.foldl_append]
    exact ih.record check

/-- There are as many entries as there are different labels. -/
theorem IsReport.length_eq {checks : List (Text × Ending)} {results : Results}
    (h : IsReport checks results) : results.length = (checks.map Prod.fst).dedup.length := by
  have hperm : (results.map Prod.fst).Perm (checks.map Prod.fst).dedup :=
    (List.perm_ext_iff_of_nodup h.nodup (List.nodup_dedup _)).2 fun label => by
      rw [h.mem_iff, List.mem_dedup]
  rw [← hperm.length_eq, List.length_map]

/-- With labels of their own, all checks are reported as they ended. -/
theorem report_of_nodup {checks : List (Text × Ending)} (h : (checks.map Prod.fst).Nodup) :
    report checks = checks.map fun check => (check.1, check.2.passed) := by
  induction checks using List.reverseRecOn with
  | nil => rfl
  | append_singleton checks check ih =>
    rw [List.map_append, List.map_singleton, List.nodup_append_comm, List.singleton_append,
      List.nodup_cons] at h
    have hnew : check.1 ∉ (report checks).map Prod.fst := by
      rw [(isReport_report checks).mem_iff]
      exact h.1
    rw [report, List.foldl_append, ← report, List.foldl_cons, List.foldl_nil,
      record_of_not_mem hnew, ih h.2, List.map_append]
    rfl

/-- Dropping duplicates drops nothing just where there are none. -/
theorem length_dedup_eq_iff {α : Type} [DecidableEq α] {l : List α} :
    l.dedup.length = l.length ↔ l.Nodup :=
  ⟨fun h => List.dedup_eq_self.1 ((List.dedup_sublist l).eq_of_length h),
    fun h => by rw [List.dedup_eq_self.2 h]⟩

/-- With labels of their own all checks are counted. -/
theorem report_zip_of_nodup {labels : List Text} {endings : List Ending}
    (hlength : endings.length = labels.length) (h : labels.Nodup) :
    report (labels.zip endings) = labels.zip (endings.map Ending.passed) ∧
      (report (labels.zip endings)).passed = endings.countP Ending.passed := by
  have hlabels : (labels.zip endings).map Prod.fst = labels :=
    List.map_fst_zip (Nat.le_of_eq hlength.symm)
  have hreport : report (labels.zip endings) = labels.zip (endings.map Ending.passed) := by
    rw [report_of_nodup (by rwa [hlabels]), List.zip_map_right]
    rfl
  have hsnd : (labels.zip (endings.map Ending.passed)).map Prod.snd = endings.map Ending.passed :=
    List.map_snd_zip (by rw [List.length_map, hlength])
  refine ⟨hreport, ?_⟩
  calc (report (labels.zip endings)).passed
      = ((labels.zip (endings.map Ending.passed)).map Prod.snd).countP id := by
        rw [hreport, List.countP_map]; rfl
    _ = endings.countP Ending.passed := by rw [hsnd, List.countP_map]; rfl

/-- Tables of scripts are reported under their names without quotes. -/
theorem map_label_all {tables : List Table} (h : ∀ t ∈ tables, t.name ∈ Sql.Grammar.name) :
    (Plan.all tables).map Plan.label = tables.map Table.bareName := by
  calc (Plan.all tables).map Plan.label
      = ((Plan.all tables).map Plan.table).map fun t => Naming.label t.name := by
        rw [List.map_map]; rfl
    _ = tables.map fun t => Naming.label t.name := by rw [Plan.map_table_all]
    _ = tables.map Table.bareName :=
        List.map_congr_left fun t ht => Naming.label_of_mem_name (h t ht)

/-- **What is reported on the tables of scripts.** There is a check for each table, whose label is
the table's name without quotes, and for each label the report says how the last check with it
ended. It has an entry for each table exactly if no two names are the same without quotes; then it
says of each check how it ended. -/
theorem report_all (named : Text → Option Char) {tables : List Table}
    (h : ∀ t ∈ tables, ∃ mode script, t ∈ Table.ofScript mode script) :
    entries? named (runFunction (Plan.all tables)) =
        some ((tables.map Table.bareName).zip ((Plan.all tables).map Plan.check)) ∧
      ∀ endings : List Ending, endings.length = tables.length →
        let ended := (tables.map Table.bareName).zip endings
        IsReport ended (report ended) ∧
          ((report ended).length = tables.length ↔ (tables.map Table.bareName).Nodup) ∧
          ((tables.map Table.bareName).Nodup →
            report ended = (tables.map Table.bareName).zip (endings.map Ending.passed) ∧
              (report ended).passed = endings.countP Ending.passed) := by
  have hname : ∀ t ∈ tables, t.name ∈ Sql.Grammar.name := by
    intro t ht
    obtain ⟨mode, script, hmem⟩ := h t ht
    obtain ⟨d, -, -, -, hshape⟩ := (Table.ofScript_shape mode script).2 t hmem
    exact hshape.name
  constructor
  · rw [entries?_runFunction, ← map_label_all hname, List.zip_map']
  · intro endings hlength
    have hlabels : ((tables.map Table.bareName).zip endings).map Prod.fst =
        tables.map Table.bareName := List.map_fst_zip (by rw [List.length_map, hlength])
    have hreport := isReport_report ((tables.map Table.bareName).zip endings)
    refine ⟨hreport, ?_, report_zip_of_nodup (by rw [List.length_map, hlength])⟩
    rw [hreport.length_eq, hlabels, ← length_dedup_eq_iff, List.length_map]

/-- The check of `a` fails and that of `B` succeeds. -/
theorem report_all_pair :
    let tables := Table.ofScript .legacy
      "CREATE TABLE a (id INT);\nCREATE TABLE \"B\" (id INT);"
    entries? (fun _ => none) (runFunction (Plan.all tables)) =
        some ([("a", "check_a"), ("B", "check_b")] : List (Text × Text)) ∧
      report ((tables.map Table.bareName).zip [.refused "", .returned true]) =
        ([("a", false), ("B", true)] : List (Text × Bool)) := by
  intro tables
  have hbare : tables.map Table.bareName = (["a", "B"] : List Text) := by decide +kernel
  have hchecks : (Plan.all tables).map Plan.check = (["check_a", "check_b"] : List Text) := by
    decide +kernel
  have hlength : 2 = tables.length := by rw [← List.length_map Table.bareName, hbare]; rfl
  obtain ⟨hentries, hreport⟩ := report_all (fun _ => none) fun t ht => ⟨.legacy, _, ht⟩
  obtain ⟨-, -, hall⟩ := hreport [.refused "", .returned true] hlength
  refine ⟨?_, ?_⟩
  · rw [hentries, hbare, hchecks]
    rfl
  · rw [(hall (by rw [hbare]; decide)).1, hbare]
    rfl

/-- Two tables whose names differ in their quotes. -/
def accounts : List Table :=
  Table.ofScript .legacy "CREATE TABLE Users (id INT);\nCREATE TABLE \"Users\" (id INT);"

/-- The first check fails, and all that is reported is the success of the second. -/
theorem report_accounts :
    (accounts.map Table.name).Nodup ∧ accounts.length = 2 ∧
      entries? (fun _ => none) (runFunction (Plan.all accounts)) =
        some ([("Users", "check_users"), ("Users", "check_users_2")] : List (Text × Text)) ∧
      report ((accounts.map Table.bareName).zip [.refused "", .returned true]) =
        ([("Users", true)] : List (Text × Bool)) := by
  have hplans : (Plan.all accounts).map (fun p => (p.label, p.check)) =
      ([("Users", "check_users"), ("Users", "check_users_2")] : List (Text × Text)) := by
    decide +kernel
  have hbare : accounts.map Table.bareName = (["Users", "Users"] : List Text) := by decide +kernel
  refine ⟨by decide +kernel, by decide +kernel, ?_, ?_⟩
  · rw [entries?_runFunction, hplans]
  · rw [hbare]
    rfl

end Checks
end Tablesmith
