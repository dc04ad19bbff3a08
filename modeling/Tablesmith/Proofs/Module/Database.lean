/-
# The database that a module connects to

Three names may be there to choose from: one that is asked for, the one that the script gives its
database, and the one to fall back on. The first that is there is to be used, and a blank name is
none (`preferredName`). What is used is what the settings make of the name that the schema chooses,
and these two ask differently whether a name is there:

| asked for | the schema chooses | the settings use |
| --- | --- | --- |
| nothing, or an empty name | the script's name | that name, or the one to fall back on |
| blanks | the blanks | the name to fall back on |
| any other name | that name | that name, trimmed |

So blanks that are asked for hide the name that the script gives (`databaseName_databaseFor`). The
name that is used is the one that is reported and the one that stands in the connection settings of
the module (`Connects`).

Main statement: `connects_to_usedName`.
-/

import Tablesmith.Proofs.FrontEnd.Service
import Tablesmith.Proofs.Module.Layout
import Tablesmith.Proofs.Source.Call
import Tablesmith.Proofs.Sql.DatabaseLine

namespace Tablesmith

open Text (IsLine)

/-- The name of the database in the connection settings of a module. -/
def Preamble.databaseName? (named : Text → Option Char) (moduleText : Text) : Option Text :=
  let back := (Text.cutAt '\n' moduleText).dropWhile fun line => line != "DB_CONFIG = \x7b".toList
  let settings := back.takeWhile fun line => line != "\x7d".toList
  (settings.findSome? (Text.after? "    \"dbname\": ")).bind fun value =>
    match Source.tokensOf value with
    | [.literal body, .mark ','] => Source.unescape? named body
    | _ => none

namespace Preamble

/-- What stands in front of the connection settings. -/
def front (database : Text) (tables : List Text) : List Text :=
  documentation database tables ++ [] :: imports ++ [[]]

/-- A module's text begins with these lines. -/
theorem cutAt_text (database : Text) {tables : List Text} (h : ∀ t ∈ tables, IsLine t)
    (s : Settings) (back : Text) : ∃ rest,
      Text.cutAt '\n' (text database tables s ++ '\n' :: back) =
        front database tables ++ configuration database s ++ rest := by
  have hdocumentation := Text.cutAt_unlines (documentation database tables)
    (List.cons_ne_nil _ _) fun l hl => (isQuiet_documentation database h l hl).1
  have himports := Text.cutAt_unlines imports (List.cons_ne_nil _ _)
    fun l hl => (isQuiet_imports l hl).1
  have hconfiguration := Text.cutAt_unlines (configuration database s)
    (List.cons_ne_nil _ _) fun l hl => (isQuiet_configuration database s l hl).1
  have htext : text database tables s ++ '\n' :: back =
      Text.unlines (documentation database tables) ++ '\n' :: ([] ++ '\n' ::
        (Text.unlines imports ++ '\n' :: ([] ++ '\n' ::
          (Text.unlines (configuration database s) ++ '\n' ::
            ('\n' :: Function.apart (functions.map Function.text) ++ '\n' :: back))))) := by
    simp only [text, Text.join_cons_cons, Text.join_singleton, List.append_assoc]
    rfl
  refine ⟨Text.cutAt '\n' ('\n' :: Function.apart (functions.map Function.text) ++ '\n' :: back),
    ?_⟩
  rw [htext, hdocumentation, Text.cutAt_append, himports, Text.cutAt_append, hconfiguration, front]
  simp only [List.append_assoc]
  rfl

/-- In front of the connection settings no line begins them. -/
theorem front_ne (database : Text) (tables : List Text) :
    ∀ l ∈ front database tables, (l != "DB_CONFIG = \x7b".toList) = true := by
  simp only [front, documentation, imports, List.forall_mem_append, List.forall_mem_cons]
  repeat rw [String.toList_ofList]
  refine ⟨⟨⟨?_, ?_, ?_, ?_, ?_, ?_, ?_, ?_, ?_, List.forall_mem_nil _⟩, ?_, ?_, ?_, ?_, ?_, ?_, ?_,
    List.forall_mem_nil _⟩, ?_, List.forall_mem_nil _⟩ <;> rfl

/-- **The name that is written is read,** whatever follows the preamble. -/
theorem databaseName?_eq (named : Text → Option Char) {database : Text} {tables : List Text}
    (h : ∀ t ∈ tables, IsLine t) (s : Settings) (back : Text) :
    databaseName? named (text database tables s ++ '\n' :: back) = some database := by
  obtain ⟨rest, hcut⟩ := cutAt_text database h s back
  have hread : Source.Reads (Text.literal database ++ ',' :: [])
      [.literal (Text.escape database), .mark ','] :=
    (Source.reads_literal database).between (by decide) Source.reads_nil
  -- The name is on the fourth line of the settings, and no line up to there ends them.
  have hfind : ((configuration database s).take 4).findSome? (Text.after? "    \"dbname\": ") =
      some (Text.literal database ++ ',' :: []) := by
    iterate 3 refine (List.findSome?_cons_of_isNone rfl).trans ?_
    exact (List.findSome?_cons_of_isSome rfl).trans rfl
  have hopen : ∀ l ∈ (configuration database s).take 4, (l != "\x7d".toList) = true := by
    show ∀ l ∈ [_, _, _, _], _
    simp only [List.forall_mem_cons]
    refine ⟨?_, ?_, ?_, ?_, List.forall_mem_nil _⟩ <;> rfl
  have hlines : configuration database s ++ rest = (configuration database s).take 4
      ++ ((configuration database s).drop 4 ++ rest) := by
    rw [← List.append_assoc, List.take_append_drop]
  have hfirst : (configuration database s).take 4 ++ ((configuration database s).drop 4 ++ rest) =
      "DB_CONFIG = \x7b".toList :: (((configuration database s).take 4).tail
        ++ ((configuration database s).drop 4 ++ rest)) := rfl
  simp only [databaseName?, hcut, List.append_assoc]
  rw [List.dropWhile_append_of_pos (front_ne database tables), hlines, hfirst,
    List.dropWhile_cons_of_neg (by simp), ← hfirst, List.takeWhile_append_of_pos hopen,
    List.findSome?_append, hfind, Option.some_or, Option.bind_some,
    Source.tokensOf_of_reads hread]
  exact Source.unescape?_escape named database

end Preamble

/-- A module begins with its preamble if nothing of it is taken away. -/
theorem Draft.exists_text_eq {d : Draft} (hblank : Text.isAllBlank d.preamble = false)
    (hstrip : strip d.preamble = d.preamble) : ∃ back, d.text = d.preamble ++ '\n' :: back := by
  have hwritten : d.written = d.preamble ::
      (((d.sections.map Prod.snd ++ [d.checks, d.footer]).filter fun p => !Text.isAllBlank p).map
        strip) := by
    rw [written, parts, List.cons_append, List.filter_cons_of_pos (by rw [hblank]; rfl),
      List.map_cons, hstrip]
  rw [text, hwritten]
  cases (((d.sections.map Prod.snd ++ [d.checks, d.footer]).filter
      fun p => !Text.isAllBlank p).map strip) with
  | nil => exact ⟨[], by rw [Text.join_singleton]⟩
  | cons p ps =>
    refine ⟨"\n\n".toList ++ Text.join "\n\n\n" (p :: ps) ++ ['\n'], ?_⟩
    rw [Text.join_cons_cons, List.append_assoc, List.append_assoc]
    rfl

namespace Preamble

/-- The preamble ends with the last line of its last function. -/
theorem getLast?_text (database : Text) (tables : List Text) (s : Settings) :
    (text database tables s).getLast? = some ')' := by
  have hline : (Function.indent "    pool.putconn(conn)").getLast? = some ')' := by decide
  have hlines : queryFunction.lines =
      queryFunction.lines.dropLast ++ [Function.indent "    pool.putconn(conn)"] := rfl
  have hquery : queryFunction.text.getLast? = some ')' := by
    rw [Function.text, Text.unlines, hlines]
    exact Text.getLast?_join _ _ hline
  have hfunctions : (Function.apart (functions.map Function.text)).getLast? = some ')' :=
    Text.getLast?_join _ [_, _, _] hquery
  exact Text.getLast?_join _ [_, _, _] hfunctions

/-- The preamble needs no stripping. -/
theorem strip_text (database : Text) (tables : List Text) (s : Settings) :
    Draft.strip (text database tables s) = text database tables s := by
  refine Text.trimBy_eq_self (fun c hc => ?_) fun c hc => ?_
  · obtain rfl : '"' = c := Option.some.inj hc
    rfl
  · rw [getLast?_text] at hc
    obtain rfl : ')' = c := Option.some.inj hc
    rfl

end Preamble

namespace Settings

/-- The name that is to be used: the one that is asked for, trimmed, unless it is blank, then the
one that is given, then the one to fall back on. -/
def preferredName (s : Settings) (wanted given : Option Text) : Text :=
  (((wanted.map Text.trim).filter fun name => !name.isEmpty) <|> given).getD s.fallbackName

/-- Are blanks asked for? An empty name is like none. -/
def asksForBlanks (wanted : Option Text) : Bool :=
  wanted.any fun name => !name.isEmpty && Text.isAllBlank name

/-- The name that is used: blanks that are asked for hide the name that is given. -/
def usedName (s : Settings) (wanted given : Option Text) : Text :=
  if asksForBlanks wanted then s.fallbackName else s.preferredName wanted given

/-- Blanks are no name to prefer. -/
theorem preferredName_of_asksForBlanks (s : Settings) {wanted : Option Text}
    (h : asksForBlanks wanted) (given : Option Text) :
    s.preferredName wanted given = given.getD s.fallbackName := by
  cases wanted with
  | none => cases h
  | some w =>
    rw [asksForBlanks, Option.any_some, Bool.and_eq_true] at h
    rw [preferredName, Option.map_some, Option.filter_some, Text.isEmpty_trim, h.2]
    rfl

/-- The preferred name is used, unless a name that is given and is not the one to fall back on is
hidden by blanks. -/
theorem usedName_eq_preferredName_iff {s : Settings} {wanted given : Option Text} :
    s.usedName wanted given = s.preferredName wanted given ↔
      (asksForBlanks wanted → ∀ name, given = some name → name = s.fallbackName) := by
  by_cases hasks : asksForBlanks wanted
  · rw [usedName, if_pos hasks, preferredName_of_asksForBlanks s hasks, forall_prop_of_true hasks]
    cases given with
    | none => simp
    | some name => simp [eq_comm]
  · rw [usedName, if_neg hasks]
    exact iff_of_true rfl fun h => absurd h hasks

/-- The name that a script gives its database is used as it is, for it is trimmed and not empty. -/
theorem databaseName_name? (s : Settings) (script : Text) :
    s.databaseName (Sql.Database.name? script) =
      (Sql.Database.name? script).getD s.fallbackName := by
  cases hname : Sql.Database.name? script with
  | none => rfl
  | some n =>
    obtain ⟨hne, front, line, back, -, -, behind, part, -, -, hn⟩ :=
      Sql.Database.name?_eq_some_iff.1 hname
    have htrim : Text.trim n = n := by rw [hn, Text.trim_trim]
    rw [databaseName, Option.getD_some, htrim, if_neg (by simpa using hne), Option.getD_some]

/-- **The settings and the schema together** use this name, where the schema has the name that a
script gives. -/
theorem databaseName_databaseFor (s : Settings) {schema : Schema} {script : Text}
    (h : schema.databaseName = Sql.Database.name? script) (wanted : Option Text) :
    s.databaseName (schema.databaseFor wanted) =
      s.usedName wanted (Sql.Database.name? script) := by
  rcases wanted with _ | _ | ⟨c, w⟩
  · exact (congrArg s.databaseName h).trans (databaseName_name? s script)
  · exact (congrArg s.databaseName h).trans (databaseName_name? s script)
  · have hasks : asksForBlanks (some (c :: w)) = (Text.trim (c :: w)).isEmpty :=
      (Text.isEmpty_trim (c :: w)).symm
    have hwanted : schema.databaseFor (some (c :: w)) = some (c :: w) := rfl
    rw [usedName, hasks, hwanted, databaseName, Option.getD_some, preferredName, Option.map_some,
      Option.filter_some]
    cases (Text.trim (c :: w)).isEmpty <;> rfl

end Settings

/-- This is the name of the database that is reported, and the one in the connection settings of the
module. -/
structure Generation.Connects (named : Text → Option Char) (g : Generation) (name : Text) :
    Prop where
  reported : g.databaseName = some name
  written : g.moduleText.bind (Preamble.databaseName? named) = some name

/-- A generation for tables connects to the name that the settings make of the wanted one. -/
theorem Generation.connects_ofTables (named : Text → Option Char) {tables : List Table}
    (h : tables.isEmpty = false) (wanted : Option Text) (s : Settings) :
    (ofTables tables wanted s).Connects named (s.databaseName wanted) := by
  have hlabels : ∀ t ∈ (Plan.all tables).map Plan.label, IsLine t :=
    List.forall_mem_map.2 fun p _ => Naming.isLine_label p.table.name
  have hpreamble : (Plan.draft (Plan.all tables) (s.databaseName wanted) s).preamble =
      Preamble.text (s.databaseName wanted) ((Plan.all tables).map Plan.label) s := rfl
  have hblank : Text.isAllBlank (Preamble.text (s.databaseName wanted)
      ((Plan.all tables).map Plan.label) s) = false := rfl
  obtain ⟨back, htext⟩ := Draft.exists_text_eq (hpreamble ▸ hblank)
    (hpreamble ▸ Preamble.strip_text _ _ s)
  have hread : Preamble.databaseName? named
      (Plan.draft (Plan.all tables) (s.databaseName wanted) s).text =
        some (s.databaseName wanted) := by
    rw [htext, hpreamble]
    exact Preamble.databaseName?_eq named hlabels s back
  rw [ofTables, if_neg (by rw [h]; exact Bool.false_ne_true)]
  exact ⟨rfl, (Option.bind_some ..).trans hread⟩

/-- What a schema generates connects to the name that is used, given the one in its script. -/
theorem Schema.connects_generate (named : Text → Option Char) {s : Schema} {script : Text}
    (h : s.databaseName = Sql.Database.name? script) {wanted : Option Text} {settings : Settings}
    (hgenerated : (s.generate wanted settings).isGenerated) :
    (s.generate wanted settings).Connects named
      (settings.usedName wanted (Sql.Database.name? script)) := by
  rw [generate, Generation.isGenerated_ofTables, Bool.not_eq_true'] at hgenerated
  rw [← settings.databaseName_databaseFor h]
  exact Generation.connects_ofTables named hgenerated _ settings

namespace Pipeline

/-- Selecting tables does not change the name of the database. -/
theorem databaseName_of_select {r : Request} {s s' : Schema} (h : select r s = .ok s') :
    s'.databaseName = s.databaseName := by
  rw [select] at h
  split at h
  · rw [Schema.selectOnly] at h
    split at h
    · rw [← Except.ok.inj h]; rfl
    · cases h
  · rw [← Except.ok.inj h]
    split <;> rfl

/-- A run that generates connects to the name that is used, given the one in the script it was
asked for. -/
theorem connects_run (named : Text → Option Char) {document : Except Fault Value} {r : Request}
    {result : Result} (h : (run document r).outcome = .ok result)
    (hgenerated : result.generation.isGenerated) :
    ∃ settings, settingsOr document r.settings = .ok settings ∧
      result.generation.Connects named
        (settings.usedName r.database (Sql.Database.name? r.script)) := by
  rw [outcome_run] at h
  cases hread : Schema.ofRequest (modeOf document) r.mode r.script with
  | error fault => rw [hread] at h; cases h
  | ok read =>
    rw [hread, Except.bind] at h
    cases hselect : select r read with
    | error fault => rw [hselect] at h; cases h
    | ok schema =>
      rw [hselect, Except.bind] at h
      obtain ⟨settings, hsettings, rfl⟩ := exists_of_map_eq_ok h
      have hname : schema.databaseName = Sql.Database.name? r.script := by
        rw [databaseName_of_select hselect, Schema.eq_ofScript_of_ofRequest hread]
        rfl
      exact ⟨settings, hsettings, Schema.connects_generate named hname hgenerated⟩

end Pipeline

/-- **The database that a module connects to.** Whether a schema with the name that a script gives
generates it or a whole run does, the module connects to the name that is used, and this is also the
one that is reported. It is the preferred one, unless blanks are asked for and the script gives a
name that is not the one to fall back on. -/
theorem connects_to_usedName (named : Text → Option Char) :
    (∀ (script : Text) (s : Schema) (wanted : Option Text) (settings : Settings),
      s.databaseName = Sql.Database.name? script → (s.generate wanted settings).isGenerated →
        (s.generate wanted settings).Connects named
          (settings.usedName wanted (Sql.Database.name? script))) ∧
      (∀ (document : Except Fault Value) (r : Pipeline.Request) (result : Pipeline.Result),
        (Pipeline.run document r).outcome = .ok result → result.generation.isGenerated →
          ∃ settings, Pipeline.settingsOr document r.settings = .ok settings ∧
            result.generation.Connects named
              (settings.usedName r.database (Sql.Database.name? r.script))) ∧
      ∀ (settings : Settings) (wanted given : Option Text),
        settings.usedName wanted given = settings.preferredName wanted given ↔
          (Settings.asksForBlanks wanted →
            ∀ name, given = some name → name = settings.fallbackName) :=
  ⟨fun _ _ _ _ h hgenerated => Schema.connects_generate named h hgenerated,
    fun _ _ _ h hgenerated => Pipeline.connects_run named h hgenerated,
    fun _ _ _ => Settings.usedName_eq_preferredName_iff⟩

/-- A script that gives its database a name. -/
def bakery : Text := "CREATE DATABASE tienda;\nCREATE TABLE t (id INT);"

/-- A request for a module on the tables of the bakery, in a database that is asked for. -/
def bakery.request (database : Option Text) : Pipeline.Request where
  script := bakery
  all := true
  mode := some Sql.SplitMode.legacy.name
  database := database
  settings := some {}

/-- What the request answers. -/
def bakery.result (database : Option Text) : Pipeline.Result :=
  let schema := (Schema.ofScript .legacy bakery).toggleAll
  ⟨schema, schema.generate database {}⟩

/-- The run for the bakery answers with its one table. -/
theorem bakery.outcome_run (document : Except Fault Value) (database : Option Text) :
    (Pipeline.run document (request database)).outcome = .ok (result database) := by
  have hread := Pipeline.ofRequest_name (Pipeline.modeOf document) .legacy bakery
  rw [Pipeline.outcome_run, request, hread]
  rfl

/-- It generates a module. -/
theorem bakery.isGenerated (database : Option Text) : (result database).generation.isGenerated := by
  have hselected : ((Schema.ofScript .legacy bakery).toggleAll.selected).isEmpty = false := by
    decide +kernel
  show (Schema.generate _ _ _).isGenerated
  rw [Schema.generate, Generation.isGenerated_ofTables, hselected]
  rfl

/-- The bakery's script gives its database a name. -/
theorem bakery.name? : Sql.Database.name? bakery = some "tienda".toList := by decide +kernel

/-- The name that the bakery gives is used if none is asked for, and else the one that is. -/
theorem connects_to_usedName_bakery :
    (bakery.result none).generation.Connects (fun _ => none) "tienda" ∧
      (bakery.result (some " otra ")).generation.Connects (fun _ => none) "otra" := by
  obtain ⟨hschema, hrun, -⟩ := connects_to_usedName fun _ => none
  have hnone : ({} : Settings).usedName none (Sql.Database.name? bakery) = "tienda".toList := by
    rw [bakery.name?]
    rfl
  have hother : ({} : Settings).usedName (some " otra ") (Sql.Database.name? bakery) =
      "otra".toList := by
    rw [bakery.name?]
    decide +kernel
  constructor
  · obtain ⟨settings, hsettings, hconnects⟩ :=
      hrun (.ok .null) _ _ (bakery.outcome_run _ none) (bakery.isGenerated none)
    obtain rfl : {} = settings := Except.ok.inj hsettings
    exact hnone ▸ hconnects
  · exact hother ▸ hschema bakery _ _ _ rfl (bakery.isGenerated (some " otra "))

/-- Blanks that are asked for hide the name that the bakery gives. -/
theorem not_connects_to_preferredName_bakery :
    ({} : Settings).preferredName (some "   ") (Sql.Database.name? bakery) = "tienda".toList ∧
      (bakery.result (some "   ")).generation.isGenerated ∧
      (bakery.result (some "   ")).generation.Connects (fun _ => none) "mi_base_de_datos" ∧
      ¬ (bakery.result (some "   ")).generation.Connects (fun _ => none) "tienda" := by
  have hused : ({} : Settings).usedName (some "   ") (Sql.Database.name? bakery) =
      "mi_base_de_datos".toList := by decide
  have hconnects : (bakery.result (some "   ")).generation.Connects (fun _ => none)
      "mi_base_de_datos" :=
    hused ▸ Schema.connects_generate _ rfl (bakery.isGenerated (some "   "))
  refine ⟨by rw [bakery.name?]; decide, bakery.isGenerated _, hconnects, fun h => ?_⟩
  have hsame := Option.some.inj (hconnects.reported.symm.trans h.reported)
  exact absurd hsame (by decide)

end Tablesmith
