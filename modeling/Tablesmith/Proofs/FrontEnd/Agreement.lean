/-
# The front ends agree

A module can be asked for in three ways: in one pass over a script, for a session that the script
was parsed into, and on the command line. They differ in what they do before and between:

| front end | before the module is generated |
| --- | --- |
| one pass | the script is read, tables are selected |
| session | the same, in a workspace, perhaps with other operations in between, and a pause |
| command line | the script is read from bytes, and its line endings are written as newlines |

None of this makes a difference to the module (`frontEnds_agree`).
-/

import Tablesmith.Proofs.FrontEnd.CommandLine

namespace Tablesmith

namespace FrontEnd

/-- What one pass over a script generates for the given tables, or for all of them. -/
def direct (document : Except Fault Value) (settings : Option Settings) (m : Sql.SplitMode)
    (script : Text) (database : Option Text) (tables : Option (List Text)) :
    Except Fault Generation :=
  Pipeline.generation document
    { script := script, tables := tables, all := tables.isNone, database := database
      mode := some m.name, settings := settings }

/-- The direct call reads the script, selects its tables and then looks for the settings. -/
theorem direct_eq (document : Except Fault Value) (settings : Option Settings)
    (m : Sql.SplitMode) (script : Text) (database : Option Text) (tables : Option (List Text)) :
    direct document settings m script database tables =
      (match tables with
        | some names => (Schema.ofScript m script).selectOnly names
        | none => .ok (Schema.ofScript m script).toggleAll).bind fun schema =>
          (Pipeline.settingsOr document settings).map fun settings =>
            schema.generate database settings := by
  rw [direct, Pipeline.generation_eq, Pipeline.ofRequest_name]
  cases tables <;> rfl

/-- A pass for a table that the script does not declare fails. -/
theorem direct_unknown (document : Except Fault Value) (settings : Option Settings)
    (m : Sql.SplitMode) (script : Text) (database : Option Text) {tables : List Text}
    (h : ∃ t ∈ tables, t ∉ (Schema.ofScript m script).tableNames) :
    direct document settings m script database (some tables) =
      .error (.unknownTables ((Schema.ofScript m script).unknown tables)
        (Schema.ofScript m script).tableNames) := by
  have hunknown : (Schema.ofScript m script).unknown tables ≠ [] := by
    obtain ⟨t, ht, hnot⟩ := h
    refine List.ne_nil_of_mem (List.mem_filter.2 ⟨ht, ?_⟩)
    simpa using hnot
  rw [direct_eq]
  simp only [Schema.selectOnly, if_neg hunknown]
  rfl

/-- A generation for a session that holds the script's own schema. -/
theorem generate_tables {e : Surroundings} (hpause : Service.pause e.pause = .ok ()) {s : Store}
    {session script : Text} {m : Sql.SplitMode}
    (h : s.schema? session = some (.ofScript m script)) (database : Option Text)
    (tables : List Text) :
    ((Operation.generate session database (some tables)).run e s).2 =
      (direct e.document e.settings m script database (some tables)).map fun g =>
        .generation (some g) := by
  show Except.map Reply.generation (Service.generate _ _ _ _ _ _ _).2 = _
  rw [Service.outcome_generate e.document e.settings hpause h, direct_eq]
  simp only []
  cases (Schema.ofScript m script).selectOnly tables with
  | error fault => rfl
  | ok schema =>
    simp only [Except.bind]
    cases Pipeline.settingsOr e.document e.settings <;> rfl

/-- One for a session all of whose tables were marked. -/
theorem generate_all {e : Surroundings} (hpause : Service.pause e.pause = .ok ()) {s : Store}
    {session script : Text} {m : Sql.SplitMode}
    (h : s.schema? session = some (Schema.ofScript m script).toggleAll) (database : Option Text) :
    ((Operation.generate session database none).run e s).2 =
      (direct e.document e.settings m script database none).map fun g => .generation (some g) := by
  show Except.map Reply.generation (Service.generate _ _ _ _ _ _ _).2 = _
  rw [Service.outcome_generate e.document e.settings hpause h, direct_eq]
  simp only [Except.bind]
  cases Pipeline.settingsOr e.document e.settings <;> rfl

end FrontEnd

open FrontEnd (direct)

/-- **The front ends agree.** For a script, a mode and a database name:

* a session that the script is parsed into, whatever it held before and whatever is done to other
  sessions meanwhile, answers what one pass answers, for given tables, and for all of them once they
  are marked;
* a pass for tables that the script does not declare names them and the ones that there are;
* a run of the command line that asks for the same puts out the module of the pass, and nothing if
  the output does not take it;
* and there are arguments that ask for it. -/
theorem frontEnds_agree (document : Except Fault Value) (m : Sql.SplitMode) (script : Text)
    (database : Option Text) :
    (∀ e : Surroundings, e.document = document → Service.pause e.pause = .ok () →
      ∀ (s : Store) (wanted : Option Text),
        let parse := Operation.parse wanted (some m.name) script
        let session := parse.target s
        (parse.run e s).2 = .ok (.session session) ∧
        ∀ before, Operation.Spare e session (parse.run e s).1 before →
          let parsed := Operation.runAll e s (parse :: before)
          (∀ tables, ((Operation.generate session database (some tables)).run e parsed).2 =
            (direct document e.settings m script database (some tables)).map fun g =>
              .generation (some g)) ∧
          ∀ after, Operation.Spare e session ((Operation.toggleAll session).run e parsed).1 after →
            ((Operation.generate session database none).run e
              (Operation.runAll e parsed (.toggleAll session :: after))).2 =
              (direct document e.settings m script database none).map fun g =>
                .generation (some g)) ∧
    (∀ settings tables, (∃ t ∈ tables, t ∉ (Schema.ofScript m script).tableNames) →
      direct document settings m script database (some tables) =
        .error (.unknownTables ((Schema.ofScript m script).unknown tables)
          (Schema.ofScript m script).tableNames)) ∧
    (∀ (a : CommandLine.Arguments) (w : CommandLine.Workplace) (setup : Log.Setup),
      a.options.mode = some m → a.options.database = database →
      a.options.all = a.options.tables.isNone → Text.nonempty? a.options.output = none →
      CommandLine.setUp document w a.options = .ok setup → CommandLine.Holds w a.script script →
      ∀ g, direct document none m script database a.options.tables = .ok g →
        (CommandLine.run document w a).output = (g.moduleText.filter w.takes).getD [] ∧
          ((g.moduleText.filter w.takes).isSome →
            (CommandLine.run document w a).exit = .ok 0)) ∧
    ∀ (tables : Option (List Text)) (path : Text),
      (∀ names ∈ tables, names ≠ [] ∧ ∀ t ∈ names, t ∈ (Schema.ofScript m script).tableNames) →
      CommandLine.parse (CommandLine.arguments m database tables path) =
        .ok ⟨path, CommandLine.asked m database tables⟩ := by
  refine ⟨?_, ?_, ?_, ?_⟩
  · rintro e rfl hpause s wanted
    obtain ⟨hreply, hparsed⟩ := Operation.run_parse e s wanted m script
    refine ⟨hreply, fun before hbefore => ⟨fun tables => ?_, fun after hafter => ?_⟩⟩
    · exact FrontEnd.generate_tables hpause ((Operation.schema?_runAll hbefore).trans hparsed) ..
    · have hmarked := Operation.schema?_run_toggleAll e
        ((Operation.schema?_runAll hbefore).trans hparsed)
      exact FrontEnd.generate_all hpause ((Operation.schema?_runAll hafter).trans hmarked) ..
  · exact fun settings tables h => FrontEnd.direct_unknown document settings m script database h
  · intro a w setup hmode hdatabase hall hfile hsetup hscript g hg
    refine CommandLine.output_run hsetup hscript hmode hfile ?_
    rw [CommandLine.request, hmode, hdatabase, hall]
    exact hg
  · intro tables path h
    refine CommandLine.parse_arguments m database (fun names hnames => ?_) path
    obtain ⟨hne, hknown⟩ := h names hnames
    exact ⟨hne, fun t ht => CommandLine.head?_of_mem_tableNames (hknown t ht)⟩

/-- A script with line endings of two kinds. -/
def shop : Text := "CREATE TABLE item (id INT,\r\n name TEXT\r);\r\nUSE x;"

namespace shop

/-- The configuration that comes with the program. -/
def surroundings : Surroundings := { document := .ok Config.builtin }

/-- A store in which the session holds something else. -/
def store : Store := Operation.runAll surroundings {} [.parse (some "s") none "CREATE TABLE t (x);"]

/-- The script in a file, and an output that takes any text. -/
def workplace : CommandLine.Workplace where
  home := []
  logHome := []
  disk := ⟨[(["shop.sql"], Text.encode shop)], []⟩
  takes _ := true

/-- What happens to other sessions before all tables are marked. -/
def before : List Operation := [.parse none none "", .toggleAll "t"]

/-- The session once the script is parsed into it, and all of its tables are marked. -/
def marked : Store :=
  Operation.runAll surroundings store
    (.parse (some "s") (some "depth_aware") shop :: before ++ [.toggleAll "s", .delete "t"])

/-- The module of the shop comes out of the direct call, the service and the command line. -/
theorem frontEnds_agree_shop : ∃ g text,
    direct (.ok Config.builtin) none .depthAware shop (some "-d") none = .ok g ∧
      g.moduleText = some text ∧
      ((Operation.generate "s" (some "-d") none).run surroundings marked).2 =
        .ok (.generation (some g)) ∧
      (CommandLine.run (.ok Config.builtin) workplace
        ⟨"shop.sql", CommandLine.asked .depthAware (some "-d") none⟩).output = text ∧
      CommandLine.parse (CommandLine.arguments .depthAware (some "-d") (some ["item"]) "shop.sql") =
        .ok ⟨"shop.sql", CommandLine.asked .depthAware (some "-d") (some ["item"])⟩ := by
  obtain ⟨hservice, -, hoffline, harguments⟩ :=
    frontEnds_agree (.ok Config.builtin) .depthAware shop (some "-d")
  obtain ⟨g, text, hg, htext⟩ : ∃ g text,
      direct (.ok Config.builtin) none .depthAware shop (some "-d") none = .ok g ∧
        g.moduleText = some text := ⟨_, _, rfl, rfl⟩
  have hbefore : Operation.Spare surroundings "s"
      ((Operation.parse (some "s") (some "depth_aware") shop).run surroundings store).1 before :=
    ⟨by decide +kernel, by decide +kernel, trivial⟩
  obtain ⟨-, hsession⟩ := hservice surroundings rfl rfl store (some "s")
  have hgenerate := (hsession before hbefore).2 [.delete "t"] ⟨by decide +kernel, trivial⟩
  have hscript : CommandLine.Holds workplace "shop.sql" shop :=
    CommandLine.holds_of_encode? rfl rfl rfl
  obtain ⟨setup, hsetup⟩ : ∃ setup, CommandLine.setUp (.ok Config.builtin) workplace
      (CommandLine.asked .depthAware (some "-d") none) = .ok setup := ⟨_, rfl⟩
  have houtput := hoffline ⟨"shop.sql", CommandLine.asked .depthAware (some "-d") none⟩ workplace
    setup rfl rfl rfl rfl hsetup hscript g hg
  refine ⟨g, text, hg, htext, ?_, ?_, harguments (some ["item"]) "shop.sql" ?_⟩
  · exact hgenerate.trans (congrArg (Except.map _) hg)
  · have htakes : workplace.takes text = true := rfl
    rw [houtput.1, htext, Option.filter_some_pos htakes, Option.getD_some]
  · rintro names ⟨⟩
    exact ⟨by decide, by decide +kernel⟩

end shop
end Tablesmith
