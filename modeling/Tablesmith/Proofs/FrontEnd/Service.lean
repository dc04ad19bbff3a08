/-
# A generation for a session

What a generation for a session answers depends on the session's schema alone, not on how the store
came to it (`outcome_generate`). The schema that a script leaves behind is its own, whatever the
session held before (`run_parse`), and operations on other sessions do not change it
(`schema?_runAll`). So a parse and a generation come to what one pass over the script comes to
(`Pipeline.generation`).
-/

import Tablesmith.Proofs.Workspace.Step

namespace Tablesmith

namespace Pipeline

/-- What is generated for a script in one pass. -/
def generation (document : Except Fault Value) (r : Request) : Except Fault Generation :=
  (run document r).outcome.map Result.generation

/-- The pass without what is written to the log. -/
theorem outcome_run (document : Except Fault Value) (r : Request) :
    (run document r).outcome =
      (Schema.ofRequest (modeOf document) r.mode r.script).bind fun schema =>
        (select r schema).bind fun schema =>
          (settingsOr document r.settings).map fun settings =>
            ⟨schema, schema.generate r.database settings⟩ := by
  simp only [run, Report.outcome_bind, Report.outcome_ofExcept, Report.write,
    Report.outcome_pure]
  cases Schema.ofRequest (modeOf document) r.mode r.script with
  | error fault => rfl
  | ok schema =>
    show select r schema >>= _ = (select r schema).bind _
    cases select r schema with
    | error fault => rfl
    | ok schema =>
      show settingsOr document r.settings >>= _ = Except.map _ _
      cases settingsOr document r.settings <;> rfl

/-- A generation reads the script, selects the tables and then looks for the settings. -/
theorem generation_eq (document : Except Fault Value) (r : Request) :
    generation document r =
      (Schema.ofRequest (modeOf document) r.mode r.script).bind fun schema =>
        (select r schema).bind fun schema =>
          (settingsOr document r.settings).map fun settings =>
            schema.generate r.database settings := by
  rw [generation, outcome_run]
  cases Schema.ofRequest (modeOf document) r.mode r.script with
  | error fault => rfl
  | ok schema =>
    show ((select r schema).bind _).map _ = (select r schema).bind _
    cases select r schema with
    | error fault => rfl
    | ok schema =>
      show ((settingsOr document r.settings).map _).map _ = _
      cases settingsOr document r.settings <;> rfl

/-- A mode asked for by its name. -/
theorem ofRequest_name (default : Except Fault Sql.SplitMode) (m : Sql.SplitMode) (script : Text) :
    Schema.ofRequest default (some m.name) script = .ok (.ofScript m script) := by
  have hname : Text.nonempty? (some m.name) = some m.name := by
    cases m <;> rfl
  simp only [Schema.ofRequest, hname, Schema.ofScriptNamed, Sql.SplitMode.ofName?_name]

end Pipeline

namespace Operation

/-- None of the operations, one after another, is on the session. -/
def Spare (e : Surroundings) (session : Text) : Store → List Operation → Prop
  | _, [] => True
  | s, o :: os => o.target s ≠ session ∧ Spare e session (o.run e s).1 os

/-- Operations on other sessions leave this one as it is. -/
theorem find?_runAll {e : Surroundings} {session : Text} {s : Store} {os : List Operation}
    (h : Spare e session s os) : (runAll e s os).find? session = s.find? session := by
  induction os generalizing s with
  | nil => rfl
  | cons o os ih =>
    obtain ⟨ho, hos⟩ := h
    have hstep := (o.step_run e s).find?_of_ne ho
    exact (ih hos).trans hstep

/-- Operations on other sessions leave the session's schema as it is. -/
theorem schema?_runAll {e : Surroundings} {session : Text} {s : Store} {os : List Operation}
    (h : Spare e session s os) : (runAll e s os).schema? session = s.schema? session := by
  rw [Store.schema?, find?_runAll h, Store.schema?]

/-- **A parse leaves the script's own schema,** whatever the session held before. -/
theorem run_parse (e : Surroundings) (s : Store) (session : Option Text) (m : Sql.SplitMode)
    (script : Text) :
    let o := parse session (some m.name) script
    (o.run e s).2 = .ok (.session (o.target s)) ∧
      (o.run e s).1.schema? (o.target s) = some (.ofScript m script) := by
  have hfind : ∀ name, (s.establish name script (.ofScript m script)).schema? name =
      some (.ofScript m script) := fun name => by
    rw [Store.schema?, Store.find?_establish, if_pos rfl]
    rfl
  simp only [run, Store.parseInto, Pipeline.ofRequest_name, target, session?, Except.map]
  cases Text.nonempty? session with
  | none => exact ⟨rfl, hfind _⟩
  | some name => exact ⟨rfl, hfind name⟩

/-- Marking all tables of a session. -/
theorem schema?_run_toggleAll (e : Surroundings) {s : Store} {session : Text} {schema : Schema}
    (h : s.schema? session = some schema) :
    ((toggleAll session).run e s).1.schema? session = some schema.toggleAll := by
  show (s.toggleAll session).schema? session = _
  rw [Store.toggleAll, h]
  exact Store.schema?_setSchema h _

end Operation

namespace Service

/-- **A generation depends on the schema alone.** -/
theorem outcome_generate (document : Except Fault Value) (settings : Option Settings)
    {length : Value} (hlength : pause length = .ok ()) {s : Store} {session : Text}
    {schema : Schema} (h : s.schema? session = some schema) (database : Option Text)
    (tables : Option (List Text)) :
    (generate document settings length s session database tables).2 =
      (match tables with
        | some names => schema.selectOnly names
        | none => .ok schema).bind fun schema =>
          (Pipeline.settingsOr document settings).map fun settings =>
            some (schema.generate database settings) := by
  cases tables with
  | none =>
    simp only [generate, start, selecting, Except.map, h, hlength, Except.bind]
    exact map_finish ..
  | some names =>
    simp only [generate, start, selecting, Store.selectOnly, h]
    cases schema.selectOnly names with
    | error fault => rfl
    | ok marked =>
      simp only [Except.map, Store.schema?_setSchema h, hlength, Except.bind]
      exact map_finish ..

end Service
end Tablesmith
