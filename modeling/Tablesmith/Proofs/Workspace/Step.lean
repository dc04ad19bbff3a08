/-
# What an operation does to the store

However an operation comes about and whatever it answers, it does one of four things to the store,
and it does so to one session, its target:

| step | to the target's workspace |
| --- | --- |
| idle | nothing |
| establish | it is made or replaced, and keeps when it was created |
| select | its tables are marked anew |
| remove | it is gone |

`step_run` says so of every operation, and all that is proved about runs follows from it. The first
consequence is that other sessions are left alone (`Step.find?_of_ne`).
-/

import Mathlib.Data.List.Nodup
import Tablesmith.Workspace.Operation

namespace Tablesmith

/-- What goes on well has gone well before. -/
theorem exists_of_map_eq_ok {α β : Type} {x : Except Fault α} {f : α → β} {b : β}
    (h : x.map f = .ok b) : ∃ a, x = .ok a ∧ f a = b := by
  cases x with
  | error fault => cases h
  | ok a => exact ⟨a, rfl, Except.ok.inj h⟩

namespace Schema

/-- Which tables are selected does not show once none is. -/
@[simp] theorem clearSelection_selectBy (p : Table → Bool) (s : Schema) :
    (s.selectBy p).clearSelection = s.clearSelection := by
  simp [clearSelection, selectBy]

/-- Nor does it show that one was toggled. -/
@[simp] theorem clearSelection_toggle (name : Text) (s : Schema) :
    (s.toggle name).clearSelection = s.clearSelection := by
  have hflip : ∀ ts : List Table, (flipFirst name ts).map (fun t => { t with selected := false }) =
      ts.map fun t => { t with selected := false } := by
    intro ts
    induction ts with
    | nil => rfl
    | cons t ts ih =>
      rw [flipFirst]
      split
      · rfl
      · rw [List.map_cons, ih, List.map_cons]
  simp only [clearSelection, selectBy, toggle, hflip]

/-- Selecting by name marks the tables with these names. -/
theorem eq_selectBy_of_selectOnly {names : List Text} {s s' : Schema}
    (h : s.selectOnly names = .ok s') : s' = s.selectBy fun t => t.name ∈ names := by
  rw [selectOnly] at h
  split at h
  · exact (Except.ok.inj h).symm
  · cases h

/-- A script's own schema has no marks. -/
@[simp] theorem clearSelection_ofScript (mode : Sql.SplitMode) (script : Text) :
    (ofScript mode script).clearSelection = ofScript mode script := by
  simp [clearSelection, selectBy, ofScript, Table.ofScript, Table.ofDeclaration]

/-- However the mode is asked for, what is answered is the schema of the script in some mode. -/
theorem eq_ofScript_of_ofRequest {default : Except Fault Sql.SplitMode} {mode : Option Text}
    {script : Text} {s : Schema} (h : ofRequest default mode script = .ok s) :
    s = ofScript s.splitMode script := by
  rw [ofRequest] at h
  split at h
  · cases default with
    | error fault => cases h
    | ok m => obtain rfl := Except.ok.inj h; rfl
  · rw [ofScriptNamed] at h
    split at h
    · obtain rfl := Except.ok.inj h; rfl
    · split at h <;> cases h

end Schema

namespace Store

/-- The sessions of the store in the order of their creation. -/
def sessions (s : Store) : List Text := s.workspaces.map Workspace.session

/-- The workspace that is found is that of the session. -/
theorem session_of_find? {s : Store} {session : Text} {w : Workspace}
    (h : s.find? session = some w) : w.session = session := by
  simpa using List.find?_some h

/-- There is no workspace just for the sessions that the store does not have. -/
theorem find?_eq_none_iff {s : Store} {session : Text} :
    s.find? session = none ↔ session ∉ s.sessions := by
  simp [find?, sessions]

/-- A workspace that is put is found, and it is the only one whose place changes. -/
theorem find?_put (w : Workspace) (ws : List Workspace) (session : Text) :
    (put w ws).find? (fun v => v.session = session) =
      if w.session = session then some w else ws.find? fun v => v.session = session := by
  induction ws with
  | nil => by_cases hw : w.session = session <;> simp [put, hw]
  | cons v vs ih =>
    rw [put]
    by_cases hv : v.session = w.session
    · rw [if_pos hv]
      by_cases hw : w.session = session
      · simp [hw]
      · simp [hv, hw]
    · rw [if_neg hv, List.find?_cons, List.find?_cons, ih]
      by_cases hw : w.session = session
      · have : v.session ≠ session := by rwa [← hw]
        simp [hw, this]
      · simp [hw]

/-- Behind a parse there is the new workspace, and the others as they were. -/
theorem find?_establish (s : Store) (session script : Text) (schema : Schema) (other : Text) :
    (s.establish session script schema).find? other =
      if session = other then
        some ⟨session, ((s.find? session).map Workspace.created).getD (s.readings + 1),
          s.readings + 1, script, schema⟩
      else s.find? other :=
  find?_put ..

/-- The schema of one workspace is replaced, and nothing else. -/
theorem find?_setSchema (s : Store) (session : Text) (schema : Schema) (other : Text) :
    (s.setSchema session schema).find? other =
      if session = other then (s.find? other).map fun w => { w with schema := schema }
      else s.find? other := by
  let remark (w : Workspace) : Workspace :=
    if w.session = session then { w with schema := schema } else w
  have hsession : ∀ w, (remark w).session = w.session := fun w => by
    show (if w.session = session then _ else w : Workspace).session = w.session
    split <;> rfl
  have hfind : (s.setSchema session schema).find? other = (s.find? other).map remark := by
    show (s.workspaces.map remark).find? (fun w => w.session = other) = _
    rw [List.find?_map]
    refine congrArg (Option.map remark) (congrArg (s.workspaces.find? ·) (funext fun w => ?_))
    rw [Function.comp_apply, hsession]
  rw [hfind]
  cases hother : s.find? other with
  | none => simp
  | some w =>
    obtain rfl : w.session = other := session_of_find? hother
    rw [Option.map_some, Option.map_some]
    by_cases h : session = w.session
    · rw [if_pos h]
      exact congrArg some (if_pos h.symm)
    · rw [if_neg h]
      exact congrArg some (if_neg fun heq => h heq.symm)

/-- A schema that is set is the one that is found. -/
theorem schema?_setSchema {s : Store} {session : Text} {schema : Schema}
    (h : s.schema? session = some schema) (marked : Schema) :
    (s.setSchema session marked).schema? session = some marked := by
  obtain ⟨w, hw, -⟩ := Option.map_eq_some_iff.1 h
  rw [schema?, find?_setSchema, if_pos rfl, hw]
  rfl

/-- To delete a session leaves the others. -/
theorem find?_delete_of_ne (s : Store) {session other : Text} (h : session ≠ other) :
    (s.delete session).find? other = s.find? other := by
  rw [find?, delete, List.find?_filter]
  congr 1
  funext w
  by_cases hw : w.session = other
  · simp [hw]
    exact fun heq => h heq.symm
  · simp [hw]

/-- Sessions stay in their places where a schema is replaced. -/
@[simp] theorem sessions_setSchema (s : Store) (session : Text) (schema : Schema) :
    (s.setSchema session schema).sessions = s.sessions := by
  simp only [sessions, setSchema, List.map_map]
  refine List.map_congr_left fun w _ => ?_
  rw [Function.comp_apply]
  split <;> rfl

/-- A session keeps its place, and a new one comes behind all. -/
theorem sessions_put (w : Workspace) (ws : List Workspace) :
    (put w ws).map Workspace.session =
      if w.session ∈ ws.map Workspace.session then ws.map Workspace.session
      else ws.map Workspace.session ++ [w.session] := by
  induction ws with
  | nil => simp [put]
  | cons v vs ih =>
    rw [put]
    by_cases hv : v.session = w.session
    · simp [hv]
    · have : w.session ≠ v.session := fun heq => hv heq.symm
      rw [if_neg hv, List.map_cons, ih]
      by_cases hmem : w.session ∈ vs.map Workspace.session <;> simp [hmem, this]

/-- Each session still has one workspace behind a put. -/
theorem nodup_put (w : Workspace) {ws : List Workspace}
    (h : (ws.map Workspace.session).Nodup) : ((put w ws).map Workspace.session).Nodup := by
  rw [sessions_put]
  split
  · exact h
  · next hnew =>
    refine List.nodup_append.2 ⟨h, List.nodup_singleton _, ?_⟩
    rintro a ha b hb rfl
    rw [List.mem_singleton.1 hb] at ha
    exact hnew ha

/-- Where each session has one place, every workspace is found. -/
theorem find?_of_mem {s : Store} (h : s.sessions.Nodup) {w : Workspace} (hw : w ∈ s.workspaces) :
    s.find? w.session = some w := by
  cases hfound : s.find? w.session with
  | none => exact absurd (List.mem_map_of_mem hw) (find?_eq_none_iff.1 hfound)
  | some v =>
    have hv : v ∈ s.workspaces := List.mem_of_find?_eq_some hfound
    rw [List.inj_on_of_nodup_map h hv hw (session_of_find? hfound)]

end Store

/-- A script that was parsed, and the number of the clock reading that was taken for it. -/
structure Parse where
  script : Text
  reading : Nat
deriving Repr, DecidableEq

/-- What is worth remembering of an operation. -/
inductive Event where
  | parsed (session : Text) (p : Parse)
  | deleted (session : Text)
deriving Repr, DecidableEq

/-- What is worth remembering of an operation, told from outside: a parse that was answered by the
name of its session, and a deletion. `reading` numbers the clock reading that a parse takes. -/
def Event.of? (reading : Nat) : Operation → Except Fault Reply → Option Event
  | .parse _ _ script, .ok (.session name) => some (.parsed name ⟨script, reading⟩)
  | .delete session, _ => some (.deleted session)
  | _, _ => none

/-- The session that an operation is on, one that nobody chose included. -/
def Operation.target (s : Store) (o : Operation) : Text :=
  o.session?.getD (Store.sessionName (s.named + 1))

/-- What can happen to the store, whose workspace it happens to, and what is worth remembering of
it. -/
inductive Store.Step (s : Store) (session : Text) : Option Event → Store → Prop
  /-- Nothing happens. -/
  | idle : s.Step session none s
  /-- A script is parsed. How many names are used up then is of no concern. -/
  | establish (script : Text) (mode : Sql.SplitMode) (named : Nat) :
      s.Step session (some (.parsed session ⟨script, s.readings + 1⟩))
        { s.establish session script (.ofScript mode script) with named := named }
  /-- Tables are marked. -/
  | select (schema marked : Schema) (hschema : s.schema? session = some schema)
      (hmarked : marked.clearSelection = schema.clearSelection) :
      s.Step session none (s.setSchema session marked)
  /-- The workspace is dropped. -/
  | remove : s.Step session (some (.deleted session)) (s.delete session)

namespace Store
namespace Step

variable {s s' : Store} {session other : Text} {event : Option Event}

/-- Only the target's workspace is touched. -/
theorem find?_of_ne (h : s.Step session event s') (hne : session ≠ other) :
    s'.find? other = s.find? other := by
  cases h with
  | idle => rfl
  | establish script mode named => exact (Store.find?_establish ..).trans (if_neg hne)
  | select schema marked => exact (Store.find?_setSchema ..).trans (if_neg hne)
  | remove => exact Store.find?_delete_of_ne s hne

end Step

/-- Toggling a table is a step on its session. -/
theorem step_toggle (s : Store) (session table : Text) :
    s.Step session none (s.toggle session table) := by
  rw [toggle]
  split
  · next schema h => exact .select schema _ h (Schema.clearSelection_toggle table schema)
  · exact .idle

/-- Toggling all tables is a step on their session. -/
theorem step_toggleAll (s : Store) (session : Text) :
    s.Step session none (s.toggleAll session) := by
  rw [toggleAll]
  split
  · next schema h => exact .select schema _ h (Schema.clearSelection_selectBy _ schema)
  · exact .idle

/-- Selecting by name is a step on the session. -/
theorem step_selectOnly {s s' : Store} {session : Text} {tables : List Text}
    (h : s.selectOnly session tables = .ok s') : s.Step session none s' := by
  rw [selectOnly] at h
  split at h
  · next schema hschema =>
    obtain ⟨marked, hmarked, rfl⟩ := exists_of_map_eq_ok h
    refine .select schema marked hschema ?_
    rw [Schema.eq_selectBy_of_selectOnly hmarked, Schema.clearSelection_selectBy]
  · obtain rfl := Except.ok.inj h
    exact .idle

end Store

namespace Service

/-- Whatever comes of a generation, the store is as its selection left it. -/
theorem step_generate (document : Except Fault Value) (settings : Option Settings)
    (length : Value) (s : Store) (session : Text) (database : Option Text)
    (tables : Option (List Text)) :
    s.Step session none (generate document settings length s session database tables).1 := by
  have hselecting : ∀ s', selecting s session tables = .ok s' → s.Step session none s' := by
    intro s' h
    cases tables with
    | none =>
      obtain rfl := Except.ok.inj h
      exact .idle
    | some names => exact Store.step_selectOnly h
  rw [generate, start]
  cases h : selecting s session tables with
  | error fault => exact .idle
  | ok s' =>
    rw [Except.map]
    cases s'.schema? session <;> exact hselecting s' h

end Service

namespace Operation

/-- **Every operation is a step** of its target. -/
theorem step_run (e : Surroundings) (s : Store) (o : Operation) :
    s.Step (o.target s) (Event.of? (s.readings + 1) o (o.run e s).2) (o.run e s).1 := by
  cases o with
  | look session => exact .idle
  | snapshot session => exact .idle
  | toggle session table => exact s.step_toggle session table
  | toggleAll session => exact s.step_toggleAll session
  | delete session => exact .remove
  | selectOnly session tables =>
    rw [run]
    split
    · next s' h => exact Store.step_selectOnly h
    · exact .idle
  | generate session database tables =>
    exact Service.step_generate e.document e.settings e.pause s session database tables
  | parse session mode script =>
    rw [run, Store.parseInto]
    cases h : Schema.ofRequest (Pipeline.modeOf e.document) mode script with
    | error fault => exact .idle
    | ok schema =>
      rw [Schema.eq_ofScript_of_ofRequest h, Except.map, target, session?]
      cases Text.nonempty? session with
      | none => exact .establish script schema.splitMode (s.named + 1)
      | some name => exact .establish script schema.splitMode s.named

end Operation
end Tablesmith
