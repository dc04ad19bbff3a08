/-
# Sessions do not interfere

Two people work on sessions of their own, and the store sees what they do in some order. Each of
them is answered as if the other were not there: whatever the interleaving, the operations on one
set of sessions have the outcomes that they have alone, and leave the workspaces that they leave
alone. Only the times in the workspaces differ, for all sessions share one clock.

The proof is about one operation at a time. Seen from a set of sessions (`Store.LooksLike`), an
operation elsewhere changes nothing (`looksLike_run_of_disjoint`), and an operation within it comes
to the same in two stores that look the same (`looksLike_run_of_isOn`). Both hold because an
operation reads and writes the workspace of its own session alone. The run follows by induction on
the interleaving (`looksLike_runAll`).
-/

import Mathlib.Data.Set.Insert
import Tablesmith.Proofs.Interleave
import Tablesmith.Proofs.Workspace.Step

namespace Tablesmith

/-- The workspace without its times. -/
def Workspace.timeless (w : Workspace) : Workspace := { w with created := 0, updated := 0 }

/-- The reply without the times in it. -/
def Reply.timeless : Reply → Reply
  | workspace w => workspace (w.map Workspace.timeless)
  | r => r

namespace Store

/-- What the store shows of a session: its workspace without the times. -/
def shown (s : Store) (session : Text) : Option Workspace :=
  (s.find? session).map Workspace.timeless

/-- The schema of a session is that of what is shown. -/
theorem schema?_eq_map_shown (s : Store) (session : Text) :
    s.schema? session = (s.shown session).map Workspace.schema := by
  rw [schema?, shown, Option.map_map]
  rfl

/-- Stores that show the same of a session show its schema. -/
theorem schema?_congr {s s' : Store} {session : Text} (h : s.shown session = s'.shown session) :
    s.schema? session = s'.schema? session := by
  rw [schema?_eq_map_shown, schema?_eq_map_shown, h]

/-- A session is shown with what it was established with. -/
theorem shown_establish (s : Store) (session script : Text) (schema : Schema) :
    (s.establish session script schema).shown session =
      some ⟨session, 0, 0, script, schema⟩ := by
  rw [shown, find?_establish, if_pos rfl]
  rfl

/-- A session is shown with the schema that was set. -/
theorem shown_setSchema (s : Store) (session : Text) (schema : Schema) :
    (s.setSchema session schema).shown session =
      (s.shown session).map fun w => { w with schema := schema } := by
  rw [shown, find?_setSchema, if_pos rfl, shown, Option.map_map, Option.map_map]
  rfl

/-- A session that is deleted is not shown. -/
theorem shown_delete (s : Store) (session : Text) : (s.delete session).shown session = none := by
  rw [shown, find?_delete]
  rfl

/-- A session that is marked anew, if it exists, shows its new marks. -/
theorem shown_remark (s : Store) (session : Text) (f : Schema → Schema) :
    (match s.schema? session with
      | some schema => s.setSchema session (f schema)
      | none => s).shown session =
      (s.shown session).map fun w => { w with schema := f w.schema } := by
  rw [schema?_eq_map_shown]
  cases h : s.shown session with
  | none => exact h
  | some w =>
    show (s.setSchema session (f w.schema)).shown session = _
    rw [shown_setSchema, h]
    rfl

/-- A session is shown with a table flipped. -/
theorem shown_toggle (s : Store) (session table : Text) :
    (s.toggle session table).shown session =
      (s.shown session).map fun w => { w with schema := w.schema.toggle table } :=
  s.shown_remark session (Schema.toggle table)

/-- A session is shown with all its tables toggled. -/
theorem shown_toggleAll (s : Store) (session : Text) :
    (s.toggleAll session).shown session =
      (s.shown session).map fun w => { w with schema := w.schema.toggleAll } :=
  s.shown_remark session Schema.toggleAll

/-- A selection is refused in both of two stores that show the same of the session, for the same
reason, or it is made in both, and they show the same again. -/
theorem selecting_congr {s s' : Store} {session : Text} (h : s.shown session = s'.shown session)
    (tables : Option (List Text)) :
    (∃ fault, Service.selecting s session tables = .error fault ∧
        Service.selecting s' session tables = .error fault) ∨
      ∃ t t', Service.selecting s session tables = .ok t ∧
        Service.selecting s' session tables = .ok t' ∧ t.shown session = t'.shown session := by
  cases tables with
  | none => exact .inr ⟨s, s', rfl, rfl, h⟩
  | some names =>
    simp only [Service.selecting, selectOnly, schema?_congr h]
    cases s'.schema? session with
    | none => exact .inr ⟨s, s', rfl, rfl, h⟩
    | some schema =>
      simp only []
      cases schema.selectOnly names with
      | error fault => exact .inl ⟨fault, rfl, rfl⟩
      | ok marked =>
        refine .inr ⟨s.setSchema session marked, s'.setSchema session marked, rfl, rfl, ?_⟩
        rw [shown_setSchema, shown_setSchema, h]

/-- The stores show the same of these sessions. -/
def LooksLike (sessions : Set Text) (s s' : Store) : Prop :=
  ∀ session ∈ sessions, s.shown session = s'.shown session

end Store

namespace Operation

variable {e : Surroundings} {s s' : Store} {session : Text} {sessions : Set Text}

/-- The operation names its session, and the session is one of these. -/
def IsOn (sessions : Set Text) (o : Operation) : Prop :=
  ∃ session ∈ sessions, o.session? = some session

instance decidableIsOn (sessions : Set Text) [DecidablePred (· ∈ sessions)] (o : Operation) :
    Decidable (o.IsOn sessions) :=
  match h : o.session? with
  | none => .isFalse fun ⟨_, _, hsome⟩ => by simp [h] at hsome
  | some session => decidable_of_iff (session ∈ sessions) (by simp [IsOn, h])

/-- An operation with a session of its own is on this one. -/
theorem target_eq {o : Operation} (ho : o.session? = some session) : o.target s = session := by
  rw [target, ho]
  rfl

/-- An operation does not show anywhere but in its own session. -/
theorem shown_run_of_ne {o : Operation} (ho : o.session? = some session) {other : Text}
    (hne : session ≠ other) : (o.run e s).1.shown other = s.shown other := by
  have htarget : o.target s ≠ other := by rwa [target_eq ho]
  rw [Store.shown, (o.step_run e s).find?_of_ne htarget, Store.shown]

/-- **An operation comes to the same** in two stores that show the same of its session: it has the
same outcome, and the session shows the same then. -/
theorem run_congr {o : Operation} (ho : o.session? = some session)
    (h : s.shown session = s'.shown session) :
    (o.run e s).2.map Reply.timeless = (o.run e s').2.map Reply.timeless ∧
      (o.run e s).1.shown session = (o.run e s').1.shown session := by
  -- The operations that answer the schema answer what the session shows behind them.
  have hreply : ∀ {t t' : Store}, t.shown session = t'.shown session →
      Except.map Reply.timeless (.ok (.schema (t.schema? session)) : Except Fault Reply) =
        .ok (.schema (t'.schema? session)) := fun {t t'} ht => by
    rw [Store.schema?_congr ht]
    rfl
  cases o with
  | parse wanted mode script =>
    replace ho : Text.nonempty? wanted = some session := ho
    simp only [run, Store.parseInto, ho]
    cases Schema.ofRequest (Pipeline.modeOf e.document) mode script with
    | error fault => exact ⟨rfl, h⟩
    | ok schema =>
      refine ⟨rfl, ?_⟩
      show (s.establish session script schema).shown session =
        (s'.establish session script schema).shown session
      rw [Store.shown_establish, Store.shown_establish]
  | look name =>
    obtain rfl := Option.some.inj ho
    refine ⟨?_, h⟩
    show Except.ok (Reply.workspace (s.shown name)) = Except.ok (Reply.workspace (s'.shown name))
    rw [h]
  | snapshot name =>
    obtain rfl := Option.some.inj ho
    exact ⟨hreply h, h⟩
  | toggle name table =>
    obtain rfl := Option.some.inj ho
    have hshown : (s.toggle name table).shown name = (s'.toggle name table).shown name := by
      rw [Store.shown_toggle, Store.shown_toggle, h]
    exact ⟨hreply hshown, hshown⟩
  | toggleAll name =>
    obtain rfl := Option.some.inj ho
    have hshown : (s.toggleAll name).shown name = (s'.toggleAll name).shown name := by
      rw [Store.shown_toggleAll, Store.shown_toggleAll, h]
    exact ⟨hreply hshown, hshown⟩
  | selectOnly name tables =>
    obtain rfl := Option.some.inj ho
    simp only [run]
    obtain ⟨fault, hs, hs'⟩ | ⟨t, t', hs, hs', hshown⟩ := Store.selecting_congr h (some tables)
    · rw [Service.selecting] at hs hs'
      rw [hs, hs']
      exact ⟨rfl, h⟩
    · rw [Service.selecting] at hs hs'
      rw [hs, hs']
      exact ⟨hreply hshown, hshown⟩
  | generate name database tables =>
    obtain rfl := Option.some.inj ho
    simp only [run, Service.generate, Service.start]
    obtain ⟨fault, hs, hs'⟩ | ⟨t, t', hs, hs', hshown⟩ := Store.selecting_congr h tables
    · rw [hs, hs']
      exact ⟨rfl, h⟩
    · rw [hs, hs', Except.map, Except.map, Store.schema?_congr hshown]
      cases t'.schema? name <;> exact ⟨rfl, hshown⟩
  | delete name =>
    obtain rfl := Option.some.inj ho
    have hfound : (s.find? name).isSome = (s'.find? name).isSome := by
      have hisSome := congrArg Option.isSome h
      rwa [Store.shown, Option.isSome_map, Store.shown, Option.isSome_map] at hisSome
    refine ⟨congrArg (fun b => Except.ok (Reply.deleted b)) hfound, ?_⟩
    show (s.delete name).shown name = (s'.delete name).shown name
    rw [Store.shown_delete, Store.shown_delete]

/-- An operation on one of these sessions is answered alike in two stores that look the same to
them, and the stores look the same to them again. -/
theorem looksLike_run_of_isOn {o : Operation} (ho : o.IsOn sessions)
    (h : s.LooksLike sessions s') :
    (o.run e s).2.map Reply.timeless = (o.run e s').2.map Reply.timeless ∧
      (o.run e s).1.LooksLike sessions (o.run e s').1 := by
  obtain ⟨session, hmem, hsession⟩ := ho
  obtain ⟨houtcome, hshown⟩ := run_congr (e := e) hsession (h session hmem)
  refine ⟨houtcome, fun other hother => ?_⟩
  by_cases heq : session = other
  · rw [← heq]
    exact hshown
  · rw [shown_run_of_ne hsession heq, shown_run_of_ne hsession heq]
    exact h other hother

/-- An operation elsewhere does not change what the store looks like to these sessions. -/
theorem looksLike_run_of_disjoint {others : Set Text}
    (hdisjoint : ∀ session ∈ sessions, session ∉ others)
    {o : Operation} (ho : o.IsOn others) (h : s.LooksLike sessions s') :
    (o.run e s).1.LooksLike sessions s' := by
  obtain ⟨session, hmem, hsession⟩ := ho
  intro other hother
  have hne : session ≠ other := by
    rintro rfl
    exact hdisjoint session hother hmem
  rw [shown_run_of_ne hsession hne]
  exact h other hother

/-- An operation on other sessions is not on these. -/
theorem not_isOn_of_disjoint {others : Set Text}
    (hdisjoint : ∀ session ∈ sessions, session ∉ others)
    {o : Operation} (ho : o.IsOn others) : ¬ o.IsOn sessions := by
  rintro ⟨session, hmem, hsession⟩
  obtain ⟨other, hother, hsession'⟩ := ho
  obtain rfl := Option.some.inj (hsession.symm.trans hsession')
  exact hdisjoint session hmem hother

/-- The outcomes of those of the operations that are on these sessions. -/
def outcomesOn (sessions : Set Text) [DecidablePred (· ∈ sessions)] (e : Surroundings) (s : Store)
    (operations : List Operation) : List (Except Fault Reply) :=
  ((operations.zip (outcomes e s operations)).filter fun c => c.1.IsOn sessions).map Prod.snd

section

variable [DecidablePred (· ∈ sessions)] {o : Operation}

/-- An operation on the sessions has an outcome to be seen. -/
theorem outcomesOn_cons_of_isOn (ho : o.IsOn sessions) (os : List Operation) :
    outcomesOn sessions e s (o :: os) =
      (o.run e s).2 :: outcomesOn sessions e (o.run e s).1 os := by
  rw [outcomesOn, outcomes, List.zip_cons_cons, List.filter_cons_of_pos (by simpa using ho)]
  rfl

/-- Any other one has none. -/
theorem outcomesOn_cons_of_not (ho : ¬ o.IsOn sessions) (os : List Operation) :
    outcomesOn sessions e s (o :: os) = outcomesOn sessions e (o.run e s).1 os := by
  rw [outcomesOn, outcomes, List.zip_cons_cons, List.filter_cons_of_neg (by simpa using ho)]
  rfl

/-- What holds step by step holds of whole runs, from any two stores that look the same to the
sessions. By induction on the interleaving. -/
theorem looksLike_runAll {others : Set Text}
    (hdisjoint : ∀ session ∈ sessions, session ∉ others)
    {own foreign all : List Operation} (hown : ∀ o ∈ own, o.IsOn sessions)
    (hforeign : ∀ o ∈ foreign, o.IsOn others) (h : Interleave own foreign all)
    (hlooks : s.LooksLike sessions s') :
    (outcomesOn sessions e s all).map (Except.map Reply.timeless) =
        (outcomes e s' own).map (Except.map Reply.timeless) ∧
      (runAll e s all).LooksLike sessions (runAll e s' own) := by
  induction h generalizing s s' with
  | nil => exact ⟨rfl, hlooks⟩
  | left o _ ih =>
    obtain ⟨ho, hown⟩ := List.forall_mem_cons.1 hown
    obtain ⟨houtcome, hnext⟩ := looksLike_run_of_isOn (e := e) ho hlooks
    obtain ⟨houtcomes, hlast⟩ := ih hown hforeign hnext
    refine ⟨?_, hlast⟩
    rw [outcomesOn_cons_of_isOn ho, outcomes, List.map_cons, List.map_cons, houtcome, houtcomes]
  | right o _ ih =>
    obtain ⟨ho, hforeign⟩ := List.forall_mem_cons.1 hforeign
    obtain ⟨houtcomes, hlast⟩ :=
      ih hown hforeign (looksLike_run_of_disjoint (e := e) hdisjoint ho hlooks)
    refine ⟨?_, hlast⟩
    rw [outcomesOn_cons_of_not (not_isOn_of_disjoint hdisjoint ho), houtcomes]

/-- **Sessions do not interfere.** However operations on one set of sessions are interleaved with
operations on others, each of them has the outcome that it has when they are run alone, faults and
generated modules included, and each of the sessions is left with the workspace that it is left with
then. Only the times in workspaces are of no account. -/
theorem outcomesOn_interleave (e : Surroundings) {others : Set Text}
    (hdisjoint : ∀ session ∈ sessions, session ∉ others) {own foreign all : List Operation}
    (hown : ∀ o ∈ own, o.IsOn sessions) (hforeign : ∀ o ∈ foreign, o.IsOn others)
    (h : Interleave own foreign all) :
    (outcomesOn sessions e {} all).map (Except.map Reply.timeless) =
        (outcomes e {} own).map (Except.map Reply.timeless) ∧
      ∀ session ∈ sessions, ((runAll e {} all).find? session).map Workspace.timeless =
        ((runAll e {} own).find? session).map Workspace.timeless :=
  looksLike_runAll hdisjoint hown hforeign h fun _ _ => rfl

end

namespace desks

/-- Someone works on a session: a table is asked for that the script does not declare. -/
def own : List Operation :=
  [.parse (some "a") (some "legacy") "CREATE TABLE t (x INT);",
    .generate "a" none (some ["u"]),
    .toggle "a" "t",
    .look "a",
    .delete "a",
    .toggleAll "a"]

/-- Someone else's session has that table. -/
def foreign : List Operation :=
  [.parse (some "b") none "CREATE TABLE u (y INT);",
    .delete "b",
    .parse (some "b") (some "other") "CREATE TABLE t (z INT);"]

/-- What the store sees of the two. -/
def all : List Operation :=
  [.parse (some "b") none "CREATE TABLE u (y INT);",
    .parse (some "a") (some "legacy") "CREATE TABLE t (x INT);",
    .generate "a" none (some ["u"]),
    .delete "b",
    .toggle "a" "t",
    .look "a",
    .parse (some "b") (some "other") "CREATE TABLE t (z INT);",
    .delete "a",
    .toggleAll "a"]

/-- The configuration that comes with the program. -/
def surroundings : Surroundings := { document := .ok Config.builtin }

/-- Someone sees the outcomes of their own operations, a complaint of a missing table included. -/
theorem outcomesOn_all :
    (∀ session ∈ ({"a".toList} : Set Text), session ∉ ({"b".toList} : Set Text)) ∧
      Interleave own foreign all ∧
      (outcomesOn {"a".toList} surroundings {} all).map (Except.map Reply.timeless) =
        (outcomes surroundings {} own).map (Except.map Reply.timeless) ∧
      (outcomes surroundings {} own)[1]? = some (.error (.unknownTables ["u"] ["t"])) := by
  have hdisjoint : ∀ session ∈ ({"a".toList} : Set Text), session ∉ ({"b".toList} : Set Text) := by
    rintro _ rfl
    decide
  have hinterleave : Interleave own foreign all :=
    .right _ (.left _ (.left _ (.right _ (.left _ (.left _ (.right _ (.left _ (.left _ .nil))))))))
  have hown : ∀ o ∈ own, o.IsOn {"a".toList} := by decide
  have hforeign : ∀ o ∈ foreign, o.IsOn {"b".toList} := by decide
  exact ⟨hdisjoint, hinterleave,
    (outcomesOn_interleave surroundings hdisjoint hown hforeign hinterleave).1, by decide +kernel⟩

end desks
end Operation
end Tablesmith
