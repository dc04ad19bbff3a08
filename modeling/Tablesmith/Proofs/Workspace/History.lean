/-
# Workspaces and their histories

A store is reached from the empty one by operations. What the operations were and what they answered
tells everything about the workspaces but their marks: a session has a workspace exactly if a script
was parsed into it since it was last deleted, and this workspace holds

* the script that was parsed last, and what that script declares;
* the time of the first of these parses and the time of the last.

The invariant (`Reflects`) compares a store with the events of its run. One step keeps it
(`Reflects.step`), and so does every run (`Run.reflects`).
-/

import Mathlib.Data.List.DropRight
import Mathlib.Order.Monotone.Defs
import Tablesmith.Proofs.Workspace.Step

namespace Tablesmith

/-- An operation and what it answered. -/
structure Call where
  operation : Operation
  outcome : Except Fault Reply

/-- The stores that operations lead to, from the empty one and in whatever surroundings each of them
finds, together with the calls in their order. -/
inductive Run : Store → List Call → Prop
  | empty : Run {} []
  | snoc {s : Store} {calls : List Call} (e : Surroundings) (o : Operation) (h : Run s calls) :
      Run (o.run e s).1 (calls ++ [⟨o, (o.run e s).2⟩])

namespace Event

/-- Was a script parsed? -/
def isParsed : Event → Bool
  | parsed .. => true
  | deleted _ => false

/-- The parse, if it was one into the session. -/
def parse? (session : Text) : Event → Option Parse
  | parsed name p => if name = session then some p else none
  | deleted _ => none

end Event

namespace Call

/-- One call more. Each parse takes the next reading of the clock. -/
def remember (events : List Event) (c : Call) : List Event :=
  events ++ (Event.of? (events.countP Event.isParsed + 1) c.operation c.outcome).toList

/-- What is worth remembering of calls, in their order. -/
def events (calls : List Call) : List Event := calls.foldl remember []

/-- The last call is remembered behind the others. -/
theorem events_concat (calls : List Call) (c : Call) :
    events (calls ++ [c]) = remember (events calls) c := by
  rw [events, List.foldl_append]
  rfl

end Call

/-- The parses into a session since it was last deleted, the oldest first. -/
def Parse.since (session : Text) (events : List Event) : List Parse :=
  (events.rtakeWhile fun e => e ≠ .deleted session).filterMap (Event.parse? session)

/-- A deletion forgets the parses, and a parse into the session is added to them. -/
theorem Parse.since_concat (session : Text) (events : List Event) (e : Event) :
    since session (events ++ [e]) =
      if e = .deleted session then []
      else since session events ++ (e.parse? session).toList := by
  rw [since, List.rtakeWhile_concat]
  by_cases he : e = .deleted session
  · simp [he]
  · cases hparse : e.parse? session <;> simp [he, since, hparse]

/-- A workspace, or none, follows from the parses of its session; `readings` readings of the clock
were taken so far. -/
inductive Follows (readings : Nat) : List Parse → Option Workspace → Prop
  | absent : Follows readings [] none
  | present {parses : List Parse} {w : Workspace}
      (first : parses.head?.map Parse.reading = some w.created)
      (latest : parses.getLast? = some ⟨w.script, w.updated⟩)
      (ordered : w.created ≤ w.updated) (bounded : w.updated ≤ readings)
      (shape : w.schema.clearSelection = Schema.ofScript w.schema.splitMode w.script) :
      Follows readings parses (some w)

/-- The store is what the events have made of it. -/
structure Reflects (s : Store) (events : List Event) : Prop where
  distinct : s.sessions.Nodup
  readings : events.countP Event.isParsed = s.readings
  follows : ∀ session, Follows s.readings (Parse.since session events) (s.find? session)

namespace Follows

variable {n : Nat} {parses : List Parse} {found : Option Workspace}

/-- Readings of the clock that come later change nothing that follows from parses. -/
theorem mono (h : Follows n parses found) {m : Nat} (hle : n ≤ m) : Follows m parses found := by
  cases h with
  | absent => exact .absent
  | present first latest ordered bounded shape =>
    exact .present first latest ordered (bounded.trans hle) shape

/-- One parse more: what was there before says when the workspace was created. -/
theorem concat (h : Follows n parses found) (session script : Text) (mode : Sql.SplitMode) :
    Follows (n + 1) (parses ++ [⟨script, n + 1⟩])
      (some ⟨session, (found.map Workspace.created).getD (n + 1), n + 1, script,
        .ofScript mode script⟩) := by
  have hshape := Schema.clearSelection_ofScript mode script
  cases h with
  | absent => exact .present rfl rfl le_rfl le_rfl hshape
  | present first latest ordered bounded shape =>
    refine .present ?_ (by simp) (ordered.trans (bounded.trans (Nat.le_succ n))) le_rfl hshape
    obtain ⟨p, hp, hreading⟩ := Option.map_eq_some_iff.1 first
    simp [List.head?_append, hp, hreading]

/-- Marks are of no concern. -/
theorem mark {w : Workspace} (h : Follows n parses (some w)) {marked : Schema}
    (hmarked : marked.clearSelection = w.schema.clearSelection) :
    Follows n parses (some { w with schema := marked }) := by
  cases h with
  | present first latest ordered bounded shape =>
    refine .present first latest ordered bounded ?_
    have hmode : marked.clearSelection.splitMode = w.schema.clearSelection.splitMode := by
      rw [hmarked]
    replace hmode : marked.splitMode = w.schema.splitMode := hmode
    show marked.clearSelection = Schema.ofScript marked.splitMode w.script
    rw [hmarked, shape, hmode]

end Follows

namespace Reflects

variable {s s' : Store} {events : List Event} {target : Text} {event : Option Event}

/-- No event leads to an empty store. -/
theorem empty : Reflects {} [] :=
  ⟨List.nodup_nil, rfl, fun _ => .absent⟩

/-- **What a step keeps:** the store follows from the events, the step's own included. -/
theorem step (h : Reflects s events) (hstep : s.Step target event s') :
    Reflects s' (events ++ event.toList) := by
  cases hstep with
  | idle => simpa using h
  | establish script mode named =>
    refine ⟨?_, by simp [Event.isParsed, h.readings, Store.establish], fun session => ?_⟩
    · exact Store.nodup_put _ h.distinct
    · show Follows (s.readings + 1) _
        ((s.establish target script (.ofScript mode script)).find? session)
      rw [Store.find?_establish, Option.toList, Parse.since_concat, if_neg (by simp), Event.parse?]
      by_cases hsession : target = session
      · subst hsession
        rw [if_pos rfl, if_pos rfl]
        exact (h.follows target).concat ..
      · rw [if_neg hsession, if_neg hsession]
        simpa using (h.follows session).mono (Nat.le_succ _)
  | select schema marked hschema hmarked =>
    refine ⟨by simpa using h.distinct, by simpa [Store.setSchema] using h.readings,
      fun session => ?_⟩
    rw [Option.toList, List.append_nil, Store.find?_setSchema]
    by_cases hsession : target = session
    · subst hsession
      obtain ⟨w, hw, rfl⟩ := Option.map_eq_some_iff.1 hschema
      have hfollows := h.follows target
      rw [hw] at hfollows
      rw [if_pos rfl, hw]
      exact hfollows.mark hmarked
    · rw [if_neg hsession]
      exact h.follows session
  | remove =>
    refine ⟨h.distinct.sublist (List.filter_sublist.map _), ?_, fun session => ?_⟩
    · simpa [Event.isParsed, Store.delete] using h.readings
    · show Follows s.readings _ ((s.delete target).find? session)
      rw [Option.toList, Parse.since_concat]
      by_cases hsession : target = session
      · subst hsession
        rw [if_pos rfl, Store.find?_delete]
        exact .absent
      · rw [if_neg (by simpa using hsession), Store.find?_delete_of_ne s hsession]
        simpa [Event.parse?] using h.follows session

end Reflects

/-- **What a run keeps:** the store follows from the events of the calls. -/
theorem Run.reflects {s : Store} {calls : List Call} (h : Run s calls) :
    Reflects s (Call.events calls) := by
  induction h with
  | empty => exact .empty
  | snoc e o _ ih =>
    rw [Call.events_concat, Call.remember, ih.readings]
    exact ih.step (o.step_run e _)

variable {Time : Type} [Preorder Time]

/-- What a workspace says of its session is what the parses were. -/
structure Workspace.Records (clock : Nat → Time) (w : Workspace) (parses : List Parse) :
    Prop where
  /-- The script is the one that was parsed last. -/
  script : parses.getLast?.map Parse.script = some w.script
  /-- But for the marks, the schema is that of the script. -/
  shape : w.schema.clearSelection = Schema.ofScript w.schema.splitMode w.script
  /-- The workspace was created by the first parse. -/
  created : parses.head?.map (fun p => clock p.reading) = some (clock w.created)
  /-- It was updated by the last. -/
  updated : parses.getLast?.map (fun p => clock p.reading) = some (clock w.updated)
  ordered : clock w.created ≤ clock w.updated

namespace Follows

variable {n : Nat} {parses : List Parse}

/-- There is a workspace just if there was a parse. -/
theorem isSome_iff {found : Option Workspace} (h : Follows n parses found) :
    found.isSome ↔ parses ≠ [] := by
  cases h with
  | absent => simp
  | present first =>
    refine iff_of_true rfl fun hnil => ?_
    rw [hnil] at first
    cases first

/-- A workspace that follows from parses records the first time, the last time and the
last script. -/
theorem records {w : Workspace} (h : Follows n parses (some w)) {clock : Nat → Time}
    (hclock : Monotone clock) : w.Records clock parses := by
  cases h with
  | present first latest ordered bounded shape =>
    refine ⟨by rw [latest]; rfl, shape, ?_, by rw [latest]; rfl, hclock ordered⟩
    obtain ⟨p, hp, hreading⟩ := Option.map_eq_some_iff.1 first
    rw [hp, Option.map_some, hreading]

end Follows

/-- **What the workspaces say** after any run. A session has one if and only if a script was parsed
into it since it was last deleted. Each workspace stands under its own session, and its script, its
schema and its times are those of the parses. -/
theorem Run.workspaces {s : Store} {calls : List Call} (h : Run s calls)
    {clock : Nat → Time} (hclock : StrictMono clock) :
    (∀ session, (s.find? session).isSome ↔ Parse.since session (Call.events calls) ≠ []) ∧
      ∀ w ∈ s.workspaces, s.find? w.session = some w ∧
        w.Records clock (Parse.since w.session (Call.events calls)) := by
  refine ⟨fun session => (h.reflects.follows session).isSome_iff, fun w hw => ?_⟩
  have hfound := Store.find?_of_mem h.reflects.distinct hw
  have hfollows := h.reflects.follows w.session
  rw [hfound] at hfollows
  exact ⟨hfound, hfollows.records hclock.monotone⟩

/-- Operations in the same surroundings, one after another, make a run. -/
theorem run_runAll (e : Surroundings) (operations : List Operation) :
    Run (Operation.runAll e {} operations)
      (List.zipWith Call.mk operations (Operation.outcomes e {} operations)) := by
  have hbehind : ∀ s calls, Run s calls → Run (Operation.runAll e s operations)
      (calls ++ List.zipWith Call.mk operations (Operation.outcomes e s operations)) := by
    induction operations with
    | nil =>
      intro s calls h
      rwa [Operation.outcomes, List.zipWith_nil_left, List.append_nil]
    | cons o os ih =>
      intro s calls h
      have hnext := ih _ _ (h.snoc e o)
      rwa [List.append_assoc] at hnext
  exact hbehind {} [] .empty

/-- Two sessions. A parse in a mode that does not exist and marks come between two parses into the
first, and a deletion between two into the second. -/
def visits : List Operation :=
  [.parse (some "a") (some "legacy") "CREATE TABLE t (x INT);",
    .parse (some "b") (some "depth_aware") "",
    .toggleAll "a",
    .parse (some "a") (some "other") "CREATE TABLE u (x INT);",
    .delete "b",
    .generate "a" none (some ["u"]),
    .parse (some "a") (some "depth_aware") "CREATE TABLE v (x INT);",
    .selectOnly "a" ["v"],
    .parse (some "b") (some "legacy") ""]

namespace visits

/-- Nothing is to be learned from the configuration. -/
def surroundings : Surroundings := { document := .error .noFile }

/-- The store behind the visits. -/
def store : Store := Operation.runAll surroundings {} visits

/-- The events of the visits. -/
def events : List Event :=
  Call.events (List.zipWith Call.mk visits (Operation.outcomes surroundings {} visits))

/-- The events of the visits are recorded in both workspaces. -/
theorem workspaces_store :
    Parse.since "a" events = [⟨"CREATE TABLE t (x INT);", 1⟩, ⟨"CREATE TABLE v (x INT);", 3⟩] ∧
      Parse.since "b" events = [⟨"", 4⟩] ∧ (store.find? "b").isSome ∧
      ∀ w ∈ store.workspaces, store.find? w.session = some w ∧
        w.Records (fun n => 10 * n) (Parse.since w.session events) := by
  have hclock : StrictMono fun n : Nat => 10 * n := fun m n h => by
    show 10 * m < 10 * n
    omega
  have ha : Parse.since "a" events =
      [⟨"CREATE TABLE t (x INT);", 1⟩, ⟨"CREATE TABLE v (x INT);", 3⟩] := by decide +kernel
  have hb : Parse.since "b" events = [⟨"", 4⟩] := by decide +kernel
  obtain ⟨hpresent, hrecords⟩ := Run.workspaces (run_runAll surroundings visits) hclock
  exact ⟨ha, hb, (hpresent "b").2 (by rw [← events, hb]; simp), hrecords⟩

end visits
end Tablesmith
