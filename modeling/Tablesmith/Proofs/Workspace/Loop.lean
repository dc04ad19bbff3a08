/-
# Generations that pause

Clients take turns on a loop. A generation takes two of them: its start makes the selection, copies
the registry of the session and pauses; its finish generates from the copy. Any number of
generations may be paused at once, and between the two turns of one there may be any other turns,
among them marks, parses and deletions of the very session.

| turn | answer |
| --- | --- |
| operation | its reply, at once |
| start | a reply at once where there is nothing to generate from; else it pauses under a number |
| finish | the generation of the number, if it is paused |

The copy is read when the generation is finished, from whatever the memory then is. It is free
(`Loop.Sound`), so what it shows is what the registry of the session showed right behind the start.

Main statement: `Loop.isolated`. A start that is finished in the next turn is the operation
`generate` (`Loop.finish_start`).
-/

import Mathlib.Data.List.Induction
import Tablesmith.Proofs.Module.Layout
import Tablesmith.Proofs.Workspace.Failure
import Tablesmith.Proofs.Workspace.Shared

namespace Tablesmith

/-- What a client does in its turn. -/
inductive Turn where
  | operation (o : Operation)
  | start (session : Text) (database : Option Text) (tables : Option (List Text))
  | finish (number : Nat)
deriving Repr, DecidableEq

/-- A turn, and the surroundings that it finds. -/
structure Occasion where
  surroundings : Surroundings
  turn : Turn

/-- What a turn answers. -/
inductive Answer where
  | reply (outcome : Except Fault Reply)
  | paused (number : Nat)
  /-- There is no paused generation of the number. -/
  | nothing
deriving DecidableEq

/-- A generation that is paused, and the copy that it is to generate from. -/
structure Pending where
  number : Nat
  database : Option Text
  copy : Shared.Registry

/-- The store and the paused generations. -/
structure Loop where
  store : Shared.Store := {}
  started : Nat := 0
  pending : List Pending := []

namespace Loop

/-- The paused generation of a number. -/
def pending? (l : Loop) (number : Nat) : Option Pending :=
  l.pending.find? fun p => p.number = number

/-- Starts a generation. -/
def start (l : Loop) (e : Surroundings) (session : Text) (database : Option Text)
    (tables : Option (List Text)) : Loop × Answer :=
  match l.store.start session tables with
  | .error fault => (l, .reply (.error fault))
  | .ok (s, none) => ({ l with store := s }, .reply (.ok (.generation none)))
  | .ok (s, some copy) =>
    match Service.pause e.pause with
    | .error fault => ({ l with store := s }, .reply (.error fault))
    | .ok _ =>
      (⟨s, l.started + 1, ⟨l.started, database, copy⟩ :: l.pending⟩, .paused l.started)

/-- Finishes a generation. -/
def finish (l : Loop) (e : Surroundings) (number : Nat) : Loop × Answer :=
  match l.pending? number with
  | none => (l, .nothing)
  | some p =>
    let schema := p.copy.schema l.store.memory
    ({ l with pending := l.pending.filter fun q => q.number ≠ number },
      .reply ((Service.finish e.document e.settings schema p.database).map fun g =>
        .generation (some g)))

/-- The loop after a turn, and the answer. -/
def step (l : Loop) (e : Surroundings) : Turn → Loop × Answer
  | .operation o =>
    let (s, outcome) := Shared.run e l.store o
    ({ l with store := s }, .reply outcome)
  | .start session database tables => l.start e session database tables
  | .finish number => l.finish e number

/-- The loop after turns, one after another. -/
def after (occasions : List Occasion) : Loop :=
  occasions.foldl (fun l o => (l.step o.surroundings o.turn).1) {}

/-- The last turn is taken behind the others. -/
theorem after_concat (occasions : List Occasion) (o : Occasion) :
    after (occasions ++ [o]) = ((after occasions).step o.surroundings o.turn).1 := by
  rw [after, List.foldl_append]
  rfl

/-- What a turn can do to the loop, and answer. -/
inductive Course (l : Loop) (e : Surroundings) : Turn → Loop → Answer → Prop
  /-- It is over at once. -/
  | settled {t : Turn} {s : Shared.Store} {outcome : Except Fault Reply}
      (hturn : ∀ number, t ≠ .finish number) (hs : l.store.Evolves s) :
      Course l e t { l with store := s } (.reply outcome)
  /-- A generation is started, and pauses. -/
  | pauses {session : Text} {database : Option Text} {tables : Option (List Text)}
      {s : Shared.Store} {copy : Shared.Registry}
      (hstart : l.store.start session tables = .ok (s, some copy)) :
      Course l e (.start session database tables)
        ⟨s, l.started + 1, ⟨l.started, database, copy⟩ :: l.pending⟩ (.paused l.started)
  /-- A generation is to be finished that is not paused. -/
  | absent {number : Nat} (h : l.pending? number = none) : Course l e (.finish number) l .nothing
  /-- A generation is finished. -/
  | finishes {number : Nat} {p : Pending} (h : l.pending? number = some p) :
      Course l e (.finish number)
        { l with pending := l.pending.filter fun q => q.number ≠ number }
        (.reply ((Service.finish e.document e.settings (p.copy.schema l.store.memory)
          p.database).map fun g => .generation (some g)))

/-- **Every turn takes one of these courses.** -/
theorem course_step (l : Loop) (e : Surroundings) (t : Turn) :
    l.Course e t (l.step e t).1 (l.step e t).2 := by
  cases t with
  | operation o => exact .settled nofun (Shared.evolves_run e l.store o)
  | start session database tables =>
    rw [step, start]
    split
    · exact .settled nofun (.refl l.store)
    · next s h => exact .settled nofun (Shared.Store.evolves_start h)
    · next s copy h =>
      split
      · exact .settled nofun (Shared.Store.evolves_start h)
      · exact .pauses h
  | finish number =>
    rw [step, finish]
    split
    · next h => exact .absent h
    · next p h => exact .finishes h

/-- The copies of the paused generations are free, and their numbers are used up. -/
structure Sound (l : Loop) : Prop where
  store : l.store.Sound
  numbered : ∀ p ∈ l.pending, p.number < l.started
  free : ∀ p ∈ l.pending, l.store.IsFree p.copy

/-- What the paused generation of a number is to be made from, if it were finished now. -/
def due? (l : Loop) (number : Nat) : Option (Option Text × Schema) :=
  (l.pending? number).map fun p => (p.database, p.copy.schema l.store.memory)

variable {l l' : Loop} {e : Surroundings} {t : Turn} {answer : Answer}

/-- The loop is sound at the beginning. -/
theorem sound_empty : Sound {} where
  store := Shared.Store.sound_empty
  numbered := nofun
  free := nofun

/-- **What a turn keeps.** -/
theorem Sound.course (hl : l.Sound) (h : l.Course e t l' answer) : l'.Sound := by
  cases h with
  | settled hturn hs => exact ⟨hs.sound hl.store, hl.numbered, fun p hp => hs.isFree (hl.free p hp)⟩
  | absent _ => exact hl
  | finishes _ =>
    exact ⟨hl.store, fun p hp => hl.numbered p (List.mem_of_mem_filter hp),
      fun p hp => hl.free p (List.mem_of_mem_filter hp)⟩
  | pauses hstart =>
    have hs := Shared.Store.evolves_start hstart
    refine ⟨hs.sound hl.store, fun p hp => ?_, fun p hp => ?_⟩
    · obtain rfl | hp := List.mem_cons.1 hp
      · exact Nat.lt_succ_self _
      · exact Nat.lt_succ_of_lt (hl.numbered p hp)
    · obtain rfl | hp := List.mem_cons.1 hp
      · exact Shared.Store.isFree_start hl.store hstart
      · exact hs.isFree (hl.free p hp)

/-- The loop stays sound over all turns. -/
theorem sound_after (occasions : List Occasion) : (after occasions).Sound := by
  induction occasions using List.reverseRecOn with
  | nil => exact sound_empty
  | append_singleton occasions o ih =>
    rw [after_concat]
    exact ih.course (course_step ..)

/-- Nothing that happens to the store shows in what a paused generation is to be made from. -/
theorem due?_of_evolves (hl : l.Sound) {s : Shared.Store} (hs : l.store.Evolves s) (number : Nat) :
    { l with store := s }.due? number = l.due? number := by
  refine Option.map_congr fun p hp => ?_
  have hfree := hl.free p (List.mem_of_find?_eq_some hp)
  exact congrArg (p.database, ·) (hs.schema_eq hfree)

/-- A number that is not used up yet has no generation. -/
theorem due?_started (hl : l.Sound) : l.due? l.started = none := by
  cases hpending : l.pending? l.started with
  | none => rw [due?, hpending, Option.map_none]
  | some p =>
    have hnumber : p.number = l.started := by simpa using List.find?_some hpending
    have hlt := hl.numbered p (List.mem_of_find?_eq_some hpending)
    omega

/-- A generation that pauses is due to be made from its copy, and no other is touched. -/
theorem due?_of_pauses (hl : l.Sound) {session : Text} {tables : Option (List Text)}
    {s : Shared.Store} {copy : Shared.Registry}
    (hstart : l.store.start session tables = .ok (s, some copy)) (database : Option Text)
    (number : Nat) :
    (Loop.mk s (l.started + 1) (⟨l.started, database, copy⟩ :: l.pending)).due? number =
      if l.started = number then some (database, copy.schema s.memory) else l.due? number := by
  rw [← due?_of_evolves hl (Shared.Store.evolves_start hstart), due?, pending?, List.find?_cons]
  by_cases hnumber : l.started = number
  · simp [hnumber]
  · simp [hnumber, due?, pending?]

/-- A generation that is finished is not due any more, and no other is touched. -/
theorem due?_of_finishes (l : Loop) (finished number : Nat) :
    { l with pending := l.pending.filter fun q => q.number ≠ finished }.due? number =
      if finished = number then none else l.due? number := by
  rw [due?, pending?, List.find?_filter]
  by_cases hnumber : finished = number
  · have hnone : l.pending.find? (fun p => p.number ≠ finished ∧ p.number = number) = none := by
      simp [hnumber]
    rw [if_pos hnumber]
    simpa using hnone
  · rw [if_neg hnumber, due?, pending?]
    congr 2
    funext p
    have : p.number = number → p.number ≠ finished := fun h => by omega
    simpa using this

/-- In one of the turns a generation was started that paused under the number, and no turn since has
finished it. Right behind the start the registry of the session showed the schema. -/
def Unfinished (occasions : List Occasion) (number : Nat) (session : Text) (database : Option Text)
    (tables : Option (List Text)) (schema : Schema) : Prop :=
  ∃ before e between, occasions = before ++ ⟨e, .start session database tables⟩ :: between ∧
    ((after before).step e (.start session database tables)).2 = .paused number ∧
    (∀ o ∈ between, o.turn ≠ .finish number) ∧
    (after (before ++ [⟨e, .start session database tables⟩])).store.view.schema? session =
      some schema

section

variable {occasions : List Occasion} {o : Occasion} {number : Nat} {session : Text}
  {database : Option Text} {tables : Option (List Text)} {schema : Schema}

/-- One turn more starts the generation, or leaves it paused. -/
theorem unfinished_concat : Unfinished (occasions ++ [o]) number session database tables schema ↔
    (o.turn = .start session database tables ∧
      ((after occasions).step o.surroundings o.turn).2 = .paused number ∧
      (after (occasions ++ [o])).store.view.schema? session = some schema) ∨
    (Unfinished occasions number session database tables schema ∧ o.turn ≠ .finish number) := by
  constructor
  · rintro ⟨before, e, between, hsplit, hpaused, hspared, hschema⟩
    obtain rfl | ⟨between, last, rfl⟩ := List.eq_nil_or_concat' between
    · obtain ⟨rfl, hlast⟩ := List.append_inj' hsplit rfl
      obtain rfl := List.singleton_inj.1 hlast
      exact .inl ⟨rfl, hpaused, hschema⟩
    · rw [← List.cons_append, ← List.append_assoc] at hsplit
      obtain ⟨rfl, hlast⟩ := List.append_inj' hsplit rfl
      obtain rfl := List.singleton_inj.1 hlast
      have hspares : ∀ o ∈ between, o.turn ≠ .finish number :=
        fun o ho => hspared o (List.mem_append_left _ ho)
      exact .inr ⟨⟨before, e, between, rfl, hpaused, hspares, hschema⟩, hspared o (by simp)⟩
  · rintro (⟨hturn, hpaused, hschema⟩ | ⟨⟨before, e, between, rfl, hpaused, hspared, hschema⟩, ho⟩)
    · obtain ⟨e, turn⟩ := o
      obtain rfl := hturn
      exact ⟨occasions, e, [], rfl, hpaused, fun _ hu => absurd hu List.not_mem_nil, hschema⟩
    · refine ⟨before, e, between ++ [o], by simp, hpaused, fun u hu => ?_, hschema⟩
      obtain hu | hu := List.mem_append.1 hu
      · exact hspared u hu
      · rwa [List.mem_singleton.1 hu]

/-- **What a turn changes** of what is due: it starts the generation, or leaves it paused. -/
theorem due?_course_iff (hl : l.Sound) (h : l.Course e t l' answer) :
    l'.due? number = some (database, schema) ↔
      (∃ session tables, t = .start session database tables ∧ answer = .paused number ∧
        l'.store.view.schema? session = some schema) ∨
      (l.due? number = some (database, schema) ∧ t ≠ .finish number) := by
  cases h with
  | settled hturn hs =>
    rw [due?_of_evolves hl hs]
    simp [hturn]
  | @absent finished h =>
    have hdue : l.due? finished = none := by rw [due?, h, Option.map_none]
    by_cases hnumber : finished = number
    · simp [← hnumber, hdue]
    · simp [hnumber]
  | pauses hstart =>
    obtain ⟨-, hschema⟩ := Shared.Store.schema?_of_start hl.store hstart
    rw [due?_of_pauses hl hstart]
    by_cases hnumber : l.started = number
    · simp [← hnumber, due?_started hl, hschema]
    · simp [hnumber]
  | @finishes finished _ h =>
    rw [due?_of_finishes]
    by_cases hnumber : finished = number <;> simp [hnumber]

/-- **What a run keeps:** what the paused generation of a number is to be made from is what the
registry of its session showed right behind its start. By induction on the turns. -/
theorem due?_after_iff : (after occasions).due? number = some (database, schema) ↔
    ∃ session tables, Unfinished occasions number session database tables schema := by
  induction occasions using List.reverseRecOn generalizing number database schema with
  | nil =>
    refine iff_of_false nofun ?_
    rintro ⟨session, tables, before, e, between, hsplit, -⟩
    simp at hsplit
  | append_singleton occasions o ih =>
    have hcourse := course_step (after occasions) o.surroundings o.turn
    rw [after_concat, due?_course_iff (sound_after occasions) hcourse, ih]
    simp only [unfinished_concat, exists_or, exists_and_right, after_concat]

/-- A generation that was started for given tables is to be made from those. -/
theorem selected_of_unfinished {names : List Text}
    (h : Unfinished occasions number session database (some names) schema) :
    (∀ n ∈ names, n ∈ schema.tableNames) ∧
      schema.selected = schema.tables.filter fun t => t.name ∈ names := by
  obtain ⟨before, e, between, -, hpaused, -, hschema⟩ := h
  have hl := sound_after before
  have hcourse := course_step (after before) e (.start session database (some names))
  rw [after_concat] at hschema
  generalize (after before).step e (.start session database (some names)) = outcome
    at hpaused hschema hcourse
  obtain ⟨l', answer⟩ := outcome
  cases hcourse with
  | settled => cases hpaused
  | pauses hstart =>
    obtain ⟨hselecting, -⟩ := Shared.Store.schema?_of_start hl.store hstart
    obtain ⟨heq, hnone⟩ | ⟨asked, declared, hasked, hdeclared, hknown, heq⟩ :=
      Service.selecting_cases hselecting
    · have habsent := hnone.resolve_left (by simp)
      rw [← heq, hschema] at habsent
      cases habsent
    · obtain rfl := Option.some.inj hasked
      rw [heq, Store.schema?_setSchema hdeclared] at hschema
      obtain rfl := Option.some.inj hschema
      refine ⟨by simpa using hknown, ?_⟩
      refine List.filter_congr fun t ht => ?_
      obtain ⟨u, -, rfl⟩ := List.mem_map.1 ht
      rfl

end

/-- An operation is answered, and changes what is seen, as on values. -/
theorem view_step_operation (hl : l.Sound) (e : Surroundings) (o : Operation) :
    (l.step e (.operation o)).1.store.view = (o.run e l.store.view).1 ∧
      (l.step e (.operation o)).2 = .reply (o.run e l.store.view).2 := by
  rw [← Shared.view_run e hl.store o]
  exact ⟨rfl, rfl⟩

/-- The answer to a finish is made from what is due. -/
theorem reply_of_finish_iff (l : Loop) (e : Surroundings) (number : Nat)
    (outcome : Except Fault Reply) : (l.step e (.finish number)).2 = .reply outcome ↔
      ∃ database schema, l.due? number = some (database, schema) ∧
        outcome = (Pipeline.settingsOr e.document e.settings).map fun settings =>
          .generation (some (schema.generate database settings)) := by
  rw [step, finish, due?]
  cases l.pending? number with
  | none => simp
  | some p =>
    simp only [Service.map_finish]
    simp [eq_comm]

/-- A start that asks for no tables changes nothing that is seen. -/
theorem view_of_start_none (hl : l.Sound) (e : Surroundings) (session : Text)
    (database : Option Text) :
    (l.step e (.start session database none)).1.store.view = l.store.view := by
  have hview := Shared.Store.view_snapshot hl.store session
  rw [step, start, Shared.Store.start_none]
  generalize l.store.snapshot session = behind at hview ⊢
  obtain ⟨s, copy⟩ := behind
  cases copy with
  | none => exact hview
  | some copy => cases Service.pause e.pause <;> exact hview

/-- **Generations are isolated from whatever happens during their pauses.** After any turns, with
any number of generations paused:

* an operation is answered, and changes what is seen, as on values;
* a finish is answered if a generation of its number is paused, and then by what is generated from
  what the registry of the session showed right behind the start;
* if tables were asked for at the start, those of that registry are generated, in their order;
* a finish changes nothing at all in the store, and a start that asks for no tables nothing that is
  seen. -/
theorem isolated (occasions : List Occasion) (e : Surroundings) :
    (∀ o : Operation,
      ((after occasions).step e (.operation o)).1.store.view =
          (o.run e (after occasions).store.view).1 ∧
        ((after occasions).step e (.operation o)).2 =
          .reply (o.run e (after occasions).store.view).2) ∧
    (∀ number outcome, ((after occasions).step e (.finish number)).2 = .reply outcome ↔
      ∃ session database tables schema,
        Unfinished occasions number session database tables schema ∧
        outcome = (Pipeline.settingsOr e.document e.settings).map fun settings =>
          .generation (some (schema.generate database settings))) ∧
    (∀ number session database names schema,
      Unfinished occasions number session database (some names) schema →
        ∀ wanted settings, (schema.generate wanted settings).tables =
          (schema.tables.filter fun t => t.name ∈ names).map Table.name) ∧
    (∀ number, ((after occasions).step e (.finish number)).1.store = (after occasions).store) ∧
    ∀ session database, ((after occasions).step e (.start session database none)).1.store.view =
      (after occasions).store.view := by
  have hl := sound_after occasions
  refine ⟨fun o => ?_, fun number outcome => ?_, ?_, fun number => ?_, fun session database => ?_⟩
  · exact view_step_operation hl e o
  · rw [reply_of_finish_iff]
    simp only [due?_after_iff]
    constructor
    · rintro ⟨database, schema, ⟨session, tables, hunfinished⟩, houtcome⟩
      exact ⟨session, database, tables, schema, hunfinished, houtcome⟩
    · rintro ⟨session, database, tables, schema, hunfinished, houtcome⟩
      exact ⟨database, schema, ⟨session, tables, hunfinished⟩, houtcome⟩
  · intro number session database names schema h wanted settings
    rw [Schema.generate, Generation.tables_ofTables, (selected_of_unfinished h).2]
  · rw [step, finish]
    split <;> rfl
  · exact view_of_start_none hl e session database

namespace asleep

/-- Nothing is to be learned from the configuration. -/
def surroundings : Surroundings := { document := .error .noFile, settings := some {} }

/-- A session with two tables. -/
def before : List Occasion :=
  [⟨surroundings, .operation
    (.parse (some "s") (some "legacy") "CREATE TABLE t (x INT); CREATE TABLE u (y INT);")⟩]

/-- A generation for one of them. -/
def start : Turn := .start "s" none (some ["u"])

/-- While the generation is paused, the session is marked anew, parsed anew and deleted. -/
def between : List Occasion :=
  [⟨surroundings, .operation (.toggleAll "s")⟩,
    ⟨surroundings, .operation (.parse (some "s") (some "legacy") "CREATE TABLE v (z INT);")⟩,
    ⟨surroundings, .operation (.delete "s")⟩]

/-- All the turns. -/
def occasions : List Occasion := before ++ ⟨surroundings, start⟩ :: between

/-- What the session shows right behind the start. -/
def schema : Schema := { tables := [⟨"t", ["x"], false⟩, ⟨"u", ["y"], true⟩] }

/-- The generation that was paused is made of what the session showed at its start. -/
theorem finish_occasions :
    ((after occasions).step surroundings (.finish 0)).2 =
        .reply (.ok (.generation (some (schema.generate none {})))) ∧
      (schema.generate none {}).tables = ["u".toList] := by
  have hpaused : ((after before).step surroundings start).2 = .paused 0 := by decide +kernel
  have hschema : (after (before ++ [⟨surroundings, start⟩])).store.view.schema? "s" =
      some schema := by decide +kernel
  have hspared : ∀ o ∈ between, o.turn ≠ .finish 0 := by decide +kernel
  have hunfinished : Unfinished occasions 0 "s" none (some ["u"]) schema :=
    ⟨before, surroundings, between, rfl, hpaused, hspared, hschema⟩
  obtain ⟨-, hfinish, htables, -, -⟩ := isolated occasions surroundings
  refine ⟨(hfinish 0 _).2 ⟨"s", none, some ["u"], schema, hunfinished, rfl⟩, ?_⟩
  rw [htables 0 "s" none ["u"] schema hunfinished]
  decide +kernel

end asleep

/-- **A start that is finished at once is the operation `generate`:** both come to the same store
and the same answer, whether or not the generation pauses. -/
theorem finish_start (l : Loop) (e : Surroundings) (session : Text) (database : Option Text)
    (tables : Option (List Text)) :
    let whole := l.step e (.operation (.generate session database tables))
    let begun := l.step e (.start session database tables)
    begun = whole ∨ ∃ number, begun.2 = .paused number ∧
      (begun.1.step e (.finish number)).2 = whole.2 ∧
      (begun.1.step e (.finish number)).1.store = whole.1.store := by
  intro whole begun
  cases hstart : l.store.start session tables with
  | error fault =>
    left
    simp only [begun, whole, step, start, Shared.run, hstart]
  | ok started =>
    obtain ⟨s, copy⟩ := started
    cases copy with
    | none =>
      left
      simp only [begun, whole, step, start, Shared.run, hstart]
    | some copy =>
      cases hpause : Service.pause e.pause with
      | error fault =>
        left
        simp only [begun, whole, step, start, Shared.run, hstart, hpause, Except.bind]
      | ok _ =>
        right
        have hbegun : begun =
            (⟨s, l.started + 1, ⟨l.started, database, copy⟩ :: l.pending⟩, .paused l.started) := by
          simp only [begun, step, start, hstart, hpause]
        have hfound : begun.1.pending? l.started = some ⟨l.started, database, copy⟩ := by
          rw [hbegun]
          exact List.find?_cons_of_pos (by simp)
        refine ⟨l.started, by rw [hbegun], ?_, ?_⟩
        · rw [step, finish, hfound]
          simp only [whole, step, Shared.run, hstart, hpause, Except.bind, hbegun]
        · rw [step, finish, hfound]
          simp only [whole, step, Shared.run, hstart, hbegun]

end Loop
end Tablesmith
