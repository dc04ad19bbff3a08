/-
# The marks behind a run of choices

A schema is asked for one choice of tables after another. Some choices give every table a mark,
whatever its mark was; a toggle flips the mark of one table; and some are refused:

| choice | the mark of a table |
| --- | --- |
| `only`, all names known | whether the table's name is among them |
| `clear` | not selected |
| `toggleAll` | selected, unless all tables were |
| `toggle` | flipped, if the table is the first of the name |
| `only` with an unknown name, `reload` in a mode that there is none of | as it was |

So the mark of a table behind a run is the one that was given last, flipped once for each toggle of
the table since (`Choice.mark`). A single choice is a new mark for each place and nothing else
(`Choice.step_eq`), and so is a run (`Choice.run_eq`), by induction on its end: the last choice
either gives the mark, or it is one more that came behind the choice that did.

Main statement: `Choice.marks_run`.
-/

import Mathlib.Data.List.Basic
import Mathlib.Data.List.Induction
import Mathlib.Logic.Function.Iterate
import Tablesmith.Schema.Selection

namespace Tablesmith
namespace Schema

/-- The tables in their order, each with the mark that `mark` has for its place and the table. -/
def remark (s : Schema) (mark : Nat → Table → Bool) : Schema :=
  { s with tables := s.tables.mapIdx fun i t => { t with selected := mark i t } }

/-- All tables have the same mark. -/
def IsUniform (s : Schema) : Prop := ∃ mark, ∀ t ∈ s.tables, t.selected = mark

/-- Is the table at the place `i` the first one with the name? -/
def isFirst (s : Schema) (name : Text) (i : Nat) : Bool :=
  s.tableNames.findIdx? (· == name) == some i

/-- What can be asked of a schema about its selection. Another script can be asked for as well, but
only in a way that is refused; otherwise there would be another schema. -/
inductive Choice where
  | toggle (name : Text)
  | toggleAll
  | only (names : List Text)
  | clear
  | reload (mode : Option Text) (script : Text)
      (refused : ∀ default : Sql.SplitMode, ∃ fault,
        ofRequest (.ok default) mode script = .error fault)

namespace Choice

/-- The schema that is asked for, or why there is none. -/
def answer (s : Schema) : Choice → Except Fault Schema
  | toggle name => .ok (s.toggle name)
  | toggleAll => .ok s.toggleAll
  | only names => s.selectOnly names
  | clear => .ok s.clearSelection
  | reload mode script _ => ofRequest (.ok s.splitMode) mode script

/-- The schema behind a choice. If the choice is refused, it is the one that was there. -/
def step (s : Schema) (c : Choice) : Schema :=
  match c.answer s with
  | .ok s' => s'
  | .error _ => s

/-- The schema behind several choices. -/
def run (s : Schema) (choices : List Choice) : Schema := choices.foldl step s

/-- The marks that the choice gives, if it gives one to every table whatever its mark was. -/
def marks? (s : Schema) : Choice → Option (Table → Bool)
  | toggle _ => none
  | toggleAll => some fun _ => !s.allSelected
  | only names => if s.unknown names = [] then some fun t => t.name ∈ names else none
  | clear => some fun _ => false
  | reload _ _ _ => none

/-- Does the choice flip the table at the place `i`? -/
def flips (s : Schema) (i : Nat) : Choice → Bool
  | toggle name => s.isFirst name i
  | _ => false

/-- Each choice with the schema that it was asked of. -/
def moments (s : Schema) : List Choice → List (Schema × Choice)
  | [] => []
  | c :: choices => (s, c) :: moments (c.step s) choices

/-- The marks that were given last, or those that the tables had at first. -/
def given (s : Schema) (choices : List Choice) : Table → Bool :=
  ((moments s choices).reverse.findSome? fun (now, c) => c.marks? now).getD Table.selected

/-- The choices since, the last one first. -/
def since (s : Schema) (choices : List Choice) : List (Schema × Choice) :=
  (moments s choices).reverse.takeWhile fun (now, c) => (c.marks? now).isNone

/-- The mark of the table `t` at the place `i`: the one that was given last, flipped once for each
toggle of the table since. -/
def mark (s : Schema) (choices : List Choice) (i : Nat) (t : Table) : Bool :=
  Bool.not^[(since s choices).countP fun (now, c) => c.flips now i] (given s choices t)

end Choice

/-- New marks that are the old ones change nothing. -/
theorem mapIdx_eq_self {ts : List Table} {mark : Nat → Table → Bool}
    (h : ∀ t ∈ ts, ∀ i, mark i t = t.selected) :
    (ts.mapIdx fun i t => { t with selected := mark i t }) = ts := by
  refine List.ext_getElem? fun i => ?_
  rw [List.getElem?_mapIdx]
  cases ht : ts[i]? with
  | none => rfl
  | some t => rw [Option.map_some, h t (List.mem_of_getElem? ht)]

/-- Marks that are there already change nothing. -/
theorem remark_eq_self {s : Schema} {mark : Nat → Table → Bool}
    (h : ∀ t ∈ s.tables, ∀ i, mark i t = t.selected) : s.remark mark = s :=
  congrArg (fun ts => { s with tables := ts }) (mapIdx_eq_self h)

/-- Of two remarks the last one counts, and it sees the marks of the first. -/
theorem remark_remark (s : Schema) (mark next : Nat → Table → Bool) :
    (s.remark mark).remark next =
      s.remark fun i t => next i { t with selected := mark i t } := by
  simp [remark, List.mapIdx_mapIdx, Function.comp_def]

/-- The names stay as they are. -/
@[simp] theorem tableNames_remark (s : Schema) (mark : Nat → Table → Bool) :
    (s.remark mark).tableNames = s.tableNames :=
  List.ext_getElem? fun i => by simp [remark, tableNames, Function.comp_def]

/-- To flip the first table of a name is to flip the mark at its place. -/
theorem flipFirst_eq (name : Text) (ts : List Table) :
    flipFirst name ts = ts.mapIdx fun i t =>
      { t with selected :=
          (ts.map Table.name).findIdx? (· == name) == some i ^^ t.selected } := by
  induction ts with
  | nil => rfl
  | cons t ts ih =>
    rw [flipFirst, List.mapIdx_cons, List.map_cons, List.findIdx?_cons]
    by_cases ht : t.name = name
    · rw [if_pos ht, if_pos (by simpa using ht), mapIdx_eq_self fun t _ i => by simp]
      simp
    · -- the first place of the name is one further on than in the rest
      rw [if_neg ht, if_neg (by simpa using ht), ih]
      cases (ts.map Table.name).findIdx? (· == name) <;> simp

/-- Toggling flips the mark at one place. -/
theorem toggle_eq (name : Text) (s : Schema) :
    s.toggle name = s.remark fun i t => s.isFirst name i ^^ t.selected :=
  congrArg (fun ts => { s with tables := ts }) (flipFirst_eq name s.tables)

/-- Selecting marks each table by what it is. -/
theorem selectBy_eq (p : Table → Bool) (s : Schema) : s.selectBy p = s.remark fun _ t => p t :=
  congrArg (fun ts => { s with tables := ts }) (List.ext_getElem? fun i => by simp)

/-- Toggling all leaves all tables with one mark. -/
theorem isUniform_toggleAll (s : Schema) : s.toggleAll.IsUniform :=
  ⟨!s.allSelected, List.forall_mem_map.2 fun _ _ => rfl⟩

/-- Where all tables have one mark, it says whether all are selected. -/
theorem allSelected_of_forall {s : Schema} {mark : Bool} (hne : s.tables ≠ [])
    (h : ∀ t ∈ s.tables, t.selected = mark) : s.allSelected = mark := by
  cases mark with
  | true => exact List.all_eq_true.2 h
  | false =>
    obtain ⟨t, ts, htables⟩ := List.exists_cons_of_ne_nil hne
    have ht : t ∈ s.tables := by simp [htables]
    exact List.all_eq_false.2 ⟨t, ht, by simp [h t ht]⟩

/-- **Two toggles of all tables** restore marks that were the same for all. -/
theorem toggleAll_toggleAll {s : Schema} (h : s.IsUniform) : s.toggleAll.toggleAll = s := by
  obtain ⟨mark, hmark⟩ := h
  have hmarks : ∀ t ∈ s.tables, (!s.toggleAll.allSelected) = t.selected := by
    intro t ht
    have hne : s.tables ≠ [] := List.ne_nil_of_mem ht
    have hbefore : s.allSelected = mark := allSelected_of_forall hne hmark
    have hbetween : s.toggleAll.allSelected = !mark := by
      refine allSelected_of_forall (by simpa [toggleAll, selectBy] using hne) ?_
      rw [← hbefore]
      exact List.forall_mem_map.2 fun _ _ => rfl
    rw [hbetween, hmark t ht, Bool.not_not]
  calc s.toggleAll.toggleAll
      = s.toggleAll.remark fun _ _ => !s.toggleAll.allSelected := selectBy_eq ..
    _ = s.remark fun _ _ => !s.toggleAll.allSelected := by
      generalize (!s.toggleAll.allSelected) = mark
      rw [toggleAll, selectBy_eq, remark_remark]
    _ = s := remark_eq_self fun t ht _ => hmarks t ht

namespace Choice

/-- The mark that the choice leaves for the table `t` at the place `i`. -/
def leaves (s : Schema) (c : Choice) (i : Nat) (t : Table) : Bool :=
  match c.marks? s with
  | some marks => marks t
  | none => c.flips s i ^^ t.selected

/-- **A choice is a new mark for each place,** and nothing else of the schema changes. -/
theorem step_eq (s : Schema) (c : Choice) : c.step s = s.remark (c.leaves s) := by
  cases c with
  | toggle name => exact toggle_eq name s
  | toggleAll => exact selectBy_eq _ s
  | only names =>
    by_cases h : s.unknown names = []
    · have hanswer : (only names).step s = s.selectBy fun t => t.name ∈ names := by
        simp only [step, answer, selectOnly, if_pos h]
      have hleaves : (only names).leaves s = fun _ t => decide (t.name ∈ names) := by
        funext i t
        simp only [leaves, marks?, if_pos h]
      rw [hanswer, hleaves, selectBy_eq]
    · have hanswer : (only names).step s = s := by
        simp only [step, answer, selectOnly, if_neg h]
      rw [hanswer, remark_eq_self fun t _ i => by simp [leaves, marks?, h, flips]]
  | clear => exact selectBy_eq _ s
  | reload mode script refused =>
    obtain ⟨fault, hfault⟩ := refused s.splitMode
    have hanswer : (reload mode script refused).step s = s := by
      simp only [step, answer, hfault]
    rw [hanswer, remark_eq_self fun t _ i => by simp [leaves, marks?, flips]]

/-- The last choice is made in the schema that the others have left. -/
theorem run_concat (s : Schema) (choices : List Choice) (c : Choice) :
    run s (choices ++ [c]) = c.step (run s choices) := by
  rw [run, List.foldl_concat, run]

/-- The last choice is asked of the schema that the others have left. -/
theorem moments_concat (s : Schema) (choices : List Choice) (c : Choice) :
    moments s (choices ++ [c]) = moments s choices ++ [(run s choices, c)] := by
  induction choices generalizing s with
  | nil => rfl
  | cons d choices ih => exact congrArg ((s, d) :: ·) (ih (d.step s))

/-- Which table is flipped does not depend on the marks. -/
theorem flips_remark (s : Schema) (mark : Nat → Table → Bool) (c : Choice) (i : Nat) :
    c.flips (s.remark mark) i = c.flips s i := by
  cases c <;> simp [flips, isFirst]

/-- Whether a choice gives marks or leaves them alone does not depend on the marks. -/
theorem marks?_remark_eq_none_iff (s : Schema) (mark : Nat → Table → Bool) (c : Choice) :
    c.marks? (s.remark mark) = none ↔ c.marks? s = none := by
  cases c <;> simp [marks?, unknown]

/-- Marks that are given do not depend on those that were there. -/
theorem marks?_congr {s : Schema} {c : Choice} {marks : Table → Bool} (h : c.marks? s = some marks)
    (t : Table) (selected : Bool) : marks { t with selected := selected } = marks t := by
  cases c with
  | toggle name => cases h
  | toggleAll => obtain rfl := Option.some.inj h; rfl
  | only names =>
    rw [marks?] at h
    split at h
    · obtain rfl := Option.some.inj h; rfl
    · cases h
  | clear => obtain rfl := Option.some.inj h; rfl
  | reload mode script refused => cases h

/-- The last choice of a run leaves its mark upon those of the choices in front of it. -/
theorem mark_concat (s : Schema) (choices : List Choice) (c : Choice) (i : Nat) (t : Table) :
    mark s (choices ++ [c]) i t =
      c.leaves (run s choices) i { t with selected := mark s choices i t } := by
  rw [mark, given, since, moments_concat, List.reverse_append, List.reverse_singleton,
    List.singleton_append, List.findSome?_cons, List.takeWhile_cons, leaves]
  cases h : c.marks? (run s choices) with
  | some marks =>
    -- the mark is given, and nothing has come since
    simp [h, marks?_congr h]
  | none =>
    cases hflips : c.flips (run s choices) i with
    | false => simp [h, hflips, mark, given, since]
    | true => simp [h, hflips, mark, given, since, Function.iterate_succ_apply']

/-- **A run is a new mark for each place,** and nothing else of the schema changes. -/
theorem run_eq (s : Schema) (choices : List Choice) :
    run s choices = s.remark (mark s choices) := by
  induction choices using List.reverseRecOn with
  | nil => exact (remark_eq_self fun t _ i => rfl).symm
  | append_singleton choices c ih =>
    rw [run_concat, step_eq, ih, remark_remark, ← ih]
    refine congrArg s.remark (funext fun i => funext fun t => ?_)
    exact (mark_concat s choices c i t).symm

/-- Choices are made one after another. -/
theorem run_append (s : Schema) (front back : List Choice) :
    run s (front ++ back) = run (run s front) back :=
  List.foldl_append

/-- What leaves marks alone at first does so behind every run. -/
theorem marks?_run_eq_none_iff (s : Schema) (choices : List Choice) (c : Choice) :
    c.marks? (run s choices) = none ↔ c.marks? s = none := by
  rw [run_eq, marks?_remark_eq_none_iff]

/-- Where no marks are given, only the number of the toggles counts. -/
theorem mark_of_forall {s : Schema} {choices : List Choice} (h : ∀ c ∈ choices, c.marks? s = none)
    (i : Nat) (t : Table) :
    mark s choices i t = Bool.not^[choices.countP fun c => c.flips s i] t.selected := by
  induction choices using List.reverseRecOn with
  | nil => rfl
  | append_singleton choices c ih =>
    obtain ⟨hfront, hc⟩ := List.forall_mem_append.1 h
    have hnone : c.marks? (run s choices) = none :=
      (marks?_run_eq_none_iff s choices c).2 (hc c (List.mem_singleton_self c))
    have hflips : c.flips (run s choices) i = c.flips s i := by rw [run_eq, flips_remark]
    have hleaves : ∀ t : Table, c.leaves (run s choices) i t = (c.flips s i ^^ t.selected) := by
      simp [leaves, hnone, hflips]
    rw [mark_concat, hleaves, ih hfront, List.countP_append, List.countP_singleton]
    cases c.flips s i with
    | false => exact Bool.false_xor _
    | true => exact (Bool.true_xor _).trans (Function.iterate_succ_apply' Bool.not _ _).symm

/-- **The order of toggles does not matter.** -/
theorem run_perm {s : Schema} {choices others : List Choice} (hperm : choices.Perm others)
    (h : ∀ c ∈ choices, c.marks? s = none) : run s choices = run s others := by
  rw [run_eq, run_eq]
  refine congrArg s.remark (funext fun i => funext fun t => ?_)
  rw [mark_of_forall h, mark_of_forall fun c hc => h c (hperm.mem_iff.2 hc), hperm.countP_eq]

/-- The tables that are selected behind a run, in the order of all tables. -/
theorem selected_run (s : Schema) (choices : List Choice) :
    (run s choices).selected =
      (s.tables.zipIdx.filter fun (t, i) => mark s choices i t).map fun (t, _) =>
        { t with selected := true } := by
  rw [run_eq, selected, remark, List.mapIdx_eq_zipIdx_map, List.filter_map]
  refine List.map_congr_left fun (t, i) hmem => ?_
  have hmark : mark s choices i t = true := (List.mem_filter.1 hmem).2
  simp only [hmark]

/-- **The law of selecting.** Behind a run of choices a schema is what it was but for the marks of
its tables, and each mark is the one that was given last, flipped once for each toggle of the table
since. So choices that give no marks can be made in any order wherever they follow one another; to
toggle all tables makes their marks the same, and to do so twice restores marks that were the same;
and what is selected are the tables so marked, in the order of their declaration. -/
theorem marks_run (s : Schema) (choices : List Choice) :
    run s choices = { s with tables := s.tables.mapIdx fun i t =>
      { t with selected := mark s choices i t } } ∧
    (∀ between others after : List Choice, between.Perm others →
      (∀ c ∈ between, c.marks? s = none) →
        run s (choices ++ between ++ after) = run s (choices ++ others ++ after)) ∧
    (run s (choices ++ [toggleAll])).IsUniform ∧
    ((run s choices).IsUniform →
      run s (choices ++ [toggleAll, toggleAll]) = run s choices) ∧
    (run s choices).selected =
      (s.tables.zipIdx.filter fun (t, i) => mark s choices i t).map fun (t, _) =>
        { t with selected := true } := by
  refine ⟨run_eq s choices, fun between others after hperm hnone => ?_, ?_, fun huniform => ?_,
    selected_run s choices⟩
  · have hbehind : ∀ c ∈ between, c.marks? (run s choices) = none := fun c hc =>
      (marks?_run_eq_none_iff s choices c).2 (hnone c hc)
    rw [run_append, run_append, run_perm hperm hbehind, run_append, run_append]
  · rw [run_concat]
    exact isUniform_toggleAll _
  · rw [run_append]
    exact toggleAll_toggleAll huniform

/-- Two tables of one name, and another one that is selected. -/
def twins : Schema where
  tables := [{ name := "a", columns := ["x"] }, { name := "b", selected := true }, { name := "a" }]

/-- All tables are toggled, some are chosen, one of two is toggled, and two requests are refused. -/
def twins.choices : List Choice :=
  [toggleAll, only ["a", "a"], toggle "a", only ["a", "c"],
    reload (some "smart") "CREATE TABLE d (y INT);" fun _ => ⟨_, rfl⟩]

/-- In a run over the twins, what is given last and flipped since is what is left. -/
theorem marks_run_twins :
    run twins twins.choices = { twins with tables :=
      [{ name := "a", columns := ["x"] }, { name := "b" }, { name := "a", selected := true }] } ∧
    [toggle "a", only ["c"], toggle "b"].Perm [toggle "b", toggle "a", only ["c"]] ∧
    (∀ c ∈ [toggle "a", only ["c"], toggle "b"], c.marks? twins = none) ∧
    run twins (twins.choices ++ [toggle "a", only ["c"], toggle "b"] ++ [toggle "a"]) =
      run twins (twins.choices ++ [toggle "b", toggle "a", only ["c"]] ++ [toggle "a"]) ∧
    (run twins [clear]).IsUniform ∧
    run twins ([clear] ++ [toggleAll, toggleAll]) = run twins [clear] := by
  have hperm : ([toggle "a", only ["c"]] ++ [toggle "b"]).Perm
      ([toggle "b"] ++ [toggle "a", only ["c"]]) := List.perm_append_comm
  have hnone : ∀ c ∈ [toggle "a", only ["c"], toggle "b"], c.marks? twins = none :=
    List.forall_mem_cons.2 ⟨rfl, List.forall_mem_cons.2 ⟨rfl, List.forall_mem_singleton.2 rfl⟩⟩
  have huniform : (run twins [clear]).IsUniform := ⟨false, by decide⟩
  exact ⟨(marks_run twins twins.choices).1.trans (by decide +kernel), hperm, hnone,
    (marks_run twins twins.choices).2.1 _ _ _ hperm hnone, huniform,
    (marks_run twins [clear]).2.2.2.1 huniform⟩

end Choice
end Schema
end Tablesmith
