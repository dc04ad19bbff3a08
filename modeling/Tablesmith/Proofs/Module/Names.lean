/-
# What the functions of a module are called

A module has six functions whose names are fixed, and six more for each table, called after the
table's base name `b`:

| kind | name |
| --- | --- |
| `listAll` | `get_all_` `b` |
| `getById` | `get_` `b` `_by_id` |
| `insert` | `insert_` `b` |
| `update` | `update_` `b` |
| `delete` | `delete_` `b` |
| `check` | `check_` `b` |

Base names are kept apart, and the names made of them are not looked at any more. Almost always that
is enough: none of them is one of the fixed names, and two kinds that begin differently have no name
in common. But `get_all_` begins like `get_`, so the first two kinds can meet, as they do for the
base names `users_by_id` and `all_users` (`listAll_eq_getById_iff`). Apart from such pairs the names
are different (`nodup_moduleFunctions_iff`).
-/

import Mathlib.Data.List.Infix
import Mathlib.Data.List.Nodup
import Mathlib.Data.List.Perm.Basic
import Tablesmith.Proofs.Module.Layout

namespace Tablesmith
namespace Plan

/-- The kinds of functions that every table has. -/
inductive Kind where
  | listAll
  | getById
  | insert
  | update
  | delete
  | check
deriving Repr, DecidableEq

namespace Kind

/-- All kinds, in the order in which a table has them. -/
def all : List Kind := [listAll, getById, insert, update, delete, check]

/-- What stands in front of the base name. -/
def front : Kind → Text
  | listAll => "get_all_"
  | getById => "get_"
  | insert => "insert_"
  | update => "update_"
  | delete => "delete_"
  | check => "check_"

/-- What stands behind the base name. -/
def back : Kind → Text
  | getById => "_by_id"
  | _ => []

/-- The name of the function of a kind. -/
def name (k : Kind) (base : Text) : Text := k.front ++ base ++ k.back

/-- There are no other kinds. -/
theorem mem_all (k : Kind) : k ∈ all := by
  cases k <;> decide

/-- The name of a function begins with what its kind has in front. -/
theorem front_isPrefix_name (k : Kind) (base : Text) : k.front <+: k.name base :=
  ⟨base ++ k.back, (List.append_assoc ..).symm⟩

end Kind

/-- The names of the functions that every module has. -/
def fixedNames : List Text :=
  ["get_connection", "get_pool", "close_pool", "run_query", "_log", "run_integration_tests"]

/-- The functions of a module, in their order. -/
def moduleFunctions (plans : List Plan) : List Function :=
  Preamble.functions ++ plans.flatMap functions ++ Checks.functions plans

/-- A plan names its functions kind by kind. -/
theorem names_append_check (p : Plan) :
    p.accessors.names ++ [p.check] = Kind.all.map fun k => k.name p.base := by
  show _ = [p.listAll ++ [], p.getById, p.insert ++ [], p.update ++ [], p.delete ++ [],
    p.check ++ []]
  rw [List.append_nil, List.append_nil, List.append_nil, List.append_nil, List.append_nil]
  rfl

/-- The functions of a module by their names. -/
theorem map_name_moduleFunctions (plans : List Plan) :
    (moduleFunctions plans).map Function.name =
      (["get_connection", "get_pool", "close_pool", "run_query"] : List Text)
        ++ plans.flatMap (fun p => p.accessors.names) ++ ("_log" : Text) :: plans.map check
        ++ (["run_integration_tests"] : List Text) := by
  have hpreamble : Preamble.functions.map Function.name =
      (["get_connection", "get_pool", "close_pool", "run_query"] : List Text) := rfl
  rw [moduleFunctions, List.map_append, List.map_append, List.map_flatMap,
    Checks.map_name_functions, hpreamble, ← List.append_assoc]
  simp only [map_name_functions]

/-- The names of the functions are the names that the module's text defines. -/
theorem names_draft {plans : List Plan} (h : ∀ p ∈ plans, p.IsPlain) (database : Text)
    (s : Settings) :
    Definition.names (draft plans database s).text = (moduleFunctions plans).map Function.name :=
  (defines_draft h database s).names_eq.trans (map_name_moduleFunctions plans).symm

/-- The fixed names stand apart; all others come from a base name and a kind. -/
theorem perm_names (plans : List Plan) : ((moduleFunctions plans).map Function.name).Perm
    (fixedNames ++ (List.product (plans.map base) Kind.all).map fun x => x.2.name x.1) := by
  have hkinds : (List.product (plans.map base) Kind.all).map (fun x => x.2.name x.1) =
      plans.flatMap fun p => p.accessors.names ++ [p.check] := by
    simp only [List.product, List.map_flatMap, List.flatMap_map, List.map_map, names_append_check]
    rfl
  have htables : (plans.flatMap (fun p => p.accessors.names) ++ plans.map check).Perm
      ((List.product (plans.map base) Kind.all).map fun x => x.2.name x.1) := by
    rw [hkinds, List.map_eq_flatMap]
    exact List.flatMap_append_perm plans _ _
  have hapart : ∀ (front tables checks : List Text) (log run : Text),
      (front ++ tables ++ log :: checks ++ [run]).Perm
        (front ++ [log, run] ++ (tables ++ checks)) := by
    intro front tables checks log run
    rw [List.perm_iff_count]
    intro n
    simp only [List.count_append, List.count_cons, List.count_nil]
    omega
  rw [map_name_moduleFunctions]
  exact (hapart _ _ _ _ _).trans (htables.append_left fixedNames)

/-- A table of the first base name is listed by the function that looks up a row of the second: the
one is `by_id` and the other `all`, perhaps with the same text in front of the one and behind the
other. -/
def Clash (b c : Text) : Prop :=
  (b = "by_id" ∧ c = "all") ∨ ∃ x, b = x ++ "_by_id" ∧ c = ("all_" : Text) ++ x

/-- The function that lists all rows of one table has the name of the one that looks up a row of
another only if their base names clash. -/
theorem listAll_eq_getById_iff {b c : Text} :
    Kind.listAll.name b = Kind.getById.name c ↔ Clash b c := by
  have hlist : Kind.listAll.name b = ("get_" : Text) ++ (("all_" : Text) ++ b) :=
    List.append_nil _
  have hget : Kind.getById.name c = ("get_" : Text) ++ (c ++ ("_by_id" : Text)) :=
    List.append_assoc ..
  rw [hlist, hget, List.append_cancel_left_eq]
  constructor
  · intro h
    rcases List.append_eq_append_iff.1 h with ⟨x, hc, hb⟩ | ⟨x, hall, hback⟩
    · exact .inr ⟨x, hb, hc⟩
    · -- `x` ends the one part and begins the other, and only one underscore or nothing does
      have hoverlap : ∀ y ∈ ("all_" : Text).tails,
          y <+: ("_by_id" : Text) → y = [] ∨ y = ['_'] := by
        decide
      have hx : x ∈ ("all_" : Text).tails := (List.mem_tails _ _).2 ⟨c, hall.symm⟩
      rcases hoverlap x hx ⟨b, hback.symm⟩ with rfl | rfl
      · rw [List.append_nil] at hall
        exact .inr ⟨[], hback.symm, by rw [hall, List.append_nil]⟩
      · have hall : ("all" : Text) ++ ['_'] = c ++ ['_'] := hall
        exact .inl ⟨(List.cons.inj hback).2.symm, (List.append_cancel_right hall).symm⟩
  · rintro (⟨rfl, rfl⟩ | ⟨x, rfl, rfl⟩)
    · rfl
    · exact (List.append_assoc ..).symm

/-- No other two names of different functions meet. -/
theorem name_eq_name_iff {k l : Kind} {b c : Text} : k.name b = l.name c ↔
    k = l ∧ b = c ∨ k = .listAll ∧ l = .getById ∧ Clash b c ∨
      k = .getById ∧ l = .listAll ∧ Clash c b := by
  constructor
  · intro h
    have hfronts := List.prefix_or_prefix_of_prefix (k.front_isPrefix_name b)
      (h ▸ l.front_isPrefix_name c)
    have hkinds : ∀ k ∈ Kind.all, ∀ l ∈ Kind.all, k.front <+: l.front ∨ l.front <+: k.front →
        k = l ∨ k = .listAll ∧ l = .getById ∨ k = .getById ∧ l = .listAll := by
      decide
    rcases hkinds k k.mem_all l l.mem_all hfronts with rfl | ⟨rfl, rfl⟩ | ⟨rfl, rfl⟩
    · exact .inl ⟨rfl, List.append_cancel_left (List.append_cancel_right h)⟩
    · exact .inr (.inl ⟨rfl, rfl, listAll_eq_getById_iff.1 h⟩)
    · exact .inr (.inr ⟨rfl, rfl, listAll_eq_getById_iff.1 h.symm⟩)
  · rintro (⟨rfl, rfl⟩ | ⟨rfl, rfl, h⟩ | ⟨rfl, rfl, h⟩)
    · rfl
    · exact listAll_eq_getById_iff.2 h
    · exact (listAll_eq_getById_iff.2 h).symm

/-- No table has a function with a fixed name: a fixed name that begins like the name of some kind
does not end like it. -/
theorem name_notMem_fixedNames (k : Kind) (b : Text) : k.name b ∉ fixedNames := by
  have hfixed : ∀ n ∈ fixedNames, ∀ k ∈ Kind.all, ¬ (k.front <+: n ∧ k.back <:+ n) := by
    decide
  intro h
  exact hfixed _ h k k.mem_all ⟨k.front_isPrefix_name b, List.suffix_append _ _⟩

/-- The base names of the plans are the tables' identifiers kept apart. -/
theorem map_base_all (tables : List Table) : (all tables).map base =
    Naming.unique [] (tables.map fun t => Naming.lowerIdentifier t.name) := by
  have hlength : (Naming.unique [] (tables.map fun t => Naming.lowerIdentifier t.name)).length ≤
      tables.length := by
    rw [Naming.length_unique, List.length_map]
  rw [all, ← List.map_uncurry_zip_eq_zipWith, List.map_map]
  exact List.map_snd_zip hlength

/-- **No two functions of a module have one name** exactly if no two base names clash. -/
theorem nodup_moduleFunctions_iff (tables : List Table) :
    ((moduleFunctions (all tables)).map Function.name).Nodup ↔
      ∀ p ∈ all tables, ∀ q ∈ all tables, ¬ Clash p.base q.base := by
  have hbases : ((all tables).map base).Nodup := by
    rw [map_base_all]
    exact Naming.nodup_unique [] _
  have hkinds : (List.product ((all tables).map base) Kind.all).Nodup :=
    hbases.product (by decide)
  have hapart : ∀ n ∈ fixedNames,
      n ∉ (List.product ((all tables).map base) Kind.all).map fun x => x.2.name x.1 := by
    intro n hn hname
    obtain ⟨⟨b, k⟩, -, rfl⟩ := List.mem_map.1 hname
    exact name_notMem_fixedNames k b hn
  have hmem : ∀ (b : Text) (k : Kind), (b, k) ∈ List.product ((all tables).map base) Kind.all ↔
      ∃ p ∈ all tables, p.base = b := by
    intro b k
    rw [List.pair_mem_product, List.mem_map, and_iff_left k.mem_all]
  rw [(perm_names _).nodup_iff, List.nodup_append', List.nodup_map_iff_inj_on hkinds]
  constructor
  · rintro ⟨-, hinjective, -⟩ p hp q hq hclash
    have hsame := hinjective (p.base, .listAll) ((hmem _ _).2 ⟨p, hp, rfl⟩) (q.base, .getById)
      ((hmem _ _).2 ⟨q, hq, rfl⟩) (listAll_eq_getById_iff.2 hclash)
    cases (Prod.mk.inj hsame).2
  · intro hclash
    refine ⟨by decide, ?_, hapart⟩
    rintro ⟨b, k⟩ hb ⟨c, l⟩ hc hname
    obtain ⟨p, hp, rfl⟩ := (hmem _ _).1 hb
    obtain ⟨q, hq, rfl⟩ := (hmem _ _).1 hc
    rcases name_eq_name_iff.1 hname with ⟨hkind, hbase⟩ | ⟨-, -, h⟩ | ⟨-, -, h⟩
    · exact Prod.ext hbase hkind
    · exact absurd h (hclash p hp q hq)
    · exact absurd h (hclash q hq p hp)

/-- Two tables of different names, and a module with two functions of one name. -/
theorem not_nodup_users :
    ¬ ((moduleFunctions (all [{ name := "all_users", columns := ["id"] },
      { name := "users_by_id", columns := ["id"] }])).map Function.name).Nodup := by
  rw [map_name_moduleFunctions]
  decide +kernel

end Plan
end Tablesmith
