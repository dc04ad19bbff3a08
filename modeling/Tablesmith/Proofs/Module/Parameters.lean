/-
# Parameters of the generated functions

The columns that are written are the parameters of two functions, and in one of them the key stands
in front of them:

| function | parameters |
| --- | --- |
| insert | one for each column that a new row gives a value to |
| update | the key's, and one for each column that an update gives a value to |
| look up, delete | the key's |

Both functions write the same columns, since `id` itself is a reference already
(`Role.updated_eq_inserted`). Their parameters are made unique among each other and kept clear of
the names that the bodies use. The key's parameter comes last, and what it has to keep clear of is
all that is there by then (`keyParamFor_not_mem`). So no function has two parameters of one name,
and none hides a name that its body uses, whatever the columns are.
-/

import Mathlib.Data.List.Nodup
import Tablesmith.Module.Section

namespace Tablesmith

/-- An update writes the columns that a new row gives values to. -/
theorem Role.updated_eq_inserted (columns : List Text) :
    Role.updated columns = Role.inserted columns := by
  have hid : Role.isReference "id".toList := by decide +kernel
  refine List.filter_eq_self.2 fun c hc => ?_
  have hreference := (List.mem_filter.1 hc).2
  rw [bne_iff_ne]
  rintro rfl
  rw [hid] at hreference
  cases hreference

namespace Plan

/-- Parameters differ from each other. -/
theorem nodup_params (columns : List Text) : (params columns).Nodup :=
  Naming.nodup_unique bodyNames _

/-- No parameter has a name that bodies rely on. -/
theorem disjoint_params (columns : List Text) : (params columns).Disjoint bodyNames :=
  fun _ hparam hbody => Naming.not_mem_of_mem_unique hparam hbody

/-- **The key's parameter** is none of the others, and no name that the bodies use. -/
theorem keyParamFor_not_mem (key : Text) (others : List Text) :
    keyParamFor key others ∉ others ∧ keyParamFor key others ∉ bodyNames := by
  rw [← not_or, ← List.mem_append]
  simp only [keyParamFor]
  split
  · exact Naming.fresh_not_mem _ _
  · next h =>
    rwa [List.mem_append]

/-- The parameters of an update differ from each other, the key's among them. -/
theorem nodup_updateSignature (t : Table) (base : Text) :
    (ofTable t base).updateSignature.Nodup :=
  List.nodup_cons.2 ⟨(keyParamFor_not_mem _ _).1, nodup_params _⟩

/-- None of them has a name that bodies rely on. -/
theorem disjoint_updateSignature (t : Table) (base : Text) :
    (ofTable t base).updateSignature.Disjoint bodyNames :=
  List.disjoint_cons_left.2 ⟨(keyParamFor_not_mem _ _).2, disjoint_params _⟩

/-- **Parameters never clash.** A new row and an update write the same columns and have the same
parameters for them, one for each column. These are distinct, also with the key's parameter among
them, and none is a name that the bodies use. -/
theorem params_ofTable (t : Table) (base : Text) :
    (ofTable t base).insertColumns = (ofTable t base).updateColumns ∧
      (ofTable t base).insertParams = (ofTable t base).updateParams ∧
      (ofTable t base).insertParams.length = (ofTable t base).insertColumns.length ∧
      (ofTable t base).updateParams.length = (ofTable t base).updateColumns.length ∧
      (ofTable t base).insertParams.Nodup ∧
      ((ofTable t base).keyParam :: (ofTable t base).updateParams).Nodup ∧
      ∀ n ∈ (ofTable t base).keyParam ::
        ((ofTable t base).insertParams ++ (ofTable t base).updateParams), n ∉ bodyNames := by
  have hcolumns : (ofTable t base).insertColumns = (ofTable t base).updateColumns :=
    (Role.updated_eq_inserted t.columns).symm
  have hclear : ((ofTable t base).insertParams ++ (ofTable t base).updateParams).Disjoint
      bodyNames :=
    List.disjoint_append_left.2 ⟨disjoint_params _, disjoint_params _⟩
  refine ⟨hcolumns, congrArg params hcolumns, length_params _, length_params _, nodup_params _,
    nodup_updateSignature t base, List.forall_mem_cons.2 ⟨(keyParamFor_not_mem _ _).2, ?_⟩⟩
  exact fun n hparam hbody => hclear hparam hbody

/-- A table with everything that can clash: the key is written as well, its new name is a column
already, and three columns would have one parameter, the numbered form of which is a column too. -/
def crowded : Table where
  name := "t"
  columns := ["Identity", "current_Identity", "sql", "$sql", "sql_2", "ID", "user_id", "id"]

/-- In the crowded table the parameters come apart, with numbers behind what is taken. -/
theorem params_crowded :
    (ofTable crowded "t").keyParam ∈ (ofTable crowded "t").keyParam ::
        ((ofTable crowded "t").insertParams ++ (ofTable crowded "t").updateParams) ∧
      (ofTable crowded "t").keyParam ∉ bodyNames ∧
      (ofTable crowded "t").updateSignature = ["current_Identity_2".toList, "Identity".toList,
        "current_Identity".toList, "sql_2".toList, "sql_3".toList, "sql_2_2".toList] := by
  have hmem : (ofTable crowded "t").keyParam ∈ (ofTable crowded "t").keyParam ::
      ((ofTable crowded "t").insertParams ++ (ofTable crowded "t").updateParams) :=
    List.mem_cons_self ..
  exact ⟨hmem, (params_ofTable crowded "t").2.2.2.2.2.2 _ hmem, by decide +kernel⟩

/-- **No function of a table has a parameter twice,** or one that hides a name of its body. -/
theorem params_of_mem_functions (t : Table) (base : Text) :
    ∀ f ∈ (ofTable t base).functions, f.params.Nodup ∧ f.params.Disjoint bodyNames := by
  have hnone : ([] : List Text).Nodup ∧ ([] : List Text).Disjoint bodyNames :=
    ⟨List.nodup_nil, List.disjoint_nil_left _⟩
  have hkey : [(ofTable t base).keyParam].Nodup ∧
      [(ofTable t base).keyParam].Disjoint bodyNames :=
    ⟨List.nodup_singleton _, List.singleton_disjoint.2 (keyParamFor_not_mem _ _).2⟩
  have hinsert : (ofTable t base).insertParams.Nodup ∧
      (ofTable t base).insertParams.Disjoint bodyNames :=
    ⟨nodup_params _, disjoint_params _⟩
  have hupdate : (ofTable t base).updateFunction.params.Nodup ∧
      (ofTable t base).updateFunction.params.Disjoint bodyNames := by
    rw [updateFunction]
    split
    · exact hkey
    · exact ⟨nodup_updateSignature t base, disjoint_updateSignature t base⟩
  simp only [functions, List.forall_mem_cons]
  exact ⟨hnone, hkey, hinsert, hupdate, hkey, List.forall_mem_nil _⟩

end Plan
end Tablesmith
