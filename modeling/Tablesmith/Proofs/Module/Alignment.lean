/-
# Sections and checks agree

A column that is written goes through five lists: the columns of a statement, its placeholders, the
parameters of the function that executes it, the values that it hands over, and the arguments with
which the check calls the function. They are put together in three places, and nothing but their
order ties them to each other. What ties them is stated by slots, one for each column that is
written:

| function | parameters | handed over, if there are slots | arguments of the check |
| --- | --- | --- | --- |
| insert | the slots' | the slots' parameters | the slots' values |
| update | the key's, the slots' | the slots' parameters, the key's | `key`, the slots' values |

Each list is read off the text that is generated (`IsAligned`): the parameters off the head of the
function, the values handed over off its body, and the arguments off the body of the check. The two
functions stand in the section of the table, and the check stands among the checks (`StandsIn`).
-/

import Tablesmith.Proofs.Module.Execution
import Tablesmith.Proofs.Module.Section

namespace Tablesmith

open Source (IsValue IsWord Reads reads_nil values? values?_commas isFlatValue
  isValue_of_isFlatValue)

/-- The parameters in the head of a function. -/
def Function.signature? (f : Function) : Option (List Text) :=
  (Text.after? ("def " ++ f.name ++ "(") f.head).bind (values? [.mark ':'])

/-- The arguments of the first line that calls the function `name` and keeps its result as `kept`.
-/
def Function.callArguments? (f : Function) (kept name : Text) : Option (List Text) :=
  (f.body.findSome? (Text.after? (kept ++ " = " ++ name ++ "("))).bind (values? [])

/-- The function is one of the parts of a text, with two empty lines between them. -/
def Function.StandsIn (f : Function) (t : Text) : Prop :=
  ∃ before after, t = Function.apart (before ++ f.text :: after)

/-- Parameters that are values are read off the head of their function. -/
theorem Function.signature?_eq {f : Function} (h : ∀ x ∈ f.params, IsValue x) :
    f.signature? = some f.params := by
  have hread : Reads ":" [.mark ':'] := reads_nil.between (by decide) reads_nil
  have hhead : f.head = (("def " : Text) ++ f.name ++ "(")
      ++ (Function.commas f.params ++ ')' :: ":") := List.append_assoc ..
  rw [signature?, hhead, Text.after?_append]
  exact values?_commas h hread

/-- A call that keeps its result is read, whatever stands on the lines behind it. -/
theorem Function.after?_call (kept name : Text) (args : List Text) :
    Text.after? (kept ++ " = " ++ name ++ "(")
      (kept ++ " = " ++ Function.call name args) = some (Function.commas args ++ ')' :: []) := by
  have hline : kept ++ " = " ++ Function.call name args =
      (kept ++ " = " ++ name ++ "(") ++ (Function.commas args ++ ')' :: []) := by
    simp [Function.call]
  rw [hline, Text.after?_append]

namespace Sample

/-- A sample value is a value. -/
theorem isValue_valueOf (column : Text) : IsValue (valueOf column) := by
  have hrules : ∀ s ∈ fallback :: rules, isFlatValue s.value := by
    delta fallback rules
    simp only [List.forall_mem_cons]
    repeat rw [String.toList_ofList]
    decide
  obtain ⟨s, hs, hvalue⟩ := exists_valueOf_eq column
  rw [hvalue]
  exact isValue_of_isFlatValue (hrules s hs)

end Sample

namespace Plan

/-- The arguments of the call that inserts are values. -/
theorem isValue_insertArgs (p : Plan) : ∀ v ∈ p.insertArgs, IsValue v :=
  List.forall_mem_map.2 fun c _ => Sample.isValue_valueOf c

/-- So are those of the call that updates. -/
theorem isValue_updateArgs (p : Plan) : ∀ v ∈ p.updateArgs, IsValue v :=
  List.forall_mem_cons.2 ⟨IsWord.isValue ⟨by decide, by decide⟩,
    List.forall_mem_map.2 fun c _ => Sample.isValue_valueOf c⟩

/-- The check calls the insert function with a value for each column that is inserted. -/
theorem callArguments?_created (p : Plan) :
    p.checkFunction.callArguments? "created" p.insert = some p.insertArgs := by
  have hcall := Function.after?_call "created" p.insert p.insertArgs
  have hfind : p.checkFunction.body.findSome?
      (Text.after? (("created" : Text) ++ " = " ++ p.insert ++ "(")) =
        some (Function.commas p.insertArgs ++ ')' :: []) := by
    iterate 5 refine (List.findSome?_cons_of_isNone rfl).trans ?_
    exact (List.findSome?_cons_of_isSome (Option.isSome_of_mem hcall)).trans hcall
  rw [Function.callArguments?, hfind]
  exact values?_commas p.isValue_insertArgs reads_nil

/-- It calls the update function with a value for each column that is updated, and the key. -/
theorem callArguments?_updated (p : Plan) :
    p.checkFunction.callArguments? "updated" p.update = some p.updateArgs := by
  have hcall := Function.after?_call "updated" p.update p.updateArgs
  have hfind : p.checkFunction.body.findSome?
      (Text.after? (("updated" : Text) ++ " = " ++ p.update ++ "(")) =
        some (Function.commas p.updateArgs ++ ')' :: []) := by
    iterate 14 refine (List.findSome?_cons_of_isNone rfl).trans ?_
    exact (List.findSome?_cons_of_isSome (Option.isSome_of_mem hcall)).trans hcall
  rw [Function.callArguments?, hfind]
  exact values?_commas p.isValue_updateArgs reads_nil

end Plan

/-- A column that is written, its parameter, and the value that the check gives it. -/
structure Slot where
  column : Text
  param : Text
  value : Text
deriving Repr, DecidableEq

/-- The parameter is the identifier of the column, perhaps with a number behind it, and the value is
the sample for the column. -/
structure Slot.Stems (s : Slot) : Prop where
  param : s.param = Naming.identifier s.column ∨
    ∃ k, 2 ≤ k ∧ s.param = Naming.numbered (Naming.identifier s.column) k
  value : s.value = Sample.valueOf s.column

namespace Slot

/-- The slots of columns with these parameters. -/
def row (columns params : List Text) : List Slot :=
  (columns.zip params).map fun pair => ⟨pair.1, pair.2, Sample.valueOf pair.1⟩

section

variable {columns params : List Text} (h : params.length = columns.length)
include h

/-- The slots of columns have these columns. -/
theorem map_column_row : (row columns params).map column = columns := by
  rw [row, List.map_map]
  exact List.map_fst_zip (Nat.le_of_eq h.symm)

/-- They have the sample value of each column. -/
theorem map_value_row : (row columns params).map value = columns.map Sample.valueOf := by
  conv => rhs; rw [← map_column_row h]
  rw [List.map_map, row, List.map_map, List.map_map]
  rfl

/-- They have these parameters. -/
theorem map_param_row : (row columns params).map param = params := by
  rw [row, List.map_map]
  exact List.map_snd_zip (Nat.le_of_eq h)

end

/-- Parameters stem from their columns, since names keep their order when they are made unique. -/
theorem stems_row (taken columns : List Text) :
    ∀ s ∈ row columns (Naming.unique taken (columns.map Naming.identifier)), s.Stems := by
  induction columns generalizing taken with
  | nil => exact List.forall_mem_nil _
  | cons c columns ih => exact List.forall_mem_cons.2 ⟨⟨Naming.fresh_cases taken _, rfl⟩, ih _⟩

end Slot

namespace Plan

/-- What the insert function executes if its slots are these. -/
def insertExecution (p : Plan) (slots : List Slot) : Execution :=
  if slots.isEmpty then
    ⟨("INSERT INTO " : Text) ++ p.table.name ++ " DEFAULT VALUES RETURNING *;", none⟩
  else
    ⟨("INSERT INTO " : Text) ++ p.table.name ++ " (" ++ Function.commas (slots.map Slot.column)
        ++ ") VALUES (" ++ Function.commas (slots.map fun _ => "%s") ++ ") RETURNING *;",
      some (slots.map Slot.param)⟩

/-- What the update function executes if its slots are these. -/
def updateExecutions (p : Plan) (slots : List Slot) : List Execution :=
  if slots.isEmpty then []
  else
    [⟨("UPDATE " : Text) ++ p.table.name ++ " SET "
        ++ Function.commas (slots.map fun s => s.column ++ " = %s") ++ p.keyCondition
        ++ " RETURNING *;",
      some (slots.map Slot.param ++ [p.keyParam])⟩]

/-- The functions of a plan and its check agree on these slots. -/
structure IsAligned (named : Text → Option Char) (p : Plan) (inserts updates : List Slot) :
    Prop where
  insertColumns : p.insertColumns = inserts.map Slot.column
  updateColumns : p.updateColumns = updates.map Slot.column
  insertsStem : ∀ s ∈ inserts, s.Stems
  updatesStem : ∀ s ∈ updates, s.Stems
  insertSignature : p.insertFunction.signature? = some (inserts.map Slot.param)
  updateSignature : p.updateFunction.signature? = some (p.keyParam :: updates.map Slot.param)
  insertExecution :
    Execution.ofFunction? named p.insertFunction = some [p.insertExecution inserts]
  updateExecutions :
    Execution.ofFunction? named p.updateFunction = some (p.updateExecutions updates)
  insertCall : p.checkFunction.callArguments? "created" p.insert = some (inserts.map Slot.value)
  updateCall : p.checkFunction.callArguments? "updated" p.update =
    some ("key".toList :: updates.map Slot.value)
  insertStands : p.insertFunction.StandsIn p.sectionText
  updateStands : p.updateFunction.StandsIn p.sectionText
  checkStands : ∀ plans, p ∈ plans → p.checkFunction.StandsIn (Checks.text plans)

section

variable {p : Plan} {slots : List Slot}

/-- The insert function executes what is read off its slots. -/
theorem insertExecution_eq (hcolumns : p.insertColumns = slots.map Slot.column)
    (hparams : p.insertParams = slots.map Slot.param) :
    ⟨p.insertStatement, if p.insertColumns.isEmpty then none else some p.insertParams⟩ =
      p.insertExecution slots := by
  rw [insertStatement, insertExecution, hcolumns, hparams, List.isEmpty_map, placeholders,
    List.map_map]
  split <;> rfl

/-- The statement of an update sets one column after another to a placeholder. -/
theorem updateStatement_eq (p : Plan) : p.updateStatement = ("UPDATE " : Text) ++ p.table.name
    ++ " SET " ++ Function.commas (p.updateColumns.map fun c => c ++ " = %s") ++ p.keyCondition
    ++ " RETURNING *;" := rfl

/-- The update function executes what is read off its slots, and nothing without any. -/
theorem updateExecutions_eq (hcolumns : p.updateColumns = slots.map Slot.column)
    (hparams : p.updateParams = slots.map Slot.param) :
    (if p.updateColumns.isEmpty then [] else [⟨p.updateStatement, some p.updateValues⟩]) =
      p.updateExecutions slots := by
  rw [updateStatement_eq, updateValues, updateExecutions, hcolumns, hparams, List.isEmpty_map,
    List.map_map]
  rfl

end

/-- The insert function stands in the section of its table. -/
theorem insertFunction_standsIn (p : Plan) : p.insertFunction.StandsIn p.sectionText :=
  ⟨[Text.unlines p.header, p.listFunction.text, p.lookupFunction.text],
    [p.updateFunction.text, p.deleteFunction.text], rfl⟩

/-- So does the update function. -/
theorem updateFunction_standsIn (p : Plan) : p.updateFunction.StandsIn p.sectionText :=
  ⟨[Text.unlines p.header, p.listFunction.text, p.lookupFunction.text, p.insertFunction.text],
    [p.deleteFunction.text], rfl⟩

/-- The check of every plan stands in the checks. -/
theorem checkFunction_standsIn {p : Plan} {plans : List Plan} (hp : p ∈ plans) :
    p.checkFunction.StandsIn (Checks.text plans) := by
  obtain ⟨before, after, rfl⟩ := List.append_of_mem hp
  refine ⟨Text.unlines Checks.header :: Checks.logFunction.text ::
      before.map (Function.text ∘ checkFunction),
    after.map (Function.text ∘ checkFunction) ++
      [(Checks.runFunction (before ++ p :: after)).text, Text.unlines Checks.start], ?_⟩
  simp [Checks.text, Checks.functions]

/-- A plan with a parameter for each column that is written agrees on the slots of these. -/
theorem isAligned_row (named : Text → Option Char) {p : Plan} (h : p.IsNamed)
    (hinserts : p.insertParams.length = p.insertColumns.length)
    (hupdates : p.updateParams.length = p.updateColumns.length)
    (hinsertsStem : ∀ s ∈ Slot.row p.insertColumns p.insertParams, s.Stems)
    (hupdatesStem : ∀ s ∈ Slot.row p.updateColumns p.updateParams, s.Stems) :
    IsAligned named p (Slot.row p.insertColumns p.insertParams)
      (Slot.row p.updateColumns p.updateParams) := by
  have hkey : ∀ x ∈ p.keyParam :: p.updateParams, IsValue x := List.forall_mem_cons.2
    ⟨h.keyParam.isValue, fun x hx => (h.updateParams x hx).isValue⟩
  have hupdate : p.updateFunction.params = p.keyParam :: p.updateParams := by
    rw [updateFunction]
    split
    · next hempty =>
      rw [List.isEmpty_iff.1 hempty, List.length_nil, List.length_eq_zero_iff] at hupdates
      rw [hupdates]
    · rfl
  refine
    { insertColumns := (Slot.map_column_row hinserts).symm
      updateColumns := (Slot.map_column_row hupdates).symm
      insertsStem := hinsertsStem
      updatesStem := hupdatesStem
      insertSignature := ?_
      updateSignature := ?_
      insertExecution := ?_
      updateExecutions := ?_
      insertCall := ?_
      updateCall := ?_
      insertStands := p.insertFunction_standsIn
      updateStands := p.updateFunction_standsIn
      checkStands := fun _ => checkFunction_standsIn }
  · rw [Slot.map_param_row hinserts]
    exact Function.signature?_eq fun x hx => (h.insertParams x hx).isValue
  · rw [Slot.map_param_row hupdates, ← hupdate]
    exact Function.signature?_eq (hupdate ▸ hkey)
  · rw [Execution.ofFunction?_insertFunction named h, insertExecution_eq
      (Slot.map_column_row hinserts).symm (Slot.map_param_row hinserts).symm]
  · rw [Execution.ofFunction?_updateFunction named h, updateExecutions_eq
      (Slot.map_column_row hupdates).symm (Slot.map_param_row hupdates).symm]
  · rw [callArguments?_created, Slot.map_value_row hinserts]
    rfl
  · rw [callArguments?_updated, Slot.map_value_row hupdates]
    rfl

/-- **Sections and checks agree** for every table, whatever its functions are named after: there is
a slot for each column that is written, which the parameters, the statements, the values handed over
and the arguments of the check have in one order. -/
theorem sections_agree_with_checks (named : Text → Option Char) (t : Table) (base : Text) :
    ∃ inserts updates, IsAligned named (ofTable t base) inserts updates :=
  ⟨_, _, isAligned_row named (isNamed_ofTable t base) (length_params _) (length_params _)
    (Slot.stems_row _ _) (Slot.stems_row _ _)⟩

end Plan

end Tablesmith
