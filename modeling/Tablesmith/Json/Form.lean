/-
# The JSON form of a value

JSON has no bytes, no dates, no moments and no sets: their texts stand for them. The keys of a
mapping have to be texts, numbers, truth values or nothing, and a value that holds itself has no
JSON form at all. What is met first decides, a key before its value.
-/

import Tablesmith.Fault
import Tablesmith.Json.Printer

namespace Tablesmith
namespace Json

/-- The longest integers that are written have so many digits. -/
def maxWritten : Nat := 4300

/-- A value without parts, unless it cannot be written. -/
def formScalar (v : Value) : Except Fault Value :=
  match v with
  | .int n => if Nat.pow 10 maxWritten ≤ n.natAbs then .error .longInteger else .ok v
  | .outer _ => .error .circular
  | .bytes _ | .date _ | .moment _ | .set _ => .ok (.text (scalar v))
  | v => .ok v

/-- Can the value be the key of a mapping in JSON? -/
def isFormKey : Value → Bool
  | .bytes _ | .date _ | .moment _ => false
  | v => v.isKey

mutual

/-- The JSON form of a value. -/
def form : Value → Except Fault Value
  | .list items => (formItems items).map Value.list
  | .map members => (formMembers members).map Value.map
  | v => formScalar v

/-- The JSON forms of items. -/
def formItems : List Value → Except Fault (List Value)
  | [] => .ok []
  | v :: vs => do
    let v ← form v
    return v :: (← formItems vs)

/-- The JSON forms of members. -/
def formMembers : List (Value × Value) → Except Fault (List (Value × Value))
  | [] => .ok []
  | (k, v) :: rest =>
    if isFormKey k then do
      let k ← formScalar k
      let v ← form v
      return (k, v) :: (← formMembers rest)
    else .error .wrongKind

end

example : (form (.map [(.null, .date ⟨2024, 1, 5⟩)])).toOption.map print =
    some "\x7b\"null\": \"2024-01-05\"\x7d".toList := by decide +kernel

end Json
end Tablesmith
