/-
# Parts of values

The part of a value at the end of a path, and whether a value can be sent: JSON is sent as UTF-8
and has no numbers that are not finite, so halves of surrogate pairs and such numbers keep a value
from being sent.
-/

import Tablesmith.Validation.Issue
import Tablesmith.Value.Basic

namespace Tablesmith
namespace Value

/-- The part of a value one step away. -/
def step? (v : Value) : Step → Option Value
  | .field name => v.members?.bind (member? name)
  | .item index => v.items?.bind fun items => items[index]?

/-- The part of a value at the end of a path. -/
def part? (v : Value) (path : List Step) : Option Value := path.foldlM step? v

mutual

/-- Can every part of the value be sent? -/
def isSendable : Value → Bool
  | .text t => Text.isWhole t
  | .real x => x.isFinite
  | .list items => areSendableItems items
  | .map members => areSendableMembers members
  | _ => true

/-- Can all items be sent? -/
def areSendableItems : List Value → Bool
  | [] => true
  | v :: vs => isSendable v && areSendableItems vs

/-- Can all members be sent? -/
def areSendableMembers : List (Value × Value) → Bool
  | [] => true
  | (k, v) :: rest => isSendable k && isSendable v && areSendableMembers rest

end

end Value
end Tablesmith
