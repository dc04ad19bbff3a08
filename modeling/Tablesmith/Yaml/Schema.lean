/-
# Values of YAML documents

What the nodes of a document stand for. The nodes are visited level by level from the root: a
collection is there as soon as it is met, and its parts are met when its own turn comes, so a
collection may hold itself. Of several failures the one that is met first counts.

A mapping that merges others holds their members in front of its own. Merging, and the key `=`,
change the nodes themselves, for all the places where they stand: the members are moved, and the
key becomes a text.
-/

import Tablesmith.Text.Base64
import Tablesmith.Value.Basic
import Tablesmith.Yaml.Node
import Tablesmith.Yaml.Number

namespace Tablesmith
namespace Yaml

/-- What a node stands for, its parts given by their nodes. -/
inductive Object where
  | scalar (v : Value)
  | list (items : List NodeId)
  | pairs (members : List (NodeId × NodeId))
  | map (members : List (Value × NodeId))
  | set (items : List Value)
deriving Inhabited

/-- A document on the way from nodes to objects, and the collections whose turn is still to come. -/
structure Building where
  nodes : Array Node
  objects : Array (Option Object)
  waiting : Array NodeId := #[]

/-- A step of building. -/
abbrev Build := StateT Building (Except Failure)

namespace Build

/-- A node. -/
def node (id : NodeId) : Build Node := do return (← get).nodes.getD id default

/-- Says what a node stands for. -/
def put (id : NodeId) (o : Object) : Build Unit :=
  modify fun b => { b with objects := b.objects.modify id fun _ => some o }

/-- Changes a node. -/
def change (id : NodeId) (n : Node) : Build Unit :=
  modify fun b => { b with nodes := b.nodes.modify id fun _ => n }

/-- The text of a node. A mapping has the text of its own value. -/
def textOf : (fuel : Nat) → NodeId → Build Text
  | 0, _ => throw .tooDeep
  | fuel + 1, id => do
    match (← node id).content with
    | .scalar t => return t
    | .sequence _ => throw .malformed
    | .mapping members =>
      match ← members.findM? fun m => do return (← node m.1).tag = .value with
      | some m => textOf fuel m.2
      | none => throw .malformed

/-- The moment or date that a text writes. -/
def momentOf (t : Text) : Except Failure Value :=
  match Tag.momentForm? (Tag.dropLineFeed t) with
  | none => .error .noMoment
  | some m =>
    let n (digits : Text) : Nat := (Text.nat? 10 digits).getD 0
    match m.time with
    | none => ((Date.ofParts (n m.year) (n m.month) (n m.day)).map Value.date).mapError .calendar
    | some (hour, minute, second) =>
      let fraction := m.fraction.take 6
      let micro := n (fraction ++ List.replicate (6 - fraction.length) '0')
      let offset : Option Int := match m.offset with
        | some (s, hours, minutes) =>
          let total : Int := n hours * 60 + n minutes
          some (if s = '-' then -total else total)
        | none => if m.isUniversal then some 0 else none
      ((Moment.ofParts (n m.year) (n m.month) (n m.day) (n hour) (n minute) (n second) micro
        offset).map Value.moment).mapError .calendar

/-- The bytes that a text writes in base sixty-four. -/
def bytesOf (t : Text) : Except Failure Value :=
  match Text.base64? t with
  | some bs => if t.all fun c => c.toNat < 128 then .ok (.bytes bs) else .error .malformed
  | none => .error .malformed

/-- The value of a scalar with a tag. -/
def scalarOf (tag : Tag) (t : Text) : Except Failure Value :=
  match tag with
  | .null => .ok .null
  | .bool => match Tag.boolWords.lookup (Text.lower t) with
    | some b => .ok (.bool b)
    | none => .error .noBool
  | .int => (integer t).map Value.int
  | .real => (real t).map Value.real
  | .moment => momentOf t
  | .bytes => bytesOf t
  | .text => .ok (.text t)
  | _ => .error .malformed

/-- Meets a node: a scalar gets its value at once, a collection waits for its turn. -/
def meet (fuel : Nat) (id : NodeId) : Build Object := do
  match (← get).objects.getD id none with
  | some o => return o
  | none =>
    let n ← node id
    let wait (o : Object) : Build Object := do
      put id o
      modify fun b => { b with waiting := b.waiting.push id }
      return o
    match n.tag with
    | .list => wait (.list [])
    | .map => wait (.map [])
    | .set => wait (.set [])
    | .pairs | .orderedMap => wait (.pairs [])
    | .merge | .value | .unknown => throw .malformed
    | tag =>
      let t ← textOf fuel id
      if tag = .moment then
        match n.content with
        | .scalar _ => pure ()
        | _ => throw .momentOfCollection
      let o := Object.scalar (← scalarOf tag t)
      put id o
      return o

/-- The members of a mapping, those that it merges in front of its own. The node then holds them
all. -/
def flatten : (fuel : Nat) → NodeId → Build (List (NodeId × NodeId))
  | 0, _ => throw .tooDeep
  | fuel + 1, id => do
    match ← node id with
    | ⟨tag, .mapping members⟩ => do
      let merged ← merge fuel id tag members []
      let own ← ownMembers id
      let all := merged ++ own
      change id ⟨tag, .mapping all⟩
      return all
    | _ => throw .malformed
where
  /-- The members that a mapping holds now. -/
  ownMembers (id : NodeId) : Build (List (NodeId × NodeId)) := do
    match ← node id with
    | ⟨_, .mapping members⟩ => return members
    | _ => throw .malformed
  /-- Takes the keys that merge out of the mapping, one after another, and answers the members that
  they bring. `passed` are the members that were looked at, last one first. -/
  merge (fuel : Nat) (id : NodeId) (tag : Tag) :
      (rest passed : List (NodeId × NodeId)) → Build (List (NodeId × NodeId))
    | [], _ => return []
    | (k, v) :: rest, passed => do
      let key ← node k
      match key.tag with
      | .merge =>
        change id ⟨tag, .mapping (passed.reverse ++ rest)⟩
        let brought ← match (← node v).content with
          | .mapping _ => flatten fuel v
          | .sequence items => do
            let parts ← items.mapM fun item => do
              match (← node item).content with
              | .mapping _ => flatten fuel item
              | _ => throw .malformed
            pure parts.reverse.flatten
          | .scalar _ => throw .malformed
        return brought ++ (← merge fuel id tag rest passed)
      | .value =>
        change k { key with tag := .text }
        merge fuel id tag rest ((k, v) :: passed)
      | _ => merge fuel id tag rest ((k, v) :: passed)

/-- The value of a key. Collections are no keys. -/
def keyOf (fuel : Nat) (id : NodeId) : Build Value := do
  match ← meet fuel id with
  | .scalar v => return v
  | _ => throw .malformed

/-- The members of a mapping whose turn has come, each key with the node of its value. -/
def membersOf (fuel : Nat) (id : NodeId) : Build (List (Value × NodeId)) := do
  (← flatten fuel id).mapM fun (k, v) => do
    let key ← keyOf fuel k
    let _ ← meet fuel v
    return (key, v)

/-- The one member of a mapping in a list of members. -/
def pairOf (fuel : Nat) (id : NodeId) : Build (NodeId × NodeId) := do
  match (← node id).content with
  | .mapping [(k, v)] =>
    let _ ← meet fuel k
    let _ ← meet fuel v
    return (k, v)
  | _ => throw .malformed

/-- Fills a collection whose turn has come. -/
def visit (fuel : Nat) (id : NodeId) : Build Unit := do
  let n ← node id
  match n.tag, n.content with
  | .map, _ => put id (.map (← membersOf fuel id))
  | .set, _ => put id (.set ((← membersOf fuel id).map Prod.fst))
  | .list, .sequence items =>
    for item in items do
      let _ ← meet fuel item
    put id (.list items)
  | .pairs, .sequence items | .orderedMap, .sequence items =>
    put id (.pairs (← items.mapM (pairOf fuel)))
  | _, _ => throw .malformed

/-- Fills the collections that wait, from the given one on. -/
def visitFrom : (fuel index : Nat) → Build Unit
  | 0, _ => throw .tooDeep
  | fuel + 1, index => do
    let b ← get
    match b.waiting[index]? with
    | none => return
    | some id =>
      visit (b.nodes.size + 1) id
      visitFrom fuel (index + 1)

end Build

/-- Puts members one after another; of members with one key the last one's value counts. -/
def collect {α : Type} (members : List (Value × α)) : List (Value × α) :=
  let put (m : Value × α) (acc : List (Value × α)) : List (Value × α) :=
    if acc.any fun a => a.1.sameKey m.1 then
      acc.map fun a => if a.1.sameKey m.1 then (a.1, m.2) else a
    else acc ++ [m]
  members.foldl (fun acc m => put m acc) []

/-- The value of a node within the collections that `path` names, the innermost one first. A pair
within a list of pairs is a collection without a node. -/
def valueOf (objects : Array (Option Object)) :
    (fuel : Nat) → (path : List (Option NodeId)) → NodeId → Value
  | 0, _, _ => .null
  | fuel + 1, path, id =>
    if some id ∈ path then .outer (path.idxOf (some id))
    else
      let inner := some id :: path
      match objects.getD id none with
      | some (.scalar v) => v
      | some (.list items) => .list (items.map (valueOf objects fuel inner))
      | some (.pairs members) =>
        let part := valueOf objects fuel (none :: inner)
        .list (members.map fun m => .list [part m.1, part m.2])
      | some (.map members) =>
        .map ((collect members).map fun m => (m.1, valueOf objects fuel inner m.2))
      | some (.set items) => .set ((collect (items.map fun v => (v, ()))).map Prod.fst)
      | none => .null

/-- The value of a YAML text; a text without a document stands for nothing. -/
def load (t : Text) : Except Failure Value := do
  let g ← graph t
  match g.root with
  | none => return .null
  | some root =>
    let size := g.nodes.size
    let build : Build Unit := do
      let _ ← Build.meet (size + 1) root
      Build.visitFrom (size + 1) 0
    let (_, b) ← build.run { nodes := g.nodes, objects := Array.replicate size none }
    return valueOf b.objects (size + 1) [] root

end Yaml
end Tablesmith
