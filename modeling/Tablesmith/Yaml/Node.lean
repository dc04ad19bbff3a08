/-
# Nodes of a YAML text

The tokens of a text that holds one document are read into nodes: scalars, sequences and mappings.
Nodes are numbered in the order in which they begin, and collections hold the numbers of their
parts. An alias is the number of the node that its anchor names, so a node may have many places,
and one of them may be within itself.

A node that is left out, as behind a colon with nothing behind it, is an empty plain scalar. Nested
readers share one amount of fuel, which no list of tokens can use up; `depth` says how many
collections may still begin within one another.
-/

import Tablesmith.Yaml.Tag
import Tablesmith.Yaml.Token

namespace Tablesmith
namespace Yaml

/-- The number of a node. -/
abbrev NodeId := Nat

/-- What a node holds. -/
inductive Content where
  | scalar (text : Text)
  | sequence (items : List NodeId)
  | mapping (members : List (NodeId × NodeId))
deriving Repr, DecidableEq, Inhabited

/-- A node: what it stands for, and what it holds. -/
structure Node where
  tag : Tag
  content : Content
deriving Repr, DecidableEq, Inhabited

/-- How tags of a document are to be read: what each handle stands for. -/
abbrev Handles := List (Text × Text)

/-- A document that is read up to some place: the tokens left, the nodes so far, and the nodes that
anchors name. -/
structure Reading where
  tokens : List Token
  nodes : Array Node := #[]
  anchors : List (Text × NodeId) := []
  handles : Handles

namespace Node

/-- A step of reading a document. -/
abbrev Step := StateT Reading (Except Failure)

/-- The most collections that may stand within one another. -/
def maxDepth : Nat := 480

/-- The text is no YAML. -/
def refuse {α : Type} : Step α := throw .malformed

/-- The next token; a failure fails. -/
def peek : Step Token := do
  match (← get).tokens with
  | .failure f :: _ => throw f
  | t :: _ => return t
  | [] => refuse

/-- Passes the next token. -/
def pass : Step Unit := modify fun r => { r with tokens := r.tokens.drop 1 }

/-- Passes the next token if it is the given one, and says whether it was. -/
def passIf (t : Token) : Step Bool := do
  if (← peek) = t then
    pass
    return true
  else return false

/-- Adds a node. -/
def add (n : Node) : Step NodeId := do
  let id := (← get).nodes.size
  modify fun r => { r with nodes := r.nodes.push n }
  return id

/-- Fills a collection that was added empty. -/
def fill (id : NodeId) (content : Content) : Step Unit :=
  modify fun r => { r with nodes := r.nodes.modify id fun n => { n with content := content } }

/-- Lets the anchor name the next node. -/
def register (anchor : Option Text) : Step Unit := do
  match anchor with
  | some name =>
    if ((← get).anchors.lookup name).isSome then refuse
    else modify fun r => { r with anchors := (name, r.nodes.size) :: r.anchors }
  | none => return

/-- A node that is left out. -/
def absent : Step NodeId := add ⟨Tag.ofPlain [], .scalar []⟩

/-- The anchor that comes next, if one does. -/
def anchor? : Step (Option Text) := do
  match ← peek with
  | .anchor name =>
    pass
    return some name
  | _ => return none

/-- The tag that comes next, if one does. -/
def tag? : Step (Option TagName) := do
  match ← peek with
  | .tag name =>
    pass
    return some name
  | _ => return none

/-- An anchor and a tag in front of a node, in either order. -/
def properties : Step (Option Text × Option TagName) := do
  match ← anchor? with
  | some a => return (some a, ← tag?)
  | none => match ← tag? with
    | some t => return (← anchor?, some t)
    | none => return (none, none)

/-- The whole name of a tag. -/
def wholeName (t : TagName) : Step Text := do
  match t.handle with
  | none => return t.suffix
  | some h => match (← get).handles.lookup h with
    | some start => return start ++ t.suffix
    | none => refuse

/-- The name of a tag that leaves the kind of the node to its form. -/
def openName : Text := ['!']

/-- The tag of a scalar: the one that is given, or that of its form if it is plain. -/
def scalarTag (name : Option Text) (plain : Bool) (text : Text) : Tag :=
  match name with
  | some n => if n = openName then Tag.ofPlain text else Tag.ofName n
  | none => if plain then Tag.ofPlain text else .text

/-- The tag of a collection: the one that is given, or the given kind. -/
def collectionTag (name : Option Text) (kind : Tag) : Tag :=
  match name with
  | some n => if n = openName then kind else Tag.ofName n
  | none => kind

/-- Adds a collection that `items` reads, which may hold itself. -/
def collection {α : Type} (anchor : Option Text) (tag : Tag) (empty : Content) (items : Step α)
    (content : α → Content) : Step NodeId := do
  register anchor
  let id ← add ⟨tag, empty⟩
  fill id (content (← items))
  return id

mutual

/-- A node. `block` says whether blocks may begin here, `indentless` whether a sequence may stand
at the column of the mapping around it. -/
def read (block indentless : Bool) : (fuel depth : Nat) → Step NodeId
  | 0, _ => refuse
  | fuel + 1, depth => do
    match ← peek with
    | .alias a =>
      pass
      match (← get).anchors.lookup a with
      | some id => return id
      | none => refuse
    | _ =>
      let (anchor, tag) ← properties
      let name ← match tag with
        | some t => pure (some (← wholeName t))
        | none => pure none
      let next ← peek
      let sequence (inner : Step (List NodeId)) : Step NodeId :=
        collection anchor (collectionTag name .list) (.sequence []) inner .sequence
      let mapping (inner : Step (List (NodeId × NodeId))) : Step NodeId :=
        collection anchor (collectionTag name .map) (.mapping []) inner .mapping
      let leaf (plain : Bool) (text : Text) : Step NodeId := do
        register anchor
        add ⟨scalarTag name plain text, .scalar text⟩
      match next, depth with
      | .scalar plain text, _ =>
        pass
        leaf plain text
      | .entry, depth =>
        if indentless then
          match depth with
          | 0 => throw .tooDeep
          | depth + 1 => sequence (items true fuel depth)
        else if name.isSome || anchor.isSome then leaf true []
        else refuse
      | .flowSequence, 0 | .flowMapping, 0 => throw .tooDeep
      | .flowSequence, depth + 1 =>
        sequence do
          pass
          flowItems true fuel depth
      | .flowMapping, depth + 1 =>
        mapping do
          pass
          flowMembers true fuel depth
      | next, depth =>
        if block && next = .blockSequence then
          match depth with
          | 0 => throw .tooDeep
          | depth + 1 =>
            sequence do
              pass
              items false fuel depth
        else if block && next = .blockMapping then
          match depth with
          | 0 => throw .tooDeep
          | depth + 1 =>
            mapping do
              pass
              members fuel depth
        else if name.isSome || anchor.isSome then leaf true []
        else refuse
termination_by structural fuel => fuel

/-- A node, unless one of the given tokens comes next. -/
def readUnless (stops : List Token) (block indentless : Bool) : (fuel depth : Nat) → Step NodeId
  | 0, _ => refuse
  | fuel + 1, depth => do
    if stops.contains (← peek) then absent else read block indentless fuel depth
termination_by structural fuel => fuel

/-- The items of a block sequence. An indentless one ends before the first token that begins no
item, another one with the end of its block. -/
def items (indentless : Bool) : (fuel depth : Nat) → Step (List NodeId)
  | 0, _ => refuse
  | fuel + 1, depth => do
    if ← passIf .entry then
      let stops : List Token :=
        if indentless then [.entry, .key, .value, .blockEnd] else [.entry, .blockEnd]
      let n ← readUnless stops true false fuel depth
      return n :: (← items indentless fuel depth)
    else if indentless then return []
    else if ← passIf .blockEnd then return []
    else refuse
termination_by structural fuel => fuel

/-- The members of a block mapping. A key may be left out, and so may a value. -/
def members : (fuel depth : Nat) → Step (List (NodeId × NodeId))
  | 0, _ => refuse
  | fuel + 1, depth => do
    let stops : List Token := [.key, .value, .blockEnd]
    if ← passIf .key then
      let k ← readUnless stops true true fuel depth
      let v ← if ← passIf .value then readUnless stops true true fuel depth else absent
      return (k, v) :: (← members fuel depth)
    else if ← passIf .blockEnd then return []
    else refuse
termination_by structural fuel => fuel

/-- The items of a flow sequence. A key among them makes a mapping of one member. -/
def flowItems (first : Bool) : (fuel depth : Nat) → Step (List NodeId)
  | 0, _ => refuse
  | fuel + 1, depth => do
    if ← passIf .flowSequenceEnd then return []
    else
      if !first then
        if !(← passIf .comma) then refuse
      if ← passIf .flowSequenceEnd then return []
      else if ← passIf .key then
        match depth with
        | 0 => throw .tooDeep
        | inner + 1 =>
          let id ← add ⟨.map, .mapping []⟩
          let k ← readUnless [.value, .comma, .flowSequenceEnd] false false fuel inner
          let v ← if ← passIf .value then
              readUnless [.comma, .flowSequenceEnd] false false fuel inner
            else absent
          fill id (.mapping [(k, v)])
          return id :: (← flowItems false fuel depth)
      else
        let n ← read false false fuel depth
        return n :: (← flowItems false fuel depth)
termination_by structural fuel => fuel

/-- The members of a flow mapping. -/
def flowMembers (first : Bool) : (fuel depth : Nat) → Step (List (NodeId × NodeId))
  | 0, _ => refuse
  | fuel + 1, depth => do
    if ← passIf .flowMappingEnd then return []
    else
      if !first then
        if !(← passIf .comma) then refuse
      if ← passIf .flowMappingEnd then return []
      else if ← passIf .key then
        let k ← readUnless [.value, .comma, .flowMappingEnd] false false fuel depth
        let v ← if ← passIf .value then readUnless [.comma, .flowMappingEnd] false false fuel depth
          else absent
        return (k, v) :: (← flowMembers false fuel depth)
      else
        let k ← read false false fuel depth
        let v ← absent
        return (k, v) :: (← flowMembers false fuel depth)
termination_by structural fuel => fuel

end

/-- The handles that need no declaration. -/
def standardHandles : Handles := [(['!'], ['!']), (['!', '!'], Tag.start)]

/-- The handles that the directives in front of a document declare. A version is given once at
most and is the first one, and no handle is declared twice. -/
def directives : (fuel : Nat) → (versioned : Bool) → Handles → Step Handles
  | 0, _, _ => refuse
  | fuel + 1, versioned, handles => do
    match ← peek with
    | .directive (.version major _) =>
      pass
      if versioned || major != 1 then refuse else directives fuel true handles
    | .directive (.tag h start) =>
      pass
      if (handles.lookup h).isSome then refuse
      else directives fuel versioned ((h, start) :: handles)
    | .directive .other =>
      pass
      directives fuel versioned handles
    | _ => return handles

/-- Passes the tokens that end a document. -/
def passEnds : (fuel : Nat) → Step Unit
  | 0 => refuse
  | fuel + 1 => do
    if ← passIf .documentEnd then passEnds fuel

/-- The node of a document that begins here. -/
def documentNode (fuel : Nat) : Step NodeId := do
  match ← peek with
  | .directive _ | .documentStart | .documentEnd | .streamEnd => absent
  | _ => read true false fuel maxDepth

/-- The document of a text that holds one at most; without one there is no node. -/
def document (fuel : Nat) : Step (Option NodeId) := do
  match ← peek with
  | .streamEnd => return none
  | .directive _ | .documentStart =>
    let handles ← directives fuel false []
    if !(← passIf .documentStart) then refuse
    modify fun r => { r with handles := handles ++ standardHandles }
    let n ← documentNode fuel
    passEnds fuel
    if (← peek) = .streamEnd then return some n else refuse
  | _ =>
    let n ← read true false fuel maxDepth
    passEnds fuel
    if (← peek) = .streamEnd then return some n else refuse

end Node

/-- The nodes of a document, and the one that the document is. -/
structure Graph where
  nodes : Array Node
  root : Option NodeId
deriving Repr

/-- The nodes of a text. -/
def graph (t : Text) : Except Failure Graph := do
  let ts := tokens t
  let (root, r) ← (Node.document (4 * ts.length + 4)).run
    { tokens := ts, handles := Node.standardHandles }
  return ⟨r.nodes, root⟩

example : (graph "a: &x [*x]\n").toOption.map (fun g => (g.root, g.nodes.toList.map Node.content)) =
    some (some 0, [.mapping [(1, 2)], .scalar "a", .sequence [2]]) := by
  decide +kernel

end Yaml
end Tablesmith
