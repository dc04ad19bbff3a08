/-
# Values of a document

What a configuration file, a request body or a settings variable holds: the values of JSON,
together with what only a configuration file can hold, which is bytes, dates, moments, sets, and
collections that hold themselves. A mapping keeps its members in the order in which they were
written, and its keys are values themselves.

A collection that holds itself is written with a mark at the place where it stands within itself:
`outer n` is the collection `n` levels further out than the one that the mark is an item of. The
parts of a collection that are taken out by `items?` and `members?` have the collection itself in
the place of the marks that mean it, so a value that is whole has parts that are whole.
-/

import Tablesmith.Calendar
import Tablesmith.Number.Binary64
import Tablesmith.Text.Printable

namespace Tablesmith

/-- A value read from a document. -/
inductive Value where
  | null
  | bool (b : Bool)
  | int (n : Int)
  | real (x : Binary64)
  | text (t : Text)
  | bytes (bs : Text.Bytes)
  | date (d : Date)
  | moment (m : Moment)
  | list (items : List Value)
  | map (members : List (Value × Value))
  | set (items : List Value)
  /-- The collection `levels` further out than the one around this. -/
  | outer (levels : Nat)
deriving Repr, Inhabited

namespace Value

/-- A mapping with texts for keys. -/
def ofFields (fields : List (Text × Value)) : Value :=
  map (fields.map fun (k, v) => (text k, v))

/-- A list of texts. -/
def ofTexts (ts : List Text) : Value := list (ts.map text)

/-- A text or nothing. -/
def ofText? (t : Option Text) : Value := (t.map text).getD null

/-- Is this the text `name`? -/
def isText (name : Text) : Value → Bool
  | text t => t == name
  | _ => false

/-- The value of the first member with the key `name`. -/
def member? (name : Text) (members : List (Value × Value)) : Option Value :=
  (members.find? fun m => m.1.isText name).map Prod.snd

/-- The number that a value stands for as a key: truth values count as one and zero. -/
def keyNumber? : Value → Option (Int ⊕ Binary64)
  | bool b => some (.inl (if b then 1 else 0))
  | int n => some (.inl n)
  | real x => some (match x.toInt? with
    | some n => .inl n
    | none => .inr x)
  | _ => none

/-- Are these the same key of a mapping? Numbers are compared by value, and collections are no
keys. -/
def sameKey : Value → Value → Bool
  | null, null => true
  | text s, text t => s == t
  | bytes a, bytes b => a == b
  | date d, date e => d == e
  | moment m, moment n => m.same n
  | v, w => match v.keyNumber?, w.keyNumber? with
    | some a, some b => a == b
    | _, _ => false

/-- Can the value be a key? Collections cannot. -/
def isKey : Value → Bool
  | list _ | map _ | set _ | outer _ => false
  | _ => true

/-- Puts a member into a mapping: in place of the member with the same key, or behind all. -/
def putMember (key value : Value) : List (Value × Value) → List (Value × Value)
  | [] => [(key, value)]
  | (k, v) :: rest =>
    if k.sameKey key then (k, value) :: rest else (k, v) :: putMember key value rest

/-- Values that count as false: nothing, zero, and whatever is empty. -/
def isFalsy : Value → Bool
  | null => true
  | bool b => !b
  | int n => n == 0
  | real x => !x.isNonzero
  | text t => t.isEmpty
  | bytes bs => bs.isEmpty
  | list items | set items => items.isEmpty
  | map members => members.isEmpty
  | _ => false

mutual

/-- The value with `whole` in the place of the marks that mean the collection `depth` levels out. -/
def plug (whole : Value) (depth : Nat) : Value → Value
  | list vs => list (plugItems whole (depth + 1) vs)
  | map ms => map (plugMembers whole (depth + 1) ms)
  | outer n => if n = depth then whole else outer n
  | v => v

/-- The items with `whole` in the place of the marks that mean it. -/
def plugItems (whole : Value) (depth : Nat) : List Value → List Value
  | [] => []
  | v :: vs => plug whole depth v :: plugItems whole depth vs

/-- The members with `whole` in the place of the marks that mean it. -/
def plugMembers (whole : Value) (depth : Nat) : List (Value × Value) → List (Value × Value)
  | [] => []
  | (k, v) :: ms => (k, plug whole depth v) :: plugMembers whole depth ms

end

/-- The items of a list. -/
def items? : Value → Option (List Value)
  | list vs => some (plugItems (list vs) 0 vs)
  | _ => none

/-- The members of a mapping. -/
def members? : Value → Option (List (Value × Value))
  | map ms => some (plugMembers (map ms) 0 ms)
  | _ => none

/-- A scalar as an expression that makes it. -/
def shown : Value → Text
  | bool b => if b then "True" else "False"
  | int n => Text.ofInt n
  | real .nan => "nan"
  | real (.infinite negative) => if negative then "-inf" else "inf"
  | real x => x.toText
  | text t => Text.shown t
  | bytes bs => Text.shownBytes bs
  | date d => d.shown
  | moment m => m.shown
  | _ => "None"

/-- The room that is made for a set of so many items: a power of two, eight at least. -/
def roomFor (count : Nat) : Nat := if count < 5 then 8 else Nat.pow 2 ((2 * count).log2 + 1)

/-- The place of an item in the room for a set. Only small integers have one of their own. -/
def placeIn (room : Nat) : Value → Option Nat
  | int n =>
    if n.natAbs < Nat.pow 2 60 then some ((if n = -1 then -2 else n) % room).toNat else none
  | bool b => some (if b then 1 else 0)
  | _ => none

/-- The items of a set in order: by their places in the room for it, if all have different ones, and
else as they are given. -/
def inOrder (items : List Value) : List Value :=
  match items.mapM (placeIn (roomFor items.length)) with
  | some places =>
    if places.Nodup then
      (List.range (roomFor items.length)).filterMap fun p => (places.zip items).lookup p
    else items
  | none => items

/-- A set as an expression that makes it. -/
def shownSet (items : List Value) : Text :=
  if items.isEmpty then "set()"
  else '\x7b' :: Text.join ", " ((inOrder items).map shown) ++ ['\x7d']

example : shownSet [int 3, int (-1), int 1] = "\x7b1, 3, -1\x7d" := by decide +kernel

/-- A member just put is found again under its name. -/
theorem member?_putMember (name : Text) (value : Value) (members : List (Value × Value)) :
    member? name (putMember (text name) value members) = some value := by
  have key : ∀ k : Value, k.sameKey (text name) = k.isText name := by
    intro k
    cases k <;> simp [sameKey, isText, keyNumber?]
  induction members with
  | nil => simp [putMember, member?, isText]
  | cons m rest ih =>
    obtain ⟨k, v⟩ := m
    by_cases h : k.isText name
    · simp [putMember, key, h, member?]
    · simp only [putMember, key, h, Bool.false_eq_true, if_false]
      simpa [member?, h] using ih

end Value
end Tablesmith
