/-
# Checking documents

A check turns a value of a document into a value of the library, or answers every issue it finds.
The issues of a mapping stand in this order: those of its fields in the order in which the fields
are declared, then the members that no field has, in the order in which they are written.
-/

import Tablesmith.Validation.Issue
import Tablesmith.Value.Basic

namespace Tablesmith

/-- A fit value, or the issues of an unfit one. -/
inductive Checked (α : Type) where
  | fit (value : α)
  | unfit (issues : List Issue)
deriving Repr

/-- A check of a value. -/
abbrev Check (α : Type) := Value → Checked α

namespace Checked

variable {α β : Type}

/-- One issue with the document itself. -/
def fail (kind : Issue.Kind) : Checked α := unfit [⟨[], kind⟩]

/-- Applies a function to a fit value. -/
def map (f : α → β) : Checked α → Checked β
  | fit a => fit (f a)
  | unfit issues => unfit issues

/-- Applies a checked function to a checked value; the issues of both are kept. -/
def app : Checked (α → β) → Checked α → Checked β
  | fit f, fit a => fit (f a)
  | fit _, unfit issues => unfit issues
  | unfit issues, fit _ => unfit issues
  | unfit first, unfit second => unfit (first ++ second)

/-- A further check of a fit value. -/
def andThen (c : Checked α) (f : α → Checked β) : Checked β :=
  match c with
  | fit a => f a
  | unfit issues => unfit issues

/-- The same outcome with another check's issues behind. -/
def also (c : Checked α) (other : Checked Unit) : Checked α := (c.map fun a _ => a).app other

/-- The same outcome for a part of a document. -/
def under (step : Step) : Checked α → Checked α
  | fit a => fit a
  | unfit issues => unfit (issues.map (Issue.under step))

/-- The value or the issues. -/
def toExcept : Checked α → Except (List Issue) α
  | fit a => .ok a
  | unfit issues => .error issues

/-- All issues count: an application is fit exactly if both sides are. -/
theorem app_eq_fit_iff (f : Checked (α → β)) (c : Checked α) (b : β) :
    f.app c = fit b ↔ ∃ g a, f = fit g ∧ c = fit a ∧ g a = b := by
  cases f <;> cases c <;> simp [app]

end Checked

namespace Check

variable {α : Type}

/-- Checks the items of a list from number `n` on. -/
def itemsFrom (check : Check α) : (n : Nat) → List Value → Checked (List α)
  | _, [] => .fit []
  | n, v :: vs =>
    (((check v).under (.item n)).map List.cons).app (itemsFrom check (n + 1) vs)

/-- A list whose items all pass the check. `kind` is the issue with anything that is no list. -/
def list (kind : Issue.Kind) (check : Check α) : Check (List α) := fun v =>
  match v.items? with
  | some items => itemsFrom check 0 items
  | none => .fail kind

/-- Nothing, or a value that passes the check. -/
def optional (check : Check α) : Check (Option α)
  | .null => .fit none
  | v => (check v).map some

/-- A member of a mapping. Without a default it has to be there. -/
def field (members : List (Value × Value)) (name : Text) (default : Option α) (check : Check α) :
    Checked α :=
  match Value.member? name members, default with
  | some v, _ => (check v).under (.field name)
  | none, some a => .fit a
  | none, none => (Checked.fail .missing).under (.field name)

/-- How a key that is no text is written in a path. -/
def keyStep : Value → Step
  | .text t => .field t
  | .bool b => .field (if b then "1" else "0")
  | v => .field v.shown

/-- The text that a key counts as: itself, or that of bytes. -/
def keyText? : Value → Option Text
  | .text t => some t
  | .bytes bs => Text.decode? bs
  | _ => none

/-- The issue with a member of a mapping that has no other fields than the named ones. -/
def extraIssue? (names : List Text) (key : Value) : Option Issue :=
  match key, keyText? key with
  | .text t, _ => if t ∈ names then none else some ⟨[.field t], .extraMember⟩
  | k, some _ => some ⟨[keyStep k], .extraMember⟩
  | k, none => some ⟨[keyStep k], .keyNoText⟩

/-- Is the key a text with half of a surrogate pair in it? -/
def isBrokenKey : Value → Bool
  | .text t => !Text.isWhole t
  | _ => false

/-- Checks the fields of a mapping, which has no other members. Where a key is broken, that is the
only issue. -/
def fields (names : List Text) (members : List (Value × Value)) (checked : Checked α) : Checked α :=
  if members.any fun m => isBrokenKey m.1 then .fail .brokenText
  else
    let extras := members.filterMap fun m => extraIssue? names m.1
    checked.also (if extras.isEmpty then .fit () else .unfit extras)

/-- A check of the members of a mapping, for a value that has to be one. -/
def mapping (kind : Issue.Kind) (check : List (Value × Value) → Checked α) : Check α := fun v =>
  match v.members? with
  | some members => check members
  | none => .fail kind

end Check
end Tablesmith
