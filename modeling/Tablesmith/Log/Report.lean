/-
# Reports

A report is the outcome of some work together with the log entries written on the way. What was
written before a fault stays written.
-/

import Tablesmith.Fault
import Tablesmith.Log.Level

namespace Tablesmith
namespace Log

/-- One entry of the log: how serious it is, who wrote it, and what it says. -/
structure Entry where
  level : Int
  source : Text
  message : Text
deriving Repr, DecidableEq

end Log

/-- An outcome and the log entries written on the way to it. -/
structure Report (α : Type) where
  entries : List Log.Entry
  outcome : Except Fault α

namespace Report

variable {α β : Type}

/-- An outcome on the way to which nothing was written. -/
def ofExcept (outcome : Except Fault α) : Report α := ⟨[], outcome⟩

/-- Writes one entry. -/
def write (level : Int) (source message : Text) : Report Unit :=
  ⟨[⟨level, source, message⟩], .ok ()⟩

/-- Goes on with an outcome, unless it is a fault. -/
def andThen (r : Report α) (f : α → Report β) : Report β :=
  match r.outcome with
  | .ok a => ⟨r.entries ++ (f a).entries, (f a).outcome⟩
  | .error fault => ⟨r.entries, .error fault⟩

instance : Monad Report where
  pure a := ⟨[], .ok a⟩
  bind := andThen

/-- A result reported without a log is the outcome. -/
@[simp] theorem outcome_ofExcept (outcome : Except Fault α) :
    (ofExcept outcome).outcome = outcome := rfl

/-- So is a plain value. -/
@[simp] theorem outcome_pure (a : α) : (pure a : Report α).outcome = .ok a := rfl

/-- The outcome does not depend on what was written. -/
@[simp] theorem outcome_bind (r : Report α) (f : α → Report β) :
    (r >>= f).outcome = r.outcome >>= fun a => (f a).outcome := by
  obtain ⟨entries, outcome⟩ := r
  cases outcome <;> rfl

end Report
end Tablesmith
