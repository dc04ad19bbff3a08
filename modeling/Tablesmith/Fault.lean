/-
# Faults

Why a request is not answered. A fault is a cause; the texts of those that are reported in words
are here too.
-/

import Tablesmith.Sql.Segment
import Tablesmith.Validation.Issue
import Tablesmith.Yaml.Failure

namespace Tablesmith

/-- Why a request is not answered. -/
inductive Fault where
  /-- No mode of cutting has this name. -/
  | unknownMode (name : Text)
  /-- A document does not have the form it should have. -/
  | invalid (issues : List Issue)
  /-- Tables were asked for that the schema does not declare. -/
  | unknownTables (names known : List Text)
  /-- There is no such file. -/
  | noFile
  /-- The path leads to a directory. -/
  | isDirectory
  /-- A file is used as a directory. -/
  | notDirectory
  /-- A directory cannot be made because a file has its place. -/
  | fileInTheWay
  /-- The bytes of a file are no text. -/
  | noText
  /-- A path holds the character zero. -/
  | zeroInPath
  /-- The system does not carry out what is asked of a path, as where a name is too long. -/
  | system
  /-- The text of the configuration file is not read. -/
  | unreadable (why : Yaml.Failure)
  /-- A value is asked for a member, or for its upper case, that has none. -/
  | noSuchPart
  /-- A value stands where only one of another kind makes sense. -/
  | wrongKind
  /-- A list that is no list of pairs stands where settings should stand. -/
  | noPairs (index length : Nat)
  /-- No log level has this name. -/
  | unknownLevel (name : Text)
  /-- The target of a request is no address. -/
  | badTarget
  /-- A setting in the environment is no JSON. -/
  | noJsonSetting
  /-- Collections are nested too deeply. -/
  | tooDeep
  /-- A value that holds itself is asked for its text. -/
  | circular
  /-- An integer is too long to be written. -/
  | longInteger
  /-- A text holds a character or half of a surrogate pair that has no bytes where it should go. -/
  | unwritable
deriving Repr, DecidableEq

/-- Outcomes can be compared if faults and values can. -/
instance decidableEqExcept {ε α : Type} [DecidableEq ε] [DecidableEq α] : DecidableEq (Except ε α)
  | .ok a, .ok b => decidable_of_iff (a = b) (by simp)
  | .error e, .error f => decidable_of_iff (e = f) (by simp)
  | .ok _, .error _ => isFalse (by simp)
  | .error _, .ok _ => isFalse (by simp)

namespace Fault

/-- The words for a mode that does not exist. -/
def unknownModeText (name : Text) : Text :=
  "Unknown split mode '" ++ name ++ "'. Expected one of: "
    ++ Text.join ", " (Sql.SplitMode.all.map Sql.SplitMode.name)

/-- The words for tables that do not exist. -/
def unknownTablesText (names : List Text) : Text :=
  ("Unknown table(s): " : Text) ++ Text.join ", " names

/-- The words for a list that is no list of pairs. -/
def noPairsText (index length : Nat) : Text :=
  "dictionary update sequence element #" ++ Text.ofNat index ++ " has length "
    ++ Text.ofNat length ++ "; 2 is required"

/-- What is said about a fault, where words are found for it. -/
def message? : Fault → Option Text
  | unknownMode name => some (unknownModeText name)
  | noPairs index length => some (noPairsText index length)
  | unknownLevel name => some (("Unknown level: " : Text) ++ Text.shown name)
  | zeroInPath => some "embedded null byte"
  | unreadable why => why.message?
  | circular => some "Circular reference detected"
  | longInteger => some "Exceeds the limit (4300 digits) for integer string conversion"
  | _ => none

end Fault
end Tablesmith
