/-
# Why a YAML text is not read

Most texts that are not read are malformed. Others are well formed, and one of their scalars does
not have the form that its tag asks for, or goes beyond a limit.
-/

import Tablesmith.Calendar
import Tablesmith.Text.Printable

namespace Tablesmith
namespace Yaml

/-- Why a YAML text is not read. -/
inductive Failure where
  | malformed
  /-- The text is no integer in the base. -/
  | noInteger (base : Nat) (t : Text)
  /-- An integer has too many digits. -/
  | longInteger (digits : Nat)
  /-- The text is no double. -/
  | noReal (t : Text)
  /-- A number has no digits at all. -/
  | emptyNumber
  /-- The text is no truth value. -/
  | noBool
  /-- The text is no moment. -/
  | noMoment
  /-- A collection stands for a moment. -/
  | momentOfCollection
  /-- The numbers of a moment do not fit together. -/
  | calendar (m : CalendarMisfit)
  /-- No character has the number of an escape. -/
  | noCharacter
  /-- A number is too large to be computed with. -/
  | tooLarge
  /-- Collections are nested too deeply. -/
  | tooDeep
deriving Repr, DecidableEq

/-- What is said about a failure, if it is one that words are found for. -/
def Failure.message? : Failure → Option Text
  | noInteger base t =>
    some (("invalid literal for int() with base " : Text) ++ Text.ofNat base ++ ": "
      ++ (Text.shown t).take 200)
  | longInteger digits =>
    some (("Exceeds the limit (4300 digits) for integer string conversion: " : Text)
      ++ "value has " ++ Text.ofNat digits
      ++ " digits; use sys.set_int_max_str_digits() to increase the limit")
  | noReal t => some (("could not convert string to float: " : Text) ++ Text.shown t)
  | calendar m => some m.message
  | noCharacter => some "chr() arg not in range(0x110000)"
  | _ => none

end Yaml
end Tablesmith
