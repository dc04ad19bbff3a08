/-
# Values as JSON texts

Members in their order, no blanks beyond one behind each comma and colon, texts as double-quoted
literals. A half of a surrogate pair is written as an escape. A key that is no text is written as
the text of its value, and so is what JSON has no form for.
-/

import Tablesmith.Text.Literal
import Tablesmith.Value.Basic

namespace Tablesmith
namespace Json

/-- The text of a value without parts. -/
def scalar : Value → Text
  | .bool b => if b then "true" else "false"
  | .int n => Text.ofInt n
  | .real x => x.toText
  | .text t => t
  | .date d => d.text
  | .moment m => m.text
  | .bytes bs => Text.shownBytes bs
  | .set items => Value.shownSet items
  | _ => "null"

/-- Is the value written between quotes? -/
def isQuoted : Value → Bool
  | .text _ | .date _ | .moment _ | .bytes _ | .set _ => true
  | _ => false

/-- A sign of a text between quotes. -/
def quoteSign : Text.Sign → Text
  | .char c => Text.ofChars (Text.escapeChar c)
  | .half n _ => '\\' :: 'u' :: Text.hex4 n

/-- A text between quotes. -/
def quote (t : Text) : Text := '"' :: (Text.signs t).flatMap quoteSign ++ ['"']

mutual

/-- A value as a JSON text. -/
def print : Value → Text
  | .list items => '[' :: printItems items ++ [']']
  | .map members => '\x7b' :: printMembers members ++ ['\x7d']
  | v => if isQuoted v then quote (scalar v) else scalar v

/-- Items with commas between them. -/
def printItems : List Value → Text
  | [] => []
  | [v] => print v
  | v :: w :: rest => print v ++ ',' :: ' ' :: printItems (w :: rest)

/-- Members with commas between them. -/
def printMembers : List (Value × Value) → Text
  | [] => []
  | [(k, v)] => quote (scalar k) ++ ':' :: ' ' :: print v
  | (k, v) :: m :: rest =>
    quote (scalar k) ++ ':' :: ' ' :: print v ++ ',' :: ' ' :: printMembers (m :: rest)

end

example : print (.ofFields [("a", .list [.int (-1), .null]), ("b", .text "x\"")]) =
    "\x7b\"a\": [-1, null], \"b\": \"x\\\"\"\x7d".toList := by
  decide +kernel

example : print (.text (Text.half 0xD83D ++ ['x'])) = "\"\\ud83dx\"".toList := by decide +kernel

end Json
end Tablesmith
