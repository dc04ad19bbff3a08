/-
# Identifiers

A table or column name as written in a script becomes an identifier of the generated module: outer
quotes go, every run of characters that are no word characters becomes one underscore, outer
underscores go, and what is left is kept apart from digits in front and from reserved words.

| name | identifier |
| --- | --- |
| `"Order Item"` | `Order_Item` |
| `2fa` | `_2fa` |
| `class` | `class_` |
| `$$` | `col` |
-/

import Tablesmith.Text.Case

namespace Tablesmith
namespace Naming

/-- Quotes and brackets around a name. -/
def isQuote (c : Char) : Bool := c == '\x60' || c == '"' || c == '[' || c == ']'

/-- The name without quotes and brackets at both ends. -/
def stripQuotes (name : Text) : Text := Text.trimBy isQuote name

/-- Does the name begin and end with a quote or bracket? They may be different ones, but not one
and the same character. -/
def isQuoted (name : Text) : Bool :=
  1 < name.length && name.head?.any isQuote && name.getLast?.any isQuote

/-- The text with every run of characters that are no word characters replaced by an underscore.
`inRun` says that the character in front belongs to such a run. -/
def joinWords : (inRun : Bool) → Text → Text
  | _, [] => []
  | inRun, c :: cs =>
    if Text.isWord c then c :: joinWords false cs
    else if inRun then joinWords true cs
    else '_' :: joinWords true cs

/-- Words that the generated module cannot use as names. -/
def reserved : List Text :=
  (["False", "None", "True", "and", "as", "assert", "async", "await", "break", "class", "continue",
    "def", "del", "elif", "else", "except", "finally", "for", "from", "global", "if", "import",
    "in", "is", "lambda", "nonlocal", "not", "or", "pass", "raise", "return", "try", "while",
    "with", "yield", "_", "case", "match"] : List String).map String.toList

/-- A word that is not empty. -/
def orColumn (word : Text) : Text := if word.isEmpty then "col" else word

/-- A word that begins with no digit. -/
def guardDigit (word : Text) : Text := if word.head?.any Text.isDigit then '_' :: word else word

/-- A word that is not reserved. -/
def guardReserved (word : Text) : Text := if word ∈ reserved then word ++ ['_'] else word

/-- The word characters of a name, outer underscores gone. -/
def core (name : Text) : Text := Text.trimBy (· == '_') (joinWords false (stripQuotes name))

/-- The identifier of a name. -/
def identifier (name : Text) : Text := guardReserved (guardDigit (orColumn (core name)))

/-- The identifier of a name in lower case. -/
def lowerIdentifier (name : Text) : Text :=
  guardReserved (guardDigit (orColumn (Text.lower (core name))))

example : (["\"Order Item\"", "2fa", "class", "$$"] : List Text).map identifier =
    (["Order_Item", "_2fa", "class_", "col"] : List Text) := by decide +kernel

/-- Lower case comes before the reserved words are looked at. -/
example : lowerIdentifier "Class" = "class_" ∧ identifier "Class" = "Class" := by decide +kernel

end Naming
end Tablesmith
