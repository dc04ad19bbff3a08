/-
# Functions of the generated module

A generated function is its name, its parameters and the lines of its body. The body's lines are
kept without their indentation, so that no line of a body can be mistaken for the head of another
function once it is written.
-/

import Tablesmith.Text.Literal

namespace Tablesmith

/-- A function of the generated module. -/
structure Function where
  decorators : List Text := []
  name : Text
  params : List Text := []
  body : List Text
deriving Repr, DecidableEq

namespace Function

/-- Four blanks in front of a line that is not empty. -/
def indent (line : Text) : Text := if line.isEmpty then [] else ("    " : Text) ++ line

/-- Names with commas between them. -/
def commas (names : List Text) : Text := Text.join ", " names

/-- The head of a function. -/
def head (f : Function) : Text := ("def " : Text) ++ f.name ++ "(" ++ commas f.params ++ "):"

/-- The lines of a function. -/
def lines (f : Function) : List Text := f.decorators ++ f.head :: f.body.map indent

/-- The text of a function. -/
def text (f : Function) : Text := Text.unlines f.lines

/-- The line that documents a function. -/
def doc (sentence : Text) : Text := ("\"\"\"" : Text) ++ sentence ++ "\"\"\""

/-- Parts of the module with two empty lines between them. -/
def apart (parts : List Text) : Text := Text.join "\n\n\n" parts

/-- The text of a tuple. A tuple of one has a comma behind its element. -/
def tuple : List Text → Text
  | [x] => '(' :: x ++ ",)"
  | xs => '(' :: commas xs ++ ")"

/-- The text of a call. -/
def call (name : Text) (args : List Text) : Text := name ++ "(" ++ commas args ++ ")"

example : text { name := "f", params := ["a", "b"], body := ["x = a", "", "return x"] } =
    "def f(a, b):\n    x = a\n\n    return x".toList := by decide +kernel

end Function
end Tablesmith
