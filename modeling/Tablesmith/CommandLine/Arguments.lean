/-
# Reading the command line

The arguments name one script and give flags. They are read from left to right: a flag that takes
one argument takes the next one, which has to be a word, and a flag that takes several takes all
words that follow. Of the other words the first names the script, and those behind it are left
over. A flag given twice counts as it is given last.

What stops the reading first is what is answered; only the ambiguous flags are looked for before.
-/

import Tablesmith.CommandLine.Token

namespace Tablesmith
namespace CommandLine

/-- What the flags ask for. -/
structure Options where
  tables : Option (List Text) := none
  all : Bool := false
  database : Option Text := none
  mode : Option Sql.SplitMode := none
  output : Option Text := none
  logLevel : Option Text := none
deriving Repr, DecidableEq

/-- What the command line asks for. -/
structure Arguments where
  script : Text
  options : Options
deriving Repr, DecidableEq

/-- Why there is nothing to carry out. -/
inductive Stop where
  | help
  | misuse (m : Misuse)
deriving Repr, DecidableEq

/-- What is still to come for a flag that was read. -/
inductive Pending where
  | nothing
  /-- One word; if `helpFirst` holds, help was asked for in front of the flag. -/
  | one (f : Flag) (helpFirst : Bool)
  /-- Words, beside those that came already. -/
  | several (f : Flag) (words : List Text)
deriving Repr, DecidableEq

/-- What was read so far. -/
structure Reading where
  script : Option Text := none
  options : Options := {}
  leftOver : List Text := []
  pending : Pending := .nothing
  /-- Was the script the last thing that was read? -/
  atScript : Bool := false
  /-- Was the separator read while there was no script? -/
  atSeparator : Bool := false
deriving Repr, DecidableEq

namespace Reading

/-- Stops because of a misuse. -/
def fail {α : Type} (m : Misuse) : Except Stop α := .error (.misuse m)

/-- Gives a flag what it takes. -/
def give (r : Reading) (f : Flag) (words : List Text) : Except Stop Reading :=
  let o := r.options
  let put (o : Options) : Except Stop Reading := .ok { r with options := o, pending := .nothing }
  match f, words with
  | .help, _ => .error .help
  | .tables, _ =>
    if o.all then fail (.conflict .tables .all) else put { o with tables := some words }
  | .all, _ =>
    if o.tables.isSome then fail (.conflict .all .tables) else put { o with all := true }
  | .database, [t] => put { o with database := some t }
  | .output, [t] => put { o with output := some t }
  | .logLevel, [t] => put { o with logLevel := some t }
  | .splitMode, [t] => match Sql.SplitMode.ofName? t with
    | some m => put { o with mode := some m }
    | none => fail (.noMode t)
  | f, _ => fail (.lacking f)

/-- What follows a short flag for help in the same argument, perhaps behind an equals sign: more
short flags, of which the last one may take the rest. -/
def afterHelp (r : Reading) : Text → Except Stop Reading
  | ['h'] | 'o' :: _ :: _ => .error .help
  | ['o'] => .ok { r with pending := .one .output true }
  | 'h' :: t => afterHelp r t
  | t => fail (.superfluous .help t)

/-- Reads a flag. -/
def readFlag (r : Reading) (f : Flag) (isShort : Bool) (attached : Attached) :
    Except Stop Reading :=
  match f.arity, attached with
  | .nothing, .nothing => r.give f []
  | .nothing, .equals t | .nothing, .glued t =>
    if isShort then r.afterHelp t else fail (.superfluous f t)
  | .one, .nothing => .ok { r with pending := .one f false }
  | .several, .nothing => .ok { r with pending := .several f [] }
  | _, .equals t | _, .glued t => r.give f [t]

/-- Reads a token that no flag takes. -/
def readFree (r : Reading) : Token → Except Stop Reading
  | .word t => match r.script with
    | none => .ok { r with script := some t, atScript := true, atSeparator := false }
    | some _ => .ok { r with leftOver := r.leftOver ++ [t], atScript := false }
  | .separator =>
    if r.script.isNone then .ok { r with atSeparator := true }
    else if r.atScript then .ok { r with atScript := false }
    else .ok { r with leftOver := r.leftOver ++ [("--" : Text)] }
  | .unknown t => .ok { r with leftOver := r.leftOver ++ [t], atScript := false }
  | .flag f isShort attached => { r with atScript := false }.readFlag f isShort attached

/-- Gives a flag the words that it takes, once no more of them follow. -/
def settle (r : Reading) : Except Stop Reading :=
  match r.pending with
  | .nothing => .ok r
  | .one f _ => fail (.lacking f)
  | .several f [] => fail (.lacking f)
  | .several f words => r.give f words

/-- Reads a token. -/
def step (r : Reading) (token : Token) : Except Stop Reading :=
  match r.pending, token with
  | .one f helpFirst, .word t => if helpFirst then .error .help else r.give f [t]
  | .several f words, .word t => .ok { r with pending := .several f (words ++ [t]) }
  | _, token => r.settle.bind fun r => r.readFree token

/-- What the command line asks for, once everything is read. -/
def finish (r : Reading) : Except Stop Arguments :=
  r.settle.bind fun r =>
    let leftOver := r.leftOver ++ if r.atSeparator then [("--" : Text)] else []
    match r.script with
    | none => fail .noScript
    | some t => if leftOver.isEmpty then .ok ⟨t, r.options⟩ else fail (.leftOver leftOver)

end Reading

/-- What the arguments ask for. -/
def parse (arguments : List Text) : Except Stop Arguments :=
  match Token.ofArguments arguments with
  | .error m => .error (.misuse m)
  | .ok tokens => (tokens.foldlM Reading.step {}).bind Reading.finish

example : parse ["--tables", "a", "b", "--", "s.sql"] =
    .ok ⟨"s.sql", { tables := some ["a", "b"] }⟩ := by decide +kernel

example : parse ["-h=ho"] = .error (.misuse (.lacking .output)) ∧
    parse ["-hhx"] = .error (.misuse (.superfluous .help "x")) ∧
    parse ["-hofile"] = .error .help := by
  decide +kernel

example : parse ["s.sql", "--tab", "a", "--all"] = .error (.misuse (.conflict .all .tables)) ∧
    parse ["--split-mode", "x"] = .error (.misuse (.noMode "x")) ∧
    parse ["s", "--", "t"] = .error (.misuse (.leftOver ["t"])) := by decide +kernel

end CommandLine
end Tablesmith
