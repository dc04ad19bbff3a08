/-
# Files and directories

A disk is a set of files with their contents and of directories, each known by its path: the names
that lead to it from the root. A directory exists if it was made, or if something lies in it.

A text leads to a place on the disk: from the root if it begins with a slash, and else from a
directory that is given. It is walked name by name. The place in front of every name has to be a
directory, two dots lead back out of it, and no name is longer than 255 bytes. A text that holds
half of a surrogate pair leads nowhere, unless the half stands for a byte.
-/

import Tablesmith.Fault

namespace Tablesmith

/-- The names that lead to a file or directory. -/
abbrev Path := List Text

namespace Path

/-- Does a name stand for the place itself? -/
def isHere (name : Text) : Bool := name = [] || name = ['.']

/-- The name that leads back out of a directory. -/
def back : Text := ['.', '.']

/-- The names in a text: those with slashes between them, empty names and single dots left out. -/
def names (t : Text) : Path := (Text.cutAt '/' t).filter fun n => !isHere n

/-- Does the text lead from the root? -/
def isAbsolute (t : Text) : Bool := t.head? == some '/'

/-- The place where a text begins, if `home` is the directory for texts that do not begin at the
root. -/
def start (home : Path) (t : Text) : Path := if isAbsolute t then [] else home

/-- How a path is written: names with single slashes between them. A path that begins with exactly
two slashes keeps both. -/
def tidy (t : Text) : Text :=
  let slashes := (t.takeWhile (· == '/')).length
  let front : Text := if slashes = 2 then "//" else if 0 < slashes then "/" else []
  if (names t).isEmpty ∧ front.isEmpty then ['.'] else front ++ Text.join ['/'] (names t)

/-- The place that a name leads to. The root has nothing outside of it. -/
def step (here : Path) (name : Text) : Path := if name = back then here.dropLast else here ++ [name]

/-- The places on the way of a text, its end included. -/
def places (home : Path) (t : Text) : List Path :=
  (List.range ((names t).length + 1)).map fun n => ((names t).take n).foldl step (start home t)

example : tidy "./a//b/" = "a/b" ∧ tidy "." = "." ∧ tidy "//x" = "//x" ∧ tidy "///x" = "/x" ∧
    places [] "a/../b" = ([[], ["a"], [], ["b"]] : List (List Text)) := by
  decide +kernel

end Path

/-- Files with their contents, and directories. -/
structure Disk (α : Type) where
  files : List (Path × α) := []
  directories : List Path := []
deriving Inhabited

namespace Disk

variable {α : Type}

/-- The content of a file. -/
def file? (d : Disk α) (p : Path) : Option α := d.files.lookup p

/-- Is there a directory at the path? There is one at the root. -/
def isDirectory (d : Disk α) (p : Path) : Bool :=
  p.isEmpty || d.directories.contains p ||
    (d.files.map Prod.fst ++ d.directories).any fun q => p.isPrefixOf q && p.length < q.length

/-- Is there anything at the path? -/
def isThere (d : Disk α) (p : Path) : Bool := (d.file? p).isSome || d.isDirectory p

/-- Why a place is no directory. -/
def noDirectory (d : Disk α) (p : Path) : Fault :=
  if (d.file? p).isSome then .notDirectory else .noFile

/-- The most bytes of a name. -/
def maxName : Nat := 255

/-- Paths with so many bytes are too long. -/
def tooLong : Nat := 4096

/-- Walks from a place. There need not be anything at the end. -/
def walk (d : Disk α) : (here : Path) → (names : Path) → Except Fault Path
  | here, [] => .ok here
  | here, name :: names =>
    if !d.isDirectory here then .error (d.noDirectory here)
    else if maxName < (Text.encode name).length then .error .system
    else walk d (Path.step here name) names

/-- The place that a text leads to. -/
def locate (d : Disk α) (home : Path) (t : Text) : Except Fault Path :=
  if !Text.isPathText t then .error .unwritable
  else if '\x00' ∈ t then .error .zeroInPath
  else if tooLong ≤ (Text.encode (Path.tidy t)).length then .error .system
  else d.walk (Path.start home t) (Path.names t)

/-- Does a text lead to anything? Where it leads nowhere the answer is no, but the system does not
say whether a name exists that is too long. -/
def leadsSomewhere (d : Disk α) (home : Path) (t : Text) : Except Fault Bool :=
  match d.locate home t with
  | .ok p => .ok (d.isThere p)
  | .error .system => .error .system
  | .error _ => .ok false

/-- The content of a file, or why it cannot be read. -/
def read (d : Disk α) (home : Path) (t : Text) : Except Fault α := do
  let p ← d.locate home t
  match d.file? p with
  | some content => .ok content
  | none => .error (if d.isDirectory p then .isDirectory else .noFile)

/-- Puts a content at a path. -/
def putFile (p : Path) (content : α) : List (Path × α) → List (Path × α)
  | [] => [(p, content)]
  | (q, old) :: rest => if q = p then (p, content) :: rest else (q, old) :: putFile p content rest

/-- The disk with a content at a path. -/
def put (d : Disk α) (p : Path) (content : α) : Disk α :=
  { d with files := putFile p content d.files }

/-- Writes a file, for which its directory has to be there. -/
def write (d : Disk α) (home : Path) (t : Text) (content : α) : Except Fault (Disk α) := do
  let p ← d.locate home t
  if d.isDirectory p then .error .isDirectory else .ok (d.put p content)

/-- The disk without a file. -/
def remove (d : Disk α) (p : Path) : Disk α :=
  { d with files := d.files.filter fun q => q.1 ≠ p }

/-- Makes the directory at the end of a walk, unless it is there. Those that lead to it have to be
there. -/
def makeLast (d : Disk α) (start before : Path) (name : Text) : Except Fault (Disk α) := do
  let p ← d.walk start (before ++ [name])
  if d.isDirectory p then .ok d
  else if (d.file? p).isSome then .error .fileInTheWay
  else .ok { d with directories := p :: d.directories }

/-- Makes the directory at the end of a walk, and where one that leads to it is missing, that one
first. The names are given in reverse. -/
def makeDirectories (d : Disk α) (start : Path) : (reversed : Path) → Except Fault (Disk α)
  | [] => .ok d
  | name :: before =>
    match d.makeLast start before.reverse name with
    | .error .noFile => do (← makeDirectories d start before).makeLast start before.reverse name
    | outcome => outcome

/-- Makes the directory that a file is to lie in, and those that lead to it. -/
def makeFor (d : Disk α) (home : Path) (t : Text) : Except Fault (Disk α) :=
  let names := (Path.names t).dropLast
  if !names.all Text.isPathText then .error .unwritable
  else if names.any fun name => '\x00' ∈ name then .error .zeroInPath
  else if tooLong ≤ (Text.encode (Path.tidy t)).length then .error .system
  else d.makeDirectories (Path.start home t) names.reverse

/-- The files in a directory and those in it, with the names that lead there. -/
def below (d : Disk α) (home : Path) : List (Path × α) :=
  d.files.filterMap fun (p, content) =>
    if home.isPrefixOf p then some (p.drop home.length, content) else none

/-- The files that another disk has, and this one not or with another content. -/
def changes [DecidableEq α] (d e : Disk α) : Disk α :=
  ⟨e.files.filter fun q => d.file? q.1 ≠ some q.2, []⟩

example : ((({ files := [(["f"], 1)] } : Disk Nat).makeFor [] "new/../x").map Disk.directories) =
      .ok [["new"]] ∧
    (({ files := [(["f"], 1)] } : Disk Nat).makeFor [] "f/x").map Disk.directories =
      .error .fileInTheWay ∧
    (({ files := [(["f"], 1)] } : Disk Nat).read [] "f/../f") = .error .notDirectory := by
  decide +kernel

end Disk
end Tablesmith
