/-
# Setting up the log

The log goes to the console and, if that is wanted, to a file. What is wanted may come from the
`logging` section of the configuration, from a caller, or from both; a caller's wishes win.
Everything below the level is left out, and so is everything at level zero or below. One logger and
those under it, who report on the requests of the server, are kept quieter than the rest.

A log file is appended to, and the directories that lead to it are made. It is removed beforehand
only if both the file and its removal are wanted.
-/

import Tablesmith.Config.Basic
import Tablesmith.Disk
import Tablesmith.Log.Record

namespace Tablesmith
namespace Log

/-- What is wanted of the log. -/
structure Wishes where
  level : Value := .text "INFO"
  format : Value := .text "detailed"
  toFile : Bool := false
  file : Value := .null
  clear : Bool := false
deriving Inhabited

/-- How the log is set up. -/
structure Setup where
  level : Int
  detailed : Bool
  path : Option Path

/-- Where the log goes if no file is named. -/
def defaultFile : Text := "logs/gysql.log"

/-- The text that leads to a log file. -/
def fileText (file : Value) : Except Fault Text :=
  if file.isFalsy then .ok defaultFile
  else match file with
    | .text t => .ok t
    | _ => .error .wrongKind

/-- Removes a log file, if there is one. Texts that do not begin at the root begin at `home`. -/
def clearFile (home : Path) (file : Value) (d : Disk Text) : Except Fault (Disk Text) := do
  let t ← fileText file
  let d ← d.makeFor home t
  if ← d.leadsSomewhere home t then
    let p ← d.locate home t
    if d.isDirectory p then .error .isDirectory else .ok (d.remove p)
  else .ok d

/-- Opens a log file, which creates it if it is not there. -/
def openFile (home : Path) (file : Value) (d : Disk Text) : Except Fault (Path × Disk Text) := do
  let t ← fileText file
  let d ← d.makeFor home t
  let p ← d.locate home t
  return (p, ← d.write home t ((d.file? p).getD []))

/-- The level that is wanted. -/
def wantedLevel : Value → Except Fault Int
  | .text name => levelOf name
  | .bytes _ => .error .wrongKind
  | _ => .error .noSuchPart

/-- Sets the log up. -/
def setUp (home : Path) (w : Wishes) (d : Disk Text) : Except Fault (Setup × Disk Text) := do
  let d ← if w.clear && w.toFile then clearFile home w.file d else .ok d
  let level ← wantedLevel w.level
  let detailed := w.format.isText "detailed"
  if w.toFile then
    let (p, d) ← openFile home w.file d
    return (⟨level, detailed, some p⟩, d)
  else return (⟨level, detailed, none⟩, d)

/-- The values that a value is made of one after another: items, keys, or characters. -/
def elements? : Value → Option (List Value)
  | .text t => some (t.map fun c => .text [c])
  | .bytes bs => some (bs.map fun b => .int b.toNat)
  | .set items => some items
  | v => match v.items?, v.members? with
    | some items, _ => some items
    | none, some members => some (members.map Prod.fst)
    | none, none => none

/-- The members of a list of pairs; `index` pairs were read before. Of pairs with one key the last
one counts. -/
def pairsFrom (index : Nat) (members : List (Value × Value)) :
    List Value → Except Fault (List (Value × Value))
  | [] => .ok members
  | pair :: rest => match elements? pair with
    | none => .error .wrongKind
    | some [k, v] =>
      if k.isKey then pairsFrom (index + 1) (Value.putMember k v members) rest
      else .error .wrongKind
    | some parts => .error (.noPairs index parts.length)

/-- The members of the section: those of a mapping, or pairs. -/
def membersOf (v : Value) : Except Fault (List (Value × Value)) :=
  if v.isFalsy then .ok []
  else match v.members?, elements? v with
    | some members, _ => .ok members
    | none, some pairs => pairsFrom 0 [] pairs
    | none, none => .error .wrongKind

/-- What the configuration wants of the log, a caller's own wishes put over it. A wish for nothing
is none. -/
def wishes (document : Value) (overrides : List (Value × Value)) : Except Fault Wishes := do
  let members ← Config.sectionOf "logging" document >>= membersOf
  let members := overrides.foldl (fun ms m =>
    match m.2 with
    | .null => ms
    | v => Value.putMember m.1 v ms) members
  let get (name : Text) (default : Value) : Value := (Value.member? name members).getD default
  let standard : Wishes := {}
  return {
    level := get "level" standard.level
    format := get "format" standard.format
    toFile := !(get "log_to_file" (.bool false)).isFalsy
    file := get "log_file" .null
    clear := !(get "clear_existing" (.bool false)).isFalsy }

/-- The logger that is kept quiet. -/
def quietLogger : Text := "uvicorn.access"

/-- Is it the quiet logger, or one under it? -/
def isQuiet (logger : Text) : Bool :=
  logger = quietLogger || (quietLogger ++ ['.']).isPrefixOf logger

namespace Setup

/-- Does an entry of a logger pass? -/
def passes (s : Setup) (logger : Text) (level : Int) : Bool :=
  0 < level && s.level ≤ level && (!isQuiet logger || warning ≤ level)

/-- What is written of the given records. -/
def written (s : Setup) (records : List Record) : Text :=
  (records.filter fun r => s.passes r.logger r.level).flatMap (Record.text s.detailed)

/-- The disk after the given records are written. -/
def writeTo (s : Setup) (records : List Record) (d : Disk Text) : Disk Text :=
  match s.path with
  | some p => d.put p ((d.file? p).getD [] ++ s.written records)
  | none => d

end Setup
end Log
end Tablesmith
