/-
# Targets of requests

A target names a path, and behind it perhaps a query and a fragment, which are of no concern. In
the path, steps to the place itself and upwards are taken, and what is written as a percent sign
and two hexadecimal digits is the byte of that number. It is decoded twice, once on the way to the
server and once by the server, and bytes that are no UTF-8 become replacement characters.
-/

import Tablesmith.Text.Numeral
import Tablesmith.Text.Printable

namespace Tablesmith
namespace Target

open Text (Bytes)

/-- The byte of an escape: a percent sign and two hexadecimal digits. -/
def escaped? : Bytes → Option UInt8
  | percent :: a :: b :: _ => do
    guard (percent.toNat = '%'.toNat)
    let high ← Text.hexValue? (Char.ofNat a.toNat)
    let low ← Text.hexValue? (Char.ofNat b.toNat)
    some (UInt8.ofNat (high * 16 + low))
  | _ => none

/-- Bytes with the escapes among them read, behind the first `skip` ones. -/
def unescape : (skip : Nat) → Bytes → Bytes
  | _, [] => []
  | skip + 1, _ :: bs => unescape skip bs
  | 0, b :: bs => match escaped? (b :: bs) with
    | some e => e :: unescape 2 bs
    | none => b :: unescape 0 bs

/-- Decodes a path once. -/
def decode (t : Text) : Text := Text.decodeLenient (unescape 0 (Text.encode t))

/-- Names with the steps between them taken. A step upwards from the root stays there. -/
def takeSteps : (done : List Text) → List Text → List Text
  | done, [] => done.reverse
  | done, name :: rest =>
    if name = ['.'] then takeSteps done rest
    else if name = ['.', '.'] then
      takeSteps (if done = [] ∨ done = [[]] then done else done.drop 1) rest
    else takeSteps (name :: done) rest

/-- An address cut into its parts. A scheme that is not there, or empty, counts as none. -/
structure Address where
  hasScheme : Bool
  host : Text
  path : Text

/-- Does a scheme consist of such characters? -/
def isSchemeCharacter (c : Char) : Bool := c.isAlphanum || c == '+' || c == '.' || c == '-'

/-- The scheme in front of a text, and what follows it. -/
def scheme? (t : Text) : Option (Text × Text) :=
  let name := t.takeWhile isSchemeCharacter
  match t.drop name.length with
  | ':' :: rest => if (name.head?.map Char.isAlpha).getD true then some (name, rest) else none
  | _ => none

/-- The parts of a target, its query and its fragment left out. -/
def address (target : Text) : Address :=
  let t := target.takeWhile fun c => c != '?' && c != '#'
  let (hasScheme, t) := match scheme? t with
    | some (name, rest) => (!name.isEmpty, rest)
    | none => (false, t)
  match t with
  | '/' :: '/' :: t => ⟨hasScheme, t.takeWhile (· != '/'), t.dropWhile (· != '/')⟩
  | t => ⟨hasScheme, [], t⟩

/-- Is the target an address? It has no control characters of ASCII and is not too long, and without
a scheme and a host its path begins neither with two slashes nor with a colon. -/
def isWellFormed (target : Text) : Bool :=
  let a := address target
  target.all (fun c => 0x20 ≤ c.toNat && c.toNat ≠ 0x7F) && Text.size target ≤ 65536
    && (a.hasScheme || !a.host.isEmpty
      || !(a.path.head? = some ':' || ("//".toList).isPrefixOf a.path))

/-- The path of a target, beginning with one slash. -/
def path (target : Text) : Text :=
  let t := '/' :: (address target).path.dropWhile (· == '/')
  decode (decode (Text.join ['/'] (takeSteps [] (Text.cutAt '/' t))))

/-- Does the character stand for itself in the address that a path is sent on to? -/
def isPlain (c : Char) : Bool := c.isAlphanum || "_.-~:/%=@[]!$&'()*+,;".toList.contains c

/-- The target that a path is sent on to. Percent signs and dots keep their meaning, so it need not
lead to the path again. -/
def ofPath (path : Text) : Text :=
  (Text.encode path).flatMap fun b =>
    if isPlain (Char.ofNat b.toNat) then [Char.ofNat b.toNat] else '%' :: Text.hexOf 2 b.toNat

example : path "//host/a/./b/../c%20d?x=1" = "/a/c d" ∧
    path "x%2Fy%C3%A9%ff%2541%" = "/x/yé\ufffdA%" ∧ path "http://host/a" = "/a" ∧
    path (ofPath "/é%41?") = "/éA?" ∧ ¬ isWellFormed "////a" := by
  decide +kernel

end Target
end Tablesmith
