/-
# Tags, anchors and directives of a YAML text

What stands in front of a node or a document:

| | written | says |
| --- | --- | --- |
| tag | `!suffix`, `!handle!suffix`, `!<whole>`, or `!` alone | what kind of node follows |
| anchor | `&name` | the name by which aliases mean the node |
| directive | `%YAML 1.1`, `%TAG !handle! prefix`, or any other name | how the document is read |

Tags may hold bytes as a percent sign and two hexadecimal digits; bytes that follow one another
have to be UTF-8. Each reader starts at the first character and answers the cursor behind what it
read.
-/

import Tablesmith.Text.Utf8
import Tablesmith.Yaml.Scalar

namespace Tablesmith
namespace Yaml

/-- A tag as it is written; the handle is missing where the tag is whole. -/
structure TagName where
  handle : Option Text
  suffix : Text
deriving Repr, DecidableEq

/-- A line with which a document begins. -/
inductive Directive where
  | version (major minor : Nat)
  | tag (handle start : Text)
  | other
deriving Repr, DecidableEq

/-- The most digits of a number of a version. -/
def maxDigits : Nat := 4300

/-- Characters of the name of an anchor, a handle or a directive. -/
def isNameChar (c : Char) : Bool := c.isAlphanum || c == '-' || c == '_'

/-- Space, a line break, or the end of the text. -/
def isWordEnd : Option Char → Bool
  | none => true
  | some c => c == ' ' || isBreak c

/-- Characters of a tag. -/
def isTagChar (c : Char) : Bool :=
  c.isAlphanum || "-;/?:@&=+$,_.!~*'()[]%".toList.contains c

/-- The bytes that stand as escapes at the beginning of the text. -/
def escapedBytes : Text → Except Failure Text.Bytes
  | '%' :: a :: b :: t =>
    match Text.hexValue? a, Text.hexValue? b with
    | some high, some low => (escapedBytes t).map (UInt8.ofNat (high * 16 + low) :: ·)
    | _, _ => .error .malformed
  | '%' :: _ => .error .malformed
  | _ => .ok []

/-- The characters of a tag at the beginning of the text, escapes read, and how many there are. -/
def tagChars : (fuel : Nat) → Text → Except Failure (Text × Nat)
  | 0, _ => .ok ([], 0)
  | _ + 1, [] => .ok ([], 0)
  | fuel + 1, c :: t =>
    if c = '%' then do
      let bytes ← escapedBytes (c :: t)
      match Text.decode? bytes with
      | none => .error .malformed
      | some chars =>
        let (rest, n) ← tagChars fuel ((c :: t).drop (3 * bytes.length))
        return (chars ++ rest, 3 * bytes.length + n)
    else if isTagChar c then do
      let (rest, n) ← tagChars fuel t
      return (c :: rest, n + 1)
    else .ok ([], 0)

/-- A part of a tag that is not empty. -/
def tagPart (c : Cursor) : Except Failure (Text × Cursor) := do
  let (chars, n) ← tagChars (c.left + 1) c.rest
  if n = 0 then .error .malformed else return (chars, c.skip n)

/-- A handle: exclamation marks with a name between them, or one alone in front of a space. -/
def handle (c : Cursor) : Except Failure (Text × Cursor) :=
  match c.rest with
  | '!' :: ' ' :: _ => .ok (['!'], c.next)
  | '!' :: t =>
    let name := t.takeWhile isNameChar
    if t.drop name.length |>.head?.any (· == '!') then
      .ok ('!' :: name ++ ['!'], c.skip (name.length + 2))
    else .error .malformed
  | _ => .error .malformed

/-- A tag, from its exclamation mark. -/
def tagName (c : Cursor) : Except Failure (TagName × Cursor) := do
  let (name, c) ←
    if c.peek 1 = some '<' then do
      let (suffix, c) ← tagPart (c.skip 2)
      if c.at? '>' then pure (TagName.mk none suffix, c.next) else .error .malformed
    else if isGap (c.peek 1) then pure (⟨none, ['!']⟩, c.next)
    else do
      let word := (c.rest.drop 1).takeWhile fun x => !isWordEnd (some x)
      let (h, c) ← if '!' ∈ word then handle c else pure (['!'], c.next)
      let (suffix, c) ← tagPart c
      pure (⟨some h, suffix⟩, c)
  if isWordEnd (c.peek 0) then return (name, c) else .error .malformed

/-- Characters that may follow the name of an anchor. -/
def endsAnchor : Option Char → Bool
  | some c => isGap (some c) || "?:,]\x7d%@\x60".toList.contains c
  | none => true

/-- The name of an anchor or an alias, from its indicator. -/
def anchorName (c : Cursor) : Except Failure (Text × Cursor) :=
  let (name, c) := c.next.takeWhile isNameChar
  if name.isEmpty || !endsAnchor (c.peek 0) then .error .malformed else .ok (name, c)

/-- A number of a version. -/
def versionPart (c : Cursor) : Except Failure (Nat × Cursor) :=
  let (digits, c) := c.takeWhile Char.isDigit
  match Text.nat? 10 digits with
  | none => .error .malformed
  | some n => if maxDigits < digits.length then .error (.longInteger digits.length) else .ok (n, c)

/-- The version behind the name of its directive. -/
def version (c : Cursor) : Except Failure (Directive × Cursor) := do
  let (major, c) ← versionPart (c.skipWhile (· == ' '))
  if c.at? '.' then
    let (minor, c) ← versionPart c.next
    if isWordEnd (c.peek 0) then return (.version major minor, c) else .error .malformed
  else .error .malformed

/-- The handle and the beginning of tags that it stands for, behind the name of their directive. -/
def tagDirective (c : Cursor) : Except Failure (Directive × Cursor) := do
  let (h, c) ← handle (c.skipWhile (· == ' '))
  if c.at? ' ' then
    let (start, c) ← tagPart (c.skipWhile (· == ' '))
    if isWordEnd (c.peek 0) then return (.tag h start, c) else .error .malformed
  else .error .malformed

/-- A directive, from its percent sign to the end of its line. Spaces and a comment may follow. -/
def directive (c : Cursor) : Except Failure (Directive × Cursor) := do
  let (name, c) := c.next.takeWhile isNameChar
  if name.isEmpty || !isWordEnd (c.peek 0) then .error .malformed
  else
    let (d, c) ←
      if name = "YAML".toList then version c
      else if name = "TAG".toList then tagDirective c
      else pure (.other, c.skipWhile fun x => !isBreak x)
    let c := c.skipWhile (· == ' ')
    let c := if c.at? '#' then c.skipWhile fun x => !isBreak x else c
    if isBreakOrEnd (c.peek 0) then return (d, c.takeBreak.2) else .error .malformed

example : (tagName { rest := "!e!%C3%A9 x".toList }).toOption.map Prod.fst =
    some ⟨some "!e!", ['é']⟩ := by decide +kernel

end Yaml
end Tablesmith
