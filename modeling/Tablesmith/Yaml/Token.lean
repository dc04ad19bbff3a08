/-
# Tokens of a YAML text

The tokens of a YAML text make its block structure explicit: where a block begins by indentation,
a token opens it, and where the indentation ends it, a token closes it.

A key of a mapping is known as one only when its colon is read. Until then every scalar, alias and
flow collection on the line is remembered as a possible key. When the colon comes, the token that
was remembered gets a mark that a key, and perhaps a mapping, begins there.

Where the text cannot be cut into tokens, the last token is the failure. It stands in front of the
tokens that might still have begun a key there, for none of these was known yet.
-/

import Tablesmith.Yaml.Property

namespace Tablesmith
namespace Yaml

/-- A token. -/
inductive Token where
  | directive (d : Directive)
  | documentStart
  | documentEnd
  | streamEnd
  | blockSequence
  | blockMapping
  | blockEnd
  | flowSequence
  | flowSequenceEnd
  | flowMapping
  | flowMappingEnd
  | entry
  | comma
  | key
  | value
  | alias (name : Text)
  | anchor (name : Text)
  | tag (name : TagName)
  | scalar (plain : Bool) (text : Text)
  /-- From here on the text cannot be cut into tokens. -/
  | failure (f : Failure)
deriving Repr, DecidableEq

/-- What begins in front of a token besides the token itself. -/
inductive Opening where
  | nothing
  | key
  | mappingAndKey

/-- A token that may turn out to begin a key: the depth of flow collections, how many tokens stand
in front of it, whether it has to, how many signs stand in front of it, and the place. -/
structure PossibleKey where
  flow : Nat
  position : Nat
  required : Bool
  passed : Nat
  line : Nat
  column : Nat

/-- A text read up to some place: the tokens so far, last token first, and their number, the depth
of flow collections, the columns of the open blocks, whether a key may begin here, and the possible
keys. -/
structure Lexer where
  cursor : Cursor
  tokens : List (Opening × Token) := []
  count : Nat := tokens.length
  flow : Nat := 0
  indents : List Int := [-1]
  allowKey : Bool := true
  keys : List PossibleKey := []

namespace Lexer

/-- The column of the innermost open block, or `-1`. -/
def indent (s : Lexer) : Int := s.indents.headD (-1)

/-- One token more. -/
def push (t : Token) (s : Lexer) : Lexer :=
  { s with tokens := (.nothing, t) :: s.tokens, count := s.count + 1 }

/-- Closes the blocks that are indented further than `column`. -/
def unwindFrom (column : Int) : List Int → Lexer → Lexer
  | [], s => s
  | i :: rest, s =>
    if column < i then unwindFrom column rest { s.push .blockEnd with indents := rest }
    else s

/-- Closes the blocks that are indented further than `column`, outside flow collections. -/
def unwind (column : Int) (s : Lexer) : Lexer :=
  if s.flow = 0 then unwindFrom column s.indents s else s

/-- Opens a block if the column is further than that of the innermost one. -/
def openBlock (start : Token) (s : Lexer) : Lexer :=
  if s.indent < (s.cursor.column : Int) then
    { s.push start with indents := (s.cursor.column : Int) :: s.indents }
  else s

/-- Forgets the possible key of this depth. A key that is required must not be forgotten. -/
def dropKey (s : Lexer) : Except Failure Lexer :=
  if s.keys.any fun k => k.flow = s.flow ∧ k.required then .error .malformed
  else .ok { s with keys := s.keys.filter fun k => k.flow ≠ s.flow }

/-- Is the key too far back? A key stands on one line, within 1024 characters. -/
def isStale (s : Lexer) (k : PossibleKey) : Bool :=
  k.line ≠ s.cursor.line || 1024 < s.cursor.passed - k.passed

/-- Forgets the keys that are too far back. -/
def dropStaleKeys (s : Lexer) : Except Failure Lexer :=
  if s.keys.any fun k => s.isStale k ∧ k.required then .error .malformed
  else .ok { s with keys := s.keys.filter fun k => !s.isStale k }

/-- Remembers that a key may begin with the next token. -/
def saveKey (s : Lexer) : Except Failure Lexer :=
  if s.allowKey then do
    let required := s.flow = 0 ∧ s.indent = (s.cursor.column : Int)
    let s ← s.dropKey
    let key : PossibleKey := ⟨s.flow, s.count, required, s.cursor.passed, s.cursor.line,
      s.cursor.column⟩
    return { s with keys := key :: s.keys }
  else .ok s

/-- Skips blanks, comments and line breaks. -/
def skipGap : (fuel : Nat) → Lexer → Lexer
  | 0, s => s
  | fuel + 1, s =>
    let c := s.cursor.skipWhile (· == ' ')
    let c := if c.at? '#' then c.skipWhile fun x => !isBreak x else c
    match c.takeBreak with
    | ([], c) => { s with cursor := c }
    | (_, c) => skipGap fuel { s with cursor := c, allowKey := s.allowKey || s.flow = 0 }

/-- Takes `n` characters and adds a token for them. -/
def take (n : Nat) (t : Token) (s : Lexer) : Lexer :=
  { s with cursor := s.cursor.skip n }.push t

/-- The mark that starts or ends a document, or a directive: whatever is open is closed. -/
def boundary (s : Lexer) : Except Failure Lexer := do
  let s ← (s.unwind (-1)).dropKey
  return { s with allowKey := false }

/-- Adds a token that ends at the cursor. -/
def pushTo (c : Cursor) (t : Token) (s : Lexer) : Lexer := { s with cursor := c }.push t

/-- A directive. -/
def directive (s : Lexer) : Except Failure Lexer := do
  let s ← s.boundary
  let (d, c) ← Yaml.directive s.cursor
  return s.pushTo c (.directive d)

/-- Opens a flow collection. -/
def openFlow (t : Token) (s : Lexer) : Except Failure Lexer := do
  let s ← s.saveKey
  return { s.take 1 t with flow := s.flow + 1, allowKey := true }

/-- Closes a flow collection. -/
def closeFlow (t : Token) (s : Lexer) : Except Failure Lexer := do
  let s ← s.dropKey
  if s.flow = 0 then .error .malformed
  else return { s.take 1 t with flow := s.flow - 1, allowKey := false }

/-- The indicator of an item of a sequence, or of a key. -/
def blockIndicator (start t : Token) (allowKey : Bool) (s : Lexer) : Except Failure Lexer := do
  if s.flow = 0 ∧ !s.allowKey then .error .malformed
  else
    let s := if s.flow = 0 then s.openBlock start else s
    let s ← dropKey { s with allowKey := allowKey }
    return s.take 1 t

/-- Marks the token with which a key begins. -/
def markKey (k : PossibleKey) (opening : Opening) (s : Lexer) : Lexer :=
  { s with tokens := s.tokens.modify (s.count - 1 - k.position) fun t => (opening, t.2) }

/-- The colon behind a key. -/
def colon (s : Lexer) : Except Failure Lexer :=
  match s.keys.find? fun k => k.flow = s.flow with
  | some k =>
    let s := { s with keys := s.keys.filter (fun k => k.flow ≠ s.flow), allowKey := false }
    let s :=
      if s.flow = 0 ∧ s.indent < (k.column : Int) then
        { s.markKey k .mappingAndKey with indents := (k.column : Int) :: s.indents }
      else s.markKey k .key
    .ok (s.take 1 .value)
  | none => s.blockIndicator .blockMapping .value (s.flow = 0)

/-- An anchor or an alias. -/
def name (make : Text → Token) (s : Lexer) : Except Failure Lexer := do
  let s ← s.saveKey
  let (name, c) ← anchorName s.cursor
  return { s.pushTo c (make name) with allowKey := false }

/-- A tag. -/
def tag (s : Lexer) : Except Failure Lexer := do
  let s ← s.saveKey
  let (name, c) ← tagName s.cursor
  return { s.pushTo c (.tag name) with allowKey := false }

/-- A literal or folded scalar. -/
def blockScalar (folded : Bool) (s : Lexer) : Except Failure Lexer := do
  let s ← dropKey { s with allowKey := true }
  let (text, c) ← block folded s.indent s.cursor
  return s.pushTo c (.scalar false text)

/-- A quoted scalar. -/
def quotedScalar (double : Bool) (s : Lexer) : Except Failure Lexer := do
  let s ← s.saveKey
  let (text, c) ← quoted double s.cursor
  return { s.pushTo c (.scalar false text) with allowKey := false }

/-- A plain scalar. -/
def plainScalar (s : Lexer) : Except Failure Lexer := do
  let s ← s.saveKey
  let (text, c, broken) := plain (s.flow ≠ 0) (s.indent + 1) s.cursor
  return { s.pushTo c (.scalar true text) with allowKey := broken }

/-- Characters with which no plain scalar begins, unless more follows at once. -/
def isIndicator (c : Char) : Bool :=
  "-?:,[]\x7b\x7d#&*!|>'\"%@\x60".toList.contains c || isGap (some c)

/-- Does a plain scalar begin here? -/
def beginsPlain (s : Lexer) (c : Char) : Bool :=
  !isIndicator c
    || (!isGap (s.cursor.peek 1) && (c == '-' || (s.flow = 0 && (c == '?' || c == ':'))))

/-- The next token, which begins with the character `c`. -/
def token (s : Lexer) (c : Char) : Except Failure Lexer :=
  let gap := isGap (s.cursor.peek 1)
  if s.cursor.column = 0 ∧ c = '%' then s.directive
  else if s.cursor.column = 0 ∧ s.cursor.atMarker "---" then
    s.boundary.map fun s => s.take 3 .documentStart
  else if s.cursor.column = 0 ∧ s.cursor.atMarker "..." then
    s.boundary.map fun s => s.take 3 .documentEnd
  else match c with
  | '[' => s.openFlow .flowSequence
  | '\x7b' => s.openFlow .flowMapping
  | ']' => s.closeFlow .flowSequenceEnd
  | '\x7d' => s.closeFlow .flowMappingEnd
  | ',' => (dropKey { s with allowKey := true }).map fun s => s.take 1 .comma
  | '*' => s.name .alias
  | '&' => s.name .anchor
  | '!' => s.tag
  | '\'' => s.quotedScalar false
  | '"' => s.quotedScalar true
  | _ =>
    if c = '-' ∧ gap then s.blockIndicator .blockSequence .entry true
    else if c = '?' ∧ (s.flow ≠ 0 ∨ gap) then s.blockIndicator .blockMapping .key (s.flow = 0)
    else if c = ':' ∧ (s.flow ≠ 0 ∨ gap) then s.colon
    else if c = '|' ∧ s.flow = 0 then s.blockScalar false
    else if c = '>' ∧ s.flow = 0 then s.blockScalar true
    else if s.beginsPlain c then s.plainScalar
    else .error .malformed

/-- Puts a failure in place of the tokens that were not known yet when the text was read on: those
from the first of the given possible keys on. -/
def fail (keys : List PossibleKey) (s : Lexer) (f : Failure) : Lexer :=
  let known := (keys.map PossibleKey.position).foldl min s.count
  push (.failure f) { s with tokens := s.tokens.drop (s.count - known), count := known }

/-- Reads tokens to the end of the text, or to a failure. Possible keys that are too far back are
forgotten before the text is read on, and again behind the gap in front of the next token. -/
def run : (fuel : Nat) → Lexer → Lexer
  | 0, s => s.fail [] .malformed
  | fuel + 1, s =>
    match s.dropStaleKeys with
    | .error f => s.fail s.keys f
    | .ok s =>
      let keys := s.keys
      match (s.skipGap (s.cursor.left + 1)).dropStaleKeys with
      | .error f => s.fail keys f
      | .ok s =>
        let s := s.unwind s.cursor.column
        match s.cursor.rest with
        | [] => match s.boundary with
          | .error f => s.fail keys f
          | .ok s => s.push .streamEnd
        | c :: _ => match s.token c with
          | .error f => s.fail keys f
          | .ok s => run fuel s

/-- The tokens with those that begin in front of others. -/
def spread : Opening × Token → List Token
  | (.nothing, t) => [t]
  | (.key, t) => [.key, t]
  | (.mappingAndKey, t) => [.blockMapping, .key, t]

end Lexer

/-- Characters that a YAML text may hold. -/
def isPrintable (c : Char) : Bool :=
  let n := c.toNat
  n == 9 || n == 10 || n == 13 || (32 ≤ n && n ≤ 126) || n == 0x85 || (0xA0 ≤ n && n ≤ 0xD7FF)
    || (0xE000 ≤ n && n ≤ 0xFFFD) || 0x10000 ≤ n

/-- The text without a byte order mark in front. -/
def dropMark : Cursor → Cursor
  | c => if c.at? '\ufeff' then c.next else c

/-- The tokens of a text. The last one is the end of the text or a failure. -/
def tokens (t : Text) : List Token :=
  if t.all isPrintable then
    let done := Lexer.run (t.length + 2) { cursor := dropMark { rest := t } }
    done.tokens.reverse.flatMap Lexer.spread
  else [.failure .malformed]

example : tokens "a: [1]\n" =
    [.blockMapping, .key, .scalar true "a", .value, .flowSequence, .scalar true "1",
      .flowSequenceEnd, .blockEnd, .streamEnd] := by
  decide +kernel

example : tokens "a: b: c" = [.blockMapping, .key, .scalar true "a", .value, .scalar true "b",
    .failure .malformed] := by
  decide +kernel

end Yaml
end Tablesmith
