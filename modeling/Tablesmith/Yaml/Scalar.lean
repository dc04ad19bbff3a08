/-
# Scalars of a YAML text

How the characters of a scalar are read in each of its styles:

| style | begins with | folded | escapes |
| --- | --- | --- | --- |
| plain | anything that is no indicator | yes | none |
| single-quoted | `'` | yes | `''` |
| double-quoted | `"` | yes | backslash |
| literal | `|` | no | none |
| folded | `>` | yes | none |

Folding turns a single line break into a space and drops the first of several. Each reader starts
at the first character of its scalar and answers the text with the cursor behind it, or why there
is none. Loops take fuel, and the length of the text that is left is always enough, since every
round takes a character. What a loop has read so far it holds in reverse.
-/

import Tablesmith.Yaml.Cursor
import Tablesmith.Yaml.Failure

namespace Tablesmith
namespace Yaml

/-- Indicators that end a plain scalar within a flow collection. -/
def isFlowIndicator (c : Char) : Bool :=
  c == ',' || c == '[' || c == ']' || c == '\x7b' || c == '\x7d'

/-- Does a plain scalar end before the character `c`, when `after` follows it? -/
def endsPlain (flow : Bool) (c : Char) (after : Option Char) : Bool :=
  isGap (some c)
    || (c == ':' && (isGap after || (flow && after.any isFlowIndicator)))
    || (flow && (isFlowIndicator c || c == '?'))

/-- The characters of a plain scalar up to its next gap or its end. -/
def plainRun (flow : Bool) : Text → Text
  | [] => []
  | c :: cs => if endsPlain flow c cs.head? then [] else c :: plainRun flow cs

/-- Takes line breaks and the spaces between them. `none` at the mark of a document. -/
def takeBreaks : (fuel : Nat) → Text → Cursor → Option (Text × Cursor)
  | 0, acc, c => some (acc.reverse, c)
  | fuel + 1, acc, c =>
    if c.atDocumentMarker && c.column == 0 then none
    else
      let c := c.skipWhile (· == ' ')
      match c.takeBreak with
      | ([], c) => some (acc.reverse, c)
      | (br, c) => takeBreaks fuel (br.reverseAux acc) c

/-- What a line break and the breaks behind it stand for. -/
def fold (first others : Text) : Text :=
  if first ≠ ['\n'] then first ++ others
  else if others.isEmpty then [' '] else others

/-- The gap behind a run of a plain scalar: its text, the cursor, and whether it held a line break.
The text is empty where the scalar cannot go on. -/
def plainGap (c : Cursor) : Text × Cursor × Bool :=
  let (spaces, c) := c.takeWhile (· == ' ')
  match c.takeBreak with
  | ([], c) => (spaces, c, false)
  | (br, c) =>
    match takeBreaks (c.left + 1) [] c with
    | none => ([], c, true)
    | some (others, c) => (fold br others, c, true)

/-- A plain scalar whose lines are indented by `indent` or more. Answers also whether the scalar
ended behind a line break. -/
def plainFrom (flow : Bool) (indent : Int) :
    (fuel : Nat) → (acc gap : Text) → (broken : Bool) → Cursor → Text × Cursor × Bool
  | 0, acc, _, broken, c => (acc.reverse, c, broken)
  | fuel + 1, acc, gap, broken, c =>
    let run := plainRun flow c.rest
    if c.at? '#' || run.isEmpty then (acc.reverse, c, broken)
    else
      let acc := run.reverseAux (gap.reverseAux acc)
      let (gap, c, broken) := plainGap (c.skip run.length)
      if gap.isEmpty || c.at? '#' || (!flow && (c.column : Int) < indent) then
        (acc.reverse, c, broken)
      else plainFrom flow indent fuel acc gap broken c

/-- A plain scalar. -/
def plain (flow : Bool) (indent : Int) (c : Cursor) : Text × Cursor × Bool :=
  plainFrom flow indent (c.left + 1) [] [] false c

/-- The character of a one-letter escape of a double-quoted scalar. -/
def escapedChar? (c : Char) : Option Char :=
  ([('0', '\x00'), ('a', '\x07'), ('b', '\x08'), ('t', '\t'), ('\t', '\t'), ('n', '\n'),
    ('v', '\x0b'), ('f', '\x0c'), ('r', '\r'), ('e', '\x1b'), (' ', ' '), ('"', '"'), ('\\', '\\'),
    ('/', '/'), ('N', '\x85'), ('_', '\xa0'), ('L', '\u2028'), ('P', '\u2029')] :
      List (Char × Char)).lookup c

/-- The number of hexadecimal digits behind a numeric escape. -/
def escapeWidth? (c : Char) : Option Nat :=
  ([('x', 2), ('u', 4), ('U', 8)] : List (Char × Nat)).lookup c

/-- The sign with the number of an escape, which may be half of a surrogate pair. -/
def signOf (n : Nat) : Except Failure Text.Sign :=
  match Text.Sign.ofNat? n with
  | some s => .ok s
  | none => .error (if n < 0x80000000 then .noCharacter else .tooLarge)

/-- Line breaks within a quoted scalar. -/
def quotedBreaks : (fuel : Nat) → Text → Cursor → Except Failure (Text × Cursor)
  | 0, acc, c => .ok (acc.reverse, c)
  | fuel + 1, acc, c =>
    if c.atDocumentMarker then .error .malformed
    else
      let c := c.skipWhile fun x => x == ' ' || x == '\t'
      match c.takeBreak with
      | ([], c) => .ok (acc.reverse, c)
      | (br, c) => quotedBreaks fuel (br.reverseAux acc) c

/-- The sign of a numeric escape, whose digits begin the text. -/
def numericEscape (width : Nat) (t : Text) : Except Failure Text.Sign :=
  let digits := t.take width
  if digits.length < width then .error .malformed
  else match Text.nat? 16 digits with
    | some n => signOf n
    | none => .error .malformed

/-- The characters of a quoted scalar behind its opening quote. -/
def quotedFrom (double : Bool) :
    (fuel : Nat) → (acc : Text) → Cursor → Except Failure (Text × Cursor)
  | 0, _, _ => .error .malformed
  | fuel + 1, acc, c =>
    match c.rest with
    | [] => .error .malformed
    | x :: after =>
      if double && x == '"' then .ok (acc.reverse, c.next)
      else if !double && x == '\'' then
        if after.head? == some '\'' then quotedFrom double fuel ('\'' :: acc) (c.skip 2)
        else .ok (acc.reverse, c.next)
      else if x == ' ' || x == '\t' then
        let (blanks, c) := c.takeWhile fun x => x == ' ' || x == '\t'
        if c.rest.isEmpty then .error .malformed
        else if isBreakOrEnd (c.peek 0) then quotedFrom double fuel acc c
        else quotedFrom double fuel (blanks.reverseAux acc) c
      else if isBreak x then
        let (br, c) := c.takeBreak
        match quotedBreaks (c.left + 1) [] c with
        | .error f => .error f
        | .ok (others, c) => quotedFrom double fuel ((fold br others).reverseAux acc) c
      else if double && x == '\\' then
        match after with
        | [] => .error .malformed
        | e :: digits =>
          match escapedChar? e, escapeWidth? e with
          | some d, _ => quotedFrom double fuel (d :: acc) (c.skip 2)
          | none, some width => match numericEscape width digits with
            | .error f => .error f
            | .ok s => quotedFrom double fuel (s.spelling.reverseAux acc) (c.skip (2 + width))
          | none, none =>
            if isBreak e then
              let (_, c) := c.next.takeBreak
              match quotedBreaks (c.left + 1) [] c with
              | .error f => .error f
              | .ok (others, c) => quotedFrom double fuel (others.reverseAux acc) c
            else .error .malformed
      else quotedFrom double fuel (x :: acc) c.next

/-- A quoted scalar, from its opening quote. -/
def quoted (double : Bool) (c : Cursor) : Except Failure (Text × Cursor) :=
  quotedFrom double (c.left + 1) [] c.next

/-- What becomes of the line breaks at the end of a block scalar. -/
inductive Chomping where
  | strip
  | clip
  | keep
deriving DecidableEq

/-- The indicators behind the `|` or `>` of a block scalar: chomping and indentation in either
order. -/
def blockIndicators (c : Cursor) : Option (Chomping × Option Nat × Cursor) :=
  let chomping? (x : Char) : Option Chomping :=
    if x = '+' then some .keep else if x = '-' then some .strip else none
  let digit? (x : Char) : Option Nat := if x.isDigit then some (x.toNat - 48) else none
  let result := match c.rest with
    | x :: y :: _ =>
      match chomping? x, digit? x with
      | some ch, _ => match digit? y with
        | some d => (ch, some d, c.skip 2)
        | none => (ch, none, c.next)
      | none, some d => match chomping? y with
        | some ch => (ch, some d, c.skip 2)
        | none => (.clip, some d, c.next)
      | none, none => (.clip, none, c)
    | [x] => match chomping? x, digit? x with
      | some ch, _ => (ch, none, c.next)
      | none, some d => (.clip, some d, c.next)
      | none, none => (.clip, none, c)
    | [] => (.clip, none, c)
  let (chomping, increment, c) := result
  if increment = some 0 then none
  else if !(isGap (c.peek 0)) then none
  else
    -- the rest of the line may hold spaces and a comment
    let c := c.skipWhile (· == ' ')
    let c := if c.at? '#' then c.skipWhile fun x => !isBreak x else c
    if isBreakOrEnd (c.peek 0) then some (chomping, increment, c.takeBreak.2) else none

/-- Blank lines in front of a block scalar whose indentation is still to be found, with the widest
indentation seen. -/
def blockStart : (fuel : Nat) → Text → (widest : Nat) → Cursor → Text × Nat × Cursor
  | 0, acc, widest, c => (acc.reverse, widest, c)
  | fuel + 1, acc, widest, c =>
    if c.at? ' ' then
      let c := c.next
      blockStart fuel acc (max widest c.column) c
    else match c.takeBreak with
      | ([], c) => (acc.reverse, widest, c)
      | (br, c) => blockStart fuel (br.reverseAux acc) widest c

/-- Blank lines within a block scalar, and the indentation of the line behind them. -/
def blockBreaks (indent : Nat) : (fuel : Nat) → Text → Cursor → Text × Cursor
  | 0, acc, c => (acc.reverse, c)
  | fuel + 1, acc, c =>
    let spaces := min (indent - c.column) (c.rest.takeWhile (· == ' ')).length
    let c := c.skip spaces
    match c.takeBreak with
    | ([], c) => (acc.reverse, c)
    | (br, c) => blockBreaks indent fuel (br.reverseAux acc) c

/-- The lines of a block scalar: its text, the last line break, and the breaks behind that one. -/
def blockLines (folded : Bool) (indent : Nat) :
    (fuel : Nat) → (acc breaks lineBreak : Text) → Cursor → Text × Text × Text × Cursor
  | 0, acc, breaks, lineBreak, c => (acc.reverse, lineBreak, breaks, c)
  | fuel + 1, acc, breaks, lineBreak, c =>
    if c.column = indent ∧ c.rest ≠ [] then
      let blankAt (c : Cursor) : Bool := c.at? ' ' || c.at? '\t'
      let indented := blankAt c
      let (line, c) := c.takeWhile fun x => !isBreak x
      let acc := line.reverseAux (breaks.reverseAux acc)
      let (lineBreak, c) := c.takeBreak
      let (breaks, c) := blockBreaks indent (c.left + 1) [] c
      if c.column = indent ∧ c.rest ≠ [] then
        let gap :=
          if folded && lineBreak == ['\n'] && !indented && !blankAt c then
            if breaks.isEmpty then [' '] else []
          else lineBreak
        blockLines folded indent fuel (gap.reverseAux acc) breaks lineBreak c
      else (acc.reverse, lineBreak, breaks, c)
    else (acc.reverse, lineBreak, breaks, c)

/-- A literal or folded scalar, from its indicator, within a block indented by `indent`. -/
def block (folded : Bool) (indent : Int) (c : Cursor) : Except Failure (Text × Cursor) := do
  let (chomping, increment, c) ←
    match blockIndicators c.next with
    | some header => .ok header
    | none => .error .malformed
  let least := (max 1 (indent + 1)).toNat
  let (breaks, width, c) := match increment with
    | none =>
      let (breaks, widest, c) := blockStart (c.left + 1) [] 0 c
      (breaks, max least widest, c)
    | some d =>
      let width := least + d - 1
      let (breaks, c) := blockBreaks width (c.left + 1) [] c
      (breaks, width, c)
  let (text, lineBreak, breaks, c) := blockLines folded width (c.left + 1) [] breaks [] c
  let ending := match chomping with
    | .strip => []
    | .clip => lineBreak
    | .keep => lineBreak ++ breaks
  return (text ++ ending, c)

end Yaml
end Tablesmith
