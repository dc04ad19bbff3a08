/-
# Reading JSON texts

A reader for JSON that says where it stopped: a text that is no JSON is refused with the offset of
the character at which the first value, delimiter, name or escape was missing. Beyond the standard
it takes `NaN`, `Infinity` and `-Infinity` for numbers, and of members with one name it keeps the
last value at the place of the first. Integers with too many digits and collections nested too
deeply are refused, wherever they stand.

A reader gets the rest of the text and answers the rest behind what it read, so offsets are
computed from sizes: `Stop.at left` says how much of the text was left where the reader stopped.
Nested readers share one amount of fuel, which no text can use up, since every step of a reader
takes a character; `depth` says how many collections may still be opened within one another.
-/

import Tablesmith.Value.Basic

namespace Tablesmith
namespace Json

/-- Why a text is refused. -/
inductive Stop where
  /-- The text is no JSON; so much of it is left at the place of the fault. -/
  | at (left : Nat)
  /-- An integer has too many digits. -/
  | longInteger
  /-- Collections are nested too deeply. -/
  | deepNesting
deriving Repr, DecidableEq

/-- The most digits of an integer. -/
def maxDigits : Nat := 4300

/-- The most collections that may stand within one another. -/
def maxDepth : Nat := 940

/-- What was read and what is left, or where the reader stopped. -/
abbrev Reading (α : Type) := Except Stop (α × Text)

/-- The blanks of JSON. -/
def isBlank (c : Char) : Bool := c == ' ' || c == '\t' || c == '\n' || c == '\r'

/-- Skips blanks. -/
def skip (t : Text) : Text := t.dropWhile isBlank

/-- Stops here. -/
def stopAt {α : Type} (t : Text) : Reading α := .error (.at (Text.size t))

/-- Half of a surrogate pair, or a character. -/
inductive Unit16 where
  | high (n : Nat)
  | low (n : Nat)
  | char (c : Char)

/-- The unit of a number below `2 ^ 16`. -/
def Unit16.ofNat (n : Nat) : Unit16 :=
  if 0xD800 ≤ n ∧ n < 0xDC00 then .high n
  else if 0xDC00 ≤ n ∧ n < 0xE000 then .low n
  else .char (Char.ofNat n)

/-- The number of four hexadecimal digits in front of the text. -/
def hex4? (t : Text) : Option Nat :=
  let digits := t.take 4
  if digits.length = 4 then Text.nat? 16 digits else none

/-- The character of a one-letter escape. -/
def shortEscape? : Char → Option Char
  | '"' => some '"'
  | '\\' => some '\\'
  | '/' => some '/'
  | 'b' => some '\x08'
  | 'f' => some '\x0c'
  | 'n' => some '\n'
  | 'r' => some '\r'
  | 't' => some '\t'
  | _ => none

/-- The characters of a text up to its closing quote. `start` is what was left at the opening quote,
and `acc` what was read so far, last character first. -/
def readText (start : Text) : (fuel : Nat) → (acc : Text) → Text → Reading Value
  | 0, _, t => stopAt t
  | _ + 1, _, [] => stopAt start
  | fuel + 1, acc, c :: t =>
    if c = '"' then .ok (.text acc.reverse, t)
    else if c.toNat < 32 then .error (.at (Text.size t + 1))
    else if c ≠ '\\' then readText start fuel (c :: acc) t
    else match t with
      | [] => stopAt start
      | 'u' :: t =>
        -- the closing quote has to follow somewhere, so five characters are asked for
        match (if (t.drop 4).isEmpty then none else hex4? t) with
        | none => .error (.at (Text.size t + 1))
        | some n =>
          let after := t.drop 4
          match Unit16.ofNat n, after with
          | .char d, _ => readText start fuel (d :: acc) after
          | .high n, '\\' :: 'u' :: second =>
            if (second.drop 4).isEmpty then
              readText start fuel ((Text.half n).reverseAux acc) after
            else match hex4? second with
            | none => .error (.at (Text.size second + 1))
            | some k => match Unit16.ofNat k with
              | .low k =>
                let joined := Text.ofChars [Text.joinHalves n k]
                readText start fuel (joined.reverseAux acc) (second.drop 4)
              | _ => readText start fuel ((Text.half n).reverseAux acc) after
          | .high n, _ | .low n, _ =>
            readText start fuel ((Text.half n).reverseAux acc) after
      | e :: t' =>
        match shortEscape? e with
        | some d => readText start fuel (d :: acc) t'
        | none => .error (.at (Text.size t + 1))

/-- A number in front of the text: an integer, or a double if there is a fraction or an exponent.
A point without a digit behind it and an exponent without digits are left unread. -/
def number? (t : Text) : Option (Except Stop Value × Text) :=
  let (negative, body) := match t with
    | '-' :: t => (true, t)
    | t => (false, t)
  let whole := match body with
    | '0' :: _ => ['0']
    | t => t.takeWhile Char.isDigit
  if whole.isEmpty then none
  else
    let rest := body.drop whole.length
    let (fraction, rest) := match rest with
      | '.' :: t =>
        let digits := t.takeWhile Char.isDigit
        if digits.isEmpty then ([], rest) else ('.' :: digits, t.dropWhile Char.isDigit)
      | _ => ([], rest)
    let (exponent, rest) := match rest with
      | e :: t =>
        if e = 'e' ∨ e = 'E' then
          let (sign, t) := match t with
            | '-' :: t => (['-'], t)
            | '+' :: t => (['+'], t)
            | t => ([], t)
          let digits := t.takeWhile Char.isDigit
          if digits.isEmpty then ([], rest) else ('e' :: sign ++ digits, t.dropWhile Char.isDigit)
        else ([], rest)
      | [] => ([], rest)
    let sign := if negative then ['-'] else []
    if fraction.isEmpty && exponent.isEmpty then
      if maxDigits < whole.length then some (.error .longInteger, rest)
      else (Text.nat? 10 whole).map fun n => (.ok (.int (if negative then -(n : Int) else n)), rest)
    else
      (Binary64.ofText? (sign ++ whole ++ fraction ++ exponent)).map fun x => (.ok (.real x), rest)

/-- The values that are spelled as words. -/
def words : List (Text × Value) :=
  [("null", .null), ("true", .bool true), ("false", .bool false), ("NaN", .real .nan),
    ("Infinity", .real (.infinite false)), ("-Infinity", .real (.infinite true))]

/-- A word or a number in front of the text. -/
def readPlain (t : Text) : Reading Value :=
  match words.findSome? fun (w, v) => (Text.after? w t).map fun rest => (v, rest) with
  | some r => .ok r
  | none => match number? t with
    | some (.ok v, rest) => .ok (v, rest)
    | some (.error s, _) => .error s
    | none => stopAt t

mutual

/-- A value in front of the text. -/
def readValue : (fuel depth : Nat) → Text → Reading Value
  | 0, _, t => stopAt t
  | fuel + 1, depth, t =>
    match t, depth with
    | '"' :: rest, _ => readText t fuel [] rest
    | '[' :: _, 0 => .error .deepNesting
    | '\x7b' :: _, 0 => .error .deepNesting
    | '[' :: rest, depth + 1 =>
      match skip rest with
      | ']' :: rest => .ok (.list [], rest)
      | rest => readItems fuel depth [] rest
    | '\x7b' :: rest, depth + 1 =>
      match skip rest with
      | '\x7d' :: rest => .ok (.map [], rest)
      | rest => readMembers fuel depth [] rest
    | _, _ => readPlain t

/-- The items of a list up to its closing bracket. -/
def readItems : (fuel depth : Nat) → (acc : List Value) → Text → Reading Value
  | 0, _, _, t => stopAt t
  | fuel + 1, depth, acc, t =>
    match readValue fuel depth t with
    | .error s => .error s
    | .ok (v, t) =>
      match skip t with
      | ']' :: rest => .ok (.list (acc.reverse ++ [v]), rest)
      | ',' :: rest => readItems fuel depth (v :: acc) (skip rest)
      | t => stopAt t

/-- The members of a mapping up to its closing brace. -/
def readMembers : (fuel depth : Nat) → (acc : List (Value × Value)) → Text → Reading Value
  | 0, _, _, t => stopAt t
  | fuel + 1, depth, acc, t =>
    match t with
    | '"' :: rest =>
      match readText t fuel [] rest with
      | .error s => .error s
      | .ok (key, rest) =>
        match skip rest with
        | ':' :: rest =>
          match readValue fuel depth (skip rest) with
          | .error s => .error s
          | .ok (v, rest) =>
            let acc := Value.putMember key v acc
            match skip rest with
            | '\x7d' :: rest => .ok (.map acc, rest)
            | ',' :: rest => readMembers fuel depth acc (skip rest)
            | t => stopAt t
        | t => stopAt t
    | _ => stopAt t

end

/-- Why a text is not read: it is no JSON from an offset on, or it goes beyond a limit. -/
inductive Refusal where
  | malformed (offset : Nat)
  | longInteger
  | deepNesting
deriving Repr, DecidableEq

/-- The value of a text that holds one JSON value and blanks around it. -/
def parse (t : Text) : Except Refusal Value :=
  let refuse : Stop → Refusal
    | .at left => .malformed (Text.size t - left)
    | .longInteger => .longInteger
    | .deepNesting => .deepNesting
  match readValue (2 * t.length + 2) maxDepth (skip t) with
  | .error s => .error (refuse s)
  | .ok (v, rest) => match skip rest with
    | [] => .ok v
    | rest => .error (refuse (.at (Text.size rest)))

example : (match parse " [1, \"\\ud83d\\ude00\"]" with
    | .ok (.list [.int 1, .text t]) => t
    | _ => []) = ['😀'] := by
  decide +kernel

example : (match parse ("[\"".toList ++ Text.ofChars [Text.halfMark] ++ "\",]".toList) with
    | .ok _ => none
    | .error r => some r) = some (.malformed 5) := by
  decide +kernel

example : (match parse "[1,]" with
    | .ok _ => none
    | .error r => some r) = some (.malformed 3) := by
  decide +kernel

end Json
end Tablesmith
