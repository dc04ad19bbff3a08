/-
# Kinds of YAML nodes

A tag says what a node stands for. A plain scalar without one gets the tag that its form asks for:

| form | tag |
| --- | --- |
| empty, `~`, `null` | nothing |
| `yes`, `no`, `on`, `off`, `true`, `false` | a truth value |
| `12`, `0b11`, `014`, `0xC`, `1_000`, `1:30` | an integer |
| `1.5`, `.5`, `1.5e+3`, `.inf`, `.nan`, `1:30.5` | a double |
| `2024-01-15`, `2024-01-15 10:00:00` | a moment |
| `<<` | the key that merges mappings |
| `=` | the key of a mapping's own value |
| anything else | a text |

Words are taken in lower case, in capitals, and with a capital in front. A form may have a line
feed behind it, but only a text that is not empty.
-/

import Tablesmith.Text.Numeral

namespace Tablesmith
namespace Yaml

/-- What a node stands for. -/
inductive Tag where
  | null
  | bool
  | int
  | real
  | moment
  | bytes
  | text
  | list
  | map
  | set
  /-- A list of members. -/
  | pairs
  /-- A list of members in which no key should stand twice. -/
  | orderedMap
  | merge
  | value
  | unknown
deriving Repr, DecidableEq, Inhabited

namespace Tag

/-- What the tags of the language begin with. -/
def start : Text := "tag:yaml.org,2002:"

/-- The tags that are known by their names. -/
def named : List (Text × Tag) :=
  [("null", null), ("bool", bool), ("int", int), ("float", real), ("timestamp", moment),
    ("binary", bytes), ("str", text), ("seq", list), ("map", map), ("set", set), ("pairs", pairs),
    ("omap", orderedMap), ("merge", merge), ("value", value)]

/-- The tag with a whole name. -/
def ofName (name : Text) : Tag :=
  ((Text.after? start name).bind fun kind => named.lookup kind).getD unknown

/-- The three ways to write a word. -/
def spellings (word : Text) : List Text :=
  [word, word.map Char.toUpper,
    match word with
    | c :: cs => c.toUpper :: cs
    | [] => []]

/-- The words for truth values. -/
def boolWords : List (Text × Bool) :=
  [("yes", true), ("no", false), ("true", true), ("false", false), ("on", true), ("off", false)]

/-- Is this a word for a truth value? -/
def isBool (t : Text) : Bool := boolWords.any fun w => t ∈ spellings w.1

/-- Does the text stand for nothing? -/
def isNull (t : Text) : Bool := t = ['~'] || t ∈ spellings "null"

/-- The text without a sign in front. -/
def dropSign : Text → Text
  | '-' :: t => t
  | '+' :: t => t
  | t => t

/-- A digit or an underscore. -/
def isDigitOrUnderscore (c : Char) : Bool := c.isDigit || c == '_'

/-- Digits and underscores behind a digit, which is not zero unless zero is allowed in front. -/
def isDigits (zeroFirst : Bool) : Text → Bool
  | [] => false
  | c :: cs => c.isDigit && (zeroFirst || c != '0') && cs.all isDigitOrUnderscore

/-- Is this a part of a number in base sixty, behind a colon? -/
def isSixtieth (t : Text) : Bool :=
  match t with
  | [d] => d.isDigit
  | [d, e] => '0' ≤ d && d ≤ '5' && e.isDigit
  | _ => false

/-- Are these parts of a number in base sixty, the first one longer? -/
def isBaseSixty (zeroFirst : Bool) : List Text → Bool
  | first :: second :: more => isDigits zeroFirst first && (second :: more).all isSixtieth
  | _ => false

/-- Is this the form of an integer? -/
def isInt (t : Text) : Bool :=
  match dropSign t with
  | '0' :: 'b' :: ds => !ds.isEmpty && ds.all fun c => c == '0' || c == '1' || c == '_'
  | '0' :: 'x' :: ds => !ds.isEmpty && ds.all fun c => (Text.hexValue? c).isSome || c == '_'
  | '0' :: ds => ds.all fun c => ('0' ≤ c && c ≤ '7') || c == '_'
  | body => isDigits false body || isBaseSixty false (Text.cutAt ':' body)

/-- An exponent, which has a sign. -/
def isExponent : Text → Bool
  | e :: s :: ds =>
    (e == 'e' || e == 'E') && (s == '-' || s == '+') && ds ≠ [] && ds.all Char.isDigit
  | _ => false

/-- Is this the form of a double? -/
def isReal (t : Text) : Bool :=
  let body := dropSign t
  body ∈ (spellings "inf").map ('.' :: ·) || t ∈ ([".nan", ".NaN", ".NAN"] : List Text) ||
    let whole := body.takeWhile (· != '.')
    match body.dropWhile (· != '.') with
    | '.' :: rest =>
      let fraction := rest.takeWhile isDigitOrUnderscore
      let exponent := rest.dropWhile isDigitOrUnderscore
      let isDecimal :=
        if whole.isEmpty then body = t && isDigits true fraction else isDigits true whole
      (isDecimal && (exponent.isEmpty || isExponent exponent)) ||
        (exponent.isEmpty && isBaseSixty true (Text.cutAt ':' whole))
    | _ => false

/-- The numbers of a moment as they are written, and the offset with its sign. -/
structure MomentForm where
  year : Text
  month : Text
  day : Text
  time : Option (Text × Text × Text) := none
  fraction : Text := []
  isUniversal : Bool := false
  offset : Option (Char × Text × Text) := none
deriving Repr, DecidableEq

/-- Between `least` and `most` digits in front of the text, and what is left. -/
def digits? (least most : Nat) (t : Text) : Option (Text × Text) :=
  let ds := (t.take most).takeWhile Char.isDigit
  if ds.length < least then none else some (ds, t.drop ds.length)

/-- Space and tab. -/
def isBlank (c : Char) : Bool := c == ' ' || c == '\t'

/-- The moment with the offset that the text holds to its end. -/
def withOffset? (m : MomentForm) (t : Text) : Option MomentForm :=
  match t.dropWhile isBlank with
  | [] => if t.isEmpty then some m else none
  | ['Z'] => some { m with isUniversal := true }
  | c :: rest =>
    if c = '-' ∨ c = '+' then
      match digits? 1 2 rest with
      | some (hours, []) => some { m with offset := some (c, hours, []) }
      | some (hours, ':' :: rest) => match digits? 2 2 rest with
        | some (minutes, []) => some { m with offset := some (c, hours, minutes) }
        | _ => none
      | _ => none
    else none

/-- The moment with the time of day that the text holds, behind a `T` or blanks. -/
def withTime? (m : MomentForm) (t : Text) : Option MomentForm := do
  let t ← match t with
    | 'T' :: t | 't' :: t => some t
    | c :: t => if isBlank c then some (t.dropWhile isBlank) else none
    | [] => none
  let (hour, t) ← digits? 1 2 t
  let (minute, t) ← Text.after? [':'] t >>= digits? 2 2
  let (second, t) ← Text.after? [':'] t >>= digits? 2 2
  let m := { m with time := some (hour, minute, second) }
  match t with
  | '.' :: t =>
    withOffset? { m with fraction := t.takeWhile Char.isDigit } (t.dropWhile Char.isDigit)
  | t => withOffset? m t

/-- The moment that the text writes: a date, or a date and a time. -/
def momentForm? (t : Text) : Option MomentForm := do
  let (year, t) ← digits? 4 4 t
  let (month, t) ← Text.after? ['-'] t >>= digits? 1 2
  let (day, t) ← Text.after? ['-'] t >>= digits? 1 2
  let m : MomentForm := { year := year, month := month, day := day }
  if t.isEmpty then some m else withTime? m t

/-- Is this the form of a moment? A date without a time has two digits for month and day. -/
def isMoment (t : Text) : Bool :=
  (momentForm? t).any fun m => m.time.isSome || t.length == 10

/-- The tag that the form of a text asks for. -/
def ofForm (t : Text) : Tag :=
  if isBool t then bool
  else if isReal t then real
  else if isInt t then int
  else if t = ['<', '<'] then merge
  else if isNull t then null
  else if isMoment t then moment
  else if t = ['='] then value
  else if t ∈ ([['!'], ['&'], ['*']] : List Text) then unknown
  else text

/-- The text without a line feed at its end. -/
def dropLineFeed (t : Text) : Text := if t.getLast? = some '\n' then t.dropLast else t

/-- The tag of a plain scalar. -/
def ofPlain (t : Text) : Tag := if t.isEmpty then null else ofForm (dropLineFeed t)

example : ([ "0o7", "1e3", "+.inf", "-.5", "1:59", "1:60", "2024-1-5", "2024-1-5 1:00:00", "~"] :
    List Text).map ofPlain = [text, text, real, text, int, text, text, moment, null] := by
  decide +kernel

end Tag
end Yaml
end Tablesmith
