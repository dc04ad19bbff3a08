/-
# Literals in source text

A literal of the generated source stands between double quotes on one line. It goes on to the first
quote that no backslash escapes (`IsBody` says what may stand in front of that), and what stands
there is read by these rules:

| behind a backslash | stands for |
| --- | --- |
| a newline | nothing |
| a backslash or a quote, single or double | itself |
| one of `abfnrtv` | a control character |
| up to three octal digits | the character with that number |
| `x`, `u`, `U` and two, four, eight hexadecimal digits | the character with that number |
| `N` and a name in braces | the character of that name |
| anything else | itself, with the backslash in front of it |

Characters without a backslash in front stand for themselves. Which character has which name is
left open: the reader takes it from the function `named`.

Escapes are read one character at a time (`run`), so that a text is read by reading its parts. A
text that is escaped character by character is then read back character by character
(`unescape?_escape`).
-/

import Tablesmith.Proofs.Text.OneLine
import Tablesmith.Text.Sign

namespace Tablesmith
namespace Source

section

variable {σ α : Type} {step : σ → Char → Option (List α × σ)} {s s' : σ} {t : Text} {xs : List α}

/-- What a reader finds in a text, and its state behind it, if it takes one character at a time. The
reader may refuse a character. -/
def run (step : σ → Char → Option (List α × σ)) : σ → Text → Option (List α × σ)
  | s, [] => some ([], s)
  | s, c :: t =>
    (step s c).bind fun read => (run step read.2 t).map fun rest => (read.1 ++ rest.1, rest.2)

/-- Puts what was found before in front. -/
def after (xs : List α) (found : Option (List α × σ)) : Option (List α × σ) :=
  found.map fun rest => (xs ++ rest.1, rest.2)

/-- What was found before stands in front of what is found. -/
@[simp] theorem after_some (xs ys : List α) (s : σ) :
    after xs (some (ys, s)) = some (xs ++ ys, s) := rfl

/-- Nothing found before adds nothing. -/
@[simp] theorem after_nil (found : Option (List α × σ)) : after [] found = found := by
  cases found <;> rfl

/-- What was found comes in the order in which it was found. -/
theorem after_after (xs ys : List α) (found : Option (List α × σ)) :
    after xs (after ys found) = after (xs ++ ys) found := by
  cases found with
  | none => rfl
  | some rest => rw [after, after, after, Option.map_some, Option.map_some, Option.map_some,
      List.append_assoc]

/-- A run takes one character, and goes on with the others. -/
theorem run_cons {c : Char} (h : step s c = some (xs, s')) (t : Text) :
    run step s (c :: t) = after xs (run step s' t) := by
  rw [run, h]
  rfl

/-- **Parts are read one after the other.** -/
theorem run_append (h : run step s t = some (xs, s')) (u : Text) :
    run step s (t ++ u) = after xs (run step s' u) := by
  induction t generalizing s xs with
  | nil =>
    obtain ⟨rfl, rfl⟩ := Prod.mk.inj (Option.some.inj h)
    rw [List.nil_append, after_nil]
  | cons c t ih =>
    rw [run, Option.bind_eq_some_iff] at h
    obtain ⟨⟨first, s₁⟩, hstep, h⟩ := h
    obtain ⟨⟨others, s₂⟩, hrest, h⟩ := Option.map_eq_some_iff.1 h
    obtain ⟨rfl, rfl⟩ := Prod.mk.inj h
    rw [List.cons_append, run_cons hstep, ih hrest, after_after]

end

/-- A character, or the name of one. -/
inductive Piece where
  | char (c : Char)
  | called (name : Text)
deriving Repr, DecidableEq

/-- Where a reader of escapes is. -/
inductive Place where
  /-- Behind a character or an escape. -/
  | outside
  /-- Behind a backslash. -/
  | backslash
  /-- Behind octal digits with a value; so many more may follow. -/
  | octal (more value : Nat)
  /-- Behind hexadecimal digits with a value; so many more have to follow. -/
  | hex (more value : Nat)
  /-- Where the name of a character has to open. -/
  | opening
  /-- In the name of a character. -/
  | name (read : Text)
deriving Repr, DecidableEq

/-- What one character behind a backslash stands for on its own. -/
def control? : Char → Option Char
  | '\\' => some '\\'
  | '\x27' => some '\x27'
  | '"' => some '"'
  | 'a' => some '\x07'
  | 'b' => some '\x08'
  | 'f' => some '\x0c'
  | 'n' => some '\n'
  | 'r' => some '\r'
  | 't' => some '\t'
  | 'v' => some '\x0b'
  | _ => none

/-- How many hexadecimal digits follow the letter of an escape. -/
def hexWidth? : Char → Option Nat
  | 'x' => some 2
  | 'u' => some 4
  | 'U' => some 8
  | _ => none

/-- The value of a digit from 0 to 7. -/
def octalValue? (c : Char) : Option Nat := (Text.hexValue? c).filter (· < 8)

/-- The sign with a number, if there is one, and what comes behind it. -/
def emit (n : Nat) (rest : List Piece × Place) : Option (List Piece × Place) :=
  (Text.Sign.ofNat? n).map fun s => (s.spelling.map .char ++ rest.1, rest.2)

/-- Reads a character outside of escapes. -/
def begin (c : Char) : List Piece × Place :=
  if c = '\\' then ([], .backslash) else ([.char c], .outside)

/-- Reads a character behind a backslash. -/
def escaped (c : Char) : List Piece × Place :=
  if c = '\n' then ([], .outside)
  else match control? c, octalValue? c, hexWidth? c with
  | some d, _, _ => ([.char d], .outside)
  | none, some n, _ => ([], .octal 2 n)
  | none, none, some width => ([], .hex width 0)
  | none, none, none =>
    if c = 'N' then ([], .opening) else ([.char '\\', .char c], .outside)

/-- Reads one character more. -/
def unescapeStep : Place → Char → Option (List Piece × Place)
  | .outside, c => some (begin c)
  | .backslash, c => some (escaped c)
  | .octal 0 n, c => emit n (begin c)
  | .octal (more + 1) n, c =>
    match octalValue? c with
    | some d => some ([], .octal more (n * 8 + d))
    | none => emit n (begin c)
  | .hex 0 _, _ => none
  | .hex (more + 1) n, c =>
    (Text.hexValue? c).bind fun d =>
      if more = 0 then emit (n * 16 + d) ([], .outside) else some ([], .hex more (n * 16 + d))
  | .opening, c => if c = '\x7b' then some ([], .name []) else none
  | .name read, c =>
    if c = '\x7d' then some ([.called read], .outside) else some ([], .name (read ++ [c]))

/-- What the end of a literal adds; it may not come within an escape. -/
def ending? : Place → Option (List Piece)
  | .outside => some []
  | .octal _ n => (emit n ([], .outside)).map Prod.fst
  | _ => none

/-- The character that a piece stands for. -/
def Piece.char? (named : Text → Option Char) : Piece → Option Char
  | .char c => some c
  | .called name => named name

/-- The text that the body of a literal stands for. -/
def unescape? (named : Text → Option Char) (body : Text) : Option Text := do
  let (pieces, place) ← run unescapeStep .outside body
  let last ← ending? place
  (pieces ++ last).mapM (Piece.char? named)

example : unescape? (fun name => if name = "BULLET" then some '•' else none)
    "\\x41\\101\\N\x7bBULLET\x7d\\q\\u00e9\\\n." = some "AA•\\qé.".toList := by decide +kernel

/-- Each character reads back from its escaped form. -/
theorem run_escapeChar (c : Char) :
    run unescapeStep .outside (Text.escapeChar c) = some ([.char c], .outside) := by
  by_cases hc : c.toNat < 128
  · have hascii : ∀ n < 128, run unescapeStep .outside (Text.escapeChar (Char.ofNat n)) =
        some ([.char (Char.ofNat n)], .outside) := by decide +kernel
    exact Text.ascii_of_forall
      (P := fun c => run unescapeStep .outside (Text.escapeChar c) = some ([.char c], .outside))
      hascii hc
  · have hbackslash : c ≠ '\\' := by
      rintro rfl
      exact hc (by decide)
    rw [Text.escapeChar_of_high (by omega), run, unescapeStep, begin, if_neg hbackslash]
    rfl

/-- What is escaped is read back, character by character. -/
theorem run_escape (t : Text) :
    run unescapeStep .outside (Text.escape t) = some (t.map Piece.char, .outside) := by
  induction t with
  | nil => rfl
  | cons c t ih =>
    have hcons : Text.escape (c :: t) = Text.escapeChar c ++ Text.escape t := rfl
    rw [hcons, run_append (run_escapeChar c), ih]
    rfl

/-- **An escaped text reads back,** whatever the characters are called. -/
theorem unescape?_escape (named : Text → Option Char) (t : Text) :
    unescape? named (Text.escape t) = some t := by
  have hpieces : (t.map Piece.char).mapM (Piece.char? named) = some t := by
    induction t with
    | nil => rfl
    | cons c t ih =>
      rw [List.map_cons, List.mapM_cons, ih]
      rfl
  rw [unescape?, run_escape]
  show (t.map Piece.char ++ []).mapM (Piece.char? named) = some t
  rw [List.append_nil, hpieces]

/-- Stands between the quotes of a literal: no control character, and no quote and no backslash but
behind a backslash. -/
inductive IsBody : Text → Prop
  | nil : IsBody []
  | char {c : Char} {t : Text} :
      32 ≤ c.toNat → c ≠ '"' → c ≠ '\\' → IsBody t → IsBody (c :: t)
  | escape {c : Char} {t : Text} : 32 ≤ c.toNat → IsBody t → IsBody ('\\' :: c :: t)

/-- Two bodies make a body. -/
theorem IsBody.append {s t : Text} (hs : IsBody s) (ht : IsBody t) : IsBody (s ++ t) := by
  induction hs with
  | nil => exact ht
  | char hc hquote hbackslash _ ih => exact .char hc hquote hbackslash ih
  | escape hc _ ih => exact .escape hc ih

/-- No character of a body is a control character. -/
theorem IsBody.le_toNat {t : Text} (h : IsBody t) : ∀ c ∈ t, 32 ≤ c.toNat := by
  induction h with
  | nil => exact List.forall_mem_nil _
  | char hc _ _ _ ih => exact List.forall_mem_cons.2 ⟨hc, ih⟩
  | escape hc _ ih =>
    exact List.forall_mem_cons.2 ⟨by decide, List.forall_mem_cons.2 ⟨hc, ih⟩⟩

/-- Is there neither a control character nor a quote nor a backslash? -/
def isBare (t : Text) : Bool := t.all fun c => 32 ≤ c.toNat && c != '"' && c != '\\'

/-- A bare text is the body of a literal. -/
theorem isBody_of_isBare {t : Text} (h : isBare t) : IsBody t := by
  induction t with
  | nil => exact .nil
  | cons c t ih =>
    rw [isBare, List.all_cons, ← isBare] at h
    simp only [Bool.and_eq_true, decide_eq_true_eq, bne_iff_ne] at h
    obtain ⟨⟨⟨hc, hquote⟩, hbackslash⟩, ht⟩ := h
    exact .char hc hquote hbackslash (ih ht)

/-- Is the text bare, apart from one escape in front? -/
def isBareBehindEscape : Text → Bool
  | '\\' :: c :: t => 32 ≤ c.toNat && isBare t
  | t => isBare t

/-- A text that is bare behind an escape is the body of a literal. -/
theorem isBody_of_isBareBehindEscape {t : Text} (h : isBareBehindEscape t) : IsBody t := by
  revert h
  fun_cases isBareBehindEscape t with
  | case1 c t =>
    intro h
    rw [Bool.and_eq_true, decide_eq_true_eq] at h
    exact .escape h.1 (isBody_of_isBare h.2)
  | case2 => exact isBody_of_isBare

/-- A character is written as it is, or as a backslash and what is bare behind the next
character. -/
theorem isBody_escapeChar (c : Char) : IsBody (Text.escapeChar c) := by
  by_cases hc : c.toNat < 128
  · have hascii : ∀ n < 128, isBareBehindEscape (Text.escapeChar (Char.ofNat n)) := by
      decide +kernel
    have hform := Text.ascii_of_forall (P := fun c => isBareBehindEscape (Text.escapeChar c))
      hascii hc
    exact isBody_of_isBareBehindEscape hform
  · have hne : ∀ d : Char, d.toNat < 128 → c ≠ d := by
      rintro d hd rfl
      exact hc hd
    rw [Text.escapeChar_of_high (by omega)]
    exact .char (by omega) (hne _ (by decide)) (hne _ (by decide)) .nil

/-- An escaped text is the body of a literal, whatever the text is. -/
theorem isBody_escape (t : Text) : IsBody (Text.escape t) := by
  induction t with
  | nil => exact .nil
  | cons c t ih => exact (isBody_escapeChar c).append ih

end Source
end Tablesmith
