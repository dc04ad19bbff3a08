/-
# Code and literals

A source text is code with literals in it. Where a literal ends is decided by what stands in it, so
a text that is put between quotes can end the literal before its time, and what was to follow is
read as something else. In a formatted literal a brace does the same: it opens a field.

| in front of the quotes | literal | ends at | fields |
| --- | --- | --- | --- |
| nothing | `plain` | the next quote that no backslash escapes | none |
| nothing, three of them | `long` | the next three quotes | none |
| an `f` | `formatted` | the next quote | between braces |

The reader takes a text apart into characters of code and literals (`atoms?`), as much as the
generated source makes use of: it refuses single quotes, letters other than `f` in front of a
literal, backslashes outside of plain literals, doubled braces, formats of fields, literals in
fields, and carriage returns. What it reads is all of the text (`flatMap_text_of_atoms?`), so the
literals that it finds (`Quotes`) are cut out of the code at their own quotes.
-/

import Tablesmith.Proofs.Source.Line

namespace Tablesmith
namespace Source

/-- A field of a formatted literal, and the text between it and what it follows. -/
structure Field where
  before : Text
  expression : Text
  /-- The letter behind the exclamation mark, if there is one. -/
  conversion : Option Char
deriving Repr, DecidableEq

/-- A literal, by what stands between its quotes. -/
inductive Quotation where
  | plain (body : Text)
  | long (body : Text)
  | formatted (fields : List Field) (last : Text)
deriving Repr, DecidableEq

/-- What source text is made of. Comments count as code. -/
inductive Atom where
  | code (c : Char)
  | quoted (q : Quotation)
deriving Repr, DecidableEq

/-- How a field is written, from the text in front of it on. -/
def Field.text (f : Field) : Text :=
  f.before ++ '\x7b' :: f.expression ++ f.conversion.elim [] (fun c => ['!', c]) ++ ['\x7d']

/-- How a literal is written. The `f` in front of a formatted one is code. -/
def Quotation.text : Quotation → Text
  | .plain body => '"' :: body ++ ['"']
  | .long body => ("\"\"\"" : Text) ++ body ++ "\"\"\""
  | .formatted fields last => '"' :: fields.flatMap Field.text ++ last ++ ['"']

/-- How an atom is written. -/
def Atom.text : Atom → Text
  | .code c => [c]
  | .quoted q => q.text

/-- The literal, if the atom is one. -/
def Atom.quotation? : Atom → Option Quotation
  | .code _ => none
  | .quoted q => some q

namespace Cut

/-- Where the reader is. -/
inductive State where
  /-- Outside of literals, behind these characters of a word. -/
  | code (word : Text)
  | comment
  /-- Behind an opening quote. -/
  | opened (formatted : Bool)
  /-- Behind two quotes. -/
  | twice
  | plain (body : Text)
  /-- Behind a backslash in a plain literal. -/
  | backslash (body : Text)
  | formatted (fields : List Field) (body : Text)
  /-- In the expression of a field, within so many parentheses. -/
  | field (fields : List Field) (before : Text) (depth : Nat) (expression : Text)
  /-- Behind the exclamation mark of a field. -/
  | conversion (fields : List Field) (before expression : Text)
  /-- Behind the letter of a conversion. -/
  | converted (fields : List Field) (before expression : Text) (letter : Char)
  /-- Between three quotes, behind so many quotes that may close the literal. -/
  | long (quotes : Nat) (body : Text)
deriving Repr, DecidableEq

/-- Outside of literals and words. -/
def outside : State := .code []

/-- Reads a character outside of literals. -/
def codeStep (word : Text) (c : Char) : Option (List Atom × State) :=
  if isNameChar c then some ([.code c], .code (word ++ [c]))
  else if endsWord c then some ([.code c], outside)
  else if c = '#' then some ([.code c], .comment)
  else if c = '"' ∧ word = [] then some ([], .opened false)
  else if c = '"' ∧ word = ['f'] then some ([], .opened true)
  else none

/-- Reads a character in a plain literal. -/
def plainStep (body : Text) (c : Char) : Option (List Atom × State) :=
  if c = '"' then some ([.quoted (.plain body)], outside)
  else if c = '\\' then some ([], .backslash body)
  else if c = '\n' ∨ isBroken c then none
  else some ([], .plain (body ++ [c]))

/-- Reads a character in a formatted literal. -/
def formattedStep (fields : List Field) (body : Text) (c : Char) : Option (List Atom × State) :=
  if c = '"' then some ([.quoted (.formatted fields body)], outside)
  else if c = '\x7b' then some ([], .field fields body 0 [])
  else if c = '\x7d' ∨ c = '\\' ∨ c = '\n' ∨ isBroken c then none
  else some ([], .formatted fields (body ++ [c]))

/-- Reads a character in the expression of a field: names, dots, commas, blanks and parentheses. -/
def fieldStep (fields : List Field) (before : Text) (depth : Nat) (expression : Text) (c : Char) :
    Option (List Atom × State) :=
  if isNameChar c ∨ c = '.' ∨ c = ',' ∨ c = ' ' then
    some ([], .field fields before depth (expression ++ [c]))
  else if c = '(' then some ([], .field fields before (depth + 1) (expression ++ [c]))
  else match depth with
  | depth + 1 =>
    if c = ')' then some ([], .field fields before depth (expression ++ [c])) else none
  | 0 =>
    if c = '!' then some ([], .conversion fields before expression)
    else if c = '\x7d' then some ([], .formatted (fields ++ [⟨before, expression, none⟩]) [])
    else none

/-- Reads one character more. -/
def step : State → Char → Option (List Atom × State)
  | .code word, c => codeStep word c
  | .comment, c =>
    if isBroken c then none else some ([.code c], if c = '\n' then outside else .comment)
  | .opened false, c => if c = '"' then some ([], .twice) else plainStep [] c
  | .opened true, c => if c = '"' then none else formattedStep [] [] c
  | .twice, c =>
    if c = '"' then some ([], .long 0 [])
    else (codeStep [] c).map fun read => (.quoted (.plain []) :: read.1, read.2)
  | .plain body, c => plainStep body c
  | .backslash body, c => if isBroken c then none else some ([], .plain (body ++ ['\\', c]))
  | .formatted fields body, c => formattedStep fields body c
  | .field fields before depth expression, c => fieldStep fields before depth expression c
  | .conversion fields before expression, c =>
    if c = 'r' ∨ c = 's' ∨ c = 'a' then some ([], .converted fields before expression c) else none
  | .converted fields before expression letter, c =>
    if c = '\x7d' then some ([], .formatted (fields ++ [⟨before, expression, some letter⟩]) [])
    else none
  | .long quotes body, c =>
    if c = '"' then
      if quotes = 2 then some ([.quoted (.long body)], outside)
      else some ([], .long (quotes + 1) body)
    else if c = '\\' ∨ isBroken c then none
    else some ([], .long 0 (body ++ List.replicate quotes '"' ++ [c]))

end Cut

/-- The atoms of a text, the newline behind its last line included. Nothing may be left open there.
-/
def atoms? (t : Text) : Option (List Atom) :=
  (run Cut.step Cut.outside (t ++ ['\n'])).bind fun read =>
    if read.2 = Cut.outside then some read.1 else none

/-- The literals of a text that can be read. -/
def quotationsOf (t : Text) : List Quotation := ((atoms? t).getD []).filterMap Atom.quotation?

example : quotationsOf "f(\"a\\\"\", f\"b \x7bg(c)!r\x7d\") # \"" =
    [.plain "a\\\"", .formatted [⟨"b ", "g(c)", some 'r'⟩] []] := by decide +kernel

namespace Cut

/-- What was read and belongs to no atom yet. -/
def pending : State → Text
  | .code _ => []
  | .comment => []
  | .opened _ => ['"']
  | .twice => ['"', '"']
  | .plain body => '"' :: body
  | .backslash body => '"' :: body ++ ['\\']
  | .formatted fields body => '"' :: fields.flatMap Field.text ++ body
  | .field fields before _ expression =>
    '"' :: fields.flatMap Field.text ++ before ++ '\x7b' :: expression
  | .conversion fields before expression =>
    '"' :: fields.flatMap Field.text ++ before ++ '\x7b' :: expression ++ ['!']
  | .converted fields before expression letter =>
    '"' :: fields.flatMap Field.text ++ before ++ '\x7b' :: expression ++ ['!', letter]
  | .long quotes body => ("\"\"\"" : Text) ++ body ++ List.replicate quotes '"'

/-- The reader keeps the character `c` and what was pending in front of it. -/
def Keeps (before : Text) (c : Char) (found : Option (List Atom × State)) : Prop :=
  ∀ read ∈ found, read.1.flatMap Atom.text ++ pending read.2 = before ++ [c]

/-- Where nothing is read on, nothing is lost. -/
theorem keeps_none {before : Text} {c : Char} : Keeps before c none := nofun

/-- Atoms and what is pending behind them keep what was read. -/
theorem keeps_some {before : Text} {c : Char} {atoms : List Atom} {s : State}
    (h : atoms.flatMap Atom.text ++ pending s = before ++ [c]) :
    Keeps before c (some (atoms, s)) := by
  rintro _ ⟨⟩
  exact h

/-- A character outside of literals is kept. -/
theorem keeps_codeStep (word : Text) (c : Char) : Keeps [] c (codeStep word c) := by
  rw [codeStep]
  split
  · exact keeps_some rfl
  split
  · exact keeps_some rfl
  split
  · exact keeps_some rfl
  split
  · next hc => exact keeps_some (by rw [hc.1]; rfl)
  split
  · next hc => exact keeps_some (by rw [hc.1]; rfl)
  · exact keeps_none

/-- A character in a plain literal is kept. -/
theorem keeps_plainStep (body : Text) (c : Char) : Keeps ('"' :: body) c (plainStep body c) := by
  rw [plainStep]
  split
  · next hc => exact keeps_some (by simp [hc, Atom.text, Quotation.text, pending, outside])
  split
  · next hc => exact keeps_some (by simp [hc, pending])
  split
  · exact keeps_none
  · exact keeps_some rfl

/-- A character in a formatted literal is kept. -/
theorem keeps_formattedStep (fields : List Field) (body : Text) (c : Char) :
    Keeps ('"' :: fields.flatMap Field.text ++ body) c (formattedStep fields body c) := by
  rw [formattedStep]
  split
  · next hc => exact keeps_some (by simp [hc, Atom.text, Quotation.text, pending, outside])
  split
  · next hc => exact keeps_some (by simp [hc, pending])
  split
  · exact keeps_none
  · exact keeps_some (by simp [pending])

/-- A character in the expression of a field is kept. -/
theorem keeps_fieldStep (fields : List Field) (before : Text) (depth : Nat) (expression : Text)
    (c : Char) : Keeps ('"' :: fields.flatMap Field.text ++ before ++ '\x7b' :: expression) c
      (fieldStep fields before depth expression c) := by
  delta fieldStep
  split
  · exact keeps_some (by simp [pending])
  split
  · exact keeps_some (by simp [pending])
  cases depth with
  | zero =>
    show Keeps _ c (if c = '!' then _ else _)
    split
    · next hc => exact keeps_some (by simp [hc, pending])
    split
    · next hc => exact keeps_some (by simp [hc, pending, Field.text])
    · exact keeps_none
  | succ depth =>
    show Keeps _ c (if c = ')' then _ else _)
    split
    · exact keeps_some (by simp [pending])
    · exact keeps_none

/-- **Each step keeps what was pending,** in the atoms that it finds or for the next one. -/
theorem keeps_step (s : State) (c : Char) : Keeps (pending s) c (step s c) := by
  cases s with
  | code word => exact keeps_codeStep word c
  | comment =>
    show Keeps _ c (if isBroken c then _ else _)
    split
    · exact keeps_none
    · refine keeps_some ?_
      split <;> rfl
  | opened formatted =>
    cases formatted with
    | false =>
      show Keeps _ c (if c = '"' then _ else _)
      split
      · next hc => exact keeps_some (by rw [hc]; rfl)
      · exact keeps_plainStep [] c
    | true =>
      show Keeps _ c (if c = '"' then _ else _)
      split
      · exact keeps_none
      · exact keeps_formattedStep [] [] c
  | twice =>
    show Keeps _ c (if c = '"' then _ else _)
    split
    · next hc => exact keeps_some (by rw [hc]; rfl)
    · intro read hread
      obtain ⟨first, hfirst, rfl⟩ := Option.map_eq_some_iff.1 hread
      exact congrArg (['"', '"'] ++ ·) (keeps_codeStep [] c first hfirst)
  | plain body => exact keeps_plainStep body c
  | backslash body =>
    show Keeps _ c (if isBroken c then _ else _)
    split
    · exact keeps_none
    · exact keeps_some (by simp [pending])
  | formatted fields body => exact keeps_formattedStep fields body c
  | field fields before depth expression => exact keeps_fieldStep fields before depth expression c
  | conversion fields before expression =>
    show Keeps _ c (if _ then _ else _)
    split
    · exact keeps_some (by simp [pending])
    · exact keeps_none
  | converted fields before expression letter =>
    show Keeps _ c (if _ then _ else _)
    split
    · next hc => exact keeps_some (by simp [hc, pending, Field.text])
    · exact keeps_none
  | long quotes body =>
    show Keeps _ c (if c = '"' then if quotes = 2 then _ else _ else if _ then _ else _)
    split
    · next hc =>
      split
      · next hquotes =>
        exact keeps_some (by simp [hc, hquotes, Atom.text, Quotation.text, pending, outside])
      · exact keeps_some (by simp [hc, pending, List.replicate_succ'])
    split
    · exact keeps_none
    · exact keeps_some (by simp [pending])

/-- Nor does a run lose anything. -/
theorem flatMap_text_append_pending {s s' : State} {t : Text} {atoms : List Atom}
    (h : run step s t = some (atoms, s')) :
    atoms.flatMap Atom.text ++ pending s' = pending s ++ t := by
  induction t generalizing s atoms with
  | nil =>
    obtain ⟨rfl, rfl⟩ := Prod.mk.inj (Option.some.inj h)
    rw [List.append_nil]
    rfl
  | cons c t ih =>
    rw [run, Option.bind_eq_some_iff] at h
    obtain ⟨⟨first, s₁⟩, hstep, h⟩ := h
    obtain ⟨⟨others, s₂⟩, hrest, h⟩ := Option.map_eq_some_iff.1 h
    obtain ⟨rfl, rfl⟩ := Prod.mk.inj h
    have hfirst := keeps_step s c _ hstep
    rw [List.flatMap_append, List.append_assoc, ih hrest, ← List.append_assoc]
    rw [hfirst, List.append_assoc]
    rfl

end Cut

/-- **The atoms of a text are all of it,** with a newline behind its last line. -/
theorem flatMap_text_of_atoms? {t : Text} {atoms : List Atom} (h : atoms? t = some atoms) :
    atoms.flatMap Atom.text = t ++ ['\n'] := by
  obtain ⟨⟨found, s⟩, hrun, h⟩ := Option.bind_eq_some_iff.1 h
  split at h
  · next hs =>
    obtain rfl := Option.some.inj h
    have hall := Cut.flatMap_text_append_pending hrun
    rw [show s = Cut.outside from hs] at hall
    exact (List.append_nil _).symm.trans hall
  · cases h

/-- The text is code and these literals. -/
def Quotes (t : Text) (qs : List Quotation) : Prop :=
  ∃ atoms, atoms? t = some atoms ∧ atoms.flatMap Atom.text = t ++ ['\n'] ∧
    atoms.filterMap Atom.quotation? = qs

/-- The literals of a text are those that it is made of. -/
theorem quotationsOf_of_quotes {t : Text} {qs : List Quotation} (h : Quotes t qs) :
    quotationsOf t = qs := by
  obtain ⟨atoms, hatoms, -, hqs⟩ := h
  rw [quotationsOf, hatoms, Option.getD_some, hqs]

end Source
end Tablesmith
