/-
# Lines of source text

A line of the generated source is read as tokens: words, literals and marks. Blanks separate tokens
and a number sign begins a comment. A quote opens a literal that goes on to the next quote, three
quotes one that goes on to the next three; behind an `f` a literal is formatted, and what stands
between braces in it is read like the rest of the line, up to a conversion or a format.

Only what the generated source makes use of is read: the reader refuses single quotes, letters in
front of a literal other than `f`, braces and quotes within the braces of a formatted literal,
backslashes outside of literals, and carriage returns.

What a text is read as can depend on what follows it, since a word goes on to the first character
that belongs to none. `Reads t ts` says that a text is read as the tokens `ts` wherever a word ends
behind it. Such texts are put together by marks and blanks (`Reads.between`), and a line that is one
is read as its tokens (`tokens?_of_reads`).
-/

import Tablesmith.Module.Function
import Tablesmith.Proofs.Source.Literal

namespace Tablesmith
namespace Source

/-- The smallest units of a line. -/
inductive Token where
  /-- A name, a reserved word or the digits of a number. -/
  | word (t : Text)
  /-- What stands between the quotes of a literal, or a part of it between two fields. -/
  | literal (body : Text)
  | mark (c : Char)
deriving Repr, DecidableEq

/-- Does the character belong to a word? -/
def isNameChar (c : Char) : Bool := c.isAlphanum || c == '_' || 128 ≤ c.toNat

/-- Operators and delimiters. -/
def isMark (c : Char) : Bool := ("()[]\x7b\x7d,:;.=+-*/%<>&|^~@!" : Text).contains c

/-- Blanks and the end of the line. -/
def isGap (c : Char) : Bool := (" \t\x0c\n" : Text).contains c

/-- Is the character no part of a word, whatever it follows? -/
def endsWord (c : Char) : Bool := isGap c || isMark c

/-- Characters that no source text has in a literal. -/
def isBroken (c : Char) : Bool := c == '\r' || c == '\x00'

/-- Where a reader of a line is. -/
inductive State where
  /-- Outside of literals, or in a field of one, behind these characters of a word. -/
  | code (field : Bool) (word : Text)
  /-- Behind an opening quote. -/
  | opened (formatted : Bool)
  /-- Behind two quotes. -/
  | twice (formatted : Bool)
  /-- In a literal, behind these characters of it. -/
  | text (formatted : Bool) (body : Text)
  /-- Behind a backslash in a literal. -/
  | backslash (formatted : Bool) (body : Text)
  /-- In a literal between three quotes, behind so many quotes that may close it. -/
  | long (quotes : Nat) (body : Text)
  /-- In the conversion or format of a field. -/
  | format
  | comment
deriving Repr, DecidableEq

/-- Outside of literals, and not in a word. -/
def fresh : State := .code false []

/-- The word that ends here, if there is one. -/
def ended (word : Text) : List Token := if word.isEmpty then [] else [.word word]

/-- The token that the character is by itself, if it is one. -/
def alone (c : Char) : List Token := if isMark c then [.mark c] else []

/-- Reads a character outside of literals. -/
def codeStep (word : Text) (c : Char) : Option (List Token × State) :=
  if isNameChar c then some ([], .code false (word ++ [c]))
  else if endsWord c then some (ended word ++ alone c, fresh)
  else if c = '#' then some (ended word, .comment)
  else if c = '"' ∧ word = [] then some ([], .opened false)
  else if c = '"' ∧ word = ['f'] then some ([], .opened true)
  else none

/-- Reads a character in a field of a formatted literal. -/
def fieldStep (word : Text) (c : Char) : Option (List Token × State) :=
  if isNameChar c then some ([], .code true (word ++ [c]))
  else if c = '\x7d' then some (ended word ++ [.mark c], .text true [])
  else if c = '!' ∨ c = ':' then some (ended word, .format)
  else if endsWord c ∧ c ≠ '\x7b' ∧ c ≠ '\n' then some (ended word ++ alone c, .code true [])
  else none

/-- Reads a character in a literal. -/
def textStep (formatted : Bool) (body : Text) (c : Char) : Option (List Token × State) :=
  if c = '"' then some ([.literal body], fresh)
  else if c = '\\' then some ([], .backslash formatted body)
  else if c = '\n' ∨ isBroken c then none
  else if formatted ∧ c = '\x7b' then some ([.literal body, .mark c], .code true [])
  else if formatted ∧ c = '\x7d' then none
  else some ([], .text formatted (body ++ [c]))

/-- Reads one character more. -/
def step : State → Char → Option (List Token × State)
  | .code false word, c => codeStep word c
  | .code true word, c => fieldStep word c
  | .opened formatted, c =>
    if c = '"' then some ([], .twice formatted) else textStep formatted [] c
  | .twice formatted, c =>
    if c = '"' then if formatted then none else some ([], .long 0 [])
    else (codeStep [] c).map fun read => (.literal [] :: read.1, read.2)
  | .text formatted body, c => textStep formatted body c
  | .backslash formatted body, c =>
    if isBroken c then none else some ([], .text formatted (body ++ ['\\', c]))
  | .long quotes body, c =>
    if c = '"' then
      if quotes = 2 then some ([.literal body], fresh) else some ([], .long (quotes + 1) body)
    else if c = '\\' ∨ isBroken c then none
    else some ([], .long 0 (body ++ List.replicate quotes '"' ++ [c]))
  | .format, c =>
    if c = '\x7d' then some ([.mark c], .text true [])
    else if c = '"' ∨ c = '\x7b' ∨ c = '\n' then none
    else some ([], .format)
  | .comment, c => some ([], if c = '\n' then fresh else .comment)

/-- The tokens of a line; nothing of it may be left open. -/
def tokens? (line : Text) : Option (List Token) :=
  (run step fresh (line ++ ['\n'])).bind fun read => if read.2 = fresh then some read.1 else none

example : tokens? "print(f\"no \x7bkey!r\x7d\") # ?" = some [.word "print", .mark '(',
    .literal "no ", .mark '\x7b', .word "key", .mark '\x7d', .literal [], .mark ')'] := by decide

/-- The text is read as these tokens wherever a word ends behind it. -/
def Reads (t : Text) (ts : List Token) : Prop :=
  ∀ (c : Char) (rest : Text), endsWord c →
    run step fresh (t ++ c :: rest) = after ts (run step fresh (c :: rest))

/-- What ends a word is no part of it. -/
theorem isNameChar_of_endsWord {c : Char} (h : endsWord c) : isNameChar c = false := by
  have hgaps : (" \t\x0c\n" : Text).all fun d => !isNameChar d := by decide
  have hmarks : ("()[]\x7b\x7d,:;.=+-*/%<>&|^~@!" : Text).all fun d => !isNameChar d := by decide
  rw [endsWord, Bool.or_eq_true] at h
  rcases h with h | h
  · simpa using List.all_eq_true.1 hgaps c (List.contains_iff_mem.1 h)
  · simpa using List.all_eq_true.1 hmarks c (List.contains_iff_mem.1 h)

/-- What ends a word gives the word, and perhaps a mark of its own. -/
theorem codeStep_of_endsWord {c : Char} (h : endsWord c) (word : Text) :
    codeStep word c = some (ended word ++ alone c, fresh) := by
  rw [codeStep, if_neg (by simp [isNameChar_of_endsWord h]), if_pos h]

/-- What ends a word is read as it is behind no word. -/
theorem run_of_endsWord {c : Char} (h : endsWord c) (word rest : Text) :
    run step (.code false word) (c :: rest) = after (ended word) (run step fresh (c :: rest)) := by
  have hword : step (.code false word) c = some (ended word ++ alone c, fresh) :=
    codeStep_of_endsWord h word
  have hfresh : step fresh c = some (alone c, fresh) := codeStep_of_endsWord h []
  rw [run_cons hword, run_cons hfresh, after_after]

/-- A closed text is read by reading it. -/
theorem reads_of_run {t word : Text} {ts : List Token}
    (h : run step fresh t = some (ts, .code false word)) : Reads t (ts ++ ended word) := by
  intro c rest hc
  rw [run_append h, run_of_endsWord hc, after_after]

/-- Nothing is read as no token. -/
theorem reads_nil : Reads [] [] := fun _ _ _ => (after_nil _).symm

/-- A text that leaves no word open is read by itself, whatever follows. -/
theorem Reads.of_front {s t : Text} {ss ts : List Token} (hs : run step fresh s = some (ss, fresh))
    (ht : Reads t ts) : Reads (s ++ t) (ss ++ ts) := by
  intro c rest hc
  rw [List.append_assoc, run_append hs, ht c rest hc, after_after]

/-- **Texts are put together** by what ends a word. -/
theorem Reads.between {s t : Text} {ss ts : List Token} (hs : Reads s ss) {c : Char}
    (hc : endsWord c) (ht : Reads t ts) : Reads (s ++ c :: t) (ss ++ (alone c ++ ts)) := by
  intro d rest hd
  have hstep : step fresh c = some (alone c, fresh) := codeStep_of_endsWord hc []
  rw [List.append_assoc, List.cons_append, hs c _ hc, run_cons hstep, ht d rest hd, after_after,
    after_after, List.append_assoc]

/-- **A line is read as its tokens.** -/
theorem tokens?_of_reads {t : Text} {ts : List Token} (h : Reads t ts) : tokens? t = some ts := by
  have hend : run step fresh ['\n'] = some ([], fresh) := rfl
  rw [tokens?, h '\n' [] (by decide), hend, after_some, List.append_nil]
  rfl

/-- There is nothing in the text but characters of words. -/
def IsName (t : Text) : Prop := ∀ c ∈ t, isNameChar c

instance decidableIsName (t : Text) : Decidable (IsName t) :=
  List.decidableBAll (fun c => (isNameChar c : Prop)) t

/-- A text is a name just if both parts of it are. -/
@[simp] theorem isName_append_iff {s t : Text} : IsName (s ++ t) ↔ IsName s ∧ IsName t :=
  List.forall_mem_append

/-- A name is taken into the word in front of it, in a field as well. -/
theorem run_name {t : Text} (h : IsName t) (field : Bool) (word : Text) :
    run step (.code field word) t = some ([], .code field (word ++ t)) := by
  induction t generalizing word with
  | nil => rw [List.append_nil]; rfl
  | cons c t ih =>
    obtain ⟨hc, ht⟩ := List.forall_mem_cons.1 h
    have hstep : step (.code field word) c = some ([], .code field (word ++ [c])) := by
      cases field
      · exact if_pos hc
      · exact if_pos hc
    rw [run_cons hstep, after_nil, ih ht, List.append_assoc]
    rfl

/-- A name that is not empty. -/
structure IsWord (t : Text) : Prop where
  ne_nil : t ≠ []
  isName : IsName t

/-- A word that ends is one token. -/
theorem IsWord.ended {t : Text} (h : IsWord t) : ended t = [.word t] :=
  if_neg (by simpa using h.ne_nil)

/-- **A name is one word.** -/
theorem IsWord.reads {t : Text} (h : IsWord t) : Reads t [.word t] := by
  rw [← h.ended]
  exact reads_of_run (run_name h.isName false [])

/-- A character from the blank on breaks no literal. -/
theorem isBroken_of_le {c : Char} (h : 32 ≤ c.toNat) : isBroken c = false := by
  have hne : ∀ d : Char, d.toNat < 32 → c ≠ d := by
    rintro d hd rfl
    omega
  simp [isBroken, hne '\r' (by decide), hne '\x00' (by decide)]

/-- The body of a literal goes on to its end. -/
theorem run_body {t : Text} (h : IsBody t) (body : Text) :
    run step (.text false body) t = some ([], .text false (body ++ t)) := by
  induction h generalizing body with
  | nil => rw [List.append_nil]; rfl
  | @char c t hc hquote hbackslash _ ih =>
    have hnewline : c ≠ '\n' := by
      rintro rfl
      exact absurd hc (by decide)
    have hstep : step (.text false body) c = some ([], .text false (body ++ [c])) := by
      show textStep false body c = _
      rw [textStep, if_neg hquote, if_neg hbackslash,
        if_neg (by simp [hnewline, isBroken_of_le hc]), if_neg fun h => Bool.false_ne_true h.1,
        if_neg fun h => Bool.false_ne_true h.1]
    rw [run_cons hstep, after_nil, ih, List.append_assoc]
    rfl
  | @escape c t hc _ ih =>
    have hopen : step (.text false body) '\\' = some ([], .backslash false body) := rfl
    have hstep : step (.backslash false body) c = some ([], .text false (body ++ ['\\', c])) :=
      if_neg (by simp [isBroken_of_le hc])
    rw [run_cons hopen, after_nil, run_cons hstep, after_nil, ih, List.append_assoc]
    rfl

/-- Behind the opening quote a literal is read like further on, unless it ends there. -/
theorem run_opened {c : Char} (hc : c ≠ '"') (formatted : Bool) (t : Text) :
    run step (.opened formatted) (c :: t) = run step (.text formatted []) (c :: t) := by
  have hstep : step (.opened formatted) c = step (.text formatted []) c := if_neg hc
  rw [run, hstep, run]

/-- Two quotes are an empty literal if no quote follows. -/
theorem reads_empty : Reads ['"', '"'] [.literal []] := by
  intro c rest hc
  have hquote : c ≠ '"' := by
    rintro rfl
    exact absurd hc (by decide)
  have hcode : step fresh c = some (alone c, fresh) := codeStep_of_endsWord hc []
  have hstep : step (.twice false) c = some (.literal [] :: alone c, fresh) := by
    show (if c = '"' then _ else (codeStep [] c).map _) = _
    rw [if_neg hquote, codeStep_of_endsWord hc]
    rfl
  have htwice : run step fresh ['"', '"'] = some ([], .twice false) := rfl
  rw [run_append htwice, after_nil, run_cons hstep, run_cons hcode, after_after]
  rfl

/-- **A literal is one token.** -/
theorem reads_body {t : Text} (h : IsBody t) : Reads ('"' :: t ++ ['"']) [.literal t] := by
  cases ht : t with
  | nil => exact reads_empty
  | cons c cs =>
    have hc : c ≠ '"' := by
      rintro rfl
      subst ht
      cases h with
      | char _ hquote => exact hquote rfl
    have hopen : step fresh '"' = some ([], .opened false) := rfl
    have hclose : step (.text false t) '"' = some ([.literal t], fresh) := rfl
    intro d rest _
    rw [← ht, List.append_assoc, List.cons_append, run_cons hopen, after_nil, ht, List.cons_append,
      run_opened hc, ← List.cons_append, ← ht, run_append (run_body h []), after_nil]
    exact run_cons hclose _

/-- A literal is read as one token, with the body that was written. -/
theorem reads_literal (t : Text) : Reads (Text.literal t) [.literal (Text.escape t)] :=
  reads_body (isBody_escape t)

/-- **A literal reads back as its text,** whatever this is and whatever the characters are called.
It is one token of one line: there is no control character in it, and no quote between its own but
behind a backslash. -/
theorem literal_reads_back (named : Text → Option Char) (t : Text) :
    ∃ body, Text.literal t = '"' :: body ++ ['"'] ∧ IsBody body ∧ (∀ c ∈ body, 32 ≤ c.toNat) ∧
      tokens? (Text.literal t) = some [.literal body] ∧ unescape? named body = some t :=
  ⟨Text.escape t, rfl, isBody_escape t, (isBody_escape t).le_toNat,
    tokens?_of_reads (reads_literal t), unescape?_escape named t⟩

/-- Does the character stand for itself in every literal? -/
def isPlain (c : Char) : Bool := !("\"\\\n\r\x00\x7b\x7d" : Text).contains c

/-- Plain characters differ from all that are not plain. -/
theorem ne_of_isPlain {c d : Char} (hc : isPlain c) (hd : isPlain d = false) : c ≠ d := by
  rintro rfl
  rw [hc] at hd
  cases hd

/-- A plain character breaks no literal. -/
theorem isBroken_of_isPlain {c : Char} (h : isPlain c) : isBroken c = false := by
  simp [isBroken, ne_of_isPlain h (d := '\r') (by decide),
    ne_of_isPlain h (d := '\x00') (by decide)]

/-- The text stands for itself in every literal. -/
def IsVerbatim (t : Text) : Prop := ∀ c ∈ t, isPlain c

instance decidableIsVerbatim (t : Text) : Decidable (IsVerbatim t) :=
  List.decidableBAll (fun c => (isPlain c : Prop)) t

/-- A text stands for itself just if both parts of it do. -/
@[simp] theorem isVerbatim_append_iff {s t : Text} :
    IsVerbatim (s ++ t) ↔ IsVerbatim s ∧ IsVerbatim t :=
  List.forall_mem_append

/-- Between quotes, what stands for itself is read over. -/
theorem run_text {t : Text} (h : IsVerbatim t) (formatted : Bool) (body : Text) :
    run step (.text formatted body) t = some ([], .text formatted (body ++ t)) := by
  induction t generalizing body with
  | nil => rw [List.append_nil]; rfl
  | cons c t ih =>
    obtain ⟨hc, ht⟩ := List.forall_mem_cons.1 h
    have hstep : step (.text formatted body) c = some ([], .text formatted (body ++ [c])) := by
      show textStep formatted body c = _
      rw [textStep, if_neg (ne_of_isPlain hc (by decide)), if_neg (ne_of_isPlain hc (by decide)),
        if_neg (by simp [isBroken_of_isPlain hc, ne_of_isPlain hc (d := '\n') (by decide)]),
        if_neg fun hopen => ne_of_isPlain hc (by decide) hopen.2,
        if_neg fun hclose => ne_of_isPlain hc (by decide) hclose.2]
    rw [run_cons hstep, after_nil, ih ht, List.append_assoc]
    rfl

/-- The text of a formatted literal goes on to its next field. -/
theorem run_field {t : Text} (h : IsVerbatim t) (body rest : Text) :
    run step (.text true body) (t ++ '\x7b' :: rest) =
      after [.literal (body ++ t), .mark '\x7b'] (run step (.code true []) rest) := by
  have hopen : step (.text true (body ++ t)) '\x7b' =
      some ([.literal (body ++ t), .mark '\x7b'], .code true []) := rfl
  rw [run_append (run_text h true body), after_nil, run_cons hopen]

/-- A formatted literal is read up to its first field, and then by what is read of the field. -/
theorem reads_formatted {front t rest : Text} {ss ts : List Token}
    (hfront : run step fresh front = some (ss, .opened true)) (hne : t ≠ []) (h : IsVerbatim t)
    (hrest : run step (.code true []) rest = some (ts, fresh)) :
    Reads (front ++ t ++ '\x7b' :: rest) (ss ++ ([.literal t, .mark '\x7b'] ++ ts)) := by
  obtain ⟨c, cs, rfl⟩ := List.exists_cons_of_ne_nil hne
  have hc : c ≠ '"' := ne_of_isPlain (h c (List.mem_cons_self ..)) (by decide)
  intro d back _
  have hfield := run_field h [] (rest ++ d :: back)
  rw [run_append hrest, after_after] at hfield
  rw [List.append_assoc, List.append_assoc, run_append hfront, List.cons_append, run_opened hc]
  exact (congrArg (after _) hfield).trans (after_after ..)

/-- Between three quotes, too, what stands for itself is read over. -/
theorem run_long {t : Text} (h : IsVerbatim t) (body : Text) :
    run step (.long 0 body) t = some ([], .long 0 (body ++ t)) := by
  induction t generalizing body with
  | nil => rw [List.append_nil]; rfl
  | cons c t ih =>
    obtain ⟨hc, ht⟩ := List.forall_mem_cons.1 h
    have hstep : step (.long 0 body) c = some ([], .long 0 (body ++ [c])) := by
      show (if c = '"' then _ else _) = _
      rw [if_neg (ne_of_isPlain hc (by decide)),
        if_neg (by simp [isBroken_of_isPlain hc, ne_of_isPlain hc (d := '\\') (by decide)])]
      simp
    rw [run_cons hstep, after_nil, ih ht, List.append_assoc]
    rfl

/-- A line of documentation is one literal. -/
theorem reads_doc {t : Text} (h : IsVerbatim t) : Reads (Function.doc t) [.literal t] := by
  have hopen : run step fresh ("\"\"\"" : Text) = some ([], .long 0 []) := by decide
  have hclose : run step (.long 0 t) ("\"\"\"" : Text) = some ([.literal t], fresh) := rfl
  intro c rest _
  rw [Function.doc, List.append_assoc, List.append_assoc, run_append hopen, after_nil,
    run_append (run_long h []), after_nil, List.nil_append, run_append hclose]

end Source
end Tablesmith
