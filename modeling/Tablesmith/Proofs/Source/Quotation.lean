/-
# Literals that are read

What the reader of code and literals finds in a text is found by going on from state to state
(`Goes`). Code takes it nowhere, and literals bring it back to where it was if what stands in them
is such that no quote, brace or line ends them before their time:

| literal | what may stand in it |
| --- | --- |
| plain | the body of a literal (`IsBody`), or what stands for itself (`IsVerbatim`) |
| long | anything but quotes and backslashes (`IsUnbroken`) |
| formatted, around its field | what stands for itself |
| formatted, in its field | names, and calls of them (`Spans`) |

So each piece of a line holds its literals wherever a word ends behind it (`Holds`), lines hold
those of their pieces, and a text those of its lines (`LineQuotes`). A comment holds none, whatever
stands in it up to the end of its line (`IsRemark`).
-/

import Mathlib.Data.List.Forall2
import Tablesmith.Proofs.Source.Atom

namespace Tablesmith
namespace Source

namespace Cut

/-- The reader comes from one state to the other and finds these literals on its way. -/
def Goes (s : State) (t : Text) (qs : List Quotation) (s' : State) : Prop :=
  ∃ atoms, run step s t = some (atoms, s') ∧ atoms.filterMap Atom.quotation? = qs

variable {s s' s'' : State} {t u body expression : Text} {qs rs : List Quotation} {c : Char}

/-- Reading nothing changes nothing. -/
theorem goes_nil (s : State) : Goes s [] [] s := ⟨[], rfl, rfl⟩

/-- The literals on the way through two texts are those of one behind those of the other. -/
theorem Goes.append (h : Goes s t qs s') (h' : Goes s' u rs s'') :
    Goes s (t ++ u) (qs ++ rs) s'' := by
  obtain ⟨atoms, hrun, rfl⟩ := h
  obtain ⟨others, hrest, rfl⟩ := h'
  refine ⟨atoms ++ others, ?_, List.filterMap_append ..⟩
  rw [run_append hrun, hrest]
  rfl

/-- A step gives its literals in front of those that come later. -/
theorem Goes.cons {atoms : List Atom} (h : step s c = some (atoms, s')) (h' : Goes s' t qs s'') :
    Goes s (c :: t) (atoms.filterMap Atom.quotation? ++ qs) s'' := by
  have hfirst : run step s [c] = some (atoms, s') := by
    rw [run_cons h, run, after_some, List.append_nil]
  exact Goes.append ⟨atoms, hfirst, rfl⟩ h'

/-- A reader that is outside at both ends has found the literals of the text. -/
theorem quotes_of_goes (h : Goes outside (t ++ ['\n']) qs outside) : Quotes t qs := by
  obtain ⟨atoms, hrun, hqs⟩ := h
  have hatoms : atoms? t = some atoms := by
    rw [atoms?, hrun, Option.bind_some, if_pos rfl]
  exact ⟨atoms, hatoms, flatMap_text_of_atoms? hatoms, hqs⟩

/-- What holds of all characters of the parts and between them holds of their join. -/
theorem forall_mem_join {P : Char → Prop} {sep : Text} {parts : List Text} (hsep : ∀ c ∈ sep, P c)
    (h : ∀ p ∈ parts, ∀ c ∈ p, P c) : ∀ c ∈ Text.join sep parts, P c := by
  intro c hc
  rcases Text.mem_of_mem_join hc with hc | ⟨p, hp, hc⟩
  · exact hsep c hc
  · exact h p hp c hc

/-- There is nothing in the text but names, marks and gaps. -/
def IsCode (t : Text) : Prop := ∀ c ∈ t, isNameChar c ∨ endsWord c

instance decidableIsCode (t : Text) : Decidable (IsCode t) :=
  List.decidableBAll (fun c => (isNameChar c : Prop) ∨ endsWord c) t

/-- A text is code just if both parts of it are. -/
@[simp] theorem isCode_append_iff : IsCode (t ++ u) ↔ IsCode t ∧ IsCode u :=
  List.forall_mem_append

/-- A name is code. -/
theorem isCode_of_isName (h : IsName t) : IsCode t := fun c hc => .inl (h c hc)

/-- So is a word. -/
theorem isCode_of_isWord (h : IsWord t) : IsCode t := isCode_of_isName h.isName

/-- Code is read without a literal, in a word or out of it. -/
theorem exists_goes_code (h : IsCode t) (word : Text) :
    ∃ word', Goes (.code word) t [] (.code word') := by
  induction t generalizing word with
  | nil => exact ⟨word, goes_nil _⟩
  | cons c t ih =>
    obtain ⟨hc, ht⟩ := List.forall_mem_cons.1 h
    by_cases hname : isNameChar c
    · have hstep : step (.code word) c = some ([.code c], .code (word ++ [c])) := if_pos hname
      obtain ⟨word', hgoes⟩ := ih ht (word ++ [c])
      exact ⟨word', Goes.cons hstep hgoes⟩
    · have hstep : step (.code word) c = some ([.code c], .code []) :=
        (if_neg hname).trans (if_pos (hc.resolve_left hname))
      obtain ⟨word', hgoes⟩ := ih ht []
      exact ⟨word', Goes.cons hstep hgoes⟩

/-- A character that ends a word leads outside. -/
theorem step_of_endsWord (hc : endsWord c) (word : Text) :
    step (.code word) c = some ([.code c], outside) :=
  (if_neg (by simp [isNameChar_of_endsWord hc])).trans (if_pos hc)

/-- **Code is read over** as soon as a word ends behind it. -/
theorem goes_code (h : IsCode t) (hc : endsWord c) : Goes outside (t ++ [c]) [] outside := by
  obtain ⟨word, hgoes⟩ := exists_goes_code h []
  exact hgoes.append (Goes.cons (step_of_endsWord hc word) (goes_nil _))

/-- The body of a literal is read over within it. -/
theorem goes_body (h : IsBody t) (body : Text) : Goes (.plain body) t [] (.plain (body ++ t)) := by
  induction h generalizing body with
  | nil => rw [List.append_nil]; exact goes_nil _
  | @char c t hc hquote hbackslash _ ih =>
    have hnewline : c ≠ '\n' := by
      rintro rfl
      exact absurd hc (by decide)
    have hstep : step (.plain body) c = some ([], .plain (body ++ [c])) := by
      show plainStep body c = _
      rw [plainStep, if_neg hquote, if_neg hbackslash,
        if_neg (by simp [hnewline, isBroken_of_le hc])]
    have hrest := Goes.cons hstep (ih (body ++ [c]))
    rwa [List.append_assoc] at hrest
  | @escape c t hc _ ih =>
    have hopen : step (.plain body) '\\' = some ([], .backslash body) := rfl
    have hstep : step (.backslash body) c = some ([], .plain (body ++ ['\\', c])) :=
      if_neg (by simp [isBroken_of_le hc])
    have hrest := Goes.cons hopen (Goes.cons hstep (ih (body ++ ['\\', c])))
    rwa [List.append_assoc] at hrest

/-- What stands for itself is read over, too. -/
theorem goes_verbatim (h : IsVerbatim t) (body : Text) :
    Goes (.plain body) t [] (.plain (body ++ t)) := by
  induction t generalizing body with
  | nil => rw [List.append_nil]; exact goes_nil _
  | cons c t ih =>
    obtain ⟨hc, ht⟩ := List.forall_mem_cons.1 h
    have hstep : step (.plain body) c = some ([], .plain (body ++ [c])) := by
      show plainStep body c = _
      rw [plainStep, if_neg (ne_of_isPlain hc (by decide)), if_neg (ne_of_isPlain hc (by decide)),
        if_neg (by simp [isBroken_of_isPlain hc, ne_of_isPlain hc (d := '\n') (by decide)])]
    have hrest := Goes.cons hstep (ih ht (body ++ [c]))
    rwa [List.append_assoc] at hrest

/-- **A plain literal ends at its own quote,** if a word ends behind it. -/
theorem goes_plain (h : Goes (.plain []) t [] (.plain t)) (hquote : t.head? ≠ some '"')
    (hc : endsWord c) : Goes outside ('"' :: t ++ ['"'] ++ [c]) [.plain t] outside := by
  have hopen : step outside '"' = some ([], .opened false) := rfl
  cases t with
  | nil =>
    have hne : c ≠ '"' := by
      rintro rfl
      exact absurd hc (by decide)
    have htwice : step (.opened false) '"' = some ([], .twice) := rfl
    have hclose : step .twice c = some ([.quoted (.plain []), .code c], outside) := by
      show (if c = '"' then _ else (codeStep [] c).map _) = _
      have hstep : codeStep [] c = some ([.code c], outside) := step_of_endsWord hc []
      rw [if_neg hne, hstep]
      rfl
    exact Goes.cons hopen (Goes.cons htwice (Goes.cons hclose (goes_nil _)))
  | cons d ds =>
    have hbegin : step (.opened false) d = step (.plain []) d :=
      if_neg fun hd => hquote (congrArg some hd)
    have hbody : Goes (.opened false) (d :: ds) [] (.plain (d :: ds)) := by
      obtain ⟨atoms, hrun, hqs⟩ := h
      refine ⟨atoms, ?_, hqs⟩
      rw [run] at hrun
      rw [run, hbegin]
      exact hrun
    have hclose : step (.plain (d :: ds)) '"' = some ([.quoted (.plain (d :: ds))], outside) := rfl
    exact ((Goes.cons hopen hbody).append (Goes.cons hclose (goes_nil _))).append
      (Goes.cons (step_of_endsWord hc []) (goes_nil outside))

/-- A body does not begin with a quote. -/
theorem head?_ne_quote_of_isBody (h : IsBody t) : t.head? ≠ some '"' := by
  cases h with
  | nil => exact nofun
  | char _ hquote => exact fun hhead => hquote (Option.some.inj hhead)
  | escape => exact nofun

/-- Nor does what stands for itself. -/
theorem head?_ne_quote_of_isVerbatim (h : IsVerbatim t) : t.head? ≠ some '"' := by
  intro hhead
  exact ne_of_isPlain (h _ (List.mem_of_mem_head? hhead)) (d := '"') (by decide) rfl

/-- Nothing in the text ends a literal between three quotes. -/
def IsUnbroken (t : Text) : Prop := ∀ c ∈ t, c ≠ '"' ∧ c ≠ '\\' ∧ isBroken c = false

instance decidableIsUnbroken (t : Text) : Decidable (IsUnbroken t) :=
  List.decidableBAll (fun c => c ≠ '"' ∧ c ≠ '\\' ∧ isBroken c = false) t

/-- Nothing ends a long literal in a text just if nothing does in both parts. -/
@[simp] theorem isUnbroken_append_iff : IsUnbroken (t ++ u) ↔ IsUnbroken t ∧ IsUnbroken u :=
  List.forall_mem_append

/-- What stands for itself ends no long literal. -/
theorem isUnbroken_of_isVerbatim (h : IsVerbatim t) : IsUnbroken t := fun c hc =>
  ⟨ne_of_isPlain (h c hc) (by decide), ne_of_isPlain (h c hc) (by decide),
    isBroken_of_isPlain (h c hc)⟩

/-- Within a long literal a text without its end is read over. -/
theorem goes_long (h : IsUnbroken t) (body : Text) :
    Goes (.long 0 body) t [] (.long 0 (body ++ t)) := by
  induction t generalizing body with
  | nil => rw [List.append_nil]; exact goes_nil _
  | cons c t ih =>
    obtain ⟨⟨hquote, hbackslash, hbroken⟩, ht⟩ := List.forall_mem_cons.1 h
    have hstep : step (.long 0 body) c = some ([], .long 0 (body ++ [c])) := by
      show (if c = '"' then _ else if _ then _ else _) = _
      rw [if_neg hquote, if_neg (by simp [hbackslash, hbroken])]
      simp
    have hrest := Goes.cons hstep (ih ht (body ++ [c]))
    rwa [List.append_assoc] at hrest

/-- **Documentation ends at its own quotes.** -/
theorem goes_doc (h : IsUnbroken t) : Goes outside (Function.doc t) [.long t] outside := by
  have hopen : Goes outside ("\"\"\"" : Text) [] (.long 0 []) := ⟨_, rfl, rfl⟩
  have hclose : Goes (.long 0 t) ("\"\"\"" : Text) [.long t] outside := ⟨_, rfl, rfl⟩
  exact (hopen.append (goes_long h [])).append hclose

/-- Within a formatted literal what stands for itself is read over. -/
theorem goes_formatted (h : IsVerbatim t) (fields : List Field) (body : Text) :
    Goes (.formatted fields body) t [] (.formatted fields (body ++ t)) := by
  induction t generalizing body with
  | nil => rw [List.append_nil]; exact goes_nil _
  | cons c t ih =>
    obtain ⟨hc, ht⟩ := List.forall_mem_cons.1 h
    have hstep : step (.formatted fields body) c = some ([], .formatted fields (body ++ [c])) := by
      show formattedStep fields body c = _
      rw [formattedStep, if_neg (ne_of_isPlain hc (by decide)),
        if_neg (ne_of_isPlain hc (by decide)), if_neg]
      simp [ne_of_isPlain hc (d := '\x7d') (by decide), ne_of_isPlain hc (d := '\\') (by decide),
        ne_of_isPlain hc (d := '\n') (by decide), isBroken_of_isPlain hc]
    have hrest := Goes.cons hstep (ih ht (body ++ [c]))
    rwa [List.append_assoc] at hrest

/-- The expression of a field goes on over the text, from within so many parentheses to within so
many. -/
def Spans (depth : Nat) (t : Text) (depth' : Nat) : Prop :=
  ∀ (fields : List Field) (before expression : Text),
    Goes (.field fields before depth expression) t []
      (.field fields before depth' (expression ++ t))

/-- An expression goes on over one text and then over the other. -/
theorem Spans.append {d d' d'' : Nat} (h : Spans d t d') (h' : Spans d' u d'') :
    Spans d (t ++ u) d'' := fun fields before expression => by
  have hall := (h fields before expression).append (h' fields before (expression ++ t))
  rwa [List.append_assoc] at hall

/-- A name leaves as many parentheses open as before. -/
theorem spans_name (h : IsName t) (depth : Nat) : Spans depth t depth := by
  induction t with
  | nil => exact fun _ _ _ => by rw [List.append_nil]; exact goes_nil _
  | cons c t ih =>
    obtain ⟨hc, ht⟩ := List.forall_mem_cons.1 h
    have hstep : ∀ fields before expression, step (.field fields before depth expression) c =
        some ([], .field fields before depth (expression ++ [c])) :=
      fun _ _ _ => if_pos (.inl hc)
    have hfirst : Spans depth [c] depth := fun fields before expression =>
      Goes.cons (hstep fields before expression) (goes_nil _)
    exact hfirst.append (ih ht)

/-- An opening parenthesis adds one. -/
theorem spans_open (depth : Nat) : Spans depth ['('] (depth + 1) := fun _ _ _ => ⟨[], rfl, rfl⟩

/-- A closing one takes it away. -/
theorem spans_close (depth : Nat) : Spans (depth + 1) [')'] depth := fun _ _ _ => ⟨[], rfl, rfl⟩

/-- A call is spanned if its arguments are. -/
theorem spans_call {name : Text} {args : List Text} (hname : IsName name) {depth : Nat}
    (hargs : Spans (depth + 1) (Function.commas args) (depth + 1)) :
    Spans depth (Function.call name args) depth :=
  (((spans_name hname depth).append (spans_open depth)).append hargs).append (spans_close depth)

/-- The field is read as it is written, behind the opening quote. -/
structure IsReadable (f : Field) : Prop where
  ne_nil : f.before ≠ []
  before : IsVerbatim f.before
  expression : Spans 0 f.expression 0
  conversion : ∀ c ∈ f.conversion, c = 'r' ∨ c = 's' ∨ c = 'a'

/-- **A formatted literal with one field** ends at its own quote, and the field is its own. -/
theorem goes_field {f : Field} (h : IsReadable f) {last : Text} (hlast : IsVerbatim last) :
    Goes (.opened true) (f.text ++ last ++ ['"']) [.formatted [f] last] outside := by
  obtain ⟨before, expression, conversion⟩ := f
  obtain ⟨hne, hbefore, hexpression, hconversion⟩ := h
  have hopen : Goes (.opened true) before [] (.formatted [] before) := by
    obtain ⟨c, cs, rfl⟩ := List.exists_cons_of_ne_nil hne
    have hc : c ≠ '"' := ne_of_isPlain (hbefore c (List.mem_cons_self ..)) (by decide)
    have hbegin : step (.opened true) c = step (.formatted [] []) c := if_neg hc
    obtain ⟨atoms, hrun, hqs⟩ := goes_formatted hbefore [] []
    refine ⟨atoms, ?_, hqs⟩
    rw [run] at hrun
    rw [run, hbegin]
    exact hrun
  have hfield : Goes (.formatted [] before) ['\x7b'] [] (.field [] before 0 []) := ⟨[], rfl, rfl⟩
  have hend : Goes (.field [] before 0 expression)
      (conversion.elim [] (fun c => ['!', c]) ++ ['\x7d']) []
      (.formatted [⟨before, expression, conversion⟩] []) := by
    cases conversion with
    | none => exact ⟨[], rfl, rfl⟩
    | some c =>
      have hletter : step (.conversion [] before expression) c =
          some ([], .converted [] before expression c) := if_pos (hconversion c rfl)
      have hclose : Goes (.converted [] before expression c) ['\x7d'] []
          (.formatted [⟨before, expression, some c⟩] []) := ⟨[], rfl, rfl⟩
      have hbang : Goes (.field [] before 0 expression) ['!'] []
          (.conversion [] before expression) := ⟨[], rfl, rfl⟩
      exact hbang.append (Goes.cons hletter hclose)
  have hclose : Goes (.formatted [⟨before, expression, conversion⟩] last) ['"']
      [.formatted [⟨before, expression, conversion⟩] last] outside := ⟨_, rfl, rfl⟩
  have hall := ((((hopen.append hfield).append (hexpression [] before [])).append hend).append
    (goes_formatted hlast _ [])).append hclose
  simpa [Field.text] using hall

/-- The text is code and these literals, wherever a word ends behind it. -/
def Holds (t : Text) (qs : List Quotation) : Prop :=
  ∀ c, endsWord c → Goes outside (t ++ [c]) qs outside

/-- Code holds no literals. -/
theorem holds_code (h : IsCode t) : Holds t [] := fun _ hc => goes_code h hc

/-- A literal holds itself, with the body that was written. -/
theorem holds_literal (t : Text) : Holds (Text.literal t) [.plain (Text.escape t)] := fun _ hc =>
  goes_plain (goes_body (isBody_escape t) []) (head?_ne_quote_of_isBody (isBody_escape t)) hc

/-- Quotes around what stands for itself make a literal. -/
theorem holds_verbatim (h : IsVerbatim t) : Holds ('"' :: t ++ ['"']) [.plain t] := fun _ hc =>
  goes_plain (goes_verbatim h []) (head?_ne_quote_of_isVerbatim h) hc

/-- Code around a formatted literal with one field holds nothing else. -/
theorem holds_field {front back last : Text} {f : Field}
    (hfront : Goes outside front [] (.opened true)) (h : IsReadable f) (hlast : IsVerbatim last)
    (hback : IsCode back) :
    Holds (front ++ (f.text ++ last ++ ['"']) ++ back) [.formatted [f] last] := fun c hc => by
  rw [List.append_assoc]
  exact (hfront.append (goes_field h hlast)).append (goes_code hback hc)

/-- The literals that a piece holds are those that are read of it by itself. -/
theorem Holds.holds_quotationsOf (h : Holds t qs) : Holds t (quotationsOf t) := by
  rw [quotationsOf_of_quotes (quotes_of_goes (h '\n' (by decide)))]
  exact h

/-- A piece stands behind another one that leaves the reader outside. -/
theorem Holds.of_goes (h : Goes outside t qs outside) (h' : Holds u rs) :
    Holds (t ++ u) (qs ++ rs) := fun d hd => by
  rw [List.append_assoc]
  exact h.append (h' d hd)

/-- **Pieces are put together** by what ends a word. -/
theorem Holds.between (h : Holds t qs) (hc : endsWord c) (h' : Holds u rs) :
    Holds (t ++ c :: u) (qs ++ rs) := by
  have hall := Holds.of_goes (h c hc) h'
  rwa [List.append_assoc] at hall

/-- Documentation is one long literal. -/
theorem holds_doc (h : IsUnbroken t) : Holds (Function.doc t) [.long t] := by
  have hall := Holds.of_goes (goes_doc h) (holds_code (t := []) (List.forall_mem_nil _))
  rwa [List.append_nil] at hall

/-- Values with commas between them hold the literals of all of them. -/
theorem holds_commas {values : List Text} {qss : List (List Quotation)}
    (h : List.Forall₂ Holds values qss) : Holds (Function.commas values) qss.flatten := by
  induction h with
  | nil => exact holds_code (List.forall_mem_nil _)
  | @cons v qs values qss hv hvalues ih =>
    cases hvalues with
    | nil =>
      rw [Function.commas, Text.join_singleton, List.flatten_singleton]
      exact hv
    | cons =>
      have hblank : Holds [] [] := holds_code (List.forall_mem_nil _)
      have hrest := hv.between (c := ',') (by decide) (hblank.between (c := ' ') (by decide) ih)
      rw [Function.commas, Text.join_cons_cons]
      exact hrest

/-- A call holds the literals of its arguments. -/
theorem holds_call {front name : Text} (hfront : IsCode front) (hname : IsCode name)
    {args : List Text} {qss : List (List Quotation)} (h : List.Forall₂ Holds args qss) :
    Holds (front ++ Function.call name args) qss.flatten := by
  have hopen : Holds (front ++ name) [] := holds_code (isCode_append_iff.2 ⟨hfront, hname⟩)
  have hclose : Holds [] [] := holds_code (List.forall_mem_nil _)
  have hall := hopen.between (c := '(') (by decide)
    ((holds_commas h).between (c := ')') (by decide) hclose)
  simpa [Function.call] using hall

/-- A tuple of code is code. -/
theorem isCode_tuple {names : List Text} (h : ∀ x ∈ names, IsCode x) :
    IsCode (Function.tuple names) := by
  have hopen : IsCode ['('] := by decide
  rw [Function.tuple.eq_def]
  split
  · have hx := h _ (List.mem_singleton_self _)
    exact isCode_append_iff.2 ⟨isCode_append_iff.2 ⟨hopen, hx⟩, by decide⟩
  · have hcommas : IsCode (Function.commas names) := forall_mem_join (by decide : IsCode ", ") h
    exact isCode_append_iff.2 ⟨isCode_append_iff.2 ⟨hopen, hcommas⟩, by decide⟩

/-- Each line is code with literals that end on it, and all of them together are these. -/
inductive LineQuotes : List Text → List Quotation → Prop
  | nil : LineQuotes [] []
  | cons {line : Text} {lines : List Text} {qs rs : List Quotation} :
      Goes outside (line ++ ['\n']) qs outside → LineQuotes lines rs →
      LineQuotes (line :: lines) (qs ++ rs)

/-- The literals of lines come in front of those of the lines below them. -/
theorem LineQuotes.append {lines lines' : List Text} (h : LineQuotes lines qs)
    (h' : LineQuotes lines' rs) : LineQuotes (lines ++ lines') (qs ++ rs) := by
  induction h with
  | nil => exact h'
  | cons hline _ ih =>
    rw [List.append_assoc]
    exact .cons hline ih

/-- A line that opens and closes its literals has them for its own. -/
theorem lineQuotes_singleton {line : Text} (h : Goes outside (line ++ ['\n']) qs outside) :
    LineQuotes [line] qs := by
  have hline := LineQuotes.cons h .nil
  rwa [List.append_nil] at hline

/-- A line holds its literals to its end. -/
theorem Holds.lineQuotes {line : Text} (h : Holds line qs) : LineQuotes [line] qs :=
  lineQuotes_singleton (h '\n' (by decide))

/-- Lines of code have no literals. -/
theorem lineQuotes_code {lines : List Text} (h : ∀ l ∈ lines, IsCode l) : LineQuotes lines [] := by
  induction lines with
  | nil => exact .nil
  | cons line lines ih =>
    obtain ⟨hline, hlines⟩ := List.forall_mem_cons.1 h
    exact .cons (goes_code hline (by decide)) (ih hlines)

/-- Nothing in the text ends a comment. -/
def IsRemark (t : Text) : Prop := ∀ c ∈ t, c ≠ '\n' ∧ isBroken c = false

instance decidableIsRemark (t : Text) : Decidable (IsRemark t) :=
  List.decidableBAll (fun c => c ≠ '\n' ∧ isBroken c = false) t

/-- Nothing ends a comment in a text just if nothing does in both parts. -/
@[simp] theorem isRemark_append_iff : IsRemark (t ++ u) ↔ IsRemark t ∧ IsRemark u :=
  List.forall_mem_append

/-- What stands for itself ends no comment. -/
theorem isRemark_of_isVerbatim (h : IsVerbatim t) : IsRemark t := fun c hc =>
  ⟨ne_of_isPlain (h c hc) (by decide), isBroken_of_isPlain (h c hc)⟩

/-- A comment goes on to the end of its line. -/
theorem goes_comment (h : IsRemark t) :
    Goes .comment (t ++ ['\n']) [] outside := by
  induction t with
  | nil => exact ⟨_, rfl, rfl⟩
  | cons c t ih =>
    obtain ⟨⟨hnewline, hbroken⟩, ht⟩ := List.forall_mem_cons.1 h
    have hstep : step .comment c = some ([.code c], .comment) := by
      show (if isBroken c then _ else _) = _
      rw [if_neg (by simp [hbroken]), if_neg hnewline]
    exact Goes.cons hstep (ih ht)

/-- A comment holds no literals. -/
theorem lineQuotes_comment (hhead : t.head? = some '#') (h : IsRemark t) : LineQuotes [t] [] := by
  obtain ⟨rest, rfl⟩ := List.head?_eq_some_iff.1 hhead
  have hopen : step outside '#' = some ([.code '#'], .comment) := rfl
  exact lineQuotes_singleton (Goes.cons hopen (goes_comment (List.forall_mem_cons.1 h).2))

/-- Blanks in front of lines hold nothing. -/
theorem LineQuotes.indent {lines : List Text} (h : LineQuotes lines qs) :
    LineQuotes (lines.map Function.indent) qs := by
  induction h with
  | nil => exact .nil
  | @cons line lines qs rs hline _ ih =>
    refine .cons ?_ ih
    rw [Function.indent]
    split
    · next hempty =>
      rw [List.isEmpty_iff.1 hempty] at hline
      exact hline
    · have hblanks : Goes outside ("    " : Text) [] outside := ⟨_, rfl, rfl⟩
      rw [List.append_assoc]
      exact hblanks.append hline

/-- **A text holds the literals of its lines.** -/
theorem goes_unlines {lines : List Text} (h : LineQuotes lines qs) (hne : lines ≠ []) :
    Goes outside (Text.unlines lines ++ ['\n']) qs outside := by
  induction h with
  | nil => exact absurd rfl hne
  | @cons line lines qs rs hline hlines ih =>
    cases hlines with
    | nil =>
      rw [Text.unlines, Text.join_singleton, List.append_nil]
      exact hline
    | cons =>
      have hrest := hline.append (ih (List.cons_ne_nil _ _))
      rw [Text.unlines, Text.join_cons_cons]
      simpa [Text.unlines] using hrest

/-- A function holds the literals of the lines of its body. -/
theorem goes_function {f : Function} (hdecorators : ∀ l ∈ f.decorators, IsCode l)
    (hname : IsCode f.name) (hparams : ∀ x ∈ f.params, IsCode x) (hbody : LineQuotes f.body qs) :
    Goes outside (f.text ++ ['\n']) qs outside := by
  have hcommas : IsCode (Function.commas f.params) :=
    forall_mem_join (by decide : IsCode ", ") hparams
  have hhead : IsCode (("def " : Text) ++ f.name ++ "(" ++ Function.commas f.params ++ "):") := by
    simp only [isCode_append_iff, hname, hcommas, and_true]
    decide
  have hlines : LineQuotes f.lines qs :=
    (lineQuotes_code hdecorators).append (.cons (goes_code hhead (by decide)) hbody.indent)
  exact goes_unlines hlines (by simp [Function.lines])

/-- A function that is code below its documentation holds its documentation. -/
theorem goes_documented {f : Function} {lines : List Text}
    (hbody : f.body = Function.doc t :: lines) (hdecorators : ∀ l ∈ f.decorators, IsCode l)
    (hname : IsCode f.name) (hparams : ∀ x ∈ f.params, IsCode x) (ht : IsUnbroken t)
    (hlines : ∀ l ∈ lines, IsCode l) : Goes outside (f.text ++ ['\n']) [.long t] outside := by
  refine goes_function hdecorators hname hparams ?_
  rw [hbody]
  exact (holds_doc ht).lineQuotes.append (lineQuotes_code hlines)

/-- Parts with line endings between them hold the literals of all of them. -/
theorem goes_join {gap : Text} (hgap : Goes outside gap [] outside) {parts : List Text}
    {qss : List (List Quotation)}
    (h : List.Forall₂ (fun part qs => Goes outside (part ++ ['\n']) qs outside) parts qss)
    (hne : parts ≠ []) :
    Goes outside (Text.join ('\n' :: gap) parts ++ ['\n']) qss.flatten outside := by
  induction h with
  | nil => exact absurd rfl hne
  | @cons part qs parts qss hpart hparts ih =>
    cases hparts with
    | nil =>
      rw [Text.join_singleton, List.flatten_singleton]
      exact hpart
    | cons =>
      have hrest := hpart.append (hgap.append (ih (List.cons_ne_nil _ _)))
      rw [Text.join_cons_cons]
      simpa using hrest

/-- Parts with empty lines between them do, too. -/
theorem goes_apart {parts : List Text} {qss : List (List Quotation)}
    (h : List.Forall₂ (fun part qs => Goes outside (part ++ ['\n']) qs outside) parts qss)
    (hne : parts ≠ []) :
    Goes outside (Function.apart parts ++ ['\n']) qss.flatten outside := by
  have hgap : Goes outside ['\n', '\n'] [] outside := ⟨_, rfl, rfl⟩
  exact goes_join hgap h hne

end Cut
end Source
end Tablesmith
