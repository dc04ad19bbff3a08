/-
# The definitions in a text

A line of generated source begins a definition if it begins with `def` and a blank; the name that it
defines stands in front of the first parenthesis. The names that a text defines are those of its
lines in order (`Definition.names`). Together with the absence of carriage returns they are what is
said of a text here (`Definition.Defines`):

* a text that is put together with newlines between the parts defines what the parts define;
* a function whose texts stay on their lines defines its own name and nothing else, since all lines
  of its body are indented (`Function.IsPlain.defines`);
* a draft defines what its parts define, whatever is trimmed from them (`Draft.defines_text`).
-/

import Mathlib.Data.List.Basic
import Mathlib.Data.List.Induction
import Tablesmith.Module.Draft
import Tablesmith.Module.Function
import Tablesmith.Proofs.Naming.Spelling
import Tablesmith.Proofs.Text.Part

namespace Tablesmith

open Text (IsLine)

namespace Definition

/-- The name that a line defines, if it begins a definition. -/
def name? (line : Text) : Option Text :=
  (Text.after? "def " line).map fun rest => rest.takeWhile (· != '(')

/-- The names that the lines of a text define, in order. -/
def names (t : Text) : List Text := (Text.cutAt '\n' t).filterMap name?

/-- Texts with a line's end between them define their names one behind the other. -/
theorem names_append (s t : Text) : names (s ++ '\n' :: t) = names s ++ names t := by
  rw [names, Text.cutAt_append, List.filterMap_append, names, names]

/-- An empty text defines nothing. -/
@[simp] theorem names_nil : names [] = [] := rfl

/-- An empty line in front defines nothing. -/
theorem names_newline (t : Text) : names ('\n' :: t) = names t := names_append [] t

/-- Empty lines in front define nothing. -/
theorem names_newlines (n : Nat) (t : Text) :
    names (List.replicate n '\n' ++ t) = names t := by
  induction n with
  | zero => rfl
  | succ n ih => rw [List.replicate_succ, List.cons_append, names_newline, ih]

/-- **Parts with newlines between them** define what each of them defines. -/
theorem names_join (n : Nat) (parts : List Text) :
    names (Text.join (List.replicate (n + 1) '\n') parts) = parts.flatMap names := by
  induction parts with
  | nil => rfl
  | cons p ps ih =>
    cases ps with
    | nil => rw [Text.join_singleton, List.flatMap_singleton]
    | cons q qs =>
      rw [Text.join_cons_cons, List.replicate_succ, List.cons_append, names_append, names_newlines,
        ← List.replicate_succ, ih]
      rfl

/-- A text of one line defines what the line does. -/
theorem names_of_isLine {line : Text} (h : IsLine line) : names line = (name? line).toList := by
  rw [names, Text.cutAt_of_not_mem fun hmem => (h '\n' hmem).2 rfl, List.filterMap_cons]
  cases name? line <;> rfl

/-- Lines define their names one after another. -/
theorem names_unlines {lines : List Text} (h : ∀ l ∈ lines, IsLine l) :
    names (Text.unlines lines) = lines.filterMap name? := by
  have hjoin : names (Text.unlines lines) = lines.flatMap names := names_join 0 lines
  rw [hjoin]
  clear hjoin
  induction lines with
  | nil => rfl
  | cons l ls ih =>
    obtain ⟨hl, hls⟩ := List.forall_mem_cons.1 h
    rw [List.flatMap_cons, names_of_isLine hl, ih hls, List.filterMap_cons]
    cases name? l <;> rfl

/-- A line that begins otherwise defines nothing. -/
theorem name?_cons_of_ne {c : Char} (h : c ≠ 'd') (line : Text) : name? (c :: line) = none := by
  have hafter : Text.after? "def " (c :: line) = none := if_neg (Ne.symm h)
  rw [name?, hafter]
  rfl

/-- The line stays a line and defines nothing. -/
def IsQuiet (line : Text) : Prop := IsLine line ∧ name? line = none

instance decidableIsQuiet (line : Text) : Decidable (IsQuiet line) :=
  inferInstanceAs (Decidable (_ ∧ _))

/-- How a line begins decides whether it defines anything. -/
theorem isQuiet_append {s t : Text} (hs : s.head?.any (· != 'd') ∧ IsLine s) (ht : IsLine t) :
    IsQuiet (s ++ t) := by
  obtain ⟨hhead, hs⟩ := hs
  refine ⟨Text.isLine_append_iff.2 ⟨hs, ht⟩, ?_⟩
  cases s with
  | nil => cases hhead
  | cons c s => exact name?_cons_of_ne (by simpa using hhead) _

/-- A line that defines something has a letter of `def`. -/
theorem mem_of_name?_eq_some {line name : Text} (h : name? line = some name) : 'd' ∈ line := by
  obtain ⟨rest, hrest, -⟩ := Option.map_eq_some_iff.1 h
  rw [Text.eq_append_of_after? hrest]
  exact List.mem_append_left _ (by decide)

/-- A blank text defines nothing. -/
theorem names_of_isAllBlank {t : Text} (h : Text.isAllBlank t) : names t = [] := by
  refine List.filterMap_eq_nil_iff.2 fun line hline => ?_
  rw [Option.eq_none_iff_forall_ne_some]
  intro name hname
  have hd : Text.isBlank 'd' :=
    List.all_eq_true.1 h 'd' ((Text.isInfix_of_mem_cutAt hline).subset (mem_of_name?_eq_some hname))
  cases hd

/-- The text has no carriage return, and its lines define these names, in this order. -/
structure Defines (t : Text) (ns : List Text) : Prop where
  not_mem : '\r' ∉ t
  names_eq : names t = ns

/-- There is no carriage return in the texts, and together they define these names. -/
structure AllDefine (parts ns : List Text) : Prop where
  not_mem : ∀ p ∈ parts, '\r' ∉ p
  names_eq : parts.flatMap names = ns

/-- Quiet lines define nothing together. -/
theorem defines_unlines {lines : List Text} (h : ∀ l ∈ lines, IsQuiet l) :
    Defines (Text.unlines lines) [] := by
  refine ⟨Text.not_mem_unlines fun l hl => (h l hl).1, ?_⟩
  rw [names_unlines fun l hl => (h l hl).1]
  exact List.filterMap_eq_nil_iff.2 fun l hl => (h l hl).2

namespace AllDefine

variable {parts ns : List Text}

/-- A single part defines what its text does. -/
theorem singleton {t : Text} (h : Defines t ns) : AllDefine [t] ns where
  not_mem := List.forall_mem_singleton.2 h.not_mem
  names_eq := by rw [List.flatMap_singleton, h.names_eq]

/-- Parts put behind others define their names behind theirs. -/
theorem append {qs ms : List Text} (h : AllDefine parts ns) (hq : AllDefine qs ms) :
    AllDefine (parts ++ qs) (ns ++ ms) where
  not_mem := List.forall_mem_append.2 ⟨h.not_mem, hq.not_mem⟩
  names_eq := by rw [List.flatMap_append, h.names_eq, hq.names_eq]

/-- A part put in front defines its names first. -/
theorem cons {t : Text} {ms : List Text} (ht : Defines t ms) (h : AllDefine parts ns) :
    AllDefine (t :: parts) (ms ++ ns) :=
  append (singleton ht) h

/-- Parts made of the members of a list define the names of each member. -/
theorem map {α : Type} {xs : List α} {text : α → Text} {defined : α → List Text}
    (h : ∀ x ∈ xs, Defines (text x) (defined x)) :
    AllDefine (xs.map text) (xs.flatMap defined) where
  not_mem := List.forall_mem_map.2 fun x hx => (h x hx).not_mem
  names_eq := by
    rw [List.flatMap_map]
    exact List.flatMap_congr fun x hx => (h x hx).names_eq

/-- **Parts with newlines between them** define what the parts define. -/
theorem join (n : Nat) (h : AllDefine parts ns) :
    Defines (Text.join (List.replicate (n + 1) '\n') parts) ns := by
  refine ⟨fun hmem => ?_, (names_join n parts).trans h.names_eq⟩
  rcases Text.mem_of_mem_join hmem with hsep | ⟨p, hp, hreturn⟩
  · cases List.eq_of_mem_replicate hsep
  · exact h.not_mem p hp hreturn

end AllDefine
end Definition

open Definition (names name? Defines AllDefine)

namespace Function

/-- All texts of the function stay on their lines, and no decorator looks like a definition. -/
structure IsPlain (f : Function) : Prop where
  decorators : ∀ l ∈ f.decorators, Definition.IsQuiet l
  name : Naming.Fits f.name
  params : ∀ l ∈ f.params, IsLine l
  body : ∀ l ∈ f.body, IsLine l

/-- Texts with commas between them are one line just if each of them is. -/
@[simp] theorem isLine_commas_iff {texts : List Text} :
    IsLine (commas texts) ↔ ∀ t ∈ texts, IsLine t :=
  Text.isLine_join_iff (by decide)

/-- A text between lines is one line just if it was one before. -/
theorem isLine_between_iff (front : Text) {back t : Text} (hfront : IsLine front)
    (hback : IsLine back) : IsLine (front ++ t ++ back) ↔ IsLine t := by
  rw [Text.isLine_append_iff, Text.isLine_append_iff, and_iff_left hback, and_iff_right hfront]

/-- A documentation line is one line just if its sentence is. -/
@[simp] theorem isLine_doc_iff {sentence : Text} : IsLine (doc sentence) ↔ IsLine sentence :=
  isLine_between_iff _ (by decide) (by decide)

/-- A call is one line just if the name and all arguments are. -/
@[simp] theorem isLine_call_iff {name : Text} {args : List Text} :
    IsLine (call name args) ↔ IsLine name ∧ ∀ a ∈ args, IsLine a := by
  rw [call, List.append_assoc, List.append_assoc, Text.isLine_append_iff, ← List.append_assoc,
    isLine_between_iff _ (by decide) (by decide), isLine_commas_iff]

/-- A tuple is one line just if all its texts are. -/
@[simp] theorem isLine_tuple_iff {texts : List Text} :
    IsLine (tuple texts) ↔ ∀ t ∈ texts, IsLine t := by
  rw [tuple.eq_def]
  split
  · rw [List.forall_mem_singleton]
    exact isLine_between_iff ['('] (by decide) (by decide)
  · rw [← isLine_commas_iff]
    exact isLine_between_iff ['('] (by decide) (by decide)

/-- An indented line is one line. -/
theorem isLine_indent {line : Text} (h : IsLine line) : IsLine (indent line) := by
  rw [indent]
  split
  · exact Text.isLine_nil
  · exact Text.isLine_append_iff.2 ⟨by decide, h⟩

/-- An indented line defines nothing. -/
theorem name?_indent (line : Text) : name? (indent line) = none := by
  rw [indent]
  split
  · rfl
  · exact Definition.name?_cons_of_ne (by decide) _

/-- The head of a function, piece by piece. -/
theorem head_eq (f : Function) :
    f.head = ("def " : Text) ++ (f.name ++ '(' :: (commas f.params ++ [')', ':'])) := by
  show ("def " : Text) ++ f.name ++ ['('] ++ commas f.params ++ [')', ':'] = _
  rw [List.append_assoc, List.append_assoc, List.append_assoc, List.singleton_append]

/-- The head of a function defines its name. -/
theorem name?_head {f : Function} (h : Naming.Fits f.name) : name? f.head = some f.name := by
  have hname : ∀ c ∈ f.name, (c != '(') = true := fun c hc => by
    simpa using (h c hc).2
  rw [name?, head_eq, Text.after?_append, Option.map_some, List.takeWhile_append_of_pos hname,
    List.takeWhile_cons_of_neg (by simp), List.append_nil]

/-- The lines of a plain function stay lines. -/
theorem IsPlain.isLine {f : Function} (h : f.IsPlain) : ∀ l ∈ f.lines, IsLine l := by
  have hhead : IsLine f.head := by
    rw [head_eq, Text.isLine_append_iff, Text.isLine_append_iff, Text.isLine_cons_iff,
      Text.isLine_append_iff]
    exact ⟨by decide, h.name.isLine, by decide, isLine_commas_iff.2 h.params, by decide⟩
  refine List.forall_mem_append.2 ⟨fun l hl => (h.decorators l hl).1, ?_⟩
  exact List.forall_mem_cons.2
    ⟨hhead, List.forall_mem_map.2 fun l hl => isLine_indent (h.body l hl)⟩

/-- **A function defines its name,** and nothing else. -/
theorem IsPlain.defines {f : Function} (h : f.IsPlain) : Defines f.text [f.name] := by
  refine ⟨Text.not_mem_unlines h.isLine, ?_⟩
  have hdecorators : f.decorators.filterMap name? = [] :=
    List.filterMap_eq_nil_iff.2 fun l hl => (h.decorators l hl).2
  have hbody : (f.body.map indent).filterMap name? = [] :=
    List.filterMap_eq_nil_iff.2 (List.forall_mem_map.2 fun l _ => name?_indent l)
  rw [text, Definition.names_unlines h.isLine, lines, List.filterMap_append, hdecorators,
    List.filterMap_cons_some (name?_head h.name), hbody, List.nil_append]

/-- Plain functions define their names, in order. -/
theorem allDefine {fs : List Function} (h : ∀ f ∈ fs, f.IsPlain) :
    AllDefine (fs.map text) (fs.map name) := by
  rw [List.map_eq_flatMap (f := name)]
  exact AllDefine.map fun f hf => (h f hf).defines

/-- Parts define the same names with empty lines between them. -/
theorem defines_apart {parts ns : List Text} (h : AllDefine parts ns) : Defines (apart parts) ns :=
  h.join 2

end Function

namespace Draft

/-- Line ends dropped in front define nothing. -/
theorem names_dropWhile (t : Text) : names (t.dropWhile (· == '\n')) = names t := by
  induction t with
  | nil => rfl
  | cons c t ih =>
    by_cases hc : c = '\n'
    · rw [List.dropWhile_cons_of_pos (by simp [hc]), ih, hc, Definition.names_newline]
    · rw [List.dropWhile_cons_of_neg (by simp [hc])]

/-- Neither do line ends dropped behind. -/
theorem names_trimEndBy (t : Text) : names (Text.trimEndBy (· == '\n') t) = names t := by
  induction t using List.reverseRecOn with
  | nil => rfl
  | append_singleton t c ih =>
    rw [Text.trimEndBy, List.reverse_append, List.reverse_singleton, List.singleton_append]
    by_cases hc : c = '\n'
    · rw [List.dropWhile_cons_of_pos (by simp [hc]), ← Text.trimEndBy, ih, hc,
        Definition.names_append, Definition.names_nil, List.append_nil]
    · rw [List.dropWhile_cons_of_neg (by simp [hc]), List.reverse_cons, List.reverse_reverse]

/-- Newlines at the ends of a part are of no concern. -/
theorem names_strip (part : Text) : names (strip part) = names part := by
  rw [strip, Text.trimBy, names_trimEndBy, names_dropWhile]

/-- **A draft defines what its parts define.** -/
theorem defines_text {d : Draft} {ns : List Text} (h : AllDefine d.parts ns) :
    Defines d.text ns := by
  have hwritten : ∀ parts : List Text,
      ((parts.filter fun p => !Text.isAllBlank p).map strip).flatMap names =
        parts.flatMap names := by
    intro parts
    induction parts with
    | nil => rfl
    | cons p ps ih =>
      rw [List.flatMap_cons, ← ih, List.filter_cons]
      cases hblank : Text.isAllBlank p with
      | true => rw [Definition.names_of_isAllBlank hblank]; rfl
      | false => simp [names_strip]
  have hall : AllDefine d.written ns := by
    refine ⟨fun p hp hmem => ?_, (hwritten d.parts).trans h.names_eq⟩
    obtain ⟨q, hq, rfl⟩ := List.mem_map.1 hp
    exact h.not_mem q (List.mem_filter.1 hq).1 (Naming.mem_of_mem_trimBy hmem)
  have hjoin : Defines (Text.join "\n\n\n" d.written) ns := hall.join 2
  refine ⟨fun hmem => ?_, ?_⟩
  · rcases List.mem_append.1 hmem with hmem | hmem
    · exact hjoin.not_mem hmem
    · cases List.mem_singleton.1 hmem
  · rw [text, Definition.names_append, hjoin.names_eq, Definition.names_nil, List.append_nil]

end Draft
end Tablesmith
