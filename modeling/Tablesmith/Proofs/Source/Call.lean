/-
# Calls and tuples in source text

What stands in parentheses is cut at its commas, those within further brackets apart
(`pieces?`). A comma may stand behind the last piece; then nothing follows it. In a call the pieces
are the arguments (`arguments?`), and in a tuple the elements (`tuple?`): one piece alone in
parentheses is a tuple only with a comma behind it.

A text that is read by itself and has its brackets closed is an argument (`IsArgument`): a name, a
literal, a tuple of arguments. What is written as a list of arguments is read as these arguments
(`arguments?_commas`), a tuple of values as these values (`isArgument_tuple`), and a literal as its
text (`literal?_literal`).
-/

import Tablesmith.Proofs.Source.Line

namespace Tablesmith
namespace Source

def isOpening (t : Token) : Bool := t == .mark '(' || t == .mark '[' || t == .mark '\x7b'

def isClosing (t : Token) : Bool := t == .mark ')' || t == .mark ']' || t == .mark '\x7d'

/-- The pieces up to the bracket that closes, and what is left behind it. Of the brackets that were
opened since, `depth` are still open; `current` is what stands behind the last comma. -/
def pieces? : (depth : Nat) → (current : List Token) → List Token →
    Option (List (List Token) × List Token)
  | _, _, [] => none
  | depth, current, t :: ts =>
    if t = .mark ',' ∧ depth = 0 then
      (pieces? 0 [] ts).map fun read => (current :: read.1, read.2)
    else if isClosing t then
      match depth with
      | 0 => some ([current], ts)
      | depth + 1 => pieces? depth (current ++ [t]) ts
    else pieces? (if isOpening t then depth + 1 else depth) (current ++ [t]) ts

/-- The pieces without an empty one at the end; no other piece may be empty. -/
def items? (pieces : List (List Token)) : Option (List (List Token)) :=
  let kept := if pieces.getLast? = some [] then pieces.dropLast else pieces
  if [] ∈ kept then none else some kept

/-- How a token is written. -/
def Token.text : Token → Text
  | .word t => t
  | .literal body => '"' :: body ++ ['"']
  | .mark c => [c]

/-- How tokens are written one behind the other. -/
def written (ts : List Token) : Text := ts.flatMap Token.text

/-- The arguments of a call, and what is left behind it. The text begins behind the parenthesis that
opens. -/
def arguments? (t : Text) : Option (List (List Token) × List Token) := do
  let (pieces, rest) ← pieces? 0 [] (← tokens? t)
  let items ← items? pieces
  return (items, rest)

/-- The elements of a tuple. One piece that no comma follows makes none. -/
def tuple? : List Token → Option (List Text)
  | .mark '(' :: ts => do
    let (pieces, rest) ← pieces? 0 [] ts
    let items ← items? pieces
    if rest ≠ [] ∨ pieces.length = 1 ∧ items ≠ [] then none else some (items.map written)
  | _ => none

/-- The arguments of a call as they are written, if just the tokens `rest` follow them. -/
def values? (rest : List Token) (t : Text) : Option (List Text) :=
  (arguments? t).bind fun found => if found.2 = rest then some (found.1.map written) else none

example : arguments? "sql, (key,), f(a, b)[0])" = some ([[.word "sql"],
      [.mark '(', .word "key", .mark ',', .mark ')'],
      [.word "f", .mark '(', .word "a", .mark ',', .word "b", .mark ')', .mark '[', .word "0",
        .mark ']']], []) ∧
    tuple? [.mark '(', .word "key", .mark ')'] = none ∧
    tuple? [.mark '(', .word "key", .mark ',', .mark ')'] = some ["key".toList] ∧
    tuple? [.mark '(', .mark ')'] = some [] := by decide

/-- A comma outside of brackets ends a piece. -/
theorem pieces?_comma (current rest : List Token) :
    pieces? 0 current (.mark ',' :: rest) =
      (pieces? 0 [] rest).map fun read => (current :: read.1, read.2) := by
  simp [pieces?]

/-- The bracket that closes ends the last one. -/
theorem pieces?_close (current rest : List Token) :
    pieces? 0 current (.mark ')' :: rest) = some ([current], rest) := by
  simp [pieces?, isClosing]

/-- Tokens that are taken over wherever they stand: no comma among them cuts, and the brackets are
closed. -/
def IsWhole (ts : List Token) : Prop :=
  ∀ (depth : Nat) (current rest : List Token),
    pieces? depth current (ts ++ rest) = pieces? depth (current ++ ts) rest

/-- Tokens that are taken over in further brackets. -/
def IsInner (ts : List Token) : Prop :=
  ∀ (depth : Nat) (current rest : List Token),
    pieces? (depth + 1) current (ts ++ rest) = pieces? (depth + 1) (current ++ ts) rest

/-- What is taken over outside of further brackets is taken over within them as well. -/
theorem IsWhole.isInner {ts : List Token} (h : IsWhole ts) : IsInner ts := fun depth =>
  h (depth + 1)

/-- Within further brackets a comma cuts nothing. -/
theorem isInner_comma : IsInner [.mark ','] := fun depth current rest => by
  simp [pieces?, isOpening, isClosing]

/-- Two rows of tokens are taken over one behind the other. -/
theorem IsInner.append {ss ts : List Token} (hs : IsInner ss) (ht : IsInner ts) :
    IsInner (ss ++ ts) := fun depth current rest => by
  rw [List.append_assoc, hs, ht, List.append_assoc]

/-- Neither a comma nor a bracket. -/
def isFlat (t : Token) : Bool := t != .mark ',' && !isOpening t && !isClosing t

/-- Tokens without commas and brackets are taken over as they are. -/
theorem isWhole_of_isFlat {ts : List Token} (h : ts.all isFlat) : IsWhole ts := by
  induction ts with
  | nil => exact fun _ _ _ => by rw [List.append_nil, List.nil_append]
  | cons t ts ih =>
    rw [List.all_cons, Bool.and_eq_true] at h
    obtain ⟨ht, hts⟩ := h
    simp only [isFlat, Bool.and_eq_true, bne_iff_ne, Bool.not_eq_true'] at ht
    obtain ⟨⟨hcomma, hopening⟩, hclosing⟩ := ht
    intro depth current rest
    have hcons : pieces? depth current (t :: (ts ++ rest)) =
        pieces? depth (current ++ [t]) (ts ++ rest) := by
      simp [pieces?, hcomma, hopening, hclosing]
    rw [List.cons_append, hcons, ih hts, List.append_assoc]
    rfl

/-- What is in brackets is taken over with them. -/
theorem isWhole_brackets {ts : List Token} (h : IsInner ts) :
    IsWhole (.mark '(' :: ts ++ [.mark ')']) := by
  intro depth current rest
  have hopen : pieces? depth current (.mark '(' :: (ts ++ ([.mark ')'] ++ rest))) =
      pieces? (depth + 1) (current ++ [.mark '(']) (ts ++ ([.mark ')'] ++ rest)) := by
    simp [pieces?, isOpening, isClosing]
  have hclose : ∀ current, pieces? (depth + 1) current ([.mark ')'] ++ rest) =
      pieces? depth (current ++ [.mark ')']) rest := fun current => by
    simp [pieces?, isClosing]
  rw [List.append_assoc, List.cons_append, hopen, h, hclose]
  simp

/-- Within further brackets pieces with commas between them are taken over together. -/
theorem isInner_intercalate {tss : List (List Token)} (h : ∀ ts ∈ tss, IsWhole ts) :
    IsInner ([.mark ','].intercalate tss) := by
  induction tss with
  | nil => exact fun _ _ _ => by simp
  | cons ts tss ih =>
    obtain ⟨hts, htss⟩ := List.forall_mem_cons.1 h
    cases tss with
    | nil => simpa using hts.isInner
    | cons us tss =>
      rw [List.intercalate_cons_cons, List.append_assoc]
      exact hts.isInner.append (isInner_comma.append (ih htss))

/-- **What is put together by commas is cut at these.** -/
theorem pieces?_intercalate {ts : List Token} {tss : List (List Token)}
    (h : ∀ us ∈ ts :: tss, IsWhole us) (rest : List Token) :
    pieces? 0 [] ([.mark ','].intercalate (ts :: tss) ++ .mark ')' :: rest) =
      some (ts :: tss, rest) := by
  induction tss generalizing ts with
  | nil =>
    rw [List.intercalate_singleton, h ts (List.mem_singleton_self ts), List.nil_append,
      pieces?_close]
  | cons us tss ih =>
    obtain ⟨hts, htss⟩ := List.forall_mem_cons.1 h
    rw [List.intercalate_cons_cons, List.append_assoc, List.append_assoc, hts, List.nil_append,
      List.singleton_append, pieces?_comma, ih htss]
    rfl

/-- Where no piece is empty, none is dropped. -/
theorem items?_of_forall {pieces : List (List Token)} (h : ∀ ts ∈ pieces, ts ≠ []) :
    items? pieces = some pieces := by
  have hlast : pieces.getLast? ≠ some [] := fun hlast =>
    h [] (List.mem_of_getLast? hlast) rfl
  have hnil : [] ∉ pieces := fun hnil => h [] hnil rfl
  simp only [items?, if_neg hlast, if_neg hnil]

/-- The tokens of a text that can be read. -/
def tokensOf (t : Text) : List Token := (tokens? t).getD []

/-- The tokens of a text are those that it is read as. -/
theorem tokensOf_of_reads {t : Text} {ts : List Token} (h : Reads t ts) : tokensOf t = ts := by
  rw [tokensOf, tokens?_of_reads h, Option.getD_some]

/-- A text that can stand between commas. -/
structure IsArgument (t : Text) : Prop where
  reads : Reads t (tokensOf t)
  isWhole : IsWhole (tokensOf t)
  ne_nil : tokensOf t ≠ []

/-- A text can stand between commas if its tokens can. -/
theorem isArgument_of_reads {t : Text} {ts : List Token} (h : Reads t ts) (hwhole : IsWhole ts)
    (hne : ts ≠ []) : IsArgument t := by
  have heq := tokensOf_of_reads h
  exact ⟨heq ▸ h, heq ▸ hwhole, heq ▸ hne⟩

/-- An argument without blanks, so that it is written as its tokens are. -/
structure IsValue (t : Text) : Prop extends IsArgument t where
  written : written (tokensOf t) = t

/-- A name is a value. -/
theorem IsWord.isValue {t : Text} (h : IsWord t) : IsValue t := by
  refine ⟨isArgument_of_reads h.reads (isWhole_of_isFlat rfl) (List.cons_ne_nil _ _), ?_⟩
  rw [tokensOf_of_reads h.reads]
  exact List.append_nil t

/-- Is the text read as tokens that are written like it, with no bracket and no comma among them? -/
def isFlatValue (t : Text) : Bool :=
  match run step fresh t with
  | some (ts, .code false word) =>
    let all := ts ++ ended word
    all.all isFlat && !all.isEmpty && written all == t
  | _ => false

/-- A value needs no more than a look at its tokens. -/
theorem isValue_of_isFlatValue {t : Text} (h : isFlatValue t) : IsValue t := by
  rw [isFlatValue] at h
  split at h
  · next ts word hrun =>
    simp only [Bool.and_eq_true, Bool.not_eq_true', beq_iff_eq] at h
    obtain ⟨⟨hflat, hne⟩, hwritten⟩ := h
    have hread := reads_of_run hrun
    refine ⟨isArgument_of_reads hread (isWhole_of_isFlat hflat) (by simpa using hne), ?_⟩
    rw [tokensOf_of_reads hread, hwritten]
  · cases h

/-- A literal is read as a single token. -/
@[simp] theorem tokensOf_literal (t : Text) :
    tokensOf (Text.literal t) = [.literal (Text.escape t)] :=
  tokensOf_of_reads (reads_literal t)

/-- A literal can be an argument. -/
theorem isArgument_literal (t : Text) : IsArgument (Text.literal t) :=
  isArgument_of_reads (reads_literal t) (isWhole_of_isFlat rfl) (List.cons_ne_nil _ _)

/-- The text that an argument stands for, if it is a literal. -/
def literal? (named : Text → Option Char) : List Token → Option Text
  | [.literal body] => unescape? named body
  | _ => none

/-- **What a literal stands for is its text.** -/
theorem literal?_literal (named : Text → Option Char) (t : Text) :
    literal? named (tokensOf (Text.literal t)) = some t := by
  rw [tokensOf_literal]
  exact unescape?_escape named t

/-- What stands between the parentheses of a tuple with these elements. -/
def inTuple : List (List Token) → List Token
  | [ts] => ts ++ [.mark ',']
  | tss => [.mark ','].intercalate tss

/-- Only a single element has a comma behind it. -/
theorem inTuple_of_length_ne {tss : List (List Token)} (h : tss.length ≠ 1) :
    inTuple tss = [.mark ','].intercalate tss := by
  rcases tss with _ | ⟨ts, _ | ⟨us, tss⟩⟩
  · rfl
  · exact absurd rfl h
  · rfl

/-- So a tuple of any other number is its elements between parentheses. -/
theorem tuple_of_length_ne {texts : List Text} (h : texts.length ≠ 1) :
    Function.tuple texts = '(' :: Function.commas texts ++ ")" := by
  rcases texts with _ | ⟨t, _ | ⟨u, texts⟩⟩
  · rfl
  · exact absurd rfl h
  · rfl

section

variable {texts : List Text} (h : ∀ t ∈ texts, IsArgument t)
include h

/-- Texts with commas between them are read as their tokens with commas between these. -/
theorem reads_commas :
    Reads (Function.commas texts) ([.mark ','].intercalate (texts.map tokensOf)) := by
  induction texts with
  | nil => exact reads_nil
  | cons t texts ih =>
    obtain ⟨ht, htexts⟩ := List.forall_mem_cons.1 h
    cases texts with
    | nil => simpa [Function.commas] using ht.reads
    | cons u texts =>
      have hcommas : Function.commas (t :: u :: texts) =
          t ++ ',' :: ([] ++ ' ' :: Function.commas (u :: texts)) :=
        Text.join_cons_cons ..
      have hread := ht.reads.between (c := ',') (by decide)
        (reads_nil.between (c := ' ') (by decide) (ih htexts))
      rw [hcommas, List.map_cons, List.map_cons, List.intercalate_cons_cons, ← List.map_cons,
        List.append_assoc]
      exact hread

/-- A call behind a text that leaves no word open. -/
theorem reads_call {front : Text} {ss : List Token}
    (hfront : run step fresh front = some (ss, fresh)) :
    Reads (front ++ Function.commas texts ++ ")")
      (ss ++ ([.mark ','].intercalate (texts.map tokensOf) ++ [.mark ')'])) := by
  have hargs := (reads_commas h).between (c := ')') (by decide) reads_nil
  rw [List.append_assoc]
  exact Reads.of_front hfront hargs

/-- What is written between parentheses is read as its parts. -/
theorem pieces?_commas (rest : List Token) :
    ∃ pieces, pieces? 0 [] ([.mark ','].intercalate (texts.map tokensOf) ++ .mark ')' :: rest) =
      some (pieces, rest) ∧ items? pieces = some (texts.map tokensOf) ∧
        (pieces.length = 1 → texts.length ≤ 1) := by
  cases texts with
  | nil => exact ⟨[[]], pieces?_close [] rest, rfl, fun _ => Nat.zero_le 1⟩
  | cons t texts =>
    have hne : ∀ ts ∈ (t :: texts).map tokensOf, ts ≠ [] := by
      rintro _ hts rfl
      obtain ⟨u, hu, hnil⟩ := List.mem_map.1 hts
      exact (h u hu).ne_nil hnil
    refine ⟨_, pieces?_intercalate (List.forall_mem_map.2 fun u hu => (h u hu).isWhole) rest,
      items?_of_forall hne, fun hlength => ?_⟩
    rw [← List.map_cons, List.length_map] at hlength
    exact Nat.le_of_eq hlength

/-- **The arguments that are written are read,** whatever they are and how many. -/
theorem arguments?_commas {back : Text} {rest : List Token} (hback : Reads back rest) :
    arguments? (Function.commas texts ++ ')' :: back) = some (texts.map tokensOf, rest) := by
  have hread := (reads_commas h).between (c := ')') (by decide) hback
  have halone : alone ')' = [.mark ')'] := rfl
  rw [halone, List.singleton_append] at hread
  obtain ⟨pieces, hpieces, hitems, -⟩ := pieces?_commas h rest
  simp [arguments?, tokens?_of_reads hread, hpieces, hitems]

/-- A tuple is read as its elements between two parentheses. -/
theorem reads_tuple :
    Reads (Function.tuple texts) (.mark '(' :: inTuple (texts.map tokensOf) ++ [.mark ')']) := by
  have hopen : alone '(' = [.mark '('] := rfl
  have hclose : alone ')' = [.mark ')'] := rfl
  have hcomma : alone ',' = [.mark ','] := rfl
  by_cases hone : texts.length = 1
  · obtain ⟨t, rfl⟩ := List.length_eq_one_iff.1 hone
    have ht := List.forall_mem_singleton.1 h
    have hread := reads_nil.between (c := '(') (by decide) (ht.reads.between (c := ',') (by decide)
      (reads_nil.between (c := ')') (by decide) reads_nil))
    simpa [inTuple, Function.tuple, hopen, hclose, hcomma] using hread
  · have hread := reads_nil.between (c := '(') (by decide) ((reads_commas h).between (c := ')')
      (by decide) reads_nil)
    rw [tuple_of_length_ne hone, inTuple_of_length_ne (by simpa using hone)]
    simpa [hopen, hclose] using hread

/-- What stands between the parentheses of a tuple is taken over together. -/
theorem isInner_inTuple : IsInner (inTuple (texts.map tokensOf)) := by
  by_cases hone : texts.length = 1
  · obtain ⟨t, rfl⟩ := List.length_eq_one_iff.1 hone
    exact (List.forall_mem_singleton.1 h).isWhole.isInner.append isInner_comma
  · rw [inTuple_of_length_ne (by simpa using hone)]
    exact isInner_intercalate (List.forall_mem_map.2 fun u hu => (h u hu).isWhole)

/-- A tuple that is read has the elements that it was written with. -/
theorem tuple?_inTuple : tuple? (.mark '(' :: inTuple (texts.map tokensOf) ++ [.mark ')']) =
    some (texts.map fun t => written (tokensOf t)) := by
  by_cases hone : texts.length = 1
  · obtain ⟨t, rfl⟩ := List.length_eq_one_iff.1 hone
    have ht := List.forall_mem_singleton.1 h
    have hitems : items? [tokensOf t, []] = some [tokensOf t] := by
      simp [items?, Ne.symm ht.ne_nil]
    have hpieces : pieces? 0 [] (tokensOf t ++ .mark ',' :: [.mark ')']) =
        some ([tokensOf t, []], []) := by
      rw [ht.isWhole, List.nil_append, pieces?_comma, pieces?_close]
      rfl
    simp [tuple?, inTuple, hpieces, hitems]
  · obtain ⟨pieces, hpieces, hitems, hlength⟩ := pieces?_commas h []
    have hempty : pieces.length = 1 → texts.map tokensOf = [] := fun hpiece => by
      have hnone : texts.length = 0 := by
        have := hlength hpiece
        omega
      rw [List.length_eq_zero_iff.1 hnone]
      rfl
    have hfound : ¬ (([] : List Token) ≠ [] ∨ pieces.length = 1 ∧ texts.map tokensOf ≠ []) := by
      rintro (hrest | ⟨hpiece, hne⟩)
      · exact hrest rfl
      · exact hne (hempty hpiece)
    rw [inTuple_of_length_ne (by simpa using hone)]
    simp only [tuple?, List.cons_append, hpieces, Option.bind_eq_bind, Option.bind_some, hitems,
      if_neg hfound, List.map_map]
    rfl

end

/-- A value is written as it was. -/
theorem map_written {values : List Text} (h : ∀ v ∈ values, IsValue v) :
    (values.map fun v => written (tokensOf v)) = values :=
  (List.map_congr_left fun v hv => (h v hv).written).trans (List.map_id values)

/-- **Values that are written are read** as they are. -/
theorem values?_commas {values : List Text} (h : ∀ v ∈ values, IsValue v) {back : Text}
    {rest : List Token} (hback : Reads back rest) :
    values? rest (Function.commas values ++ ')' :: back) = some values := by
  rw [values?, arguments?_commas (fun v hv => (h v hv).toIsArgument) hback, Option.bind_some,
    if_pos rfl, List.map_map]
  exact congrArg some (map_written h)

/-- **A tuple of values is an argument,** and its elements are the values. -/
theorem isArgument_tuple {values : List Text} (h : ∀ v ∈ values, IsValue v) :
    IsArgument (Function.tuple values) ∧
      tuple? (tokensOf (Function.tuple values)) = some values := by
  have harguments : ∀ v ∈ values, IsArgument v := fun v hv => (h v hv).toIsArgument
  refine ⟨isArgument_of_reads (reads_tuple harguments)
    (isWhole_brackets (isInner_inTuple harguments)) (List.cons_ne_nil _ _), ?_⟩
  rw [tokensOf_of_reads (reads_tuple harguments), tuple?_inTuple harguments, map_written h]

/-- A call with a statement and a tuple of names. -/
theorem reads_call_tuple {front first : Text} {ss : List Token}
    (hfront : run step fresh front = some (ss, fresh)) (hfirst : IsArgument first)
    {names : List Text} (h : ∀ x ∈ names, IsWord x) :
    Reads (front ++ Function.commas [first, Function.tuple names] ++ ")")
      (ss ++ (tokensOf first ++ [.mark ',', .mark '(']
        ++ (inTuple (names.map tokensOf) ++ [.mark ')', .mark ')']))) := by
  have hvalues : ∀ x ∈ names, IsValue x := fun x hx => (h x hx).isValue
  have hargs : ∀ t ∈ [first, Function.tuple names], IsArgument t :=
    List.forall_mem_cons.2 ⟨hfirst, List.forall_mem_singleton.2 (isArgument_tuple hvalues).1⟩
  have htuple : tokensOf (Function.tuple names) =
      .mark '(' :: inTuple (names.map tokensOf) ++ [.mark ')'] :=
    tokensOf_of_reads (reads_tuple fun x hx => (hvalues x hx).toIsArgument)
  have htokens : [.mark ','].intercalate ([first, Function.tuple names].map tokensOf)
      ++ [.mark ')'] = tokensOf first ++ [.mark ',', .mark '(']
        ++ (inTuple (names.map tokensOf) ++ [.mark ')', .mark ')']) := by
    rw [List.map_cons, List.map_singleton, List.intercalate_cons_cons, List.intercalate_singleton,
      htuple]
    simp
  rw [← htokens]
  exact reads_call hargs hfront

end Source
end Tablesmith
