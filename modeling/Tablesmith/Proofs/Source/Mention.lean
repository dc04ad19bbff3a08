/-
# Names that a body mentions

A body mentions a name wherever it stands as a word of its own, behind no dot. Most mentions only
read what goes by the name. The others rely on what it is:

| mention | what it takes |
| --- | --- |
| in front of a parenthesis | a function to call |
| in front of a dot | something with members |
| in front of an equals sign, or behind `as` | a variable to bind |

What a function's lines mention is read off their tokens, line by line (`mentions?`), those in the
fields of formatted literals included.
-/

import Tablesmith.Naming.Identifier
import Tablesmith.Proofs.Source.Call

namespace Tablesmith
namespace Source

/-- A name where it stands in a line. -/
structure Mention where
  name : Text
  /-- Is the name called, asked for a member or bound there, and not only read? -/
  relied : Bool
deriving Repr, DecidableEq

/-- Does the token in front of a name, or the one behind it, say that the name is not only read? -/
def relies (before behind : Option Token) : Bool :=
  before == some (.word "as") || behind == some (.mark '(') || behind == some (.mark '.') ||
    behind == some (.mark '=')

/-- Words that are names: neither reserved nor numerals. -/
def isNameWord (word : Text) : Bool :=
  !Naming.reserved.contains word && !word.head?.any Text.isDigit

/-- The words that stand behind no dot. -/
def words : (before : Option Token) → List Token → List Mention
  | _, [] => []
  | before, .word w :: ts =>
    (if before = some (.mark '.') then [] else [⟨w, relies before ts.head?⟩])
      ++ words (some (.word w)) ts
  | _, t :: ts => words (some t) ts

/-- The words of lines that stand behind no dot, if the lines can be read. -/
def words? (lines : List Text) : Option (List Mention) :=
  (lines.mapM tokens?).map fun tokens => tokens.flatMap (words none)

/-- The names that lines mention, if the lines can be read. -/
def mentions? (lines : List Text) : Option (List Mention) :=
  (words? lines).map (List.filter fun m => isNameWord m.name)

example : mentions? ["row = cur.fetchone()", "print(f\"\x7brow!r\x7d\", 42)", "return f(row.x)"] =
    some [⟨"row", true⟩, ⟨"cur", true⟩, ⟨"print", true⟩, ⟨"row", false⟩, ⟨"f", true⟩,
      ⟨"row", true⟩] := by decide +kernel

/-- The words of a line come in front of those of the lines below it. -/
theorem words?_cons {line : Text} {ts : List Token} {lines : List Text} {ms : List Mention}
    (h : Reads line ts) (hlines : words? lines = some ms) :
    words? (line :: lines) = some (words none ts ++ ms) := by
  obtain ⟨tokens, htokens, rfl⟩ := Option.map_eq_some_iff.1 hlines
  rw [words?, List.mapM_cons, tokens?_of_reads h, htokens]
  rfl

/-- A single line has its own words. -/
theorem words?_singleton {line : Text} {ts : List Token} (h : Reads line ts) :
    words? [line] = some (words none ts) := by
  have hnil : words? [] = some [] := rfl
  rw [words?_cons h hnil, List.append_nil]

/-- Documentation mentions nothing. -/
theorem words?_doc {sentence : Text} (h : IsVerbatim sentence) :
    words? [Function.doc sentence] = some [] :=
  words?_singleton (reads_doc h)

/-- The words of lines come in front of those of the lines below them. -/
theorem words?_append {front back : List Text} {ms ns : List Mention}
    (hfront : words? front = some ms) (hback : words? back = some ns) :
    words? (front ++ back) = some (ms ++ ns) := by
  obtain ⟨ts, hts, rfl⟩ := Option.map_eq_some_iff.1 hfront
  obtain ⟨us, hus, rfl⟩ := Option.map_eq_some_iff.1 hback
  rw [words?, List.mapM_append, hts, hus, ← List.flatMap_append]
  rfl

/-- Names with commas between them are only read. -/
theorem words_commas (names : List Text) {c : Char} (hc : c ≠ '.') (rest : List Token) :
    words (some (.mark c)) ([.mark ','].intercalate (names.map fun x => [.word x])
        ++ .mark ')' :: rest) =
      names.map (fun x => ⟨x, false⟩) ++ words (some (.mark ')')) rest := by
  induction names generalizing c with
  | nil => rfl
  | cons x names ih =>
    cases names with
    | nil => simp [words, relies, hc]
    | cons y names =>
      have hword : ∀ ts, words (some (.mark c)) (.word x :: .mark ',' :: ts) =
          ⟨x, false⟩ :: words (some (.mark ',')) ts := fun ts => by simp [words, relies, hc]
      rw [List.map_cons, List.map_cons, List.intercalate_cons_cons]
      exact (hword _).trans (congrArg (_ :: ·) (ih (by decide)))

/-- The names in a tuple are only read. -/
theorem words_inTuple {names : List Text} (h : ∀ x ∈ names, IsWord x) (rest : List Token) :
    words (some (.mark '(')) (inTuple (names.map tokensOf) ++ .mark ')' :: rest) =
      names.map (fun x => ⟨x, false⟩) ++ words (some (.mark ')')) rest := by
  have htokens : names.map tokensOf = names.map fun x => [.word x] :=
    List.map_congr_left fun x hx => tokensOf_of_reads (h x hx).reads
  rw [htokens]
  by_cases hone : names.length = 1
  · obtain ⟨x, rfl⟩ := List.length_eq_one_iff.1 hone
    simp [inTuple, words, relies]
  · rw [inTuple_of_length_ne (by simpa using hone), words_commas names (by decide)]

/-- The lines can be read: their words are `own` and, besides, names of the list that are only read.
-/
def Says (names lines : List Text) (own : List Mention) : Prop :=
  ∃ ws, words? lines = some ws ∧ own ⊆ ws ∧
    ∀ m ∈ ws, m ∈ own ∨ m.relied = false ∧ m.name ∈ names

section

variable {names lines lines' : List Text} {own own' : List Mention}

/-- Lines say their words. -/
theorem says_of_words (h : words? lines = some own) : Says names lines own :=
  ⟨own, h, List.Subset.refl own, fun _ hm => .inl hm⟩

/-- Names that are only read need no mention of their own if they are in the list. -/
theorem says_of_words_append {read : List Text}
    (h : words? lines = some (own ++ read.map fun x => ⟨x, false⟩)) (hread : read ⊆ names) :
    Says names lines own := by
  refine ⟨_, h, List.subset_append_left .., fun m hm => ?_⟩
  rcases List.mem_append.1 hm with hm | hm
  · exact .inl hm
  · obtain ⟨x, hx, rfl⟩ := List.mem_map.1 hm
    exact .inr ⟨rfl, hread hx⟩

/-- Lines together say what those above and those below say. -/
theorem Says.append (h : Says names lines own) (h' : Says names lines' own') :
    Says names (lines ++ lines') (own ++ own') := by
  obtain ⟨ws, hws, hown, hall⟩ := h
  obtain ⟨ws', hws', hown', hall'⟩ := h'
  have hsubset : own ++ own' ⊆ ws ++ ws' := List.append_subset.2
    ⟨List.subset_append_of_subset_left _ hown, List.subset_append_of_subset_right _ hown'⟩
  refine ⟨_, words?_append hws hws', hsubset, fun m hm => ?_⟩
  rw [List.mem_append, or_assoc]
  rcases List.mem_append.1 hm with hm | hm
  · exact (hall m hm).imp_right .inr
  · exact .inr (hall' m hm)

end

end Source
end Tablesmith
