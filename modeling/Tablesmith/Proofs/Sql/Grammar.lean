/-
# The grammar of a declaration

A declaration is a text of a language, put together from smaller ones as its parts stand one behind
another:

| part | texts |
| --- | --- |
| `keywords` | the words in any mixture of cases, blanks between each two |
| `name` | an opening quote or none, word characters and dots, a closing quote or none |
| `opening` | `CREATE TABLE`, perhaps `IF NOT EXISTS`, a name and the parenthesis |
| `ending` | the closing parenthesis and the semicolon, perhaps blanks between them |
| `statement` | an opening, a body, an ending |

The grammar says nothing about how far a reader looks ahead or what it tries first. Each reader
answers exactly what the language of its part leads to (`keywords?_eq_some_iff`,
`opening?_eq_some_iff`), so what a text begins with decides how it is read: two openings in front of
one text are the same (`opening_unique`). Only a body may end in several places, and the first of
them counts (`read?_eq_some_iff_leads`).
-/

import Mathlib.Computability.Language
import Mathlib.Data.List.TakeWhile
import Tablesmith.Proofs.Sql.Scan
import Tablesmith.Proofs.Text.Blank

namespace Tablesmith

namespace Sql

/-- Somewhere in the text stands a closing parenthesis with nothing but blanks between it and a
semicolon. -/
def EndsStatement (t : Text) : Prop :=
  ∃ front gap back, t = front ++ ')' :: (gap ++ ';' :: back) ∧ Text.isAllBlank gap

namespace Grammar

/-- A keyword in any mixture of cases. -/
def keyword (word : Text) : Language Char := {t | List.Forall₂ (fun k c => isLetter k c) word t}

/-- Blanks or nothing. -/
def blanks : Language Char := {t | Text.isAllBlank t}

/-- One blank or more. -/
def gap : Language Char := {t | t ≠ [] ∧ Text.isAllBlank t}

/-- Several keywords with blanks between each two of them. -/
def keywords : List Text → Language Char
  | [] => 1
  | [w] => keyword w
  | w :: ws => keyword w * gap * keywords ws

/-- The first of several keywords, a gap, and the others. -/
theorem keywords_cons (w : Text) {ws : List Text} (h : ws ≠ []) :
    keywords (w :: ws) = keyword w * gap * keywords ws := by
  cases ws with
  | nil => exact absurd rfl h
  | cons v vs => rfl

/-- One character that satisfies `p`, or nothing. -/
def optional (p : Char → Bool) : Language Char := {t | t = [] ∨ ∃ c, p c ∧ t = [c]}

/-- Word characters and dots, one at least. -/
def word : Language Char := {t | t ≠ [] ∧ ∀ c ∈ t, isNameChar c}

/-- A table's name. The quotes need not belong together. -/
def name : Language Char := optional isOpeningQuote * word * optional isClosingQuote

/-- `IF NOT EXISTS` and the blanks behind it, or nothing. -/
def existenceTest : Language Char := 1 + keywords ["IF", "NOT", "EXISTS"] * gap

/-- The name `n`, if it is one. -/
def nameOf (n : Text) : Language Char := {t | t ∈ name ∧ t = n}

/-- The beginning of a declaration of the table `n`, up to the parenthesis that opens its body. -/
def opening (n : Text) : Language Char :=
  keywords ["CREATE", "TABLE"] * gap * existenceTest * nameOf n * blanks * {['(']}

/-- The end of a declaration. -/
def ending : Language Char := {[')']} * blanks * {[';']}

/-- A declaration, whatever its body holds. -/
def statement (d : Declaration) : Language Char := opening d.name * {d.body} * ending

/-- The text begins with a text of the language, and `rest` is left behind it. -/
def Leads (L : Language Char) (t rest : Text) : Prop := ∃ u ∈ L, t = u ++ rest

section

variable {L M : Language Char} {t rest : Text}

/-- The language of the empty text leads nowhere else. -/
@[simp] theorem leads_one_iff : Leads 1 t rest ↔ t = rest := by
  constructor
  · rintro ⟨u, hu, rfl⟩
    obtain rfl := (Language.mem_one u).1 hu
    rfl
  · rintro rfl
    exact ⟨[], Language.nil_mem_one, rfl⟩

/-- A choice leads where one of its two languages leads. -/
@[simp] theorem leads_add_iff : Leads (L + M) t rest ↔ Leads L t rest ∨ Leads M t rest := by
  constructor
  · rintro ⟨u, hu | hu, rfl⟩
    · exact .inl ⟨u, hu, rfl⟩
    · exact .inr ⟨u, hu, rfl⟩
  · rintro (⟨u, hu, rfl⟩ | ⟨u, hu, rfl⟩)
    · exact ⟨u, .inl hu, rfl⟩
    · exact ⟨u, .inr hu, rfl⟩

/-- What stands one behind another leads there in two steps. -/
@[simp] theorem leads_mul_iff : Leads (L * M) t rest ↔ ∃ x, Leads L t x ∧ Leads M x rest := by
  constructor
  · rintro ⟨_, huv, rfl⟩
    obtain ⟨u, hu, v, hv, rfl⟩ := Language.mem_mul.1 huv
    exact ⟨v ++ rest, ⟨u, hu, List.append_assoc ..⟩, v, hv, rfl⟩
  · rintro ⟨_, ⟨u, hu, rfl⟩, v, hv, rfl⟩
    exact ⟨u ++ v, Language.append_mem_mul hu hv, (List.append_assoc ..).symm⟩

/-- The language of one text leads behind it. -/
@[simp] theorem leads_singleton_iff {u : Text} : Leads {u} t rest ↔ t = u ++ rest := by
  constructor
  · rintro ⟨_, rfl, rfl⟩
    rfl
  · rintro rfl
    exact ⟨u, rfl, rfl⟩

end

/-- The language of one name leads behind the name, if it is one. -/
theorem leads_nameOf_iff {n t rest : Text} :
    Leads (nameOf n) t rest ↔ n ∈ name ∧ t = n ++ rest := by
  constructor
  · rintro ⟨_, ⟨hn, rfl⟩, rfl⟩
    exact ⟨hn, rfl⟩
  · rintro ⟨hn, rfl⟩
    exact ⟨n, ⟨hn, rfl⟩, rfl⟩

/-- Where a run of characters ends. -/
theorem span_append {p : Char → Bool} {u rest : Text} (hu : ∀ c ∈ u, p c)
    (h : ∀ c ∈ rest.head?, p c = false) :
    (u ++ rest).takeWhile p = u ∧ (u ++ rest).dropWhile p = rest := by
  rw [List.takeWhile_append_of_pos hu, List.dropWhile_append_of_pos hu]
  cases rest with
  | nil => exact ⟨List.append_nil u, rfl⟩
  | cons c cs =>
    have hc : ¬ p c := by simp [h c rfl]
    rw [List.takeWhile_cons_of_neg hc, List.dropWhile_cons_of_neg hc, List.append_nil]
    exact ⟨rfl, rfl⟩

/-- Blanks lead to the first character that is not blank, if the rest is to begin with none. -/
theorem leads_blanks_iff {t rest : Text} (h : rest.IsFlush) :
    Leads blanks t rest ↔ Text.skipBlanks t = rest := by
  constructor
  · rintro ⟨u, hu, rfl⟩
    exact (span_append (List.all_eq_true.1 hu) h).2
  · rintro rfl
    refine ⟨t.takeWhile Text.isBlank, ?_, List.takeWhile_append_dropWhile.symm⟩
    exact List.all_eq_true.2 fun c hc => List.mem_takeWhile_imp hc

/-- One blank or more is one blank, and then blanks or nothing. -/
theorem afterBlanks?_eq_some_iff {t rest : Text} :
    Text.afterBlanks? t = some rest ↔ rest.IsFlush ∧ Leads gap t rest := by
  constructor
  · intro h
    cases t with
    | nil => cases h
    | cons b t =>
      rw [Text.afterBlanks?] at h
      split at h
      · next hb =>
        obtain rfl := Option.some.inj h
        have hflush := Text.isFlush_skipBlanks t
        obtain ⟨u, hu, ht⟩ := (leads_blanks_iff hflush).2 rfl
        refine ⟨hflush, b :: u, ⟨by simp, ?_⟩, congrArg (b :: ·) ht⟩
        rw [Text.isAllBlank, List.all_cons, hb, Bool.true_and]
        exact hu
      · cases h
  · rintro ⟨hflush, u, ⟨hne, hblank⟩, rfl⟩
    cases u with
    | nil => exact absurd rfl hne
    | cons b u =>
      rw [Text.isAllBlank, List.all_cons, Bool.and_eq_true] at hblank
      rw [List.cons_append, Text.afterBlanks?_cons hblank.1]
      exact congrArg some ((leads_blanks_iff hflush).1 ⟨u, hblank.2, rfl⟩)

/-- **The reader of a keyword** finds what the language of the keyword leads to. -/
theorem keyword?_eq_some_iff {w t rest : Text} :
    keyword? w t = some rest ↔ Leads (keyword w) t rest := by
  induction w generalizing t with
  | nil =>
    constructor
    · intro h
      exact ⟨[], .nil, by cases t <;> exact Option.some.inj h⟩
    · rintro ⟨u, hu, rfl⟩
      cases hu
      cases rest <;> rfl
  | cons k ks ih =>
    constructor
    · intro h
      cases t with
      | nil => cases h
      | cons c cs =>
        rw [keyword?] at h
        split at h
        · next hc =>
          obtain ⟨u, hu, rfl⟩ := ih.1 h
          exact ⟨c :: u, .cons hc hu, rfl⟩
        · cases h
    · rintro ⟨_, hu, rfl⟩
      cases hu with
      | cons hc hu =>
        rw [List.cons_append, keyword?, if_pos hc]
        exact ih.2 ⟨_, hu, rfl⟩

/-- What stands for a letter of a keyword is a word character. -/
theorem isWord_of_isLetter {k c : Char} (hk : k.isUpper) (h : isLetter k c) : Text.isWord c := by
  simp only [isLetter, Bool.or_eq_true, Bool.and_eq_true, beq_iff_eq] at h
  rcases h with ((rfl | ⟨-, rfl | rfl⟩) | ⟨-, rfl⟩) | ⟨-, rfl⟩
  · by_cases hc : c.toNat < 128
    · have hascii : ∀ n < 128, (Char.ofNat n).toUpper.isUpper → Text.isWord (Char.ofNat n) := by
        decide +kernel
      exact Text.ascii_of_forall (P := fun c => c.toUpper.isUpper → Text.isWord c) hascii hc hk
    · exfalso
      have hhigh : ¬ c.val ≤ 'z'.val := fun hle => hc (Nat.lt_of_le_of_lt hle (by decide))
      delta Char.toUpper at hk
      rw [dif_neg fun hle => hhigh hle.2] at hk
      delta Char.isUpper at hk
      rw [decide_eq_true_eq] at hk
      exact hc (Nat.lt_of_le_of_lt hk.2 (by decide))
  · decide +kernel
  · decide +kernel
  · decide +kernel
  · decide +kernel

/-- The word is one of capital letters. -/
def IsCapital (w : Text) : Prop := w ≠ [] ∧ ∀ k ∈ w, k.isUpper

instance decidableIsCapital (w : Text) : Decidable (IsCapital w) :=
  @instDecidableAnd _ _ _ (List.decidableBAll (fun k => (k.isUpper : Prop)) w)

/-- What stands for a keyword is made of word characters. -/
theorem isWord_of_mem_keyword {w u : Text} (hw : ∀ k ∈ w, k.isUpper) (hu : u ∈ keyword w) :
    ∀ c ∈ u, Text.isWord c := by
  induction hu with
  | nil => rintro c ⟨⟩
  | cons hc _ ih =>
    obtain ⟨hk, hks⟩ := List.forall_mem_cons.1 hw
    exact List.forall_mem_cons.2 ⟨isWord_of_isLetter hk hc, ih hks⟩

/-- No blank stands where a keyword begins. -/
theorem isFlush_of_leads_keyword {w t rest : Text} (hw : IsCapital w)
    (h : Leads (keyword w) t rest) : t.IsFlush := by
  obtain ⟨u, hu, rfl⟩ := h
  have hword := isWord_of_mem_keyword hw.2 hu
  cases hu with
  | nil => exact absurd rfl hw.1
  | cons hc hu =>
    rintro _ ⟨⟩
    exact Text.isBlank_of_isWord (hword _ (List.mem_cons_self ..))

/-- Of several keywords the first stands in front. -/
theorem exists_leads_keyword {w : Text} {ws : List Text} {t rest : Text}
    (h : Leads (keywords (w :: ws)) t rest) : ∃ x, Leads (keyword w) t x := by
  cases ws with
  | nil => exact ⟨rest, h⟩
  | cons v vs =>
    rw [keywords_cons w (List.cons_ne_nil v vs), leads_mul_iff] at h
    obtain ⟨y, h, -⟩ := h
    obtain ⟨x, hx, -⟩ := leads_mul_iff.1 h
    exact ⟨x, hx⟩

/-- What begins with keywords begins with no blank. -/
theorem isFlush_of_leads_keywords {words : List Text} (hne : words ≠ [])
    (hw : ∀ w ∈ words, IsCapital w) {t rest : Text} (h : Leads (keywords words) t rest) :
    t.IsFlush := by
  obtain ⟨w, ws, rfl⟩ := List.exists_cons_of_ne_nil hne
  obtain ⟨x, hx⟩ := exists_leads_keyword h
  exact isFlush_of_leads_keyword (hw w (List.mem_cons_self ..)) hx

/-- **The reader of several keywords** finds what their language leads to. -/
theorem keywords?_eq_some_iff {words : List Text} (hw : ∀ w ∈ words, IsCapital w)
    {t rest : Text} : keywords? words t = some rest ↔ Leads (keywords words) t rest := by
  fun_induction keywords? words t with
  | case1 t => simp [keywords]
  | case2 t w => exact keyword?_eq_some_iff
  | case3 w ws t hws ih =>
    obtain ⟨-, htail⟩ := List.forall_mem_cons.1 hw
    rw [keywords_cons w hws]
    simp only [Option.bind_eq_bind, Option.bind_eq_some_iff, leads_mul_iff]
    constructor
    · rintro ⟨x, hx, y, hy, h⟩
      exact ⟨y, ⟨x, keyword?_eq_some_iff.1 hx, (afterBlanks?_eq_some_iff.1 hy).2⟩, (ih y htail).1 h⟩
    · rintro ⟨y, ⟨x, hx, hy⟩, h⟩
      have hflush := isFlush_of_leads_keywords hws htail h
      exact ⟨x, keyword?_eq_some_iff.2 hx, y, afterBlanks?_eq_some_iff.2 ⟨hflush, hy⟩,
        (ih y htail).2 h⟩

/-- The text begins with the words, in any mixture of cases and with blanks between each two of
them, and the last of them ends there. -/
def BeginsWith (words : List Text) (t : Text) : Prop :=
  ∃ rest, Leads (keywords words) t rest ∧ atWordEnd rest

/-- The test for whole keywords tells whether a text begins with them. -/
theorem isSome_wholeKeywords?_iff {words : List Text} (hw : ∀ w ∈ words, IsCapital w) {t : Text} :
    (wholeKeywords? words t).isSome ↔ BeginsWith words t := by
  simp only [Option.isSome_iff_exists, wholeKeywords?, Option.filter_eq_some_iff,
    keywords?_eq_some_iff hw, BeginsWith]

/-- A name is made of three parts. -/
theorem mem_name_iff {n : Text} : n ∈ name ↔
    ∃ opening ∈ optional isOpeningQuote, ∃ w ∈ word, ∃ closing ∈ optional isClosingQuote,
      n = opening ++ w ++ closing := by
  constructor
  · intro h
    obtain ⟨_, hfront, closing, hclosing, rfl⟩ := Language.mem_mul.1 h
    obtain ⟨opening, hopening, w, hw, rfl⟩ := Language.mem_mul.1 hfront
    exact ⟨opening, hopening, w, hw, closing, hclosing, rfl⟩
  · rintro ⟨opening, hopening, w, hw, closing, hclosing, rfl⟩
    exact Language.append_mem_mul (Language.append_mem_mul hopening hw) hclosing

/-- A character of a bare name is not blank. -/
theorem isBlank_of_isNameChar {c : Char} (h : isNameChar c) : Text.isBlank c = false := by
  rw [isNameChar, Bool.or_eq_true] at h
  rcases h with h | h
  · exact Text.isBlank_of_isWord h
  · rw [beq_iff_eq.1 h]
    decide

/-- A quote is no character of a bare name. -/
theorem isNameChar_of_quote {c : Char} (h : isOpeningQuote c ∨ isClosingQuote c) :
    isNameChar c = false := by
  simp only [isOpeningQuote, isClosingQuote, Bool.or_eq_true, beq_iff_eq] at h
  rcases h with ((rfl | rfl) | rfl) | ((rfl | rfl) | rfl) <;> decide

/-- A quote is not blank. -/
theorem isBlank_of_quote {c : Char} (h : isOpeningQuote c ∨ isClosingQuote c) :
    Text.isBlank c = false := by
  simp only [isOpeningQuote, isClosingQuote, Bool.or_eq_true, beq_iff_eq] at h
  rcases h with ((rfl | rfl) | rfl) | ((rfl | rfl) | rfl) <;> decide

/-- One character of a kind, or none, is taken from a text if no other one follows. -/
theorem takeOne_append {p : Char → Bool} {u rest : Text} (hu : u ∈ optional p)
    (h : ∀ c ∈ rest.head?, p c = false) : takeOne p (u ++ rest) = (u, rest) := by
  rcases hu with rfl | ⟨c, hc, rfl⟩
  · cases rest with
    | nil => rfl
    | cons c cs => exact if_neg (by simp [h c rfl])
  · exact if_pos hc

/-- What is taken is one character of the kind or none, and the rest is left. -/
theorem takeOne_mem (p : Char → Bool) (t : Text) :
    (takeOne p t).1 ∈ optional p ∧ t = (takeOne p t).1 ++ (takeOne p t).2 := by
  cases t with
  | nil => exact ⟨.inl rfl, rfl⟩
  | cons c cs =>
    rw [takeOne]
    split
    · next hc => exact ⟨.inr ⟨c, hc, rfl⟩, rfl⟩
    · exact ⟨.inl rfl, rfl⟩

/-- No name goes on here: neither a word nor its closing quote. -/
def EndsName (rest : Text) : Prop :=
  ∀ c ∈ rest.head?, isNameChar c = false ∧ isClosingQuote c = false

/-- **A name is read as it stands.** -/
theorem tableName?_append {n rest : Text} (hn : n ∈ name) (h : EndsName rest) :
    tableName? (n ++ rest) = some (n, rest) := by
  obtain ⟨opening, hopening, w, ⟨hne, hword⟩, closing, hclosing, rfl⟩ := mem_name_iff.1 hn
  have hopen : takeOne isOpeningQuote (opening ++ w ++ closing ++ rest) =
      (opening, w ++ (closing ++ rest)) := by
    rw [List.append_assoc, List.append_assoc]
    refine takeOne_append hopening fun c hc => ?_
    rw [List.head?_append_of_ne_nil _ hne] at hc
    have hword := hword c (List.mem_of_mem_head? hc)
    rw [Bool.eq_false_iff]
    intro hquote
    rw [isNameChar_of_quote (.inl hquote)] at hword
    cases hword
  have hbehind : ∀ c ∈ (closing ++ rest).head?, isNameChar c = false := by
    intro c hc
    rcases hclosing with rfl | ⟨q, hq, rfl⟩
    · exact (h c hc).1
    · obtain rfl := Option.some.inj hc
      exact isNameChar_of_quote (.inr hq)
  obtain ⟨htake, hdrop⟩ := span_append hword hbehind
  have hclose : takeOne isClosingQuote (closing ++ rest) = (closing, rest) :=
    takeOne_append hclosing fun c hc => (h c hc).2
  simp only [tableName?, hopen, htake, hdrop, hclose]
  rw [if_neg (by simpa using hne)]

/-- What the reader of names finds is a name, and the rest is behind it. -/
theorem mem_name_of_tableName? {t n rest : Text} (h : tableName? t = some (n, rest)) :
    n ∈ name ∧ t = n ++ rest := by
  simp only [tableName?] at h
  split at h
  · cases h
  · next hword =>
    obtain ⟨hopening, hfront⟩ := takeOne_mem isOpeningQuote t
    obtain ⟨hclosing, hback⟩ :=
      takeOne_mem isClosingQuote ((takeOne isOpeningQuote t).2.dropWhile isNameChar)
    obtain ⟨rfl, rfl⟩ := Prod.mk.inj (Option.some.inj h)
    constructor
    · refine mem_name_iff.2 ⟨_, hopening, _, ⟨?_, ?_⟩, _, hclosing, rfl⟩
      · simpa using hword
      · exact fun c hc => List.mem_takeWhile_imp hc
    · rw [List.append_assoc, ← hback, List.append_assoc, List.takeWhile_append_dropWhile, ← hfront]

/-- A name ends where a blank stands. -/
theorem endsName_of_blank {c : Char} (hc : Text.isBlank c) (t : Text) : EndsName (c :: t) := by
  rintro _ ⟨⟩
  constructor
  · rw [Bool.eq_false_iff]
    intro hname
    rw [isBlank_of_isNameChar hname] at hc
    cases hc
  · rw [Bool.eq_false_iff]
    intro hquote
    rw [isBlank_of_quote (.inr hquote)] at hc
    cases hc

/-- It also ends before the parenthesis, with blanks in front of it or without. -/
theorem endsName_of_leads {t rest : Text} (h : Leads blanks t ('(' :: rest)) : EndsName t := by
  obtain ⟨u, hu, rfl⟩ := h
  cases u with
  | nil =>
    rintro _ ⟨⟩
    exact ⟨by decide, by decide⟩
  | cons c u => exact endsName_of_blank (List.all_eq_true.1 hu c (List.mem_cons_self ..)) _

/-- A parenthesis is not blank. -/
theorem isFlush_parenthesis {t : Text} : Text.IsFlush ('(' :: t) := by
  rintro _ ⟨⟩
  decide

/-- A text that begins with a name begins with no blank. -/
theorem isFlush_of_mem_name {n : Text} (hn : n ∈ name) (rest : Text) : (n ++ rest).IsFlush := by
  obtain ⟨opening, hopening, w, ⟨hne, hword⟩, closing, -, rfl⟩ := mem_name_iff.1 hn
  intro c hc
  rcases hopening with rfl | ⟨q, hq, rfl⟩
  · rw [List.nil_append, List.append_assoc, List.head?_append_of_ne_nil _ hne] at hc
    exact isBlank_of_isNameChar (hword c (List.mem_of_mem_head? hc))
  · obtain rfl := Option.some.inj hc
    exact isBlank_of_quote (.inl hq)

/-- A word is a name without quotes. -/
theorem mem_name_of_mem_word {w : Text} (h : w ∈ word) : w ∈ name := by
  refine mem_name_iff.2 ⟨[], .inl rfl, w, h, [], .inl rfl, ?_⟩
  rw [List.nil_append, List.append_nil]

/-- The letters of a keyword may all stand in a name. -/
theorem isNameChar_of_mem_keyword {w u : Text} (hw : IsCapital w) (hu : u ∈ keyword w) :
    ∀ c ∈ u, isNameChar c := by
  intro c hc
  rw [isNameChar, isWord_of_mem_keyword hw.2 hu c hc, Bool.true_or]

/-- The test for existence is skipped as the grammar has it. -/
theorem leads_skipExistenceTest (t : Text) :
    Leads existenceTest t (Declaration.skipExistenceTest t) := by
  rw [existenceTest, leads_add_iff, leads_one_iff, leads_mul_iff, Declaration.skipExistenceTest]
  cases h : (keywords? ["IF", "NOT", "EXISTS"] t).bind Text.afterBlanks? with
  | none => exact .inl rfl
  | some rest =>
    obtain ⟨x, hx, hrest⟩ := Option.bind_eq_some_iff.1 h
    exact .inr ⟨x, (keywords?_eq_some_iff (by decide)).1 hx, (afterBlanks?_eq_some_iff.1 hrest).2⟩

/-- If the rest behind a test for existence begins with no blank, neither does the text. -/
theorem isFlush_of_leads_existenceTest {t rest : Text} (h : Leads existenceTest t rest)
    (hrest : rest.IsFlush) : t.IsFlush := by
  rw [existenceTest, leads_add_iff, leads_one_iff, leads_mul_iff] at h
  rcases h with rfl | ⟨x, hx, -⟩
  · exact hrest
  · exact isFlush_of_leads_keywords (List.cons_ne_nil _ _) (by decide) hx

/-- A name with a parenthesis behind it is not taken for `IF NOT EXISTS`. Were it so, the name would
be `IF`, and behind the blanks there would be both a parenthesis and the letter `N`. -/
theorem not_leads_keywords {n x rest : Text} (hn : n ∈ name) (hx : Leads blanks x ('(' :: rest))
    (y : Text) : ¬ Leads (keywords ["IF", "NOT", "EXISTS"]) (n ++ x) y := by
  intro h
  obtain ⟨b, hfront, hback⟩ := leads_mul_iff.1 h
  obtain ⟨a, hif, hgap⟩ := leads_mul_iff.1 hfront
  obtain ⟨u, hu, hsplit⟩ := hif
  have hb : b.IsFlush := isFlush_of_leads_keywords (List.cons_ne_nil _ _) (by decide) hback
  have hblanks : Leads blanks a b ∧ EndsName a := by
    obtain ⟨g, ⟨hne, hblank⟩, rfl⟩ := hgap
    refine ⟨⟨g, hblank, rfl⟩, ?_⟩
    cases g with
    | nil => exact absurd rfl hne
    | cons c g => exact endsName_of_blank (List.all_eq_true.1 hblank c (List.mem_cons_self ..)) _
  have hname : u ∈ name := by
    refine mem_name_of_mem_word ⟨?_, isNameChar_of_mem_keyword (by decide) hu⟩
    rintro rfl
    cases hu
  have hread := tableName?_append hn (endsName_of_leads hx)
  rw [hsplit, tableName?_append hname hblanks.2] at hread
  obtain ⟨-, rfl⟩ := Prod.mk.inj (Option.some.inj hread)
  have hsame := ((leads_blanks_iff hb).1 hblanks.1).symm.trans
    ((leads_blanks_iff isFlush_parenthesis).1 hx)
  rw [hsame] at hback
  cases (keywords?_eq_some_iff (by decide)).2 hback

/-- What is skipped in front of a name is what stands there. -/
theorem skipExistenceTest_eq {t n x rest : Text} (ht : Leads existenceTest t (n ++ x))
    (hn : n ∈ name) (hx : Leads blanks x ('(' :: rest)) :
    Declaration.skipExistenceTest t = n ++ x := by
  rw [Declaration.skipExistenceTest]
  rw [existenceTest, leads_add_iff, leads_one_iff, leads_mul_iff] at ht
  rcases ht with rfl | ⟨y, hy, hgap⟩
  · cases h : keywords? ["IF", "NOT", "EXISTS"] (n ++ x) with
    | none => rfl
    | some y => exact absurd ((keywords?_eq_some_iff (by decide)).1 h) (not_leads_keywords hn hx y)
  · rw [(keywords?_eq_some_iff (by decide)).2 hy, Option.bind_some,
      afterBlanks?_eq_some_iff.2 ⟨isFlush_of_mem_name hn x, hgap⟩, Option.getD_some]

end Grammar

namespace Declaration

/-- The table of an opening in front of the text, and what is left behind the opening. -/
def opening? (t : Text) : Option (Text × Text) := do
  let t ← keywords? ["CREATE", "TABLE"] t
  let t ← Text.afterBlanks? t
  let (name, t) ← tableName? (skipExistenceTest t)
  let t ← Text.after? ['('] (Text.skipBlanks t)
  some (name, t)

/-- The steps of reading an opening. -/
theorem opening?_eq_some_iff_steps {t n rest : Text} :
    opening? t = some (n, rest) ↔ ∃ u v w, keywords? ["CREATE", "TABLE"] t = some u ∧
      Text.afterBlanks? u = some v ∧ tableName? (skipExistenceTest v) = some (n, w) ∧
      Text.after? ['('] (Text.skipBlanks w) = some rest := by
  constructor
  · intro h
    obtain ⟨u, hu, h⟩ := Option.bind_eq_some_iff.1 h
    obtain ⟨v, hv, h⟩ := Option.bind_eq_some_iff.1 h
    obtain ⟨⟨name, w⟩, hw, h⟩ := Option.bind_eq_some_iff.1 h
    obtain ⟨x, hx, h⟩ := Option.bind_eq_some_iff.1 h
    obtain ⟨rfl, rfl⟩ := Prod.mk.inj (Option.some.inj h)
    exact ⟨u, v, w, hu, hv, hw, hx⟩
  · rintro ⟨u, v, w, hu, hv, hw, hx⟩
    simp only [opening?, Option.bind_eq_bind, hu, hv, hw, hx, Option.bind_some]

open Grammar in
/-- **An opening is read where one stands,** and nowhere else. -/
theorem opening?_eq_some_iff {t n rest : Text} :
    opening? t = some (n, rest) ↔ Leads (opening n) t rest := by
  rw [opening?_eq_some_iff_steps, opening]
  simp only [leads_mul_iff, leads_singleton_iff, leads_nameOf_iff]
  constructor
  · rintro ⟨u, v, w, hu, hv, hw, hx⟩
    obtain ⟨hn, hsplit⟩ := mem_name_of_tableName? hw
    have hblanks := (leads_blanks_iff (Text.isFlush_skipBlanks w)).2 rfl
    rw [Text.eq_append_of_after? hx] at hblanks
    exact ⟨'(' :: rest, ⟨w, ⟨skipExistenceTest v, ⟨v, ⟨u, (keywords?_eq_some_iff (by decide)).1 hu,
      (afterBlanks?_eq_some_iff.1 hv).2⟩, leads_skipExistenceTest v⟩, hn, hsplit⟩, hblanks⟩, rfl⟩
  · rintro ⟨_, ⟨w, ⟨_, ⟨v, ⟨u, hu, hgap⟩, htest⟩, hn, rfl⟩, hblanks⟩, rfl⟩
    have hv : v.IsFlush := isFlush_of_leads_existenceTest htest (isFlush_of_mem_name hn w)
    refine ⟨u, v, w, (keywords?_eq_some_iff (by decide)).2 hu,
      afterBlanks?_eq_some_iff.2 ⟨hv, hgap⟩, ?_, ?_⟩
    · rw [skipExistenceTest_eq htest hn hblanks]
      exact tableName?_append hn (endsName_of_leads hblanks)
    · rw [(leads_blanks_iff isFlush_parenthesis).1 hblanks]
      exact Text.after?_append ['('] rest

end Declaration

namespace Grammar

/-- **Two openings in front of one text are the same,** and so are the tables that they name. -/
theorem opening_unique {t m n u v : Text} (hu : u ∈ opening m) (hv : v ∈ opening n)
    (hut : u <+: t) (hvt : v <+: t) : m = n ∧ u = v := by
  obtain ⟨x, rfl⟩ := hut
  obtain ⟨y, hy⟩ := hvt
  have hleft : Declaration.opening? (u ++ x) = some (m, x) :=
    Declaration.opening?_eq_some_iff.2 ⟨u, hu, rfl⟩
  have hright : Declaration.opening? (u ++ x) = some (n, y) :=
    Declaration.opening?_eq_some_iff.2 ⟨v, hv, hy.symm⟩
  obtain ⟨rfl, rfl⟩ := Prod.mk.inj (Option.some.inj (hleft.symm.trans hright))
  exact ⟨rfl, (List.append_cancel_right hy).symm⟩

end Grammar

open Grammar (Leads)

/-- The reader of a semicolon skips blanks and then finds one. -/
theorem afterSemicolon?_eq_some_iff {t rest : Text} :
    afterSemicolon? t = some rest ↔ Leads Grammar.blanks t (';' :: rest) := by
  have hflush : Text.IsFlush (';' :: rest) := by
    rintro _ ⟨⟩
    decide
  rw [Grammar.leads_blanks_iff hflush, afterSemicolon?]
  constructor
  · exact Text.eq_append_of_after?
  · intro h
    rw [h]
    exact Text.after?_append [';'] rest

/-- A statement ends with a parenthesis and a semicolon, with blanks between them or none. -/
theorem leads_ending_iff {t rest : Text} :
    Leads Grammar.ending t rest ↔ ∃ x, t = ')' :: x ∧ afterSemicolon? x = some rest := by
  simp only [Grammar.ending, Grammar.leads_mul_iff, Grammar.leads_singleton_iff,
    afterSemicolon?_eq_some_iff]
  constructor
  · rintro ⟨_, ⟨x, rfl, hx⟩, rfl⟩
    exact ⟨x, rfl, hx⟩
  · rintro ⟨x, rfl, hx⟩
    exact ⟨_, ⟨x, rfl, hx⟩, rfl⟩

/-- What ends a statement begins at the first character or behind it. -/
theorem endsStatement_cons_iff {c : Char} {t : Text} :
    EndsStatement (c :: t) ↔ (c = ')' ∧ (afterSemicolon? t).isSome) ∨ EndsStatement t := by
  constructor
  · rintro ⟨front, gap, back, hsplit, hgap⟩
    cases front with
    | nil =>
      obtain ⟨rfl, rfl⟩ := List.cons.inj hsplit
      have hend : afterSemicolon? (gap ++ ';' :: back) = some back :=
        afterSemicolon?_eq_some_iff.2 ⟨gap, hgap, rfl⟩
      exact .inl ⟨rfl, by rw [hend]; rfl⟩
    | cons d front =>
      obtain ⟨rfl, rfl⟩ := List.cons.inj hsplit
      exact .inr ⟨front, gap, back, rfl, hgap⟩
  · rintro (⟨rfl, hend⟩ | ⟨front, gap, back, rfl, hgap⟩)
    · obtain ⟨back, hback⟩ := Option.isSome_iff_exists.1 hend
      obtain ⟨gap, hgap, rfl⟩ := afterSemicolon?_eq_some_iff.1 hback
      exact ⟨[], gap, back, rfl, hgap⟩
    · exact ⟨c :: front, gap, back, rfl, hgap⟩

/-- The empty text does not end a statement. -/
theorem not_endsStatement_nil : ¬ EndsStatement [] := by
  rintro ⟨front, gap, back, hsplit, -⟩
  cases front <;> cases hsplit

instance decidableEndsStatement : (t : Text) → Decidable (EndsStatement t)
  | [] => .isFalse not_endsStatement_nil
  | _ :: t =>
    have := decidableEndsStatement t
    decidable_of_iff _ endsStatement_cons_iff.symm

/-- Whether a semicolon follows is settled before the next character that is neither blank nor a
semicolon itself. -/
theorem isSome_afterSemicolon?_append {c : Char} (hblank : Text.isBlank c = false) (hc : c ≠ ';')
    (t rest : Text) : (afterSemicolon? (t ++ c :: rest)).isSome = (afterSemicolon? t).isSome := by
  rw [afterSemicolon?, Text.skipBlanks, List.dropWhile_append, afterSemicolon?, Text.skipBlanks]
  cases t.dropWhile Text.isBlank with
  | nil =>
    rw [List.isEmpty_nil, if_pos rfl, List.dropWhile_cons_of_neg (by simp [hblank])]
    simp [Text.after?, Ne.symm hc]
  | cons d ds =>
    simp only [List.isEmpty_cons, Bool.false_eq_true, if_false, List.cons_append, Text.after?]
    split <;> rfl

/-- **A body is read up to the first place where it can end.** -/
theorem body?_eq_some_iff {t body rest : Text} :
    body? t = some (body, rest) ↔
      ¬ EndsStatement body ∧ Leads ({body} * Grammar.ending) t rest := by
  simp only [Grammar.leads_mul_iff, Grammar.leads_singleton_iff, leads_ending_iff]
  constructor
  · intro h
    induction t generalizing body with
    | nil => cases h
    | cons c cs ih =>
      rw [body?] at h
      split at h
      · next left hleft =>
        obtain ⟨rfl, rfl⟩ := Prod.mk.inj (Option.some.inj h)
        split at hleft
        · next hc => exact ⟨not_endsStatement_nil, _, rfl, cs, congrArg (· :: cs) hc, hleft⟩
        · cases hleft
      · next hnone =>
        obtain ⟨⟨b, r⟩, hb, heq⟩ := Option.map_eq_some_iff.1 h
        obtain ⟨rfl, rfl⟩ := Prod.mk.inj heq
        obtain ⟨hends, _, rfl, x, rfl, hx⟩ := ih hb
        refine ⟨?_, _, rfl, x, rfl, hx⟩
        rw [endsStatement_cons_iff]
        rintro (⟨rfl, hend⟩ | hends')
        · rw [← isSome_afterSemicolon?_append (c := ')') (by decide) (by decide) b x] at hend
          rw [if_pos rfl] at hnone
          rw [hnone] at hend
          cases hend
        · exact hends hends'
  · rintro ⟨hends, _, rfl, x, rfl, hx⟩
    induction body with
    | nil =>
      rw [List.nil_append, body?, if_pos rfl, hx]
    | cons c b ih =>
      rw [endsStatement_cons_iff, not_or] at hends
      have hnone : (if c = ')' then afterSemicolon? (b ++ ')' :: x) else none) = none := by
        split
        · next hc =>
          rw [← Option.not_isSome_iff_eq_none,
            isSome_afterSemicolon?_append (by decide) (by decide)]
          exact fun hend => hends.1 ⟨hc, hend⟩
        · rfl
      rw [List.cons_append, body?, hnone]
      simp only [ih hends.2, Option.map_some]

/-- A body is read wherever one can end. -/
theorem isSome_body?_iff {t : Text} : (body? t).isSome ↔ EndsStatement t := by
  induction t with
  | nil => exact iff_of_false (by simp [body?]) not_endsStatement_nil
  | cons c cs ih =>
    rw [endsStatement_cons_iff, ← ih, body?]
    by_cases hc : c = ')'
    · rw [if_pos hc]
      cases afterSemicolon? cs <;> simp [hc]
    · rw [if_neg hc]
      simp [hc]

namespace Declaration

/-- A declaration is an opening and a body. -/
theorem read?_eq_some_iff_opening? {t rest : Text} {d : Declaration} :
    read? t = some (d, rest) ↔
      ∃ x, opening? t = some (d.name, x) ∧ body? x = some (d.body, rest) := by
  simp only [read?_eq_some_iff, opening?_eq_some_iff_steps]
  constructor
  · rintro ⟨u, v, w, x, hu, hv, hw, hx, hbody⟩
    exact ⟨x, ⟨u, v, w, hu, hv, hw, hx⟩, hbody⟩
  · rintro ⟨x, ⟨u, v, w, hu, hv, hw, hx⟩, hbody⟩
    exact ⟨u, v, w, x, hu, hv, hw, hx, hbody⟩

/-- **A declaration is read where a statement stands,** and it is the one with the shortest body. -/
theorem read?_eq_some_iff_leads {t rest : Text} {d : Declaration} :
    read? t = some (d, rest) ↔
      ¬ EndsStatement d.body ∧ Leads (Grammar.statement d) t rest := by
  simp only [read?_eq_some_iff_opening?, opening?_eq_some_iff, body?_eq_some_iff, Grammar.statement,
    mul_assoc, Grammar.leads_mul_iff]
  constructor
  · rintro ⟨x, hx, hends, hbody⟩
    exact ⟨hends, x, hx, hbody⟩
  · rintro ⟨hends, x, hx, hbody⟩
    exact ⟨x, hx, hends, hbody⟩

/-- **An opening takes the next end of a statement,** wherever it stands: all that stands in front
of that end is the body, semicolons and other openings included. -/
theorem read?_of_mem_opening {n u front gap back : Text} (hu : u ∈ Grammar.opening n)
    (hfront : ¬ EndsStatement front) (hgap : Text.isAllBlank gap) :
    read? (u ++ (front ++ ')' :: (gap ++ ';' :: back))) = some (⟨n, front⟩, back) := by
  have hending : Leads Grammar.ending (')' :: (gap ++ ';' :: back)) back :=
    leads_ending_iff.2 ⟨_, rfl, afterSemicolon?_eq_some_iff.2 ⟨gap, hgap, rfl⟩⟩
  refine read?_eq_some_iff_leads.2 ⟨hfront, ?_⟩
  simp only [Grammar.statement, mul_assoc, Grammar.leads_mul_iff, Grammar.leads_singleton_iff]
  exact ⟨_, ⟨u, hu, rfl⟩, _, rfl, hending⟩

/-- A declaration is read where an opening stands and behind it, however far, the end of a
statement. -/
theorem isSome_read?_iff {t : Text} :
    (read? t).isSome ↔ ∃ n x, Leads (Grammar.opening n) t x ∧ EndsStatement x := by
  simp only [Option.isSome_iff_exists, ← isSome_body?_iff, ← opening?_eq_some_iff]
  constructor
  · rintro ⟨⟨d, rest⟩, h⟩
    obtain ⟨x, hx, hbody⟩ := read?_eq_some_iff_opening?.1 h
    exact ⟨d.name, x, hx, (d.body, rest), hbody⟩
  · rintro ⟨n, x, hx, ⟨body, rest⟩, hbody⟩
    exact ⟨(⟨n, body⟩, rest), read?_eq_some_iff_opening?.2 ⟨x, hx, hbody⟩⟩

/-- Where a statement stands, whatever its body, a declaration is read. -/
theorem isSome_read?_of_leads {t rest : Text} {d : Declaration}
    (h : Leads (Grammar.statement d) t rest) : (read? t).isSome := by
  rw [Grammar.statement, mul_assoc, Grammar.leads_mul_iff] at h
  obtain ⟨x, hopening, hbody⟩ := h
  simp only [Grammar.leads_mul_iff, Grammar.leads_singleton_iff, leads_ending_iff,
    afterSemicolon?_eq_some_iff] at hbody
  obtain ⟨_, rfl, _, rfl, gap, hgap, rfl⟩ := hbody
  exact isSome_read?_iff.2 ⟨d.name, _, hopening, d.body, gap, rest, rfl, hgap⟩

end Declaration
end Sql
end Tablesmith
