/-
# Identifiers of a module

A name is made an identifier by keeping its word characters and by what is put in front of a digit
and behind a reserved word. That makes something of every name that is neither empty nor reserved.
But which characters an identifier may hold is not a matter of word characters alone:

| character | of a name | of an identifier |
| --- | --- | --- |
| letter | kept | at any place |
| decimal digit | kept, with an underscore in front of the first | at any place but the first |
| other number | kept, with an underscore in front of some | at no place |
| underscore, and any other run | one underscore, none at the ends | at any place |

So a name gives a valid identifier exactly if it has none of the other numbers
(`isIdentifier_identifier_iff`), such as the one half or the superscript two. Ten numbers are the
exception: they are no decimal digits and still stand in identifiers (`joiningNumbers`). Which
characters may stand where goes by their general categories; what becomes of them when an identifier
is normalised does not count here.

Lower case does not change this. It leaves numbers alone and makes letters of letters, and the dot
that it puts behind one of them is a mark.
-/

import Tablesmith.Proofs.Naming.Spelling
import Tablesmith.Proofs.Text.Category

namespace Tablesmith
namespace Naming

open Text (category inRanges)

/-- Characters that begin an identifier and are no letters, the underscore aside. They have the
property `Other_ID_Start`. -/
def leadingSigns : List (Nat × Nat) :=
  [(0x1885, 0x1886), (0x2118, 0x2118), (0x212E, 0x212E), (0x309B, 0x309C)]

/-- Dots that stand in an identifier. They have the property `Other_ID_Continue`, and so have the
numbers below. -/
def joiningDots : List (Nat × Nat) := [(0xB7, 0xB7), (0x387, 0x387)]

/-- Numbers that stand in an identifier and are no decimal digits. -/
def joiningNumbers : List (Nat × Nat) := [(0x1369, 0x1371), (0x19DA, 0x19DA)]

/-- Does an identifier begin with the character? -/
def isStart (c : Char) : Bool :=
  (category c).isLetter || c == '_' || inRanges leadingSigns c.toNat

/-- Does the character stand in an identifier, behind the first one? -/
def isPart (c : Char) : Bool :=
  isStart c || category c == .Nd || category c == .M || category c == .Pc ||
    inRanges joiningDots c.toNat || inRanges joiningNumbers c.toNat

/-- The text is a valid identifier, reserved words included. -/
def IsIdentifier : Text → Prop
  | [] => False
  | c :: cs => isStart c ∧ ∀ d ∈ cs, isPart d

instance decidableIsIdentifier (t : Text) : Decidable (IsIdentifier t) :=
  match t with
  | [] => inferInstanceAs (Decidable False)
  | _ :: cs => @instDecidableAnd _ _ _ (List.decidableBAll (fun d => (isPart d : Prop)) cs)

/-- A number that stands in no identifier. -/
def isStray (c : Char) : Bool := category c == .No && !inRanges joiningNumbers c.toNat

/-- What begins an identifier can stand in it. -/
theorem isPart_of_isStart {c : Char} (h : isStart c) : isPart c := by
  simp [isPart, h]

/-- The underscore begins identifiers. -/
theorem isStart_underscore : isStart '_' := by
  simp [isStart]

/-- Every letter begins identifiers. -/
theorem isStart_of_isLetter {c : Char} (h : (category c).isLetter) : isStart c := by
  simp [isStart, h]

/-- ASCII letters make an identifier. -/
theorem isIdentifier_of_asciiLetters {t : Text} (hne : t ≠ [])
    (h : t.all fun c => inRanges Text.asciiLetters c.toNat) : IsIdentifier t := by
  have hstart : ∀ c ∈ t, isStart c := by
    intro c hc
    refine isStart_of_isLetter ?_
    rw [Text.category_of_asciiLetters (List.all_eq_true.1 h c hc)]
    rfl
  cases t with
  | nil => exact absurd rfl hne
  | cons c cs =>
    obtain ⟨hc, hcs⟩ := List.forall_mem_cons.1 hstart
    exact ⟨hc, fun d hd => isPart_of_isStart (hcs d hd)⟩

/-- The dots and signs are no numbers, and the ten numbers are digits. -/
theorem signs_agree :
    Text.isWithin (joiningDots ++ leadingSigns) (Text.gaps (· == .No)) ∧
      Text.isWithin joiningNumbers (Text.asciiDigits :: Text.digitRanges) := by
  decide +kernel

/-- Neither a joining dot nor a leading sign is a number of another kind. -/
theorem not_inRanges_of_number {c : Char} (h : category c = .No) :
    inRanges (joiningDots ++ leadingSigns) c.toNat = false := by
  rw [Bool.eq_false_iff]
  intro hsign
  have hnot := Text.not_of_inRanges_gaps rfl (Text.inRanges_of_isWithin signs_agree.1 hsign)
  rw [h] at hnot
  cases hnot

/-- **Of the word characters, the stray numbers stand in no identifier.** -/
theorem isPart_eq {c : Char} (h : Text.isWord c) : isPart c = !isStray c := by
  rw [Text.isWord_eq, Bool.or_eq_true, Bool.or_eq_true, beq_iff_eq] at h
  rcases h with (hletter | hnumber) | rfl
  · rw [isPart_of_isStart (isStart_of_isLetter hletter), isStray]
    cases hc : category c <;> simp_all [Text.Category.isLetter]
  · cases hc : category c with
    | Nd => simp [isPart, isStray, hc]
    | No =>
      have hsigns := not_inRanges_of_number hc
      have hunderscore : (c == '_') = false := by
        rw [beq_eq_false_iff_ne]
        rintro rfl
        rw [Text.category_named.1] at hc
        cases hc
      simp only [inRanges, List.any_append, Bool.or_eq_false_iff] at hsigns
      simp [isPart, isStart, isStray, hc, hunderscore, inRanges, hsigns.1, hsigns.2,
        Text.Category.isLetter]
    | _ => simp_all [Text.Category.isNumber]
  · rw [isPart_of_isStart isStart_underscore, isStray, Text.category_named.1]
    rfl

/-- The ten numbers are digits. -/
theorem isDigit_of_joiningNumbers {c : Char} (h : inRanges joiningNumbers c.toNat) :
    Text.isDigit c := by
  rw [Text.isDigit_eq_inRanges]
  exact Text.inRanges_of_isWithin signs_agree.2 h

/-- A word character that may stand in an identifier begins one, or it is a digit. -/
theorem isStart_of_isPart {c : Char} (h : Text.isWord c) (hpart : isPart c)
    (hdigit : Text.isDigit c = false) : isStart c := by
  rw [isPart_eq h] at hpart
  rw [Text.isWord_eq, Bool.or_eq_true, Bool.or_eq_true, beq_iff_eq] at h
  rcases h with (hletter | hnumber) | rfl
  · exact isStart_of_isLetter hletter
  · exfalso
    have hisDigit : Text.isDigit c := by
      cases hc : category c with
      | Nd => exact Text.isDigit_of_category hc
      | No =>
        refine isDigit_of_joiningNumbers ?_
        simpa [isStray, hc] using hpart
      | _ =>
        rw [hc] at hnumber
        cases hnumber
    rw [hdigit] at hisDigit
    cases hisDigit
  · rfl

/-- An underscore behind an identifier leaves it one, and makes none of anything else. -/
theorem isIdentifier_append_underscore_iff {t : Text} (h : t ≠ []) :
    IsIdentifier (t ++ ['_']) ↔ IsIdentifier t := by
  obtain ⟨c, cs, rfl⟩ := List.exists_cons_of_ne_nil h
  have hunderscore : ∀ d ∈ ['_'], isPart d := List.forall_mem_singleton.2 rfl
  show isStart c ∧ (∀ d ∈ cs ++ ['_'], isPart d) ↔ isStart c ∧ ∀ d ∈ cs, isPart d
  rw [List.forall_mem_append, and_iff_left hunderscore]

/-- The guard against digits leaves something of a word. -/
theorem guardDigit_ne_nil {t : Text} (h : t ≠ []) : guardDigit t ≠ [] := by
  rw [guardDigit]
  split
  · exact List.cons_ne_nil _ _
  · exact h

/-- The guard against empty words leaves something of every text. -/
theorem orColumn_ne_nil (t : Text) : orColumn t ≠ [] := by
  cases t with
  | nil => decide
  | cons c cs => exact List.cons_ne_nil c cs

/-- The guard against reserved words leaves something of a word. -/
theorem guardReserved_ne_nil {t : Text} (h : t ≠ []) : guardReserved t ≠ [] := by
  rw [guardReserved]
  split
  · simp
  · exact h

/-- No reserved word is another one with an underscore behind it, for only the underscore alone has
one at its end. -/
theorem guardReserved_not_mem_reserved (t : Text) : guardReserved t ∉ reserved := by
  rw [guardReserved]
  split
  · next h =>
    have hlast : reserved.all fun r => r != [] && (r.getLast? != some '_' || r == ['_']) := by
      decide
    have hreserved := List.all_eq_true.1 hlast
    intro hmem
    have hempty : t = [] := by simpa using hreserved _ hmem
    simpa [hempty] using hreserved t h
  · next h => exact h

/-- The guard against reserved words makes no difference to what is an identifier. -/
theorem isIdentifier_guardReserved_iff {t : Text} (h : t ≠ []) :
    IsIdentifier (guardReserved t) ↔ IsIdentifier t := by
  rw [guardReserved]
  split
  · exact isIdentifier_append_underscore_iff h
  · exact Iff.rfl

/-- **What the guards make of a word** is an identifier if each of its characters may stand in one.
The first one may also have to begin one, or be a digit. -/
theorem isIdentifier_guards_iff {w : Text}
    (h : ∀ c ∈ w.head?, isPart c → Text.isDigit c = false → isStart c) :
    IsIdentifier (guardReserved (guardDigit (orColumn w))) ↔ ∀ c ∈ w, isPart c := by
  rw [isIdentifier_guardReserved_iff (guardDigit_ne_nil (orColumn_ne_nil w))]
  cases w with
  | nil =>
    have hcolumn : IsIdentifier (guardDigit (orColumn [])) :=
      isIdentifier_of_asciiLetters (guardDigit_ne_nil (orColumn_ne_nil [])) (by decide)
    exact iff_of_true hcolumn (List.forall_mem_nil _)
  | cons c cs =>
    show IsIdentifier (if Text.isDigit c then '_' :: c :: cs else c :: cs) ↔ _
    split
    · exact and_iff_right rfl
    · next hdigit =>
      rw [List.forall_mem_cons]
      refine and_congr_left fun _ => ⟨isPart_of_isStart, fun hpart => h c rfl hpart ?_⟩
      simpa using hdigit

/-- Trimming takes away only what it is for. -/
theorem mem_trimBy_of_not {p : Char → Bool} {t : Text} {c : Char} (hp : p c = false)
    (h : c ∈ t) : c ∈ Text.trimBy p t := by
  have hkeep : ∀ u : Text, c ∈ u → c ∈ u.dropWhile p := by
    intro u hu
    rw [← List.takeWhile_append_dropWhile (p := p) (l := u), List.mem_append] at hu
    rcases hu with hu | hu
    · rw [List.mem_takeWhile_imp hu] at hp
      cases hp
    · exact hu
  rw [Text.trimBy, Text.trimEndBy, List.mem_reverse]
  exact hkeep _ (List.mem_reverse.2 (hkeep t h))

/-- Joining keeps every word character. -/
theorem mem_joinWords_of_isWord {inRun : Bool} {t : Text} {c : Char} (hc : Text.isWord c)
    (h : c ∈ t) : c ∈ joinWords inRun t := by
  fun_induction joinWords inRun t with
  | case1 => cases h
  | case2 inRun d ds hd ih =>
    rcases List.mem_cons.1 h with rfl | h
    · exact List.mem_cons_self ..
    · exact List.mem_cons_of_mem _ (ih h)
  | case3 d ds hd ih =>
    rcases List.mem_cons.1 h with rfl | h
    · exact absurd hc hd
    · exact ih h
  | case4 inRun d ds hd hrun ih =>
    rcases List.mem_cons.1 h with rfl | h
    · exact absurd hc hd
    · exact List.mem_cons_of_mem _ (ih h)

/-- Every character but the underscores of the joining was there before. -/
theorem mem_of_mem_joinWords {inRun : Bool} {t : Text} {c : Char} (hc : c ≠ '_')
    (h : c ∈ joinWords inRun t) : c ∈ t := by
  fun_induction joinWords inRun t with
  | case1 => cases h
  | case2 inRun d ds hd ih =>
    rcases List.mem_cons.1 h with rfl | h
    · exact List.mem_cons_self ..
    · exact List.mem_cons_of_mem _ (ih h)
  | case3 d ds hd ih => exact List.mem_cons_of_mem _ (ih h)
  | case4 inRun d ds hd hrun ih =>
    rcases List.mem_cons.1 h with rfl | h
    · exact absurd rfl hc
    · exact List.mem_cons_of_mem _ (ih h)

/-- A word character is no quote. -/
theorem isQuote_of_isWord {c : Char} (h : Text.isWord c) : isQuote c = false := by
  rw [Bool.eq_false_iff]
  intro hquote
  simp only [isQuote, Bool.or_eq_true, beq_iff_eq] at hquote
  rcases hquote with ((rfl | rfl) | rfl) | rfl <;> cases h

/-- **All word characters of a name are kept,** underscores aside. -/
theorem mem_core_iff {name : Text} {c : Char} (hword : Text.isWord c) (hc : c ≠ '_') :
    c ∈ core name ↔ c ∈ name := by
  constructor
  · intro h
    exact mem_of_mem_trimBy (mem_of_mem_joinWords hc (mem_of_mem_trimBy h))
  · intro h
    refine mem_trimBy_of_not (beq_eq_false_iff_ne.2 hc) (mem_joinWords_of_isWord hword ?_)
    exact mem_trimBy_of_not (isQuote_of_isWord hword) h

/-- A number that is no digit is a word character all the same. -/
theorem isWord_of_isStray {c : Char} (h : isStray c) : Text.isWord c := by
  rw [isStray, Bool.and_eq_true, beq_iff_eq] at h
  refine Text.isWord_of_isNumber ?_
  rw [h.1]
  rfl

/-- It is not the underscore, either. -/
theorem ne_underscore_of_isStray {c : Char} (h : isStray c) : c ≠ '_' := by
  rintro rfl
  rw [isStray, Text.category_named.1] at h
  cases h

/-- The middle of an identifier has stray numbers just where the name has some. -/
theorem forall_isPart_core_iff (name : Text) :
    (∀ c ∈ core name, isPart c) ↔ ∀ c ∈ name, isStray c = false := by
  constructor
  · intro h c hc
    rw [Bool.eq_false_iff]
    intro hstray
    have hword := isWord_of_isStray hstray
    have hpart := h c ((mem_core_iff hword (ne_underscore_of_isStray hstray)).2 hc)
    rw [isPart_eq hword, hstray] at hpart
    cases hpart
  · intro h c hc
    have hword := isWord_of_mem_core hc
    by_cases hunderscore : c = '_'
    · rw [hunderscore]
      rfl
    · rw [isPart_eq hword, h c ((mem_core_iff hword hunderscore).1 hc)]
      rfl

/-- What a word character becomes stands in an identifier where the character does. -/
theorem forall_isPart_lowerFrom_iff {before t : Text} (h : ∀ c ∈ t, Text.isWord c) :
    (∀ c ∈ Text.lowerFrom before t, isPart c) ↔ ∀ c ∈ t, isPart c := by
  induction t generalizing before with
  | nil => exact Iff.rfl
  | cons c t ih =>
    obtain ⟨hword, ht⟩ := List.forall_mem_cons.1 h
    obtain ⟨piece, hlower, hpiece⟩ := Text.lowerFrom_cons hword before t
    rw [hlower, List.forall_mem_append, ih ht, List.forall_mem_cons]
    refine and_congr_left fun _ => ?_
    rcases hpiece with rfl | ⟨hletter, d, ds, rfl, hd, hmarks⟩
    · exact List.forall_mem_singleton
    · refine iff_of_true (List.forall_mem_cons.2 ⟨?_, fun e he => ?_⟩) ?_
      · exact isPart_of_isStart (isStart_of_isLetter hd)
      · simp [isPart, hmarks e he]
      · exact isPart_of_isStart (isStart_of_isLetter hletter)

/-- The first character of a word in lower case begins an identifier if it can stand in one and is
no digit. -/
theorem isStart_head?_lower {t : Text} (h : ∀ c ∈ t, Text.isWord c) :
    ∀ c ∈ (Text.lower t).head?, isPart c → Text.isDigit c = false → isStart c := by
  cases t with
  | nil => rintro c ⟨⟩
  | cons c t =>
    have hword := h c (List.mem_cons_self ..)
    obtain ⟨piece, hlower, hpiece⟩ := Text.lowerFrom_cons hword [] t
    rw [Text.lower, hlower]
    rcases hpiece with rfl | ⟨-, d, ds, rfl, hd, -⟩
    · rintro _ ⟨⟩
      exact isStart_of_isPart hword
    · rintro _ ⟨⟩ - -
      exact isStart_of_isLetter hd

/-- **An identifier is valid exactly if its name has no stray number,** in lower case as well. It is
never empty and never a reserved word. -/
theorem isIdentifier_identifier_iff (name : Text) :
    (IsIdentifier (identifier name) ↔ ∀ c ∈ name, isStray c = false) ∧
      (IsIdentifier (lowerIdentifier name) ↔ ∀ c ∈ name, isStray c = false) ∧
      (identifier name ≠ [] ∧ identifier name ∉ reserved) ∧
      lowerIdentifier name ≠ [] ∧ lowerIdentifier name ∉ reserved := by
  have hword : ∀ c ∈ core name, Text.isWord c := fun c hc => isWord_of_mem_core hc
  have hkept : ∀ w, guardReserved (guardDigit (orColumn w)) ≠ [] ∧
      guardReserved (guardDigit (orColumn w)) ∉ reserved := fun w =>
    ⟨guardReserved_ne_nil (guardDigit_ne_nil (orColumn_ne_nil w)),
      guardReserved_not_mem_reserved _⟩
  refine ⟨?_, ?_, hkept _, hkept _⟩
  · rw [identifier, isIdentifier_guards_iff, forall_isPart_core_iff]
    exact fun c hc => isStart_of_isPart (hword c (List.mem_of_mem_head? hc))
  · rw [lowerIdentifier, isIdentifier_guards_iff (isStart_head?_lower hword), Text.lower,
      forall_isPart_lowerFrom_iff hword, forall_isPart_core_iff]

/-- One half is a word character and no digit, and stands in no identifier. -/
theorem not_isIdentifier_half :
    ¬ IsIdentifier (identifier ['½']) ∧ ¬ IsIdentifier (lowerIdentifier ['½']) := by
  decide +kernel

end Naming
end Tablesmith
