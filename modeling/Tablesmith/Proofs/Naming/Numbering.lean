/-
# Numbered names

A name that is taken is tried with the numbers from two on behind it until a form is free. The
search has no bound of its own (`Search`): one turn gives up a candidate that is taken for the one
with the next number. It ends because the candidates are all different and only finitely many of
them are taken, so there are no more turns than names that are taken.

The form that a name gets is computed without that search, from the numbers that are taken. It is
the form that the search finds, the name with the least free number (`IsForm`):

| taken | name | turns | form |
| --- | --- | --- | --- |
| `b` | `a` | 0 | `a` |
| `a` | `a` | 1 | `a_2` |
| `a`, `a_2`, `a_4` | `a` | 2 | `a_3` |

Which names are taken counts, not their order (`unique_congr`). Names that are unique already stay
as they are, so making names unique once more does nothing.
-/

import Mathlib.Data.List.Nodup
import Mathlib.Data.List.Perm.Subperm
import Tablesmith.Naming.Unique

namespace Tablesmith

namespace Text

/-- A digit is written for its value. -/
theorem eq_digitChar_of_hexValue? {c : Char} {d : Nat} (h : hexValue? c = some d) (hd : d < 10) :
    c = d.digitChar := by
  have hchar : ∀ n < 10, Char.ofNat (n + 48) = n.digitChar := by decide
  rw [hexValue?] at h
  split at h
  · next hc =>
    obtain rfl := Option.some.inj h
    have hlow : 48 ≤ c.toNat := UInt32.le_iff_toNat_le.1 hc.1
    rw [← hchar _ hd, Nat.sub_add_cancel hlow, Char.ofNat_toNat]
  · split at h
    · next hc =>
      have hlow : 97 ≤ c.toNat := UInt32.le_iff_toNat_le.1 hc.1
      have := Option.some.inj h
      omega
    · split at h
      · next hc =>
        have hlow : 65 ≤ c.toNat := UInt32.le_iff_toNat_le.1 hc.1
        have := Option.some.inj h
        omega
      · cases h

/-- Reading a digit more is writing one more, unless there is only a zero in front of it. -/
theorem ofNat_mul_add {n d : Nat} (hn : n ≠ 0) (hd : d < 10) :
    ofNat (n * 10 + d) = ofNat n ++ [d.digitChar] := by
  have hdiv : (n * 10 + d) / 10 = n := by omega
  have hmod : (n * 10 + d) % 10 = d := by omega
  rw [ofNat, Nat.toDigits_eq_if (by decide), if_neg (by omega), hdiv, hmod]
  rfl

/-- The numeral read back is the numeral written, behind what was read in front of it. -/
theorem ofNat_append_of_natFrom? {acc n : Nat} {t : Text} (hacc : acc ≠ 0)
    (h : natFrom? 10 acc t = some n) : ofNat acc ++ t = ofNat n := by
  induction t generalizing acc with
  | nil => rw [List.append_nil, Option.some.inj h]
  | cons c t ih =>
    obtain ⟨d, hvalue, h⟩ := Option.bind_eq_some_iff.1 h
    split at h
    · next hd =>
      have hnumeral := ofNat_mul_add hacc hd
      rw [← ih (by omega) h, hnumeral, eq_digitChar_of_hexValue? hvalue hd, List.append_assoc]
      rfl
    · cases h

/-- **A numeral that begins with no zero is the one that is written** for its number. -/
theorem eq_ofNat_of_nat? {n : Nat} {t : Text} (h : nat? 10 t = some n)
    (hzero : t.head? ≠ some '0') : t = ofNat n := by
  cases t with
  | nil => cases h
  | cons c t =>
    obtain ⟨d, hvalue, h⟩ := Option.bind_eq_some_iff.1 h
    split at h
    · next hd =>
      have hc := eq_digitChar_of_hexValue? hvalue hd
      have hne : d ≠ 0 := by
        rintro rfl
        exact hzero (congrArg some hc)
      rw [Nat.zero_mul, Nat.zero_add] at h
      have hdigit : ofNat d = [c] := by
        rw [ofNat, Nat.toDigits_of_lt_base hd, hc]
      rw [← ofNat_append_of_natFrom? hne h, hdigit]
      rfl
    · cases h

end Text

namespace Naming

/-- A number stands behind the name just in the numbered forms of that name. -/
theorem numberBehind?_eq_some_iff {name t : Text} {k : Nat} :
    numberBehind? (name ++ ['_']) t = some k ↔ t = numbered name k := by
  constructor
  · intro h
    obtain ⟨digits, hdigits, h⟩ := Option.bind_eq_some_iff.1 h
    obtain ⟨n, hn, h⟩ := Option.bind_eq_some_iff.1 h
    split at h
    · cases h
    · next hcanonical =>
      obtain rfl := Option.some.inj h
      have heq : digits = Text.ofNat n := by
        by_cases hzero : digits.head? = some '0'
        · exact Decidable.not_not.1 fun hne => hcanonical ⟨hzero, hne⟩
        · exact Text.eq_ofNat_of_nat? hn hzero
      rw [Text.eq_append_of_after? hdigits, heq, numbered, List.append_assoc]
      rfl
  · rintro rfl
    exact numberBehind?_numbered name k

/-- Different numbers give different forms. -/
theorem numbered_injective (name : Text) {j k : Nat} (h : numbered name j = numbered name k) :
    j = k := by
  have hnumber := numberBehind?_numbered name j
  rw [h, numberBehind?_numbered] at hnumber
  exact (Option.some.inj hnumber).symm

/-- A name is none of its own forms. -/
theorem numbered_ne_self (name : Text) (k : Nat) : numbered name k ≠ name := fun h => by
  have hlength := congrArg List.length h
  simp [numbered] at hlength

/-- All numbers in front of the chosen one are in the list. -/
theorem mem_of_lt_leastFrom {j k : Nat} {ns : List Nat} (hk : k ≤ j) (hj : j < leastFrom k ns) :
    j ∈ ns := by
  induction ns generalizing k with
  | nil => exact absurd hj (Nat.not_lt.2 hk)
  | cons n ns ih =>
    rw [leastFrom] at hj
    split at hj
    · exact List.mem_cons_of_mem _ (ih hk hj)
    · split at hj
      · next heq =>
        rcases Nat.eq_or_lt_of_le hk with rfl | hlt
        · rw [heq]
          exact List.mem_cons_self ..
        · exact List.mem_cons_of_mem _ (ih hlt hj)
      · exact absurd hj (Nat.not_lt.2 hk)

variable {taken taken' : List Text} {name form candidate found : Text} {j k turns : Nat}

/-- The numbers that are skipped are those of the forms that are taken. -/
theorem mem_takenNumbers_iff :
    k ∈ upwards (taken.filterMap (numberBehind? (name ++ ['_']))) ↔ numbered name k ∈ taken := by
  rw [(upwards_spec _).2, List.mem_filterMap]
  exact ⟨fun ⟨_, hmem, hnumber⟩ => numberBehind?_eq_some_iff.1 hnumber ▸ hmem,
    fun hmem => ⟨_, hmem, numberBehind?_numbered name k⟩⟩

/-- The form with the chosen number is free. -/
theorem numbered_freeNumber_not_mem (taken : List Text) (name : Text) :
    numbered name (freeNumber taken name) ∉ taken := fun h =>
  leastFrom_not_mem (upwards_spec _).1 (mem_takenNumbers_iff.2 h)

/-- The forms with lesser numbers are taken. -/
theorem numbered_mem_of_lt_freeNumber (hj : 2 ≤ j) (hlt : j < freeNumber taken name) :
    numbered name j ∈ taken :=
  mem_takenNumbers_iff.1 (mem_of_lt_leastFrom hj hlt)

/-- The form of a name where others are taken: the name itself if it is free, and else the one with
the least number from two on that is. -/
inductive IsForm (taken : List Text) (name : Text) : Text → Prop
  | itself : name ∉ taken → IsForm taken name name
  | numbered {k : Nat} : name ∈ taken → 2 ≤ k → numbered name k ∉ taken →
      (∀ j, 2 ≤ j → j < k → numbered name j ∈ taken) → IsForm taken name (numbered name k)

/-- **The computed form is the one with the least number.** -/
theorem isForm_fresh (taken : List Text) (name : Text) : IsForm taken name (fresh taken name) := by
  rw [fresh]
  split
  · next h =>
    exact .numbered h (le_leastFrom 2 _) (numbered_freeNumber_not_mem taken name)
      fun _ => numbered_mem_of_lt_freeNumber
  · next h => exact .itself h

/-- There is no other form. -/
theorem IsForm.eq_fresh (h : IsForm taken name form) : form = fresh taken name := by
  cases h with
  | itself hname => rw [fresh, if_neg hname]
  | @numbered k hname hk hfree hleast =>
    rw [fresh, if_pos hname]
    rcases Nat.lt_trichotomy k (freeNumber taken name) with hlt | heq | hlt
    · exact absurd (numbered_mem_of_lt_freeNumber hk hlt) hfree
    · rw [heq]
    · exact absurd (hleast _ (le_leastFrom 2 _) hlt) (numbered_freeNumber_not_mem taken name)

/-- Only what is taken matters to the form, not in which order. -/
theorem IsForm.congr (htaken : ∀ n, n ∈ taken ↔ n ∈ taken') (h : IsForm taken name form) :
    IsForm taken' name form := by
  cases h with
  | itself hname => exact .itself (mt (htaken _).2 hname)
  | numbered hname hk hfree hleast =>
    exact .numbered ((htaken _).1 hname) hk (mt (htaken _).2 hfree)
      fun j hj hlt => (htaken _).1 (hleast j hj hlt)

/-- **The order of the taken names does not matter,** nor how often each stands among them. -/
theorem unique_congr (htaken : ∀ n, n ∈ taken ↔ n ∈ taken') (names : List Text) :
    unique taken names = unique taken' names := by
  induction names generalizing taken taken' with
  | nil => rfl
  | cons name names ih =>
    have hfresh : fresh taken name = fresh taken' name :=
      ((isForm_fresh taken name).congr htaken).eq_fresh
    rw [unique, unique, hfresh]
    exact congrArg (_ :: ·) (ih fun n => by rw [List.mem_cons, List.mem_cons, htaken])

/-- A name that stands behind others is kept apart from what these have become. -/
theorem getElem?_unique {names : List Text} {i : Nat} (h : names[i]? = some name) :
    (unique taken names)[i]? = some (fresh (taken ++ (unique taken names).take i) name) := by
  induction names generalizing taken i with
  | nil => cases h
  | cons first names ih =>
    cases i with
    | zero =>
      obtain rfl := Option.some.inj h
      rw [List.take_zero, List.append_nil]
      rfl
    | succ i =>
      rw [List.getElem?_cons_succ] at h
      have hmem : ∀ n, n ∈ fresh taken first :: taken ++
          (unique (fresh taken first :: taken) names).take i ↔
            n ∈ taken ++ (unique taken (first :: names)).take (i + 1) := fun n => by
        simp only [unique, List.take_succ_cons, List.mem_append, List.mem_cons]
        exact or_assoc.trans or_left_comm
      rw [unique, List.getElem?_cons_succ, ih h, ← unique,
        ((isForm_fresh _ name).congr hmem).eq_fresh]

/-- The search for a form: it comes from a candidate, with the number to try next, to what it finds
in so many turns. -/
inductive Search (taken : List Text) (name : Text) :
    (turns : Nat) → (candidate : Text) → (next : Nat) → (found : Text) → Prop
  | free {candidate : Text} {next : Nat} : candidate ∉ taken →
      Search taken name 0 candidate next candidate
  | turn {turns next : Nat} {candidate found : Text} : candidate ∈ taken →
      Search taken name turns (numbered name next) (next + 1) found →
      Search taken name (turns + 1) candidate next found

/-- From a numbered candidate the search goes on to the least free number. -/
theorem search_numbered (hk : 2 ≤ k) (hle : k ≤ freeNumber taken name) :
    Search taken name (freeNumber taken name - k) (numbered name k) (k + 1)
      (numbered name (freeNumber taken name)) := by
  obtain ⟨d, hd⟩ := Nat.exists_eq_add_of_le hle
  induction d generalizing k with
  | zero =>
    rw [Nat.add_zero] at hd
    rw [← hd, Nat.sub_self]
    exact .free (hd ▸ numbered_freeNumber_not_mem taken name)
  | succ d ih =>
    have hlt : k < freeNumber taken name := by omega
    have hturns : freeNumber taken name - k = freeNumber taken name - (k + 1) + 1 := by omega
    rw [hturns]
    exact .turn (numbered_mem_of_lt_freeNumber hk hlt) (ih (by omega) hlt (by omega))

/-- The candidates that are given up are different, so they are no more than the names that are
taken. -/
theorem freeNumber_le (h : name ∈ taken) : freeNumber taken name - 2 + 1 ≤ taken.length := by
  let given := name :: (List.range' 2 (freeNumber taken name - 2)).map (numbered name)
  have hnodup : given.Nodup := by
    refine List.nodup_cons.2 ⟨fun hmem => ?_, ?_⟩
    · obtain ⟨j, -, hj⟩ := List.mem_map.1 hmem
      exact numbered_ne_self name j hj
    · exact List.Nodup.map (fun _ _ => numbered_injective name) List.nodup_range'
  have hsubset : given ⊆ taken := by
    refine List.cons_subset.2 ⟨h, fun n hn => ?_⟩
    obtain ⟨j, hj, rfl⟩ := List.mem_map.1 hn
    rw [List.mem_range'_1] at hj
    exact numbered_mem_of_lt_freeNumber hj.1 (by omega)
  have hlength := (hnodup.subperm hsubset).length_le
  simpa [given] using hlength

/-- **The search ends with the computed form,** after no more turns than names that are taken. -/
theorem exists_search (taken : List Text) (name : Text) :
    ∃ turns ≤ taken.length, Search taken name turns name 2 (fresh taken name) := by
  rw [fresh]
  split
  · next h =>
    exact ⟨_, freeNumber_le h, .turn h (search_numbered (Nat.le_refl 2) (le_leastFrom 2 _))⟩
  · next h => exact ⟨0, Nat.zero_le _, .free h⟩

/-- It ends in no other way. -/
theorem Search.found_unique {turns' : Nat} {next : Nat} {found' : Text}
    (h : Search taken name turns candidate next found)
    (h' : Search taken name turns' candidate next found') : turns = turns' ∧ found = found' := by
  induction h generalizing turns' with
  | free hfree =>
    cases h' with
    | free => exact ⟨rfl, rfl⟩
    | turn htaken => exact absurd htaken hfree
  | turn htaken _ ih =>
    cases h' with
    | free hfree => exact absurd htaken hfree
    | turn _ hrest =>
      obtain ⟨hturns, hfound⟩ := ih hrest
      exact ⟨congrArg (· + 1) hturns, hfound⟩

/-- **Names get unique forms with the least numbers.** For each name the search among the names that
were taken and the forms of the names in front ends, with the name's form and with no other. The
forms are as many as the names, different from each other and from all that was taken. Therefore
names that are different and free stay as they are, making forms unique does nothing to them, and
names behind others get their forms as if the forms of these were taken too. -/
theorem unique_forms (taken names : List Text) :
    (∀ (i : Nat) (name : Text), names[i]? = some name →
      ∃ form, (unique taken names)[i]? = some form ∧
        IsForm (taken ++ (unique taken names).take i) name form ∧
        (∃ turns ≤ taken.length + i,
          Search (taken ++ (unique taken names).take i) name turns name 2 form) ∧
        ∀ turns found, Search (taken ++ (unique taken names).take i) name turns name 2 found →
          found = form) ∧
      (unique taken names).length = names.length ∧
      (unique taken names).Nodup ∧
      (∀ form ∈ unique taken names, form ∉ taken) ∧
      (names.Nodup → (∀ name ∈ names, name ∉ taken) → unique taken names = names) ∧
      unique taken (unique taken names) = unique taken names ∧
      ∀ more taken' : List Text, (∀ n, n ∈ taken' ↔ n ∈ taken ∨ n ∈ unique taken names) →
        unique taken (names ++ more) = unique taken names ++ unique taken' more := by
  have hfree : ∀ form ∈ unique taken names, form ∉ taken := fun _ => not_mem_of_mem_unique
  refine ⟨fun i name hname => ?_, length_unique taken names, nodup_unique taken names, hfree,
    unique_eq_self, unique_eq_self (nodup_unique taken names) hfree, fun more taken' hmem => ?_⟩
  · obtain ⟨turns, hturns, hsearch⟩ := exists_search (taken ++ (unique taken names).take i) name
    have hlength : (taken ++ (unique taken names).take i).length ≤ taken.length + i := by
      rw [List.length_append]
      exact Nat.add_le_add_left (List.length_take_le ..) _
    exact ⟨_, getElem?_unique hname, isForm_fresh _ name,
      ⟨turns, Nat.le_trans hturns hlength, hsearch⟩,
      fun _ _ hother => (hother.found_unique hsearch).2⟩
  · have hset : ∀ n, n ∈ (unique taken names).reverse ++ taken ↔ n ∈ taken' := fun n => by
      rw [hmem, List.mem_append, List.mem_reverse, or_comm]
    rw [unique_append, unique_congr hset]

/-- The third of three names gets the number four where the number three is taken. What comes behind
finds the form of the second taken. -/
theorem unique_forms_crowded :
    (["a", "a", "a", "a_2"] : List Text)[2]? = some ("a" : Text) ∧
      (∃ turns ≤ 3, Search ["a_3", "a", "a_2"] "a" turns "a" 2 "a_4") ∧
      (["a_2", "b"] : List Text).Nodup ∧
      (∀ name ∈ (["a_2", "b"] : List Text), name ∉ (["a_3"] : List Text)) ∧
      unique ["a_3"] ["a_2", "b"] = (["a_2", "b"] : List Text) ∧
      (∀ n : Text, n ∈ (["a_2", "a", "a_3"] : List Text) ↔
        n ∈ (["a_3"] : List Text) ∨ n ∈ unique ["a_3"] ["a", "a"]) ∧
      unique ["a_3"] (["a", "a"] ++ ["a", "a_2"]) =
        unique ["a_3"] ["a", "a"] ++ unique ["a_2", "a", "a_3"] ["a", "a_2"] := by
  have hthird : (["a", "a", "a", "a_2"] : List Text)[2]? = some ("a" : Text) := rfl
  have hnodup : (["a_2", "b"] : List Text).Nodup := by decide
  have hfree : ∀ name ∈ (["a_2", "b"] : List Text), name ∉ (["a_3"] : List Text) := by decide
  have hpair : unique ["a_3"] ["a", "a"] = (["a", "a_2"] : List Text) := by decide +kernel
  have hmem : ∀ n : Text, n ∈ (["a_2", "a", "a_3"] : List Text) ↔
      n ∈ (["a_3"] : List Text) ∨ n ∈ unique ["a_3"] ["a", "a"] := fun n => by
    rw [hpair]
    simp only [List.mem_cons, List.not_mem_nil, or_false]
    exact ⟨
      fun | .inl h => .inr (.inr h) | .inr (.inl h) => .inr (.inl h) | .inr (.inr h) => .inl h,
      fun | .inl h => .inr (.inr h) | .inr (.inl h) => .inr (.inl h) | .inr (.inr h) => .inl h⟩
  have hall : unique ["a_3"] ["a", "a", "a", "a_2"] =
      (["a", "a_2", "a_4", "a_2_2"] : List Text) := by decide +kernel
  obtain ⟨form, hform, -, hsearch, -⟩ :=
    (unique_forms ["a_3"] ["a", "a", "a", "a_2"]).1 2 "a" hthird
  rw [hall] at hform hsearch
  obtain rfl := Option.some.inj hform
  obtain ⟨-, -, -, -, hself, -, -⟩ := unique_forms ["a_3"] ["a_2", "b"]
  obtain ⟨-, -, -, -, -, -, happend⟩ := unique_forms ["a_3"] ["a", "a"]
  exact ⟨hthird, hsearch, hnodup, hfree, hself hnodup hfree, hmem, happend _ _ hmem⟩

end Naming
end Tablesmith
