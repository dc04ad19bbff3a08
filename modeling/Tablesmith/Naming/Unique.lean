/-
# Unique names

A name that is taken already gets the first free number from two on behind an underscore. Names
are made unique from left to right, so a name's form depends on the names in front of it alone.

Main statements: `fresh_not_mem`, the chosen form of a name is never taken; `nodup_unique`, no two
names in a row have the same form.
-/

import Tablesmith.Text.Numeral

namespace Tablesmith
namespace Naming

/-- The name with a number behind it. -/
def numbered (name : Text) (k : Nat) : Text := name ++ '_' :: Text.ofNat k

/-- The number behind `start`, if `t` is `start` with a number behind it. Only zero itself begins
with a zero. -/
def numberBehind? (start t : Text) : Option Nat := do
  let digits ← Text.after? start t
  let k ← Text.nat? 10 digits
  if digits.head? = some '0' ∧ digits ≠ Text.ofNat k then none else some k

/-- The least number from `k` on that is not among the given ones, which go upwards. -/
def leastFrom (k : Nat) : List Nat → Nat
  | [] => k
  | n :: ns => if n < k then leastFrom k ns else if n = k then leastFrom (k + 1) ns else k

/-- Puts a number in front of the first one that is not less. -/
def insertUpwards (n : Nat) : List Nat → List Nat
  | [] => [n]
  | m :: ms => if n ≤ m then n :: m :: ms else m :: insertUpwards n ms

/-- Numbers from the least to the greatest. Those that go downwards are sorted in one pass. -/
def upwards (ns : List Nat) : List Nat := ns.foldl (fun sorted n => insertUpwards n sorted) []

/-- The first number from two on whose form is not taken. -/
def freeNumber (taken : List Text) (name : Text) : Nat :=
  leastFrom 2 (upwards (taken.filterMap (numberBehind? (name ++ ['_']))))

/-- The name itself if it is free, and else its first free numbered form. -/
def fresh (taken : List Text) (name : Text) : Text :=
  if name ∈ taken then numbered name (freeNumber taken name) else name

/-- The names in order, each in a form that neither `taken` nor a name in front of it has. -/
def unique : (taken names : List Text) → List Text
  | _, [] => []
  | taken, name :: names =>
    let chosen := fresh taken name
    chosen :: unique (chosen :: taken) names

/-- Each name has one form. -/
@[simp] theorem length_unique (taken names : List Text) :
    (unique taken names).length = names.length := by
  induction names generalizing taken with
  | nil => rfl
  | cons n ns ih => simp [unique, ih]

/-- A free name is its own form. -/
theorem fresh_of_not_mem {taken : List Text} {name : Text} (h : name ∉ taken) :
    fresh taken name = name := by
  simp [fresh, h]

/-- The number of a form is read off it. -/
theorem numberBehind?_numbered (name : Text) (k : Nat) :
    numberBehind? (name ++ ['_']) (numbered name k) = some k := by
  have h : Text.after? (name ++ ['_']) (numbered name k) = some (Text.ofNat k) := by
    have : numbered name k = (name ++ ['_']) ++ Text.ofNat k := by simp [numbered]
    rw [this, Text.after?_append]
  simp [numberBehind?, h, Text.nat?_ofNat]

/-- The search goes upwards. -/
theorem le_leastFrom (k : Nat) (ns : List Nat) : k ≤ leastFrom k ns := by
  induction ns generalizing k with
  | nil => exact Nat.le_refl k
  | cons n ns ih =>
    simp only [leastFrom]
    split
    · exact ih k
    · split
      · exact Nat.le_of_succ_le (ih (k + 1))
      · exact Nat.le_refl k

/-- A number that keeps a name apart is two or more. -/
theorem fresh_cases (taken : List Text) (name : Text) :
    fresh taken name = name ∨ ∃ k, 2 ≤ k ∧ fresh taken name = numbered name k := by
  rw [fresh]
  split
  · exact .inr ⟨_, le_leastFrom 2 _, rfl⟩
  · exact .inl rfl

/-- What the search finds is not among numbers that go upwards. -/
theorem leastFrom_not_mem {k : Nat} {ns : List Nat} (h : ns.Pairwise (· ≤ ·)) :
    leastFrom k ns ∉ ns := by
  induction ns generalizing k with
  | nil => simp
  | cons n ns ih =>
    obtain ⟨hn, hns⟩ := List.pairwise_cons.1 h
    simp only [leastFrom]
    split
    · have := le_leastFrom k ns
      simp only [List.mem_cons, not_or]
      exact ⟨by omega, ih hns⟩
    · split
      · have := le_leastFrom (k + 1) ns
        simp only [List.mem_cons, not_or]
        exact ⟨by omega, ih hns⟩
      · simp only [List.mem_cons, not_or]
        refine ⟨by omega, fun hk => ?_⟩
        have := hn k hk
        omega

/-- What is put into numbers is there, with what was there before. -/
@[simp] theorem mem_insertUpwards {k n : Nat} {ns : List Nat} :
    k ∈ insertUpwards n ns ↔ k = n ∨ k ∈ ns := by
  induction ns with
  | nil => simp [insertUpwards]
  | cons m ms ih =>
    simp only [insertUpwards]
    split
    · simp
    · simp only [List.mem_cons, ih]
      exact or_left_comm

/-- Numbers that go upwards still do with one more among them. -/
theorem pairwise_insertUpwards {n : Nat} {ns : List Nat} (h : ns.Pairwise (· ≤ ·)) :
    (insertUpwards n ns).Pairwise (· ≤ ·) := by
  induction ns with
  | nil => simp [insertUpwards]
  | cons m ms ih =>
    obtain ⟨hm, hms⟩ := List.pairwise_cons.1 h
    simp only [insertUpwards]
    split
    · next hle =>
      refine List.pairwise_cons.2 ⟨fun k hk => ?_, h⟩
      rcases List.mem_cons.1 hk with rfl | hk
      · exact hle
      · exact Nat.le_trans hle (hm k hk)
    · next hlt =>
      refine List.pairwise_cons.2 ⟨fun k hk => ?_, ih hms⟩
      rcases mem_insertUpwards.1 hk with rfl | hk
      · omega
      · exact hm k hk

/-- Sorting gives the same numbers, and they go upwards. -/
theorem upwards_spec (ns : List Nat) :
    (upwards ns).Pairwise (· ≤ ·) ∧ ∀ k, k ∈ upwards ns ↔ k ∈ ns := by
  have key : ∀ sorted : List Nat, sorted.Pairwise (· ≤ ·) →
      (ns.foldl (fun sorted n => insertUpwards n sorted) sorted).Pairwise (· ≤ ·) ∧
        ∀ k, k ∈ ns.foldl (fun sorted n => insertUpwards n sorted) sorted ↔
          k ∈ sorted ∨ k ∈ ns := by
    induction ns with
    | nil => intro sorted h; simp [h]
    | cons n ns ih =>
      intro sorted h
      obtain ⟨hp, hm⟩ := ih _ (pairwise_insertUpwards (n := n) h)
      refine ⟨hp, fun k => ?_⟩
      rw [List.foldl_cons, hm k, mem_insertUpwards, List.mem_cons]
      exact ⟨
        fun | .inl (.inl h) => .inr (.inl h) | .inl (.inr h) => .inl h | .inr h => .inr (.inr h),
        fun | .inl h => .inl (.inr h) | .inr (.inl h) => .inl (.inl h) | .inr (.inr h) => .inr h⟩
  obtain ⟨hp, hm⟩ := key [] List.Pairwise.nil
  exact ⟨hp, fun k => by simpa [upwards] using hm k⟩

/-- **The chosen form of a name is never taken.** -/
theorem fresh_not_mem (taken : List Text) (name : Text) : fresh taken name ∉ taken := by
  by_cases h : name ∈ taken
  · simp only [fresh, h, if_true]
    intro hm
    obtain ⟨hsorted, hmem⟩ := upwards_spec (taken.filterMap (numberBehind? (name ++ ['_'])))
    exact leastFrom_not_mem (k := 2) hsorted
      ((hmem _).2 (List.mem_filterMap.2 ⟨_, hm, numberBehind?_numbered name _⟩))
  · simp [fresh, h]

/-- No form is taken. -/
theorem not_mem_of_mem_unique {taken names : List Text} {n : Text} (h : n ∈ unique taken names) :
    n ∉ taken := by
  induction names generalizing taken with
  | nil => cases h
  | cons name names ih =>
    rcases List.mem_cons.1 h with rfl | h
    · exact fresh_not_mem taken name
    · exact fun hn => ih h (List.mem_cons_of_mem _ hn)

/-- **Names that are made unique are,** whatever they were. -/
theorem nodup_unique (taken names : List Text) : (unique taken names).Nodup := by
  induction names generalizing taken with
  | nil => exact List.nodup_nil
  | cons name names ih =>
    rw [unique, List.nodup_cons]
    exact ⟨fun h => not_mem_of_mem_unique h (List.mem_cons_self ..), ih _⟩

/-- Names in front of others are made unique without them, and are taken for them. -/
theorem unique_append (taken front back : List Text) :
    unique taken (front ++ back) =
      unique taken front ++ unique ((unique taken front).reverse ++ taken) back := by
  induction front generalizing taken with
  | nil => rfl
  | cons name front ih => simp [unique, ih]

/-- Names that are different and not taken stay as they are. -/
theorem unique_eq_self {taken names : List Text} (h : names.Nodup)
    (hfree : ∀ n ∈ names, n ∉ taken) : unique taken names = names := by
  induction names generalizing taken with
  | nil => rfl
  | cons name names ih =>
    obtain ⟨hname, hnames⟩ := List.nodup_cons.1 h
    obtain ⟨hhead, htail⟩ := List.forall_mem_cons.1 hfree
    rw [unique, fresh_of_not_mem hhead, ih hnames fun n hn => ?_]
    exact List.not_mem_cons_of_ne_of_not_mem (ne_of_mem_of_not_mem hn hname) (htail n hn)

example : unique ["a_3"] ["a", "a", "a", "a_2"] = (["a", "a_2", "a_4", "a_2_2"] : List Text) := by
  decide +kernel

end Naming
end Tablesmith
