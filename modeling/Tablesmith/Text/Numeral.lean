/-
# Decimal numerals

Natural numbers and integers as decimal numerals, written and read.
-/

import Tablesmith.Text.Basic

namespace Tablesmith
namespace Text

/-- The decimal numeral of a natural number. -/
def ofNat (n : Nat) : Text := Nat.toDigits 10 n

/-- The decimal numeral of an integer, with a minus sign below zero. -/
def ofInt : Int → Text
  | .ofNat n => ofNat n
  | .negSucc n => '-' :: ofNat (n + 1)

/-- A numeral with zeros in front up to `width` digits. -/
def padNat (width n : Nat) : Text :=
  let digits := ofNat n
  List.replicate (width - digits.length) '0' ++ digits

/-- The value of a digit from 0 to 9 or a letter from a to f, in either case. -/
def hexValue? (c : Char) : Option Nat :=
  if '0' ≤ c ∧ c ≤ '9' then some (c.toNat - 48)
  else if 'a' ≤ c ∧ c ≤ 'f' then some (c.toNat - 87)
  else if 'A' ≤ c ∧ c ≤ 'F' then some (c.toNat - 55)
  else none

/-- Reads a numeral in `base` behind the number `acc`; every character has to be a digit of the
base. -/
def natFrom? (base acc : Nat) : Text → Option Nat
  | [] => some acc
  | c :: cs => do
    let d ← hexValue? c
    if d < base then natFrom? base (acc * base + d) cs else none

/-- Reads a numeral that is not empty. -/
def nat? (base : Nat) : Text → Option Nat
  | [] => none
  | cs => natFrom? base 0 cs

/-- A numeral of four hexadecimal digits, letters in lower case. -/
def hex4 (n : Nat) : Text :=
  let digits := Nat.toDigits 16 n
  List.replicate (4 - digits.length) '0' ++ digits

/-- A numeral is read from left to right. -/
theorem natFrom?_append (base acc : Nat) (s t : Text) :
    natFrom? base acc (s ++ t) = (natFrom? base acc s).bind fun n => natFrom? base n t := by
  induction s generalizing acc with
  | nil => rfl
  | cons c cs ih =>
    simp only [List.cons_append, natFrom?]
    cases hexValue? c with
    | none => rfl
    | some d =>
      simp only [Option.bind_eq_bind, Option.bind_some]
      split
      · exact ih _
      · rfl

/-- A numeral that is written is read back, behind digits that were read before. -/
theorem natFrom?_ofNat (n acc : Nat) :
    ∃ k, 0 < k ∧ natFrom? 10 acc (ofNat n) = some (acc * k + n) := by
  have hdigit : ∀ d < 10, hexValue? d.digitChar = some d := by decide
  induction n using Nat.strongRecOn generalizing acc with
  | ind n ih =>
    rw [ofNat, Nat.toDigits_eq_if (by decide)]
    split
    · next h => exact ⟨10, by decide, by simp [natFrom?, hdigit n h, h]⟩
    · next h =>
      obtain ⟨k, hk, hread⟩ := ih (n / 10) (by omega) acc
      refine ⟨k * 10, by omega, ?_⟩
      have hlt : n % 10 < 10 := Nat.mod_lt _ (by decide)
      rw [ofNat] at hread
      simp only [natFrom?_append, hread, Option.bind_some, natFrom?, hdigit _ hlt, hlt,
        Option.bind_eq_bind, if_true, Option.some.injEq]
      rw [Nat.add_mul, Nat.mul_assoc]
      omega

/-- **A numeral reads back.** -/
@[simp] theorem nat?_ofNat (n : Nat) : nat? 10 (ofNat n) = some n := by
  obtain ⟨k, _, hread⟩ := natFrom?_ofNat n 0
  cases h : ofNat n with
  | nil => simp [ofNat] at h
  | cons c cs =>
    rw [h] at hread
    simpa [nat?] using hread

example : ofInt (-120) = "-120".toList ∧ nat? 16 "fF" = some 255 ∧ padNat 2 7 = "07".toList := by
  decide +kernel

end Text
end Tablesmith
