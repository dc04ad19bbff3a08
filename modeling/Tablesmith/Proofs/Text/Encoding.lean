/-
# Reading back what was written in UTF-8

The UTF-8 form of a text is read back as the text (`decode?_of_encode?`), and every text that is
read has such a form (`isWhole_of_decode?`). A character is written in one to four bytes by the size
of its number:

| number | bytes | the leading byte says |
| --- | --- | --- |
| below `0x80` | one | the number |
| below `0x800` | two | the number over 64 |
| below `0x10000` | three | the number over 4096 |
| from there on | four | the number over 262144 |

In the last two rows the range of the second byte depends on the leading one. It leaves out the
numbers that a shorter form has, those of surrogates and those that are too large, none of which is
a character's.
-/

import Tablesmith.Text.Utf8

namespace Tablesmith
namespace Text

/-- A byte has the number that it was made of. -/
theorem toNat_byte {n : Nat} (h : n < 256) : (UInt8.ofNat n).toNat = n :=
  UInt8.toNat_ofNat_of_lt' h

/-- Bytes that belong to a character already read are passed over. -/
theorem decodeFrom_append (bs rest : Bytes) :
    decodeFrom bs.length (bs ++ rest) = decodeFrom 0 rest := by
  induction bs with
  | nil => rfl
  | cons b bs ih => rw [List.length_cons, List.cons_append, decodeFrom, ih]

/-- The byte that continues a character and holds the last six bits of `m`. -/
def continuing (m : Nat) : UInt8 := UInt8.ofNat (0x80 + m % 64)

/-- A byte that continues a character has the last six bits of its number, above the mark of
such bytes. -/
theorem toNat_continuing (m : Nat) : (continuing m).toNat = 0x80 + m % 64 :=
  toNat_byte (by omega)

/-- The bytes behind a leading one are all there. -/
theorem tails_continuing (ms : List Nat) (rest : Bytes) :
    tails 0x80 0xBF ms.length (ms.map continuing ++ rest) = ms.map continuing := by
  induction ms with
  | nil => rfl
  | cons m ms ih =>
    have hm : 0x80 ≤ (continuing m).toNat ∧ (continuing m).toNat ≤ 0xBF := by
      rw [toNat_continuing]
      omega
    rw [List.length_cons, List.map_cons, List.cons_append, tails, if_pos hm, ih]

/-- The number that is made of the share of the leading byte and those of the others. -/
def joinShares (head : Nat) (ms : List Nat) : Nat := ms.foldl (fun n m => n * 64 + m % 64) head

/-- The bytes that continue a character add their shares to that of the leading one. -/
theorem foldl_continuing (head : Nat) (ms : List Nat) :
    (ms.map continuing).foldl (fun n b => n * 64 + (b.toNat - 0x80)) head = joinShares head ms := by
  rw [List.foldl_map, joinShares]
  refine congrArg (fun f => ms.foldl f head) (funext fun n => funext fun m => ?_)
  rw [toNat_continuing, Nat.add_sub_cancel_left]

/-- A leading byte and as many bytes as it asks for are read as one character. -/
theorem decodeFrom_lead {lead : UInt8} (m : Nat) (ms : List Nat) {head low high : Nat}
    (hlead : lead? lead = some (ms.length + 1, head, low, high))
    (hsecond : low ≤ 0x80 + m % 64 ∧ 0x80 + m % 64 ≤ high) (rest : Bytes) :
    decodeFrom 0 (lead :: (m :: ms).map continuing ++ rest) =
      some (Char.ofNat (joinShares head (m :: ms))) :: decodeFrom 0 rest := by
  have htails : tails low high (ms.length + 1) ((m :: ms).map continuing ++ rest) =
      (m :: ms).map continuing := by
    rw [← toNat_continuing] at hsecond
    rw [List.map_cons, List.cons_append, tails, if_pos hsecond, tails_continuing]
  rw [List.cons_append, decodeFrom, hlead]
  simp only []
  rw [htails, if_pos (by simp), decodeFrom_append, foldl_continuing]

section Lead

variable {n : Nat}

/-- The leading byte of a pair says how many bits it has, and that one byte follows. -/
theorem lead?_two (hlow : 0x80 ≤ n) (hhigh : n < 0x800) :
    lead? (UInt8.ofNat (0xC0 + n / 64)) = some (1, n / 64, 0x80, 0xBF) := by
  rw [lead?, toNat_byte (by omega), if_neg (by omega), if_pos (by omega), Nat.add_sub_cancel_left]

/-- Among three bytes the second one is in the range that leaves out shorter forms and surrogates.
-/
theorem lead?_three (hlow : 0x800 ≤ n) (hhigh : n < 0x10000) (hchar : n < 0xD800 ∨ 0xDFFF < n) :
    ∃ low high, lead? (UInt8.ofNat (0xE0 + n / 4096)) = some (2, n / 4096, low, high) ∧
      low ≤ 0x80 + n / 64 % 64 ∧ 0x80 + n / 64 % 64 ≤ high := by
  rw [lead?, toNat_byte (by omega)]
  simp only [Nat.add_sub_cancel_left]
  rw [if_neg (by omega), if_neg (by omega)]
  by_cases hfirst : n / 4096 = 0
  · rw [if_pos (by omega), hfirst]
    exact ⟨_, _, rfl, by omega, by omega⟩
  · rw [if_neg (by omega)]
    by_cases hsurrogate : n / 4096 = 13
    · rw [if_pos (by omega)]
      exact ⟨_, _, rfl, by omega, by omega⟩
    · rw [if_neg (by omega), if_pos (by omega)]
      exact ⟨_, _, rfl, by omega, by omega⟩

/-- Among four it is in the range that leaves out shorter forms and numbers that are too large. -/
theorem lead?_four (hlow : 0x10000 ≤ n) (hhigh : n < 0x110000) :
    ∃ low high, lead? (UInt8.ofNat (0xF0 + n / 262144)) = some (3, n / 262144, low, high) ∧
      low ≤ 0x80 + n / 4096 % 64 ∧ 0x80 + n / 4096 % 64 ≤ high := by
  rw [lead?, toNat_byte (by omega)]
  simp only [Nat.add_sub_cancel_left]
  rw [if_neg (by omega), if_neg (by omega), if_neg (by omega), if_neg (by omega),
    if_neg (by omega)]
  by_cases hfirst : n / 262144 = 0
  · rw [if_pos (by omega), hfirst]
    exact ⟨_, _, rfl, by omega, by omega⟩
  · rw [if_neg (by omega)]
    by_cases hlast : n / 262144 = 4
    · rw [if_neg (by omega), if_pos (by omega), hlast]
      exact ⟨_, _, rfl, by omega, by omega⟩
    · rw [if_pos (by omega)]
      exact ⟨_, _, rfl, by omega, by omega⟩

end Lead

/-- **A character is read back,** whatever stands behind it. -/
theorem decodeFrom_encodeChar (c : Char) (rest : Bytes) :
    decodeFrom 0 (encodeChar c ++ rest) = some c :: decodeFrom 0 rest := by
  have hvalid : c.toNat < 0xD800 ∨ 0xDFFF < c.toNat ∧ c.toNat < 0x110000 := c.valid
  have hread : ∀ m, m = c.toNat →
      some (Char.ofNat m) :: decodeFrom 0 rest = some c :: decodeFrom 0 rest := by
    rintro m rfl
    rw [Char.ofNat_toNat]
  rw [encodeChar]
  simp only []
  by_cases hone : c.toNat < 0x80
  · have hlead : lead? (UInt8.ofNat c.toNat) = some (0, c.toNat, 0, 0) := by
      rw [lead?, toNat_byte (by omega)]
      exact if_pos hone
    rw [if_pos hone, List.singleton_append, decodeFrom, hlead]
    exact hread _ rfl
  rw [if_neg hone]
  by_cases htwo : c.toNat < 0x800
  · rw [if_pos htwo]
    refine (decodeFrom_lead (c.toNat / 1) [] (lead?_two (by omega) htwo) (by omega)
      rest).trans (hread _ ?_)
    show c.toNat / 64 * 64 + c.toNat / 1 % 64 = c.toNat
    omega
  rw [if_neg htwo]
  by_cases hthree : c.toNat < 0x10000
  · obtain ⟨low, high, hlead, hsecond⟩ := lead?_three (by omega) hthree (by omega)
    rw [if_pos hthree]
    refine (decodeFrom_lead (c.toNat / 64) [c.toNat / 1] hlead hsecond rest).trans (hread _ ?_)
    show (c.toNat / 4096 * 64 + c.toNat / 64 % 64) * 64 + c.toNat / 1 % 64 = c.toNat
    omega
  · obtain ⟨low, high, hlead, hsecond⟩ := lead?_four (n := c.toNat) (by omega) (by omega)
    rw [if_neg hthree]
    refine (decodeFrom_lead (c.toNat / 4096) [c.toNat / 64, c.toNat / 1] hlead hsecond
      rest).trans (hread _ ?_)
    show ((c.toNat / 262144 * 64 + c.toNat / 4096 % 64) * 64 + c.toNat / 64 % 64) * 64 +
      c.toNat / 1 % 64 = c.toNat
    omega

/-- Characters are read back from their bytes, one after another. -/
theorem decodeFrom_flatMap (cs : List Char) :
    decodeFrom 0 (cs.flatMap encodeChar) = cs.map some := by
  induction cs with
  | nil => rfl
  | cons c cs ih => rw [List.flatMap_cons, decodeFrom_encodeChar, ih, List.map_cons]

/-- The bytes of a text of characters are those of its characters. -/
theorem encode_ofChars (cs : List Char) : encode (ofChars cs) = cs.flatMap encodeChar := by
  rw [encode, ofChars, signs_spell, List.flatMap_map]
  rfl

/-- Signs that are characters. -/
theorem exists_map_char {ss : List Sign} (h : ∀ s ∈ ss, s.char?.isSome) :
    ∃ cs : List Char, cs.map Sign.char = ss := by
  induction ss with
  | nil => exact ⟨[], rfl⟩
  | cons s ss ih =>
    obtain ⟨hs, hss⟩ := List.forall_mem_cons.1 h
    obtain ⟨cs, rfl⟩ := ih hss
    cases s with
    | char c => exact ⟨c :: cs, rfl⟩
    | half n h => cases hs

/-- A whole text, if it is spelled as texts are, is one of characters. -/
theorem exists_ofChars_of_isWhole {t : Text} (ht : spell (signs t) = t)
    (hwhole : isWhole t = true) : ∃ cs, ofChars cs = t := by
  obtain ⟨cs, hcs⟩ := exists_map_char (List.all_eq_true.1 hwhole)
  exact ⟨cs, by rw [ofChars, hcs, ht]⟩

/-- **A text is read back** from its UTF-8 form. -/
theorem decode?_of_encode? {t : Text} (ht : spell (signs t) = t) {bs : Bytes}
    (h : encode? t = some bs) : decode? bs = some t := by
  have hwhole : isWhole t = true ∧ encode t = bs := by
    rw [encode?] at h
    split at h
    · next hwhole => exact ⟨hwhole, Option.some.inj h⟩
    · cases h
  obtain ⟨cs, rfl⟩ := exists_ofChars_of_isWhole ht hwhole.1
  have hread : ∀ cs : List Char, (cs.map some).mapM id = some cs := by
    intro cs
    induction cs with
    | nil => rfl
    | cons c cs ih => rw [List.map_cons, List.mapM_cons, ih]; rfl
  rw [← hwhole.2, decode?, encode_ofChars, decodeFrom_flatMap, hread, Option.map_some]

/-- **What is read can be written:** there are no halves in the text of a file. -/
theorem isWhole_of_decode? {bs : Bytes} {t : Text} (h : decode? bs = some t) :
    isWhole t = true := by
  obtain ⟨cs, -, rfl⟩ := Option.map_eq_some_iff.1 h
  exact isWhole_ofChars cs

end Text
end Tablesmith
