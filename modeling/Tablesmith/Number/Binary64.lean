/-
# Double precision numbers

A finite double is a sign, a whole number below `2 ^ 53` and a power of two. Decimals are read to
the nearest double, a tie going to the even one; doubles are written with the fewest decimal
digits that read back. All of it is exact arithmetic on whole numbers.

A finite double is kept in normal form: its mantissa has fifty-three binary digits, unless the
exponent is the least one, `-1074`.
-/

import Tablesmith.Text.Numeral

namespace Tablesmith

/-- A double precision number; a finite one is `± mantissa * 2 ^ exponent`. -/
inductive Binary64 where
  | finite (negative : Bool) (mantissa : Nat) (exponent : Int)
  | infinite (negative : Bool)
  | nan
deriving Repr, DecidableEq, Inhabited

namespace Binary64

/-- The nearest whole number to `num / den`; a tie goes to the even one. -/
def roundDiv (num den : Nat) : Nat :=
  let q := num / den
  let r := num % den
  if den < 2 * r ∨ (2 * r = den ∧ q % 2 = 1) then q + 1 else q

/-- The nearest whole number is at most half a unit away. -/
theorem roundDiv_near (num den : Nat) (h : 0 < den) :
    2 * num ≤ 2 * (roundDiv num den * den) + den ∧
      2 * (roundDiv num den * den) ≤ 2 * num + den := by
  have hdiv := Nat.div_add_mod num den
  have hlt := Nat.mod_lt num h
  have hcomm : den * (num / den) = num / den * den := Nat.mul_comm ..
  simp only [roundDiv]
  split <;> rename_i hc
  · rw [Nat.add_mul]
    omega
  · omega

/-- `num / den * 2 ^ (-exponent)` as a quotient of whole numbers. -/
def scaled (num den : Nat) (exponent : Int) : Nat × Nat :=
  if exponent < 0 then (num * Nat.pow 2 (-exponent).toNat, den)
  else (num, den * Nat.pow 2 exponent.toNat)

/-- The double nearest to the positive quotient `num / den`. -/
def ofQuotient (negative : Bool) (num den : Nat) : Binary64 :=
  let guess := max ((num.log2 : Int) - den.log2 - 53) (-1074)
  let exponent :=
    let (n, d) := scaled num den guess
    if Nat.pow 2 53 ≤ n / d then guess + 1 else guess
  let (n, d) := scaled num den exponent
  let mantissa := roundDiv n d
  let (mantissa, exponent) :=
    if mantissa = Nat.pow 2 53 then (Nat.pow 2 52, exponent + 1) else (mantissa, exponent)
  if 971 < exponent then infinite negative else finite negative mantissa exponent

/-- The double nearest to `digits * 10 ^ power`. -/
def ofDecimal (negative : Bool) (digits : Nat) (power : Int) : Binary64 :=
  let magnitude := power + (Text.ofNat digits).length
  if digits = 0 ∨ magnitude < -330 then finite negative 0 (-1074)
  else if 330 < magnitude then infinite negative
  else if power < 0 then ofQuotient negative digits (Nat.pow 10 (-power).toNat)
  else ofQuotient negative (digits * Nat.pow 10 power.toNat) 1

/-- The double nearest to `mantissa * 2 ^ exponent`. -/
def ofScaled (negative : Bool) (mantissa : Nat) (exponent : Int) : Binary64 :=
  if mantissa = 0 then finite negative 0 (-1074)
  else if exponent < 0 then ofQuotient negative mantissa (Nat.pow 2 (-exponent).toNat)
  else ofQuotient negative (mantissa * Nat.pow 2 exponent.toNat) 1

/-- The double nearest to a natural number. -/
def ofNat (n : Nat) : Binary64 := ofScaled false n 0

/-- The product, rounded. -/
def mul : Binary64 → Binary64 → Binary64
  | finite s m e, finite t n f => ofScaled (s != t) (m * n) (e + f)
  | infinite s, infinite t => infinite (s != t)
  | infinite s, finite t n _ => if n = 0 then nan else infinite (s != t)
  | finite s m _, infinite t => if m = 0 then nan else infinite (s != t)
  | _, _ => nan

/-- The whole number of times that `2 ^ least` fits into a finite double. -/
def units (least : Int) (negative : Bool) (m : Nat) (e : Int) : Int :=
  let n : Int := m * Nat.pow 2 (e - least).toNat
  if negative then -n else n

/-- The sum, rounded. A sum of zero is positive unless both parts are negative. -/
def add : Binary64 → Binary64 → Binary64
  | finite s m e, finite t n f =>
    let least := min e f
    let sum := units least s m e + units least t n f
    ofScaled (if sum = 0 then s && t else sum < 0) sum.natAbs least
  | infinite s, infinite t => if s = t then infinite s else nan
  | infinite s, finite .. => infinite s
  | finite .., infinite t => infinite t
  | _, _ => nan

/-- The number with the other sign. -/
def neg : Binary64 → Binary64
  | finite s m e => finite (!s) m e
  | infinite s => infinite (!s)
  | nan => nan

/-- The integer that a finite double equals, if it equals one. -/
def toInt? : Binary64 → Option Int
  | finite negative m e =>
    let whole? :=
      if 0 ≤ e then some (m * Nat.pow 2 e.toNat)
      else if m % Nat.pow 2 (-e).toNat = 0 then some (m / Nat.pow 2 (-e).toNat) else none
    whole?.map fun n => if negative then -(n : Int) else n
  | _ => none

/-- Is the number neither zero nor anything that counts as zero? -/
def isNonzero : Binary64 → Bool
  | finite _ m _ => m != 0
  | _ => true

/-- Is the number finite? -/
def isFinite : Binary64 → Bool
  | finite .. => true
  | _ => false

/-- The least `k` with `den ≤ num * 10 ^ k`, looked for from `k` on. -/
def stepsUp (num den : Nat) : (fuel k : Nat) → Nat
  | 0, k => k
  | fuel + 1, k => if den ≤ num * Nat.pow 10 k then k else stepsUp num den fuel (k + 1)

/-- The exponent of the leading decimal digit of `num / den`. -/
def leadingExponent (num den : Nat) : Int :=
  if den ≤ num then (Text.ofNat (num / den)).length - 1 else -(stepsUp num den 400 1 : Int)

/-- The shortest decimal `digits * 10 ^ power` that reads back as `m * 2 ^ e`: for one digit, two
digits, and so on, the neighbours of the value on that decimal grid are tried, and of two that read
back the nearer one is taken, a tie going to the even one. -/
def shortest (m : Nat) (e : Int) : Nat × Int :=
  let shift (n : Nat) : Nat × Nat := scaled n 1 (2 - e)
  let (value, den) := shift (4 * m)
  let below := (shift (if m = Nat.pow 2 52 ∧ -1074 < e then 4 * m - 1 else 4 * m - 2)).1
  let above := (shift (4 * m + 2)).1
  let lead := leadingExponent value den
  let readsBack (num step : Nat) : Bool :=
    -- `num / step` lies in the interval that rounds to the value
    if m % 2 = 0 then below * step ≤ num * den && num * den ≤ above * step
    else below * step < num * den && num * den < above * step
  let rec search : (fuel places : Nat) → Nat × Int
    | 0, _ => (m, 0)
    | fuel + 1, places =>
      let power := lead - places + 1
      -- a grid point is `q * 10 ^ power`
      let (up, down) :=
        if power < 0 then (1, Nat.pow 10 (-power).toNat) else (Nat.pow 10 power.toNat, 1)
      let q := value * down / (den * up)
      let low := readsBack (q * up) down
      let high := readsBack ((q + 1) * up) down
      let twice := 2 * (value * down)
      let middle := (2 * q + 1) * (den * up)
      if low && (!high || twice < middle || (twice = middle && q % 2 = 0)) then (q, power)
      else if high then (q + 1, power)
      else search fuel (places + 1)
  search 17 1

/-- Drops the zeros at the end of a digit string. -/
def dropTrailingZeros (digits : Text) : Text := Text.trimEndBy (· == '0') digits

/-- A finite double is written with the shortest digits that read back, positionally from `10 ^ -4`
to below `10 ^ 16` and always with a point, else with an exponent of two digits or more. -/
def finiteText (m : Nat) (e : Int) : Text :=
  if m = 0 then "0.0"
  else
    let (n, power) := shortest m e
    let digits := dropTrailingZeros (Text.ofNat n)
    let point : Int := (Text.ofNat n).length + power
    if -4 < point ∧ point ≤ 16 then
      if point ≤ 0 then ("0." : Text) ++ List.replicate (-point).toNat '0' ++ digits
      else
        let whole := digits.take point.toNat
        let zeros := List.replicate (point.toNat - digits.length) '0'
        let fraction := digits.drop point.toNat
        whole ++ zeros ++ '.' :: (if fraction.isEmpty then ['0'] else fraction)
    else
      let fraction := digits.drop 1
      let exponent := point - 1
      digits.take 1 ++ (if fraction.isEmpty then [] else '.' :: fraction)
        ++ 'e' :: (if exponent < 0 then '-' else '+') :: Text.padNat 2 exponent.natAbs

/-- The text of a double. -/
def toText : Binary64 → Text
  | finite negative m e => (if negative then ['-'] else []) ++ finiteText m e
  | infinite negative => if negative then "-Infinity" else "Infinity"
  | nan => "NaN"

/-- The parts of an unsigned decimal: digits, then optionally a point and digits, then optionally
an exponent. Answers the digits without the point and the power of ten, and refuses anything else.
At least one digit has to stand in front of the exponent. -/
def decimal? (t : Text) : Option (Nat × Int) :=
  let whole := t.takeWhile Char.isDigit
  let t := t.dropWhile Char.isDigit
  let (fraction, t) := match t with
    | '.' :: t => (t.takeWhile Char.isDigit, t.dropWhile Char.isDigit)
    | t => ([], t)
  if whole.isEmpty && fraction.isEmpty then none
  else do
    let digits ← Text.nat? 10 (whole ++ fraction)
    let power ← match t with
      | [] => some 0
      | c :: t =>
        if c = 'e' ∨ c = 'E' then
          match t with
          | '-' :: t => (Text.nat? 10 t).map fun n => -(n : Int)
          | '+' :: t => (Text.nat? 10 t).map Int.ofNat
          | t => (Text.nat? 10 t).map Int.ofNat
        else none
    some (digits, power - fraction.length)

/-- The double nearest to a decimal with an optional sign. -/
def ofText? (t : Text) : Option Binary64 :=
  let (negative, t) := match t with
    | '-' :: t => (true, t)
    | '+' :: t => (false, t)
    | t => (false, t)
  (decimal? t).map fun (digits, power) => ofDecimal negative digits power

example : ([ "0.1", "1e23", "123456789012345678", "5e-324", "2.5", "-1e16", "100", "1e-5"] :
      List Text).map (fun t => (ofText? t).map toText) =
    ([ "0.1", "1e+23", "1.2345678901234568e+17", "5e-324", "2.5", "-1e+16", "100.0", "1e-05"] :
      List Text).map some := by
  decide +kernel

end Binary64
end Tablesmith
