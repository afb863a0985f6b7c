import Roster.Decimal.Binary64

/-! # The shortest decimal text of a number

The text of a binary64 number has the fewest digits that read back as the number, and of those the
ones nearest to it. Numbers from 10^-4 up to 10^16 are written positionally with a point, all others
with an exponent of at least two digits.

* `digits` finds the digits and the place of the point.
* `Binary64.text` writes them.
-/

namespace Roster.Decimal

/-- A decimal `0.d₁d₂…dₙ * 10 ^ point`, with its digits as one whole number. -/
structure Digits where
  value : Nat
  count : Nat
  point : Int
  deriving DecidableEq, Repr

/-- Whether `a / b ≤ c / d` for positive denominators. -/
def ratioLe (x y : Nat × Nat) : Bool := x.1 * y.2 ≤ y.1 * x.2

/-- The number `mantissa * 2 ^ exponent` as a fraction. -/
def ratioOf (mantissa : Nat) (exponent : Int) : Nat × Nat :=
  if 0 ≤ exponent then (mantissa * Nat.pow 2 exponent.toNat, 1)
  else (mantissa, Nat.pow 2 (-exponent).toNat)

/-- `n * 10 ^ k` as a fraction. -/
def decimalRatio (n : Nat) (k : Int) : Nat × Nat :=
  if 0 ≤ k then (n * Nat.pow 10 k.toNat, 1) else (n, Nat.pow 10 (-k).toNat)

/-- The least `k` with `x < 10 ^ k`, searched upwards from `k`. -/
def pointFrom : Nat → Int → Nat × Nat → Int
  | 0, k, _ => k
  | fuel + 1, k, x => if ratioLe (decimalRatio 1 k) x then pointFrom fuel (k + 1) x else k

/-- The bounds of the reals that round to a number, and whether they belong to them. -/
def roundingInterval (m : Nat) (e : Int) : (Nat × Nat) × (Nat × Nat) × Bool :=
  let high := ratioOf (2 * m + 1) (e - 1)
  let low :=
    -- Below a power of two the neighbours are twice as close.
    if m == Nat.pow 2 52 && e > Binary64.minExponent then ratioOf (4 * m - 1) (e - 2)
    else ratioOf (2 * m - 1) (e - 1)
  (low, high, m % 2 == 0)

/-- Whether `x` lies in the interval. -/
def inInterval (interval : (Nat × Nat) × (Nat × Nat) × Bool) (x : Nat × Nat) : Bool :=
  let (low, high, closed) := interval
  if closed then ratioLe low x && ratioLe x high else !ratioLe x low && !ratioLe high x

/-- The nearest decimal with `count` digits in the interval, if one of the neighbours lies in it. -/
def candidate (x : Nat × Nat) (interval : (Nat × Nat) × (Nat × Nat) × Bool) (point : Int)
    (count : Nat) : Option Nat :=
  let k := point - count
  let (s, t) :=
    if 0 ≤ k then (x.1, x.2 * Nat.pow 10 k.toNat) else (x.1 * Nat.pow 10 (-k).toNat, x.2)
  let low := s / t
  let r := 2 * (s % t)
  let first := if r > t || (r == t && low % 2 == 1) then low + 1 else low
  let second := if first == low then low + 1 else low
  if inInterval interval (decimalRatio first k) then some first
  else if inInterval interval (decimalRatio second k) then some second
  else none

/-- The first count of digits from `count` on that has a candidate. -/
def digitsFrom (x : Nat × Nat) (interval : (Nat × Nat) × (Nat × Nat) × Bool) (point : Int) :
    Nat → Nat → Digits
  | 0, count => ⟨0, count, point⟩
  | fuel + 1, count =>
    match candidate x interval point count with
    | some n => if n == Nat.pow 10 count then ⟨1, 1, point + 1⟩ else ⟨n, count, point⟩
    | none => digitsFrom x interval point fuel (count + 1)

/-- The shortest digits of a positive number `mantissa * 2 ^ exponent`. -/
def digits (mantissa : Nat) (exponent : Int) : Digits :=
  let x := ratioOf mantissa exponent
  let guess : Int := ((Nat.log2 mantissa : Int) + exponent) * 30103 / 100000 - 1
  let point := pointFrom 8 guess x
  digitsFrom x (roundingInterval mantissa exponent) point 18 1

/-- Digits in the positional notation or with an exponent. -/
def Digits.text (d : Digits) : String :=
  let ds := Nat.toDigits 10 d.value
  if -4 < d.point && d.point ≤ 16 then
    if d.point ≤ 0 then
      "0." ++ String.ofList (List.replicate (-d.point).toNat '0' ++ ds)
    else
      let p := d.point.toNat
      if ds.length ≤ p then
        String.ofList (ds ++ List.replicate (p - ds.length) '0') ++ ".0"
      else String.ofList (ds.take p) ++ "." ++ String.ofList (ds.drop p)
  else
    let e := d.point - 1
    let es := Nat.toDigits 10 e.natAbs
    let es := if es.length < 2 then '0' :: es else es
    String.ofList (ds.take 1)
      ++ (if ds.length > 1 then "." ++ String.ofList (ds.drop 1) else "")
      ++ (if e < 0 then "e-" else "e+") ++ String.ofList es

/-- The shortest decimal text of a number. -/
def Binary64.text : Binary64 → String
  | .nan => "nan"
  | .infinite s => if s then "-inf" else "inf"
  | .finite s m e =>
    (if s then "-" else "") ++ (if m == 0 then "0.0" else (digits m e).text)

end Roster.Decimal
