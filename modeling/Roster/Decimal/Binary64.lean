import Roster.Text.Numeral

/-! # Binary64 numbers

The numbers of the usual 64-bit floating format, as a sign, a whole mantissa below 2^53 and an
exponent of two. Arithmetic is done on exact fractions and rounded once, to nearest, ties to even.

* `Binary64.ofRatio` rounds a fraction, `Binary64.ofDecimal` a decimal number.
* `Binary64.parse?` reads a number in decimal notation.
-/

namespace Roster.Decimal

/-- A binary64 number; a finite one is `mantissa * 2 ^ exponent` with its sign. -/
inductive Binary64 where
  | nan
  | infinite (negative : Bool)
  | finite (negative : Bool) (mantissa : Nat) (exponent : Int)
  deriving DecidableEq, Repr, Inhabited

namespace Binary64

/-- The least exponent of the format. -/
def minExponent : Int := -1074

/-- The greatest exponent of the format. -/
def maxExponent : Int := 971

/-- The whole number nearest to `num / den`, a half to the even side. -/
def nearest (num den : Nat) : Nat :=
  let q := num / den
  let r := 2 * (num % den)
  if r > den || (r == den && q % 2 == 1) then q + 1 else q

/-- `num / (den * 2 ^ e)` as a fraction of whole numbers. -/
def scaled (num den : Nat) (e : Int) : Nat × Nat :=
  if 0 ≤ e then (num, den * Nat.pow 2 e.toNat) else (num * Nat.pow 2 (-e).toNat, den)

/-- The number nearest to `num / den` with the given sign. -/
def ofRatio (negative : Bool) (num den : Nat) : Binary64 :=
  if num == 0 then .finite negative 0 minExponent
  else
    let guess : Int := (Nat.log2 num : Int) - (Nat.log2 den : Int) - 53
    -- The guess is one or two too low; the first exponent whose quotient fits is the right one.
    let fits (e : Int) : Bool := let (a, b) := scaled num den e; a / b < Nat.pow 2 53
    let e := if fits guess then guess else if fits (guess + 1) then guess + 1 else guess + 2
    let e := if e < minExponent then minExponent else e
    let (a, b) := scaled num den e
    let m := nearest a b
    let (m, e) := if m == Nat.pow 2 53 then (Nat.pow 2 52, e + 1) else (m, e)
    if e > maxExponent then .infinite negative else .finite negative m e

/-- The number nearest to `digits * 10 ^ exponent`. -/
def ofDecimal (negative : Bool) (digits : Nat) (exponent : Int) : Binary64 :=
  let size : Int := (Nat.log2 digits : Int) * 3 / 10 + exponent
  if digits == 0 then .finite negative 0 minExponent
  else if size > 400 then .infinite negative
  else if size < -400 then .finite negative 0 minExponent
  else if 0 ≤ exponent then ofRatio negative (digits * Nat.pow 10 exponent.toNat) 1
  else ofRatio negative digits (Nat.pow 10 (-exponent).toNat)

/-- The number nearest to a whole number. -/
def ofNat (n : Nat) : Binary64 := ofRatio false n 1

/-- The opposite number. -/
def neg : Binary64 → Binary64
  | .nan => .nan
  | .infinite s => .infinite (!s)
  | .finite s m e => .finite (!s) m e

/-- The exact value of a finite number as a signed fraction over a power of two. -/
def fraction (s : Bool) (m : Nat) (e : Int) : Int × Nat :=
  let (a, b) := if 0 ≤ e then (m * Nat.pow 2 e.toNat, 1) else (m, Nat.pow 2 (-e).toNat)
  (if s then -(a : Int) else a, b)

/-- Rounds a signed fraction. -/
def ofFraction (num : Int) (den : Nat) : Binary64 := ofRatio (num < 0) num.natAbs den

/-- The rounded sum. -/
def add : Binary64 → Binary64 → Binary64
  | .nan, _ => .nan
  | _, .nan => .nan
  | .infinite s, .infinite t => if s == t then .infinite s else .nan
  | .infinite s, _ => .infinite s
  | _, .infinite t => .infinite t
  | .finite s m e, .finite t n f =>
    if m == 0 && n == 0 then .finite (s && t) 0 minExponent
    else
      let (a, b) := fraction s m e
      let (c, d) := fraction t n f
      ofFraction (a * d + c * b) (b * d)

/-- The rounded product. -/
def mul : Binary64 → Binary64 → Binary64
  | .nan, _ => .nan
  | _, .nan => .nan
  | .infinite s, .infinite t => .infinite (s != t)
  | .infinite s, .finite t n _ => if n == 0 then .nan else .infinite (s != t)
  | .finite s m _, .infinite t => if m == 0 then .nan else .infinite (s != t)
  | .finite s m e, .finite t n f =>
    let (a, b) := fraction false m e
    let (c, d) := fraction false n f
    ofRatio (s != t) (a * c).natAbs (b * d)

/-- Whether the number is zero, of either sign. -/
def isZero : Binary64 → Bool
  | .finite _ m _ => m == 0
  | _ => false

/-- Equality of values: a NaN equals nothing and the zeros are equal. -/
def sameValue : Binary64 → Binary64 → Bool
  | .infinite s, .infinite t => s == t
  | .finite s m e, .finite t n f => (m == 0 && n == 0) || (s == t && m == n && e == f)
  | _, _ => false

/-- Whether the value is the whole number `n`. -/
def isInteger (x : Binary64) (n : Int) : Bool :=
  match x with
  | .finite s m e => let (a, b) := fraction s m e; a == n * b
  | _ => false

/-- The digits at the front, single underscores between them allowed, and what follows them. -/
def takeDigits : List Char → List Nat × List Char
  | [] => ([], [])
  | c :: rest =>
    match Text.decimalDigit? c with
    | none => ([], c :: rest)
    | some d => let (ds, more) := moreDigits rest; (d :: ds, more)
where
  /-- Digits that may follow a digit. -/
  moreDigits : List Char → List Nat × List Char
    | [] => ([], [])
    | '_' :: c :: rest =>
      match Text.decimalDigit? c with
      | none => ([], '_' :: c :: rest)
      | some d => let (ds, more) := moreDigits rest; (d :: ds, more)
    | c :: rest =>
      match Text.decimalDigit? c with
      | none => ([], c :: rest)
      | some d => let (ds, more) := moreDigits rest; (d :: ds, more)

/-- The number that decimal digits write. -/
def digitsValue (ds : List Nat) : Nat := ds.foldl (fun n d => 10 * n + d) 0

/-- The exponent part at the end of a number: nothing, or `e` with a sign and digits. -/
def exponent? : List Char → Option Int
  | [] => some 0
  | c :: rest =>
    if c == 'e' || c == 'E' then
      let (negative, rest) := match rest with
        | '-' :: r => (true, r)
        | '+' :: r => (false, r)
        | r => (false, r)
      match takeDigits rest with
      | (d :: ds, []) =>
        let n := digitsValue (d :: ds)
        some (if negative then -(n : Int) else n)
      | _ => none
    else none

/-- A number without sign: digits with a point and an exponent, or the name of a special one. -/
def unsigned? (negative : Bool) (cs : List Char) : Option Binary64 :=
  let name := String.ofList (cs.map Char.toLower)
  if name == "inf" || name == "infinity" then some (.infinite negative)
  else if name == "nan" then some .nan
  else
    let (whole, rest) := takeDigits cs
    let (part, rest) := match rest with
      | '.' :: r => takeDigits r
      | r => ([], r)
    if whole.isEmpty && part.isEmpty then none
    else (exponent? rest).map fun e =>
      ofDecimal negative (digitsValue (whole ++ part)) ((e : Int) - (part.length : Int))

/-- A number in decimal notation with an optional sign, blanks around it allowed. -/
def parse? (s : String) : Option Binary64 :=
  match Text.stripNumeral s.toList with
  | '-' :: rest => unsigned? true rest
  | '+' :: rest => unsigned? false rest
  | cs => unsigned? false cs

end Binary64
end Roster.Decimal
