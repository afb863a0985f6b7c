import Roster.Text.CodeTable
import Roster.Text.Blank

/-! # Whole numbers in text

A whole number is written as decimal digits of any script, with an optional sign in front, single
underscores between digits and blanks around it. Decimal notation has a bound on its digits, beyond
which it is neither read nor written.
-/

namespace Roster.Text

/-- The zero of each script that has decimal digits; the other nine follow it. -/
def decimalZeros : List Nat :=
  [0x30, 0x660, 0x6F0, 0x7C0, 0x966, 0x9E6, 0xA66, 0xAE6, 0xB66, 0xBE6, 0xC66, 0xCE6, 0xD66,
   0xDE6, 0xE50, 0xED0, 0xF20, 0x1040, 0x1090, 0x17E0, 0x1810, 0x1946, 0x19D0, 0x1A80,
   0x1A90, 0x1B50, 0x1BB0, 0x1C40, 0x1C50, 0xA620, 0xA8D0, 0xA900, 0xA9D0, 0xA9F0, 0xAA50,
   0xABF0, 0xFF10, 0x104A0, 0x10D30, 0x11066, 0x110F0, 0x11136, 0x111D0, 0x112F0, 0x11450,
   0x114D0, 0x11650, 0x116C0, 0x11730, 0x118E0, 0x11950, 0x11C50, 0x11D50, 0x11DA0, 0x16A60,
   0x16AC0, 0x16B50, 0x1D7CE, 0x1D7D8, 0x1D7E2, 0x1D7EC, 0x1D7F6, 0x1E140, 0x1E2F0, 0x1E950,
   0x1FBF0]

/-- The value of a decimal digit of any script. -/
def decimalDigit? (c : Char) : Option Nat :=
  (decimalZeros.find? fun z => z ≤ c.toNat && c.toNat ≤ z + 9).map (c.toNat - ·)

/-- The value of a digit below `base` where letters follow the decimal digits. -/
def digitBelow? (base : Nat) (c : Char) : Option Nat :=
  let value := match decimalDigit? c with
    | some d => some d
    | none =>
      if 'a' ≤ c && c ≤ 'z' then some (c.toNat - 87)
      else if 'A' ≤ c && c ≤ 'Z' then some (c.toNat - 55)
      else none
  value.bind fun d => if d < base then some d else none

/-- Digits after a digit; an underscore needs a digit on its right. -/
def digitsAfter? (base acc : Nat) : List Char → Option Nat
  | [] => some acc
  | '_' :: c :: rest => (digitBelow? base c).bind fun d => digitsAfter? base (acc * base + d) rest
  | c :: rest => (digitBelow? base c).bind fun d => digitsAfter? base (acc * base + d) rest

/-- A nonempty run of digits with single underscores between them. -/
def digits? (base : Nat) : List Char → Option Nat
  | [] => none
  | c :: rest => (digitBelow? base c).bind fun d => digitsAfter? base d rest

/-- The blanks around a numeral: among ASCII characters only the usual ones count. -/
def isNumeralBlank (ascii : Bool) (c : Char) : Bool :=
  if ascii then (9 ≤ c.toNat && c.toNat ≤ 13) || c = ' ' else isBlank c

/-- The characters between the blanks around a numeral. -/
def stripNumeral (cs : List Char) : List Char :=
  let blank := isNumeralBlank (cs.all (·.toNat < 128))
  ((cs.dropWhile blank).reverse.dropWhile blank).reverse

/-- The letter that may follow a leading zero to name the base. -/
def baseLetter? : Nat → Option Char
  | 2 => some 'b'
  | 8 => some 'o'
  | 16 => some 'x'
  | _ => none

/-- What follows a leading zero with the letter of the base and at most one underscore. -/
def dropBaseMark (base : Nat) (cs : List Char) : List Char :=
  match cs with
  | '0' :: letter :: rest =>
    if baseLetter? base = some letter.toLower then
      match rest with
      | '_' :: more => more
      | more => more
    else cs
  | cs => cs

/-- A whole number with an optional sign, in base `base`, blanks around it allowed. -/
def integerIn? (base : Nat) (s : String) : Option Int :=
  match stripNumeral s.toList with
  | '+' :: rest => (digits? base (dropBaseMark base rest)).map Int.ofNat
  | '-' :: rest => (digits? base (dropBaseMark base rest)).map fun n => -(Int.ofNat n)
  | cs => (digits? base (dropBaseMark base cs)).map Int.ofNat

/-! ## The bound of decimal notation -/

/-- How many digits a whole number in decimal notation can have. -/
def digitLimit : Nat := 4300

/-- How many digits a numeral in decimal notation begins with, zeros in front included. -/
def digitCount (s : String) : Nat :=
  let cs := match stripNumeral s.toList with
    | '+' :: rest => rest
    | '-' :: rest => rest
    | cs => cs
  ((cs.takeWhile fun c => c = '_' || (digitBelow? 10 c).isSome).filter (· ≠ '_')).length

/-- A whole number in decimal notation. -/
def integer? (s : String) : Option Int :=
  if digitLimit < digitCount s then none else integerIn? 10 s

/-- Whether a whole number can be written in decimal notation. -/
def isWritable (n : Int) : Bool := (Nat.toDigits 10 n.natAbs).length ≤ digitLimit

end Roster.Text
