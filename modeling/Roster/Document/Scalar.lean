import Roster.Document.Fault
import Roster.Document.Tag
import Roster.Text.Lowercase

/-! # Scalars

The value of a scalar under its tag. A scalar that was tagged by its form always has one; one that
carries an explicit tag may not.
-/

namespace Roster.Document

/-! ## Numbers -/

/-- A text without underscores. -/
def withoutUnderscores (s : String) : String := String.ofList (s.toList.filter (· ≠ '_'))

/-- A number's sign and what follows it; an empty text is a fault. -/
def splitSign (s : String) : Except Fault (Bool × String) :=
  match s.toList with
  | [] => .error .emptyNumber
  | '-' :: rest => .ok (true, String.ofList rest)
  | '+' :: rest => .ok (false, String.ofList rest)
  | _ => .ok (false, s)

/-- A whole number in a base; decimal notation has a bound on its digits. -/
def integerOf (base : Nat) (s : String) : Except Fault Int :=
  if base = 10 && Text.digitLimit < Text.digitCount s then .error (.longNumeral (Text.digitCount s))
  else
    match Text.integerIn? base s with
    | some n => .ok n
    | none => .error (.badInteger base s)

/-- The pieces of a text between colons. -/
def colonPieces : List Char → List (List Char)
  | [] => [[]]
  | c :: rest =>
    match colonPieces rest with
    | [] => [[c]]
    | piece :: pieces => if c = ':' then [] :: piece :: pieces else (c :: piece) :: pieces

/-- The whole number of a scalar: binary after `0b`, hexadecimal after `0x`, octal after another
leading zero, in base sixty with colons, else decimal. -/
def readInteger (text : String) : Except Fault Int := do
  let (negative, digits) ← splitSign (withoutUnderscores text)
  let n ← match digits.toList with
    | [] => .error .emptyNumber
    | ['0'] => .ok 0
    | '0' :: 'b' :: rest => integerOf 2 (String.ofList rest)
    | '0' :: 'x' :: rest => integerOf 16 (String.ofList rest)
    | '0' :: _ => integerOf 8 digits
    | cs =>
      if cs.contains ':' then do
        let parts ← (colonPieces cs).mapM fun piece => integerOf 10 (String.ofList piece)
        .ok (parts.foldl (fun n part => 60 * n + part) 0)
      else integerOf 10 digits
  .ok (if negative then -n else n)

/-- A number. -/
def floatOf (s : String) : Except Fault Decimal.Binary64 :=
  match Decimal.Binary64.parse? s with
  | some x => .ok x
  | none => .error (.badFloat s)

/-- Sums the places of a number in base sixty, the lowest first. The worth of a place has to be a
number itself. -/
def sumSixties : List Decimal.Binary64 → Nat → Decimal.Binary64 → Except Fault Decimal.Binary64
  | [], _, total => .ok total
  | digit :: rest, base, total =>
    match Decimal.Binary64.ofNat base with
    | .infinite _ => .error .hugePlace
    | worth => sumSixties rest (base * 60) (total.add (digit.mul worth))

/-- The number of a scalar. -/
def readFloat (text : String) : Except Fault Decimal.Binary64 := do
  let (negative, digits) ← splitSign (Text.lowercase (withoutUnderscores text))
  if digits = ".inf" then .ok (.infinite negative)
  else if digits = ".nan" then .ok .nan
  else
    let x ←
      if digits.toList.contains ':' then do
        let parts ← (colonPieces digits.toList).mapM fun piece => floatOf (String.ofList piece)
        sumSixties parts.reverse 1 (Decimal.Binary64.ofNat 0)
      else floatOf digits
    .ok (if negative then x.neg else x)

/-! ## Truth values and bytes -/

/-- The truth value of a word in any case. -/
def readTruth (text : String) : Except Fault Bool :=
  match Text.lowercase text with
  | "yes" | "true" | "on" => .ok true
  | "no" | "false" | "off" => .ok false
  | word => .error (.badTruth word)

/-- The six bits of a character. -/
def sixBits? (c : Char) : Option Nat :=
  if 'A' ≤ c && c ≤ 'Z' then some (c.toNat - 65)
  else if 'a' ≤ c && c ≤ 'z' then some (c.toNat - 71)
  else if '0' ≤ c && c ≤ '9' then some (c.toNat + 4)
  else if c = '+' then some 62
  else if c = '/' then some 63
  else none

/-- Reads groups of four characters as three bytes. `place` counts the characters of the current
group, `left` holds bits that are still to be used and `pads` counts equal signs; other characters
do not count. An unfinished group is a fault. -/
def readSixBits : Nat → Nat → Nat → List Char → Option (List UInt8)
  | place, _, _, [] => if place = 0 then some [] else none
  | place, left, pads, c :: rest =>
    if c = '=' then
      if place < 2 then readSixBits place left pads rest
      else if place + pads + 1 ≥ 4 then some []
      else readSixBits place left (pads + 1) rest
    else
      match sixBits? c with
      | none => readSixBits place left pads rest
      | some bits =>
        match place with
        | 0 => readSixBits 1 bits 0 rest
        | 1 => (readSixBits 2 (bits % 16) 0 rest).map ((left * 4 + bits / 16).toUInt8 :: ·)
        | 2 => (readSixBits 3 (bits % 4) 0 rest).map ((left * 16 + bits / 4).toUInt8 :: ·)
        | _ => (readSixBits 0 0 0 rest).map ((left * 64 + bits).toUInt8 :: ·)

/-- The bytes of a scalar. -/
def readBytes (text : String) : Except Fault (List UInt8) :=
  if text.toList.all (·.toNat < 128) then
    match readSixBits 0 0 0 text.toList with
    | some bytes => .ok bytes
    | none => .error .malformed
  else .error .malformed

/-! ## Timestamps -/

/-- How many days a month has. -/
def daysInMonth (year month : Nat) : Nat :=
  if month = 2 then
    if year % 4 = 0 && (year % 100 ≠ 0 || year % 400 = 0) then 29 else 28
  else if month = 4 || month = 6 || month = 9 || month = 11 then 30
  else 31

/-- A day that the calendar has. -/
def checkedDate (d : Date) : Except CalendarFault Date :=
  if d.year = 0 then .error .year
  else if d.month < 1 || 12 < d.month then .error .month
  else if d.day < 1 || daysInMonth d.year d.month < d.day then .error .day
  else .ok d

/-- The distance of a zone in minutes; a day or more is a fault. -/
def checkedZone : Option StampZone → Except CalendarFault (Option Int)
  | none => .ok none
  | some .universal => .ok (some 0)
  | some (.offset negative hours minutes) =>
    let span : Int := (hours : Int) * 60 + minutes
    let span := if negative then -span else span
    if span.natAbs < 1440 then .ok (some span) else .error (.zone (spanShown span))

/-- The first six digits of a fraction as millionths. -/
def microseconds (fraction : List Char) : Nat :=
  let six := fraction.take 6
  let digits := six ++ List.replicate (6 - six.length) '0'
  digits.foldl (fun n d => 10 * n + (d.toNat - 48)) 0

/-- The day or the moment of a timestamp. -/
def Stamp.value (stamp : Stamp) : Except CalendarFault Value := do
  match stamp.time with
  | none => .ok (.date (← checkedDate stamp.date))
  | some time =>
    let zone ← checkedZone time.zone
    let date ← checkedDate stamp.date
    if 23 < time.hour then .error .hour
    else if 59 < time.minute then .error .minute
    else if 59 < time.second then .error .second
    else
      .ok (.moment
        ⟨date, time.hour, time.minute, time.second, microseconds time.fraction, zone⟩)

/-- The day or the moment of a scalar. -/
def readTimestamp (text : String) : Except Fault Value :=
  match Stamp.read? (withoutFinalBreak text.toList) with
  | none => .error .badTimestamp
  | some stamp => stamp.value.mapError .calendar

/-! ## The value of a scalar -/

/-- The value of a scalar under a tag of scalars; tags of collections have none. -/
def scalarValue? (tag : Tag) (text : String) : Option (Except Fault Value) :=
  match tag with
  | .null => some (.ok .null)
  | .bool => some ((readTruth text).map .bool)
  | .int => some ((readInteger text).map .int)
  | .float => some ((readFloat text).map .float)
  | .binary => some ((readBytes text).map .bytes)
  | .timestamp => some (readTimestamp text)
  | .text => some (.ok (.text text))
  | _ => none

end Roster.Document
