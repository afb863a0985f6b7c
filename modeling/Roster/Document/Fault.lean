import Roster.Limits
import Roster.Text.Numeral
import Roster.Text.Quoted

/-! # Faults of documents

Why a text is no document, why a scalar in it has no value, or why a value cannot be written.
-/

namespace Roster.Document

/-- Which part of a date or a time is out of range. -/
inductive CalendarFault where
  | year
  | month
  | day
  | hour
  | minute
  | second
  | zone (shown : String)
  deriving DecidableEq, Repr

/-- The wording of a calendar fault. -/
def CalendarFault.message : CalendarFault → String
  | .year => "year 0 is out of range"
  | .month => "month must be in 1..12"
  | .day => "day is out of range for month"
  | .hour => "hour must be in 0..23"
  | .minute => "minute must be in 0..59"
  | .second => "second must be in 0..59"
  | .zone shown =>
    "offset must be a timedelta strictly between -timedelta(hours=24) and timedelta(hours=24), not "
      ++ shown ++ "."

/-- Why a text cannot be read as a document, or a value cannot be written as a text. -/
inductive Fault where
  /-- The text is not written as a document, or a node has a tag that does not fit it. -/
  | malformed
  /-- An escape stands for no character. -/
  | noCharacter
  /-- An escape stands for a number beyond all characters. -/
  | hugeCharacter
  /-- A scalar that is tagged as a whole number is none in its base. -/
  | badInteger (base : Nat) (text : String)
  /-- A scalar that is tagged as a number is none. -/
  | badFloat (text : String)
  /-- A scalar that is tagged as a number is empty. -/
  | emptyNumber
  /-- A scalar that is tagged as a truth value is none. -/
  | badTruth (text : String)
  /-- A scalar that is tagged as a timestamp is none. -/
  | badTimestamp
  /-- A timestamp names no day or no time. -/
  | calendar (fault : CalendarFault)
  /-- A whole number is read that has too many decimal digits. -/
  | longNumeral (digits : Nat)
  /-- A whole number is written that has too many decimal digits. -/
  | longNumber
  /-- A number in base sixty has a place that is beyond all numbers. -/
  | hugePlace
  /-- The machine gives out. -/
  | exhausted (how : Exhaustion)
  deriving DecidableEq, Repr

/-- The wording for too many decimal digits. -/
def longDigits : String :=
  "Exceeds the limit (" ++ toString Text.digitLimit ++ " digits) for integer string conversion"

/-- What is advised about too many decimal digits. -/
def longDigitsAdvice : String := "; use sys.set_int_max_str_digits() to increase the limit"

/-- The wording of a fault; a malformed text gets no details. -/
def Fault.message : Fault → String
  | .malformed => "<yaml error>"
  | .noCharacter => "chr() arg not in range(0x110000)"
  | .hugeCharacter => "Python int too large to convert to C int"
  | .badInteger base text =>
    "invalid literal for int() with base " ++ toString base ++ ": " ++ Text.quoted text
  | .badFloat text => "could not convert string to float: " ++ Text.quoted text
  | .emptyNumber => "string index out of range"
  | .badTruth text => Text.quoted text
  | .badTimestamp => "'NoneType' object has no attribute 'groupdict'"
  | .calendar fault => fault.message
  | .longNumeral digits =>
    longDigits ++ ": value has " ++ toString digits ++ " digits" ++ longDigitsAdvice
  | .longNumber => longDigits ++ longDigitsAdvice
  | .hugePlace => "int too large to convert to float"
  | .exhausted how => how.message

end Roster.Document
