import Roster.Text.Quoted

/-! # ASCII literals in double quotes

A text as a literal that is the same in many languages: in double quotes, every character outside
printable ASCII as `\u` with four hexadecimal digits, and a character beyond the basic plane as its
two UTF-16 units.

* `units16` gives the UTF-16 units of a character.
* `escaped` is the literal; `escapedDollar` also guards the dollar sign with a backslash.
-/

namespace Roster.Text

/-- The UTF-16 units of a character: one, or a high and a low surrogate. -/
def units16 (c : Char) : List Nat :=
  if c.toNat < 0x10000 then [c.toNat]
  else [0xD800 + (c.toNat - 0x10000) / 0x400, 0xDC00 + (c.toNat - 0x10000) % 0x400]

/-- One character inside the literal. -/
def escapeChar (c : Char) : List Char :=
  if c == '\x22' || c == '\\' then ['\\', c]
  else if c == '\n' then ['\\', 'n']
  else if c == '\r' then ['\\', 'r']
  else if c == '\t' then ['\\', 't']
  else if c.toNat == 8 then ['\\', 'b']
  else if c.toNat == 12 then ['\\', 'f']
  else if 32 ≤ c.toNat && c.toNat < 127 then [c]
  else (units16 c).flatMap fun u => '\\' :: 'u' :: hexDigits 4 u

/-- The characters of the literal. -/
def escapedChars (cs : List Char) : List Char :=
  '\x22' :: cs.flatMap escapeChar ++ ['\x22']

/-- A text as an ASCII literal in double quotes. -/
def escaped (s : String) : String := String.ofList (escapedChars s.toList)

/-- A backslash in front of each dollar sign. -/
def guardDollars (cs : List Char) : List Char :=
  cs.flatMap fun c => if c == '$' then ['\\', '$'] else [c]

/-- The literal for a language that interpolates names after a dollar sign. -/
def escapedDollar (s : String) : String := String.ofList (guardDollars (escapedChars s.toList))

end Roster.Text
