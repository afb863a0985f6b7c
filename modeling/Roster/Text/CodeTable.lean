/-! # Tables of code points

A property of characters is a short text of hexadecimal ranges such as `41-5A 5F`, and a mapping of
characters is a short text of runs such as `41-5A>61`. Both are read once into lists of numbers.

* `CodeRanges.contains` tells whether a character lies in one of the ranges.
* `CodeRuns.find?` gives the image of a code point under the first run that covers it.
-/

namespace Roster.Text

/-- The value of a run of hexadecimal digits, upper or lower case. -/
def hexValue (digits : List Char) : Nat :=
  digits.foldl (fun n c =>
    16 * n + (if c.isDigit then c.toNat - 48 else if 97 ≤ c.toNat then c.toNat - 87 else c.toNat - 55)) 0

/-- The value of a hexadecimal text. -/
def hexNumber (s : String) : Nat := hexValue s.toList

/-- A set of code points, as inclusive ranges. -/
structure CodeRanges where
  ranges : List (Nat × Nat)

/-- Reads `41-5A 5F`: ranges and single code points between blanks. -/
def CodeRanges.ofTexts (texts : List String) : CodeRanges :=
  ⟨texts.flatMap fun text => (text.splitOn " ").map fun item =>
    match item.splitOn "-" with
    | [low, high] => (hexNumber low, hexNumber high)
    | _ => (hexNumber item, hexNumber item)⟩

/-- Membership of a code point. -/
def CodeRanges.containsCode (t : CodeRanges) (code : Nat) : Bool :=
  t.ranges.any fun r => r.1 ≤ code && code ≤ r.2

/-- Membership of a character. -/
def CodeRanges.contains (t : CodeRanges) (c : Char) : Bool := t.containsCode c.toNat

/-- One run of a mapping: every `step`-th code point from `first` to `last`, shifted alike. -/
structure CodeRun where
  first : Nat
  last : Nat
  step : Nat
  image : Nat

/-- A mapping of code points to code points, as runs. -/
structure CodeRuns where
  runs : List CodeRun

/-- Reads `41-5A>61 100-12E/2>101`: a range, an optional step, and the image of its first member. -/
def CodeRuns.ofTexts (texts : List String) : CodeRuns :=
  ⟨texts.flatMap fun text => (text.splitOn " ").filterMap fun item =>
    match item.splitOn ">" with
    | [domain, image] =>
      let (range, step) := match domain.splitOn "/" with
        | [r, s] => (r, hexNumber s)
        | _ => (domain, 1)
      match range.splitOn "-" with
      | [low, high] => some ⟨hexNumber low, hexNumber high, step, hexNumber image⟩
      | _ => some ⟨hexNumber range, hexNumber range, step, hexNumber image⟩
    | _ => none⟩

/-- The image of a code point, if a run covers it. -/
def CodeRuns.find? (t : CodeRuns) (code : Nat) : Option Nat :=
  (t.runs.find? fun r => r.first ≤ code && code ≤ r.last && (code - r.first) % r.step == 0).map
    fun r => r.image + (code - r.first)

end Roster.Text
