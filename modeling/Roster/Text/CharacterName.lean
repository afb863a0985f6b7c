import Roster.Text.CharacterName.Table
import Roster.Text.CodeTable

/-! # Character names

The names that a character can be written by. Names are told apart without regard to the case of their
letters, except where they follow a rule: an ideograph is named by its number, and a syllable by its
parts.

* `isCharacterName` is whether a text is the name of a character.
-/

namespace Roster.Text

/-- Whether a reversed name is in a table, read on from the reversed name before. A name is complete
where the table ends or small letters follow. -/
def occursIn (target : List Char) : List Char → List Char → Bool
  | _, [] => false
  | name, c :: rest =>
    if c.isLower then occursIn target (name.drop (c.toNat - 97)) rest
    else (rest.head?.all Char.isLower && c :: name == target) || occursIn target (c :: name) rest

/-! ## Names that follow a rule -/

/-- What follows a beginning, if a text has it. -/
def afterStart? (start : String) (cs : List Char) : Option (List Char) :=
  if start.toList.isPrefixOf cs then some (cs.drop start.length) else none

/-- The ideographs that are named by their number. -/
def unifiedIdeographs : CodeRanges :=
  .ofTexts ["3400-4DBF 4E00-9FFF 20000-2A6DF 2A700-2B738 2B740-2B81D 2B820-2CEA1 2CEB0-2EBE0",
    "30000-3134A"]

/-- Whether a text is the number of an ideograph: four or five digits, the letters large. -/
def isIdeographNumber (cs : List Char) : Bool :=
  (cs.length = 4 || cs.length = 5) && cs.all (fun c => c.isDigit || ('A' ≤ c && c ≤ 'F'))
    && unifiedIdeographs.containsCode (hexValue cs)

/-- What follows the longest of some beginnings that a text has. -/
def afterLongest? (starts : List String) (cs : List Char) : Option (List Char) :=
  let fitting := (starts.filter fun start => start.toList.isPrefixOf cs).map String.length
  fitting.max?.map cs.drop

/-- The names of the three parts of a syllable. -/
def syllableParts : List (List String) := [
  ["G", "GG", "N", "D", "DD", "R", "M", "B", "BB", "S", "SS", "", "J", "JJ", "C", "K", "T", "P", "H"],
  ["A", "AE", "YA", "YAE", "EO", "E", "YEO", "YE", "O", "WA", "WAE", "OE", "YO", "U", "WEO", "WE",
    "WI", "YU", "EU", "YI", "I"],
  ["", "G", "GG", "GS", "N", "NJ", "NH", "D", "L", "LG", "LM", "LB", "LS", "LT", "LP", "LH", "M", "B",
    "BS", "S", "SS", "NG", "J", "C", "K", "T", "P", "H"]]

/-- Whether a text names a syllable: each part in turn takes as much as it can. -/
def isSyllable (cs : List Char) : Bool :=
  syllableParts.foldl (fun left starts => left.bind (afterLongest? starts)) (some cs) = some []

/-! ## All names -/

/-- Whether a text is the name of a character. -/
def isCharacterName (cs : List Char) : Bool :=
  match afterStart? "CJK UNIFIED IDEOGRAPH-" cs, afterStart? "HANGUL SYLLABLE " cs with
  | some number, _ => isIdeographNumber number
  | _, some syllable => isSyllable syllable
  | none, none =>
    let name := (cs.map Char.toUpper).reverse
    characterNames.any fun table => occursIn name [] (table.flatMap String.toList)

end Roster.Text
