import Roster.Document.Value

/-! # Tags

What kind of value a node stands for. A plain scalar without a tag gets one by its form: numbers,
truth values, dates and nothing are told from texts by how they are written.

* `Tag.ofForm` is the tag of a plain scalar.
* `Stamp.read?` reads the form of a timestamp.
-/

namespace Roster.Document

/-- What kind of value a node stands for. -/
inductive Tag where
  | null
  | bool
  | int
  | float
  | binary
  | timestamp
  | text
  | seq
  | map
  | set
  | omap
  | pairs
  /-- The key of entries that are taken over from other maps. -/
  | merge
  /-- The key of the entry that stands for the whole map. -/
  | value
  | unknown
  deriving DecidableEq, Repr, Inhabited

/-- What the addresses of the common tags start with. -/
def commonTagStart : String := "tag:yaml.org,2002:"

/-- The tag of an address. -/
def Tag.ofAddress (address : String) : Tag :=
  if commonTagStart.toList.isPrefixOf address.toList then
    match String.ofList (address.toList.drop commonTagStart.length) with
    | "null" => .null
    | "bool" => .bool
    | "int" => .int
    | "float" => .float
    | "binary" => .binary
    | "timestamp" => .timestamp
    | "str" => .text
    | "seq" => .seq
    | "map" => .map
    | "set" => .set
    | "omap" => .omap
    | "pairs" => .pairs
    | "merge" => .merge
    | "value" => .value
    | _ => .unknown
  else .unknown

/-! ## Forms -/

/-- A form is recognised up to one line's end at the end of the scalar. -/
def withoutFinalBreak (cs : List Char) : List Char :=
  if cs.getLast? = some '\n' then cs.dropLast else cs

/-- The characters after an optional sign, and whether there was one. -/
def afterSign (cs : List Char) : List Char × Bool :=
  match cs with
  | '+' :: rest => (rest, true)
  | '-' :: rest => (rest, true)
  | cs => (cs, false)

/-- A decimal digit or an underscore. -/
def isDigitMark (c : Char) : Bool := c.isDigit || c = '_'

/-- The words for truth values. -/
def truthWords : List String :=
  ["yes", "Yes", "YES", "no", "No", "NO", "true", "True", "TRUE", "false", "False", "FALSE",
    "on", "On", "ON", "off", "Off", "OFF"]

/-- The words for nothing. -/
def nullWords : List String := ["~", "null", "Null", "NULL", ""]

/-- The groups of a number in base sixty, each after a colon; what follows them, if there is one. -/
def dropSixties : Nat → List Char → Option (List Char)
  | 0, _ => none
  | fuel + 1, cs =>
    match cs with
    | ':' :: rest =>
      let digits := rest.takeWhile Char.isDigit
      let fits := match digits with
        | [_] => true
        | [tens, _] => tens ≤ '5'
        | _ => false
      let after := rest.drop digits.length
      if !fits then none
      else if after.head? = some ':' then dropSixties fuel after
      else some after
    | _ => none

/-- The end of a number with a point: nothing, or an exponent with a sign. -/
def isExponentEnd (cs : List Char) : Bool :=
  match cs with
  | [] => true
  | e :: s :: rest =>
    (e = 'e' || e = 'E') && (s = '+' || s = '-') && !rest.isEmpty && rest.all Char.isDigit
  | _ => false

/-- The form of a number with a point. -/
def isFloatForm (cs : List Char) : Bool :=
  let (rest, signed) := afterSign cs
  match rest with
  | '.' :: after =>
    ["inf", "Inf", "INF"].contains (String.ofList after)
      || (!signed
        && (["nan", "NaN", "NAN"].contains (String.ofList after)
          || (after.head?.any Char.isDigit && isExponentEnd (after.dropWhile isDigitMark))))
  | c :: _ =>
    if !c.isDigit then false
    else
      match rest.dropWhile isDigitMark with
      | '.' :: after => isExponentEnd (after.dropWhile isDigitMark)
      | ':' :: after =>
        match dropSixties cs.length (':' :: after) with
        | some ('.' :: more) => more.all isDigitMark
        | _ => false
      | _ => false
  | [] => false

/-- The form of a whole number: binary, octal, decimal, hexadecimal or in base sixty. -/
def isIntForm (cs : List Char) : Bool :=
  match (afterSign cs).1 with
  | ['0'] => true
  | '0' :: 'b' :: rest => !rest.isEmpty && rest.all fun c => c = '0' || c = '1' || c = '_'
  | '0' :: 'x' :: rest => !rest.isEmpty && rest.all fun c => (hexDigit? c).isSome || c = '_'
  | '0' :: rest => !rest.isEmpty && rest.all fun c => ('0' ≤ c && c ≤ '7') || c = '_'
  | c :: rest =>
    c.isDigit
      && (match rest.dropWhile isDigitMark with
          | [] => true
          | after => dropSixties cs.length after = some [])
  | [] => false
where
  /-- The value of a hexadecimal digit. -/
  hexDigit? (c : Char) : Option Nat :=
    if c.isDigit || ('a' ≤ c && c ≤ 'f') || ('A' ≤ c && c ≤ 'F') then some c.toNat else none

/-! ## Timestamps -/

/-- The distance of a zone: its sign, hours and minutes, or universal time. -/
inductive StampZone where
  | universal
  | offset (negative : Bool) (hours minutes : Nat)
  deriving DecidableEq, Repr

/-- The time of day of a timestamp, its fraction as written. -/
structure StampTime where
  hour : Nat
  minute : Nat
  second : Nat
  fraction : List Char
  zone : Option StampZone
  deriving DecidableEq, Repr

/-- A timestamp as written. -/
structure Stamp where
  date : Date
  time : Option StampTime
  deriving DecidableEq, Repr

/-- A number of `least` to `most` digits, and what follows it. -/
def takeNumber (least most : Nat) (cs : List Char) : Option (Nat × List Char) :=
  let digits := (cs.take most).takeWhile Char.isDigit
  if digits.length < least then none
  else some (digits.foldl (fun n d => 10 * n + (d.toNat - 48)) 0, cs.drop digits.length)

/-- What follows a character. -/
def takeMark (c : Char) (cs : List Char) : Option (List Char) :=
  match cs with
  | d :: rest => if c = d then some rest else none
  | [] => none

/-- A blank between parts of a timestamp. -/
def isStampBlank (c : Char) : Bool := c = ' ' || c = '\t'

/-- The zone at the end of a timestamp, if anything is left. -/
def readZone? (cs : List Char) : Option (Option StampZone) :=
  match cs with
  | [] => some none
  | cs =>
    match cs.dropWhile isStampBlank with
    | ['Z'] => some (some .universal)
    | sign :: rest =>
      if sign = '+' || sign = '-' then do
        let (hours, rest) ← takeNumber 1 2 rest
        match rest with
        | [] => some (some (.offset (sign = '-') hours 0))
        | rest =>
          let (minutes, rest) ← takeNumber 2 2 (← takeMark ':' rest)
          if rest.isEmpty then some (some (.offset (sign = '-') hours minutes)) else none
      else none
    | [] => none

/-- The time of day after the blanks or the letter in front of it. -/
def readTime? (cs : List Char) : Option StampTime := do
  let (hour, rest) ← takeNumber 1 2 cs
  let (minute, rest) ← takeNumber 2 2 (← takeMark ':' rest)
  let (second, rest) ← takeNumber 2 2 (← takeMark ':' rest)
  let (fraction, rest) := match rest with
    | '.' :: more => (more.takeWhile Char.isDigit, more.dropWhile Char.isDigit)
    | rest => ([], rest)
  let zone ← readZone? rest
  some ⟨hour, minute, second, fraction, zone⟩

/-- Reads the form of a timestamp: a day, and maybe a time. -/
def Stamp.read? (cs : List Char) : Option Stamp := do
  let (year, rest) ← takeNumber 4 4 cs
  let (month, rest) ← takeNumber 1 2 (← takeMark '-' rest)
  let (day, rest) ← takeNumber 1 2 (← takeMark '-' rest)
  match rest with
  | [] => some ⟨⟨year, month, day⟩, none⟩
  | c :: more =>
    if c = 'T' || c = 't' then some ⟨⟨year, month, day⟩, some (← readTime? more)⟩
    else if isStampBlank c then
      some ⟨⟨year, month, day⟩, some (← readTime? (more.dropWhile isStampBlank))⟩
    else none

/-- The form that makes a plain scalar a timestamp: a day alone has two digits for month and day. -/
def isTimestampForm (cs : List Char) : Bool :=
  match Stamp.read? cs with
  | some stamp => stamp.time.isSome || cs.length = 10
  | none => false

/-- The tag of a plain scalar; truth values are texts where `truths` is off. -/
def Tag.ofForm (truths : Bool) (text : String) : Tag :=
  let cs := withoutFinalBreak text.toList
  let word := String.ofList cs
  if text = "" then .null
  else if cs.isEmpty then .text
  else if truths && truthWords.contains word then .bool
  else if isFloatForm cs then .float
  else if isIntForm cs then .int
  else if word = "<<" then .merge
  else if nullWords.contains word then .null
  else if isTimestampForm cs then .timestamp
  else if word = "=" then .value
  else .text

end Roster.Document
