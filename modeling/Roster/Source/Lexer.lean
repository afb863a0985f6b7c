import Roster.Source.Token
import Roster.Text.Normalize

/-! # Cutting a module into tokens

A text is read once from its start. Outside brackets the margin of a line that is not blank opens
and closes blocks, and its end is a token; inside brackets neither counts.

* `tokens?` is `none` if the text has a part that is no word, an unclosed bracket or literal, or a
  margin that fits no open block.
-/

namespace Roster.Source

/-! ## Words -/

/-- The characters that start a word; beyond ASCII the whole word is checked afterwards. -/
def isWordStart (c : Char) : Bool := c.isAlpha || c = '_' || 128 ≤ c.toNat

/-- The characters inside a word. -/
def isWordPart (c : Char) : Bool := isWordStart c || c.isDigit

/-- The blanks between words. -/
def isGap (c : Char) : Bool := c = ' ' || c = '\t' || c = '\x0c'

/-- A word that is reserved, or a name. A name is an identifier as it is written and as it is
composed; the two differ only beyond ASCII. -/
def nameLexeme? (word : List Char) : Option Lexeme :=
  let text := String.ofList word
  if word.all (·.toNat < 128) then
    if reservedWords.contains text then some (.fixed text)
    else (Identifier.ofChars? word).map (.name text)
  else if Text.isIdentifier word then (Identifier.ofChars? (Text.composed word)).map (.name text)
  else none

/-! ## Numbers -/

/-- What follows more digits; an underscore needs a digit on its right. -/
def afterDigits? (isDigit : Char → Bool) : List Char → Option (List Char)
  | [] => some []
  | ['_'] => none
  | '_' :: c :: rest => if isDigit c then afterDigits? isDigit rest else none
  | c :: rest => if isDigit c then afterDigits? isDigit rest else some (c :: rest)

/-- What follows a nonempty run of digits. -/
def digitRun? (isDigit : Char → Bool) : List Char → Option (List Char)
  | [] => none
  | c :: rest => if isDigit c then afterDigits? isDigit rest else none

/-- The words that may follow a number without a blank between. -/
def wordsAfterNumber : List String := ["and", "else", "for", "if", "in", "is", "not", "or"]

/-- Whether a number may end here. -/
def endsNumber (rest : List Char) : Bool :=
  wordsAfterNumber.any (fun w => w.toList.isPrefixOf rest) || !(rest.head?.any isWordPart)

/-- A number that ends here. -/
def numberEnd? (imaginary : Bool) (rest : List Char) : Option (Bool × List Char) :=
  if endsNumber rest then some (imaginary, rest) else none

/-- The end of a number that may be marked as imaginary; `whole` must hold if it is not marked. -/
def numberMark? (whole : Bool) : List Char → Option (Bool × List Char)
  | 'j' :: rest => numberEnd? true rest
  | 'J' :: rest => numberEnd? true rest
  | rest => if whole then numberEnd? false rest else none

/-- Whether a character opens an exponent. -/
def isExponentMark (c : Char) : Bool := c = 'e' || c = 'E'

/-- The end of a number that may have an exponent. -/
def exponentEnd? (whole : Bool) (cs : List Char) : Option (Bool × List Char) :=
  match cs with
  | [] => numberMark? whole cs
  | e :: rest =>
    if isExponentMark e then
      match rest with
      | '+' :: digits => (digitRun? Char.isDigit digits).bind (numberMark? true)
      | '-' :: digits => (digitRun? Char.isDigit digits).bind (numberMark? true)
      | digits =>
        if digits.head?.any Char.isDigit then
          (digitRun? Char.isDigit digits).bind (numberMark? true)
        else numberEnd? false cs
    else numberMark? whole cs

/-- The end of a number after its point. -/
def fractionEnd? (cs : List Char) : Option (Bool × List Char) :=
  if cs.head?.any Char.isDigit then
    (digitRun? Char.isDigit cs).bind (exponentEnd? true)
  else exponentEnd? true cs

/-- A number in another base, after the letter of the base. -/
def basedEnd? (isDigit : Char → Bool) (cs : List Char) : Option (Bool × List Char) :=
  let digits := match cs with
    | '_' :: rest => rest
    | rest => rest
  (digitRun? isDigit digits).bind (numberEnd? false)

/-- Whether a character is a hexadecimal digit. -/
def isHexDigit (c : Char) : Bool :=
  c.isDigit || ('a' ≤ c && c ≤ 'f') || ('A' ≤ c && c ≤ 'F')

/-- A decimal number. A whole number other than zero does not start with a zero. -/
def decimalEnd? (cs : List Char) : Option (Bool × List Char) := do
  let rest ← digitRun? Char.isDigit cs
  match rest with
  | '.' :: fraction => fractionEnd? fraction
  | _ =>
    let digits := (cs.take (cs.length - rest.length)).filter (· ≠ '_')
    exponentEnd? (digits.head? ≠ some '0' || digits.all (· = '0')) rest

/-- A number at the start of a text: whether it is imaginary, and what follows it. -/
def number? (cs : List Char) : Option (Bool × List Char) :=
  match cs with
  | '.' :: rest => fractionEnd? rest
  | '0' :: letter :: rest =>
    if letter = 'x' || letter = 'X' then basedEnd? isHexDigit rest
    else if letter = 'o' || letter = 'O' then basedEnd? (fun c => '0' ≤ c && c ≤ '7') rest
    else if letter = 'b' || letter = 'B' then basedEnd? (fun c => c = '0' || c = '1') rest
    else decimalEnd? cs
  | _ => decimalEnd? cs

/-! ## String literals -/

/-- Whether a character opens a string literal. -/
def isQuote (c : Char) : Bool := c = '\x22' || c = '\x27'

/-- What stands before a closing quote on the same line and what follows it; a backslash guards
the character after it. -/
def untilQuote (quote : Char) : List Char → Option (List Char × List Char)
  | [] => none
  | '\\' :: c :: rest => (untilQuote quote rest).map fun r => ('\\' :: c :: r.1, r.2)
  | c :: rest =>
    if c = quote then some ([], rest)
    else if c = '\n' then none
    else (untilQuote quote rest).map fun r => (c :: r.1, r.2)

/-- What stands before three closing quotes and what follows them. -/
def untilThreeQuotes (quote : Char) : List Char → Option (List Char × List Char)
  | [] => none
  | '\\' :: c :: rest => (untilThreeQuotes quote rest).map fun r => ('\\' :: c :: r.1, r.2)
  | c :: rest =>
    if [quote, quote, quote].isPrefixOf (c :: rest) then some ([], rest.drop 2)
    else (untilThreeQuotes quote rest).map fun r => (c :: r.1, r.2)

/-- The letters in front of a string literal: which kinds they stand for. -/
def literalKind? (word : List Char) : Option StringLiteral :=
  match String.ofList (word.map Char.toLower) with
  | "" => some ⟨false, false, false, []⟩
  | "u" => some ⟨false, false, false, []⟩
  | "b" => some ⟨true, false, false, []⟩
  | "r" => some ⟨false, true, false, []⟩
  | "f" => some ⟨false, false, true, []⟩
  | "br" => some ⟨true, true, false, []⟩
  | "rb" => some ⟨true, true, false, []⟩
  | "fr" => some ⟨false, true, true, []⟩
  | "rf" => some ⟨false, true, true, []⟩
  | _ => none

/-- The body of a string literal that starts with its quotes, and what follows it. -/
def literalBody? : List Char → Option (List Char × List Char)
  | [] => none
  | quote :: rest =>
    if [quote, quote].isPrefixOf rest then untilThreeQuotes quote (rest.drop 2)
    else untilQuote quote rest

/-- A string literal after the letters in front of it. -/
def literal? (kind : StringLiteral) (cs : List Char) : Option (Lexeme × List Char) :=
  (literalBody? cs).map fun r => (.literal { kind with body := r.1 }, r.2)

/-! ## One word -/

/-- A name, a reserved word, or a string literal with letters in front. -/
def word? (cs : List Char) : Option (Lexeme × List Char) :=
  let word := cs.takeWhile isWordPart
  let rest := cs.dropWhile isWordPart
  match (if rest.head?.any isQuote then literalKind? word else none) with
  | some kind => literal? kind rest
  | none => (nameLexeme? word).map fun l => (l, rest)

/-- The longest sign at the start of a text. -/
def sign? (cs : List Char) : Option (Lexeme × List Char) :=
  (signs.find? fun s => s.toList.isPrefixOf cs).map fun s => (.fixed s, cs.drop s.length)

/-- The word at the start of a text without a blank in front. -/
def lexeme? (cs : List Char) : Option (Lexeme × List Char) :=
  match cs with
  | [] => none
  | c :: rest =>
    if isWordStart c then word? cs
    else if c.isDigit || (c = '.' && rest.head?.any Char.isDigit) then
      (number? cs).map fun r => (.number r.1, r.2)
    else if isQuote c then literal? ⟨false, false, false, []⟩ cs
    else sign? cs

/-! ## Layout -/

/-- The margin of a line, measured with tabs to the next multiple of eight and with tabs as one
column, and the rest of the line. -/
structure Margin where
  column : Nat
  narrow : Nat
  line : Nat
  rest : List Char
  deriving DecidableEq, Repr

/-- Measures a margin. `held` is the column of the first backslash that continued the margin on the
next line; if it is not zero it is the margin. -/
def margin? (column narrow held line : Nat) : List Char → Option Margin
  | [] => some (if held = 0 then ⟨column, narrow, line, []⟩ else ⟨held, held, line, []⟩)
  | ' ' :: rest => margin? (column + 1) (narrow + 1) held line rest
  | '\t' :: rest => margin? ((column / 8 + 1) * 8) (narrow + 1) held line rest
  | '\x0c' :: rest => margin? 0 0 held line rest
  | '\\' :: '\n' :: c :: rest =>
    margin? column narrow (if held = 0 then column else held) (line + 1) (c :: rest)
  | '\\' :: _ => none
  | rest => some (if held = 0 then ⟨column, narrow, line, rest⟩ else ⟨held, held, line, rest⟩)

/-- How many blocks may be open, the module's own among them. -/
def blockBound : Nat := 100

/-- How many brackets may be open. -/
def bracketBound : Nat := 200

/-- Closes blocks, given as their margins from the innermost, until one has this margin. -/
def closeBlocks? (column narrow : Nat) : List (Nat × Nat) → Option (List Lexeme × List (Nat × Nat))
  | [] => none
  | (c, w) :: outer =>
    if column < c then (closeBlocks? column narrow outer).map fun r => (.dedent :: r.1, r.2)
    else if column = c && narrow = w then some ([], (c, w) :: outer)
    else none

/-- What a margin opens or closes. A new block's margin is wider by both measures. -/
def layout? (m : Margin) (blocks : List (Nat × Nat)) :
    Option (List Lexeme × List (Nat × Nat)) :=
  match blocks with
  | [] => none
  | (c, w) :: _ =>
    if c < m.column then
      if w < m.narrow && blocks.length < blockBound then
        some ([.indent], (m.column, m.narrow) :: blocks)
      else none
    else closeBlocks? m.column m.narrow blocks

/-- The bracket that closes one. -/
def closer? : String → Option String
  | "(" => some ")"
  | "[" => some "]"
  | "\x7b" => some "\x7d"
  | _ => none

/-- Whether a sign closes a bracket. -/
def isCloser (s : String) : Bool := s = ")" || s = "]" || s = "\x7d"

/-- Opens or closes a bracket; `pending` lists the signs that close the open ones. -/
def track? (pending : List String) : Lexeme → Option (List String)
  | .fixed s =>
    match closer? s with
    | some c => if pending.length < bracketBound then some (c :: pending) else none
    | none =>
      if isCloser s then
        match pending with
        | [] => none
        | c :: outer => if c = s then some outer else none
      else some pending
  | _ => some pending

/-! ## The whole text -/

/-- Where the reading of a text is. -/
structure LexState where
  line : Nat
  pending : List String
  blocks : List (Nat × Nat)

/-- The tokens from a place on; `fresh` tells that a line starts here, and `fuel` bounds the number
of steps. -/
def tokensFrom? : (fuel : Nat) → (fresh : Bool) → LexState → List Char → Option (List Token)
  | 0, _, _, _ => none
  | fuel + 1, true, s, cs => do
    let m ← margin? 0 0 0 s.line cs
    match m.rest with
    | '#' :: rest =>
      tokensFrom? fuel true { s with line := m.line + 1 } ((rest.dropWhile (· ≠ '\n')).drop 1)
    | '\n' :: rest => tokensFrom? fuel true { s with line := m.line + 1 } rest
    | rest =>
      if s.pending.isEmpty then
        let (marks, blocks) ← layout? m s.blocks
        let later ← tokensFrom? fuel false { s with line := m.line, blocks } rest
        some (marks.map (Token.mk m.line) ++ later)
      else tokensFrom? fuel false { s with line := m.line } rest
  | fuel + 1, false, s, cs =>
    match cs.dropWhile isGap with
    | [] => if s.pending.isEmpty then some [⟨s.line, .finish⟩] else none
    | '#' :: rest => tokensFrom? fuel false s (rest.dropWhile (· ≠ '\n'))
    | '\n' :: rest => do
      let later ← tokensFrom? fuel true { s with line := s.line + 1 } rest
      some (if s.pending.isEmpty then ⟨s.line, .newline⟩ :: later else later)
    | '\\' :: '\n' :: c :: rest =>
      tokensFrom? fuel false { s with line := s.line + 1 } (c :: rest)
    | rest => do
      let (lexeme, rest) ← lexeme? rest
      let pending ← track? s.pending lexeme
      let later ← tokensFrom? fuel false { s with line := s.line + lexeme.lineCount, pending } rest
      some (⟨s.line, lexeme⟩ :: later)

/-- A text whose last line has an end. -/
def withLastLine (cs : List Char) : List Char :=
  if cs.isEmpty || cs.getLast? = some '\n' then cs else cs ++ ['\n']

/-- The tokens of a text. -/
def tokens? (text : List Char) : Option (List Token) :=
  let cs := withLastLine text
  tokensFrom? (2 * cs.length + 2) true ⟨1, [], [(0, 0)]⟩ cs

end Roster.Source
