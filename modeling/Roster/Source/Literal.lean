import Roster.Source.Lexer
import Roster.Text.CharacterName

/-! # What a string literal may hold

Escapes must be complete, a bytes literal is ASCII, and literals that stand side by side are all
text or all bytes. A formatted literal holds expressions in braces, each with a conversion and a
layout of its own, and the layout may again hold expressions.

* `formattedParts?` lists the texts of all these expressions.
-/

namespace Roster.Source

/-! ## Escapes -/

/-- The number that exactly `count` hexadecimal digits write. -/
def hexEscape? : (count value : Nat) → List Char → Option Nat
  | 0, value, _ => some value
  | _ + 1, _, [] => none
  | count + 1, value, c :: rest =>
    if isHexDigit c then hexEscape? count (16 * value + (c.toLower.toNat - (if c.isDigit then 48 else 87))) rest
    else none

/-- The largest code point. -/
def lastCodePoint : Nat := 0x10FFFF

/-- Whether an escape names a character in braces. -/
def namedEscapeOk : List Char → Bool
  | '\x7b' :: rest => rest.contains '\x7d' && Text.isCharacterName (rest.takeWhile (· ≠ '\x7d'))
  | _ => false

/-- Whether every escape is complete. -/
def escapesOk (bytes : Bool) : List Char → Bool
  | [] => true
  | '\\' :: c :: rest =>
    (if c = 'x' then (hexEscape? 2 0 rest).isSome
      else if bytes then true
      else if c = 'u' then (hexEscape? 4 0 rest).isSome
      else if c = 'U' then (hexEscape? 8 0 rest).any (· ≤ lastCodePoint)
      else if c = 'N' then namedEscapeOk rest
      else true) && escapesOk bytes rest
  | _ :: rest => escapesOk bytes rest

/-- Whether a literal that is not formatted is well formed. -/
def StringLiteral.plainOk (l : StringLiteral) : Bool :=
  (!l.bytes || l.body.all (·.toNat < 128)) && (l.raw || escapesOk l.bytes l.body)

/-! ## Formatted literals -/

/-- Takes the plain text in front of the next brace. The result tells whether the brace was doubled
and so stands for itself, which it may do at level 0 only, and what follows; `named` tells whether
the place is inside the name of a character. -/
def plainPart? (raw : Bool) (level : Nat) : (named : Bool) → List Char →
    Option (List Char × Bool × List Char)
  | named, [] => if named then none else some ([], false, [])
  | true, c :: rest => (plainPart? raw level (c ≠ '\x7d') rest).map fun r => (c :: r.1, r.2)
  | false, '\\' :: 'N' :: '\x7b' :: rest =>
    if raw then
      (plainPart? raw level false ('\x7b' :: rest)).map fun r => ('\\' :: 'N' :: r.1, r.2)
    else (plainPart? raw level true rest).map fun r => ('\\' :: 'N' :: '\x7b' :: r.1, r.2)
  | false, '\\' :: c :: rest =>
    if raw || c = '\x7b' || c = '\x7d' then
      (plainPart? raw level false (c :: rest)).map fun r => ('\\' :: r.1, r.2)
    else (plainPart? raw level false rest).map fun r => ('\\' :: c :: r.1, r.2)
  | false, c :: rest =>
    if c = '\x7b' || c = '\x7d' then
      if level = 0 && rest.head? = some c then some ([c], true, rest.drop 1)
      else if level = 0 && c = '\x7d' then none
      else some ([], false, c :: rest)
    else (plainPart? raw level false rest).map fun r => (c :: r.1, r.2)

/-- Whether a literal inside an expression is open: by which quote, and whether by three. -/
abbrev OpenQuote := Option (Char × Bool)

/-- Puts characters in front of the first part. -/
def prepend (cs : List Char) (r : Option (List Char × List Char)) : Option (List Char × List Char) :=
  r.map fun p => (cs ++ p.1, p.2)

/-- Takes the text of an expression up to what ends it outside brackets and literals. `pending` lists
the characters that close the open brackets. -/
def expressionPart? : (pending : List Char) → OpenQuote → List Char → Option (List Char × List Char)
  | _, _, [] => none
  | pending, some (quote, three), c :: rest =>
    if c = '\\' then none
    else if c = quote then
      if three then
        match rest with
        | d :: e :: more =>
          if d = quote && e = quote then prepend [c, d, e] (expressionPart? pending none more)
          else prepend [c] (expressionPart? pending (some (quote, three)) (d :: e :: more))
        | rest => prepend [c] (expressionPart? pending (some (quote, three)) rest)
      else prepend [c] (expressionPart? pending none rest)
    else prepend [c] (expressionPart? pending (some (quote, three)) rest)
  | pending, none, c :: rest =>
    if c = '\\' || c = '#' then none
    else if isQuote c then
      match rest with
      | d :: e :: more =>
        if d = c && e = c then prepend [c, d, e] (expressionPart? pending (some (c, true)) more)
        else prepend [c] (expressionPart? pending (some (c, false)) (d :: e :: more))
      | rest => prepend [c] (expressionPart? pending (some (c, false)) rest)
    else if c = '(' then prepend [c] (expressionPart? (')' :: pending) none rest)
    else if c = '[' then prepend [c] (expressionPart? (']' :: pending) none rest)
    else if c = '\x7b' then prepend [c] (expressionPart? ('\x7d' :: pending) none rest)
    else
      match pending with
      | [] =>
        if "!=<>".toList.contains c && rest.head? = some '=' then
          match rest with
          | d :: more => prepend [c, d] (expressionPart? [] none more)
          | [] => none
        else if "!:=\x7d".toList.contains c then some ([], c :: rest)
        else if c = ')' || c = ']' then none
        else prepend [c] (expressionPart? [] none rest)
      | closer :: outer =>
        if c = ')' || c = ']' || c = '\x7d' then
          if c = closer then prepend [c] (expressionPart? outer none rest) else none
        else prepend [c] (expressionPart? (closer :: outer) none rest)

/-- The blanks after the sign that shows an expression's own text. -/
def isFillBlank (c : Char) : Bool := c = ' ' || (9 ≤ c.toNat && c.toNat ≤ 13)

/-- Drops the sign that shows an expression's own text, with blanks after it. -/
def dropEcho : List Char → List Char
  | '=' :: rest => rest.dropWhile isFillBlank
  | rest => rest

/-- Drops a conversion, which is one of three letters. -/
def dropConversion? : List Char → Option (List Char)
  | '!' :: c :: rest =>
    if (c = 's' || c = 'r' || c = 'a') && (rest.head? = some '\x7d' || rest.head? = some ':') then
      some rest
    else none
  | ['!'] => none
  | rest => some rest

/-- How deep expressions may lie in layouts of expressions. -/
def nestingBound : Nat := 2

/-- The texts of the expressions in a formatted literal from a place on, and what follows the part
at this level; `fuel` bounds the number of parts. -/
def formattedFrom? (raw : Bool) : (fuel level : Nat) → List Char →
    Option (List (List Char) × List Char)
  | 0, _, _ => none
  | fuel + 1, level, cs => do
    let (plain, doubled, rest) ← plainPart? raw level false cs
    if !raw && !escapesOk false plain then none
    else if doubled then formattedFrom? raw fuel level rest
    else
      match rest with
      | '\x7b' :: rest =>
        if nestingBound ≤ level then none
        else
          let (text, rest) ← expressionPart? [] none rest
          let rest ← dropConversion? (dropEcho rest)
          let (inner, rest) ← match rest with
            | ':' :: rest => formattedFrom? raw fuel (level + 1) rest
            | rest => some ([], rest)
          match rest with
          | '\x7d' :: rest =>
            let (later, rest) ← formattedFrom? raw fuel level rest
            some (text :: inner ++ later, rest)
          | _ => none
      | rest => some ([], rest)

/-- The texts of all expressions in a formatted literal. -/
def formattedParts? (raw : Bool) (body : List Char) : Option (List (List Char)) :=
  (formattedFrom? raw (body.length + 1) 0 body).map (·.1)

/-- The texts of the expressions in a literal. -/
def StringLiteral.parts? (l : StringLiteral) : Option (List (List Char)) :=
  if l.formatted then formattedParts? l.raw l.body
  else if l.plainOk then some []
  else none

/-- The text of an expression as it is read: in brackets, so that its lines do not count. It must
not be blank. -/
def bracketed? (text : List Char) : Option (List Char) :=
  if text.all fun c => isGap c || c = '\n' then none else some ('(' :: text ++ [')'])

/-! ## Literals side by side -/

/-- The texts of the expressions in all literals of a text; `before` tells of a literal right in
front whether it is bytes. -/
def literalParts? : (before : Option Bool) → List Token → Option (List (List Char))
  | _, [] => some []
  | before, t :: rest =>
    match t.lexeme with
    | .literal l =>
      if before.any (· ≠ l.bytes) then none
      else do
        let parts ← l.parts?
        let later ← literalParts? (some l.bytes) rest
        some (parts ++ later)
    | _ => literalParts? none rest

end Roster.Source
