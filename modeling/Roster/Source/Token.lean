import Roster.Text.Identifier

/-! # Tokens of a module

The words of a module's text: names, numbers, string literals, fixed words and signs, and the marks
that layout stands for. Each token knows the line that it starts on.
-/

namespace Roster.Source

/-- A string literal as written: its kind, and what stands between its quotes. -/
structure StringLiteral where
  bytes : Bool
  raw : Bool
  formatted : Bool
  body : List Char
  deriving DecidableEq, Repr

/-- A text that is an identifier. -/
structure Identifier where
  text : String
  proper : Text.isIdentifier text.toList = true
  deriving DecidableEq, Repr

/-- The identifier that characters make. -/
def Identifier.ofChars? (cs : List Char) : Option Identifier :=
  if h : Text.isIdentifier cs = true then some ⟨String.ofList cs, by rwa [String.toList_ofList]⟩
  else none

/-- A word of the text. A name is kept as written and in its composed form, which is what it means;
a fixed word is a reserved word or a sign. -/
inductive Lexeme where
  | name (written : String) (composed : Identifier)
  | fixed (text : String)
  | number (imaginary : Bool)
  | literal (l : StringLiteral)
  | newline
  | indent
  | dedent
  | finish
  deriving DecidableEq, Repr

/-- A word and the line that it starts on. -/
structure Token where
  line : Nat
  lexeme : Lexeme
  deriving DecidableEq, Repr

/-- The words that cannot be names. -/
def reservedWords : List String :=
  ["False", "None", "True", "and", "as", "assert", "async", "await", "break", "class", "continue",
    "def", "del", "elif", "else", "except", "finally", "for", "from", "global", "if", "import",
    "in", "is", "lambda", "nonlocal", "not", "or", "pass", "raise", "return", "try", "while",
    "with", "yield"]

/-- The signs, a longer one before each one that it starts with. -/
def signs : List String :=
  ["**=", "//=", "<<=", ">>=", "...",
    "!=", "%=", "&=", "**", "*=", "+=", "-=", "->", "//", "/=", ":=", "<<", "<=", "==", ">=",
    ">>", "@=", "^=", "|=",
    "%", "&", "(", ")", "*", "+", ",", "-", ".", "/", ":", ";", "<", "=", ">", "@", "[", "]",
    "^", "\x7b", "|", "\x7d", "~"]

/-- How many ends of lines a word runs over. -/
def Lexeme.lineCount : Lexeme → Nat
  | .literal l => l.body.count '\n'
  | _ => 0

end Roster.Source
