import Roster.Source.Token

/-! # Reading tokens

A parser takes tokens off the front of a list and gives a result, or refuses. It decides by the next
one or two tokens which way to go, so that it hardly ever has to go back.

* `Parser.iterate` repeats a step until the step finds nothing; its bound is never less than the
  number of tokens left.
-/

namespace Roster.Source

/-- Reads a part of a list of tokens. -/
abbrev Parser (α : Type) := StateT (List Token) Option α

namespace Parser

/-- Refuses. -/
def refuse {α : Type} : Parser α := fun _ => none

/-- Refuses unless a condition holds. -/
def require (b : Bool) : Parser Unit := if b then pure () else refuse

/-- The next word. -/
def peek : Parser (Option Lexeme) := do return (← get).head?.map (·.lexeme)

/-- The word after the next one. -/
def peekSecond : Parser (Option Lexeme) := do return (← get)[1]?.map (·.lexeme)

/-- Drops a token. -/
def advance : Parser Unit := modify (·.drop 1)

/-- Whether the next word is this one. -/
def atLexeme (l : Lexeme) : Parser Bool := do return (← peek) = some l

/-- Drops this word if it is next, and tells whether it was. -/
def acceptLexeme (l : Lexeme) : Parser Bool := do
  if ← atLexeme l then
    advance
    return true
  else return false

/-- Drops this word, which must be next. -/
def expectLexeme (l : Lexeme) : Parser Unit := do require (← acceptLexeme l)

/-- Whether this reserved word or sign is next. -/
def at? (s : String) : Parser Bool := atLexeme (.fixed s)

/-- Drops this reserved word or sign if it is next, and tells whether it was. -/
def accept (s : String) : Parser Bool := acceptLexeme (.fixed s)

/-- Drops this reserved word or sign, which must be next. -/
def expect (s : String) : Parser Unit := expectLexeme (.fixed s)

/-- Whether one of these reserved words and signs is next. -/
def atAny (ss : List String) : Parser Bool := do
  match ← peek with
  | some (.fixed s) => return ss.contains s
  | _ => return false

/-- Drops one of these reserved words and signs if it is next, and tells whether it was. -/
def acceptAny (ss : List String) : Parser Bool := do
  if ← atAny ss then
    advance
    return true
  else return false

/-- Reads a name. -/
def identifier : Parser Identifier := do
  match ← peek with
  | some (.name _ id) =>
    advance
    return id
  | _ => refuse

/-- Reads the text of a name. -/
def name : Parser String := do return (← identifier).text

/-- Whether a name is next that is written like this. -/
def atWritten (word : String) : Parser Bool := do
  match ← peek with
  | some (.name written _) => return written = word
  | _ => return false

/-- Whether a name is next and this sign behind it. -/
def atNameThen (s : String) : Parser Bool := do
  match ← peek, ← peekSecond with
  | some (.name _ _), some (.fixed t) => return s = t
  | _, _ => return false

/-- Reads what a parser reads, or nothing if it refuses. -/
def attempt {α : Type} (p : Parser α) : Parser (Option α) := fun ts =>
  match p ts with
  | some (a, rest) => some (some a, rest)
  | none => some (none, ts)

/-- Repeats a step while it gives a result. -/
def iterate {α : Type} (step : α → Parser (Option α)) : (bound : Nat) → α → Parser α
  | 0, _ => refuse
  | bound + 1, a => do
    match ← step a with
    | some b => iterate step bound b
    | none => return a

/-- The items behind an item: each has a comma in front, and one more comma may stand behind the
last. `starts` tells whether an item is next. The result tells whether there was a comma. -/
def commaTail {α : Type} (starts : Parser Bool) (item : Parser α) :
    (bound : Nat) → Parser (List α × Bool)
  | 0 => refuse
  | bound + 1 => do
    if !(← accept ",") then return ([], false)
    else if !(← starts) then return ([], true)
    else
      let a ← item
      let (more, _) ← commaTail starts item bound
      return (a :: more, true)

/-- Items with commas between, one more comma allowed behind the last; whether there was a comma. -/
def commaList {α : Type} (bound : Nat) (starts : Parser Bool) (item : Parser α) :
    Parser (List α × Bool) := do
  let first ← item
  let (more, comma) ← commaTail starts item bound
  return (first :: more, comma)

/-- Drops string literals side by side. -/
def literalRun (bound : Nat) : Parser Unit :=
  iterate (fun _ => do
    match ← peek with
    | some (.literal _) =>
      advance
      return some ()
    | _ => return none) bound ()

end Parser
end Roster.Source
