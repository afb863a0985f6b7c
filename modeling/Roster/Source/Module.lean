import Roster.Limits
import Roster.Source.Literal
import Roster.Source.Statement

/-! # Reading a module

A text is a module if it falls into tokens, the tokens form statements, and every expression in a
formatted literal, at any depth, is an expression again.

* `signExhaustion?`: a reader that takes a step down at each of a row of signs runs out of room.
-/

namespace Roster.Source

/-- Whether tokens form expressions in brackets. -/
def isExpression (tokens : List Token) : Bool :=
  let bound := tokens.length + 1
  (starExpressions bound (expressions bound) tokens).isSome

/-- Whether all string literals are well formed; `depth` bounds how deep literals may lie in the
expressions of literals. -/
def literalsOk : (depth : Nat) → List Token → Bool
  | 0, _ => false
  | depth + 1, tokens =>
    match literalParts? none tokens with
    | none => false
    | some parts => parts.all fun text =>
      match (bracketed? text).bind tokens? with
      | none => false
      | some inner => literalsOk depth inner && isExpression inner

/-- The statements that tokens form. -/
def ofTokens? (tokens : List Token) : Option (List Stmt) :=
  match statements (tokens.length + 1) tokens with
  | some (body, [⟨_, .finish⟩]) => some body
  | _ => none

/-- The statements of a module, `none` if the text is no module. -/
def parse? (text : String) : Option (List Stmt) := do
  let cs := text.toList
  if cs.contains '\x00' then none
  else
    let tokens ← tokens? cs
    if literalsOk (cs.length + 1) tokens then ofTokens? tokens else none

/-! ## Rows of signs -/

/-- How many signs in a row can be read in front of an operand. -/
def signBound : Nat := 5966

/-- Whether more than `bound` of the signs of an operand stand in a row, `count` of them in front. -/
def hasLongRow (bound : Nat) : (count : Nat) → List Token → Bool
  | count, [] => bound < count
  | count, token :: rest =>
    if ["-", "+", "~"].any fun sign => token.lexeme = .fixed sign then hasLongRow bound (count + 1) rest
    else bound < count || hasLongRow bound 0 rest

/-- How a reader with so much room gives out at a text, if it does. -/
def signExhaustion? (text : String) : Option Exhaustion :=
  match tokens? text.toList with
  | some tokens => if hasLongRow signBound 0 tokens then some .memory else none
  | none => none

end Roster.Source
