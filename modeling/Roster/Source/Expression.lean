import Roster.Source.Parser
import Roster.Source.Tree

/-! # Reading expressions

Operators only join operands here, so their ranks are told apart as far as it decides what may stand
where: a comparison cannot stand behind a star, nor a negation behind a sign.

* `expressions bound level` reads an expression of a level. What lies in brackets, behind an else or
  in a lambda is read by the same function with a smaller bound.
-/

namespace Roster.Source

open Roster.Source.Parser

/-- What can be read as an expression of its own: anything without a comma, anything without a
choice in front, operands joined by arithmetic signs, or one operand with what is attached to it. -/
inductive Level where
  | expression
  | disjunction
  | sum
  | primary
  deriving DecidableEq, Repr

/-- A parser for each level. -/
abbrev Reader := Level → Parser Expr

/-- The fixed words that an expression, or an item with a star, can start with. -/
def expressionStarts : List String :=
  ["(", "[", "\x7b", "...", "-", "+", "~", "not", "lambda", "await", "None", "True", "False", "*"]

/-- Whether an expression, or an item with a star, starts here. -/
def startsItem : Parser Bool := do
  match ← peek with
  | some (.name _ _) => return true
  | some (.number _) => return true
  | some (.literal _) => return true
  | some (.fixed s) => return expressionStarts.contains s
  | _ => return false

/-! ## Lists of items -/

/-- Names a value on the way, if a name and the sign for it are next. -/
def named? (sub : Reader) : Parser (Option Expr) := do
  if ← atNameThen ":=" then
    advance
    advance
    let _ ← sub .expression
    return some .other
  else return none

/-- An expression whose value may get a name on the way. -/
def namedExpression (sub : Reader) : Parser Expr := do
  match ← named? sub with
  | some e => return e
  | none => sub .expression

/-- An item of a display: with a star, or an expression whose value may get a name. -/
def starNamed (sub : Reader) : Parser Expr := do
  if ← accept "*" then return .starred (← sub .sum)
  else namedExpression sub

/-- An item of a list of expressions: with a star, or an expression. -/
def starExpression (sub : Reader) : Parser Expr := do
  if ← accept "*" then return .starred (← sub .sum)
  else sub .expression

/-- One expression, or a tuple of them without brackets. -/
def starExpressions (bound : Nat) (sub : Reader) : Parser Expr := do
  let (items, comma) ← commaList bound startsItem (starExpression sub)
  match items, comma with
  | [e], false => return e
  | _, _ => return .tuple items

/-- What follows a yield. -/
def yieldTail (bound : Nat) (sub : Reader) : Parser Unit := do
  if ← accept "from" then
    let _ ← sub .expression
  else if ← startsItem then
    let _ ← starExpressions bound sub

/-- A yield with its values. -/
def yieldExpression (bound : Nat) (sub : Reader) : Parser Expr := do
  expect "yield"
  yieldTail bound sub
  return .other

/-- A yield, or expressions. -/
def yieldOrExpressions (bound : Nat) (sub : Reader) : Parser Expr := do
  if ← at? "yield" then yieldExpression bound sub
  else starExpressions bound sub

/-! ## Comprehensions -/

/-- One target of a loop. -/
def starTarget (sub : Reader) : Parser Expr := do
  let e ← if ← accept "*" then pure (.starred (← sub .primary)) else sub .primary
  require (e.isTarget true)
  return e

/-- The targets of a loop. -/
def starTargets (bound : Nat) (sub : Reader) : Parser Unit := do
  let _ ← commaList bound startsItem (starTarget sub)

/-- The conditions of a clause. -/
def conditions (bound : Nat) (sub : Reader) : Parser Unit :=
  iterate (fun _ => do
    if ← accept "if" then
      let _ ← sub .disjunction
      return some ()
    else return none) bound ()

/-- Whether a clause is next. -/
def atClause : Parser Bool := do
  if ← at? "async" then return (← peekSecond) = some (.fixed "for")
  else at? "for"

/-- One clause of a comprehension. -/
def clause (bound : Nat) (sub : Reader) : Parser Unit := do
  let _ ← accept "async"
  expect "for"
  starTargets bound sub
  expect "in"
  let _ ← sub .disjunction
  conditions bound sub

/-- The clauses of a comprehension. -/
def clauses (bound : Nat) (sub : Reader) : Parser Unit := do
  clause bound sub
  iterate (fun _ => do
    if ← atClause then
      clause bound sub
      return some ()
    else return none) bound ()

/-! ## Brackets -/

/-- What stands between round brackets: a tuple, a group, or a comprehension. -/
def roundTail (bound : Nat) (sub : Reader) : Parser Expr := do
  if ← accept ")" then return .tuple []
  else if ← at? "yield" then
    let e ← yieldExpression bound sub
    expect ")"
    return e
  else
    let starred ← at? "*"
    let first ← starNamed sub
    if ← at? "," then
      let (more, _) ← commaTail startsItem (starNamed sub) bound
      expect ")"
      return .tuple (first :: more)
    else
      require !starred
      if ← atClause then
        clauses bound sub
        expect ")"
        return .other
      else
        expect ")"
        return first

/-- What stands between square brackets: a list or a comprehension. -/
def squareTail (bound : Nat) (sub : Reader) : Parser Expr := do
  if ← accept "]" then return .list []
  else
    let starred ← at? "*"
    let first ← starNamed sub
    if ← atClause then
      require !starred
      clauses bound sub
      expect "]"
      return .other
    else
      let (more, _) ← commaTail startsItem (starNamed sub) bound
      expect "]"
      return .list (first :: more)

/-- A key and its value. -/
def keyValue (sub : Reader) : Parser Unit := do
  let _ ← sub .expression
  expect ":"
  let _ ← sub .expression

/-- An entry of a dictionary. -/
def entry (sub : Reader) : Parser Unit := do
  if ← accept "**" then
    let _ ← sub .sum
  else keyValue sub

/-- Whether an entry of a dictionary starts here. -/
def startsEntry : Parser Bool := do
  if ← at? "**" then return true
  else if ← at? "*" then return false
  else startsItem

/-- The rest of a dictionary after an entry. -/
def entriesTail (bound : Nat) (sub : Reader) : Parser Expr := do
  let _ ← commaTail startsEntry (entry sub) bound
  expect "\x7d"
  return .other

/-- The rest of a set after an item. -/
def itemsTail (bound : Nat) (sub : Reader) : Parser Expr := do
  let _ ← commaTail startsItem (starNamed sub) bound
  expect "\x7d"
  return .other

/-- A comprehension up to its bracket. -/
def comprehensionTail (bound : Nat) (sub : Reader) : Parser Expr := do
  clauses bound sub
  expect "\x7d"
  return .other

/-- What stands between braces: a dictionary, a set, or a comprehension of either. -/
def braceTail (bound : Nat) (sub : Reader) : Parser Expr := do
  if ← accept "\x7d" then return .other
  else if ← at? "**" then
    entry sub
    entriesTail bound sub
  else if ← at? "*" then
    let _ ← starNamed sub
    itemsTail bound sub
  else
    match ← named? sub with
    | some _ => if ← atClause then comprehensionTail bound sub else itemsTail bound sub
    | none =>
      let _ ← sub .expression
      if ← accept ":" then
        let _ ← sub .expression
        if ← atClause then comprehensionTail bound sub else entriesTail bound sub
      else if ← atClause then comprehensionTail bound sub
      else itemsTail bound sub

/-! ## Operands -/

/-- The reserved words and signs that are values. -/
def constants : List String := ["None", "True", "False", "..."]

/-- An operand without anything attached. -/
def atom (bound : Nat) (sub : Reader) : Parser Expr := do
  match ← peek with
  | some (.name _ id) =>
    advance
    return .name id.text
  | some (.number _) =>
    advance
    return .other
  | some (.literal _) =>
    literalRun bound
    return .other
  | some (.fixed "(") =>
    advance
    roundTail bound sub
  | some (.fixed "[") =>
    advance
    squareTail bound sub
  | some (.fixed "\x7b") =>
    advance
    braceTail bound sub
  | some (.fixed s) =>
    require (constants.contains s)
    advance
    return .other
  | _ => refuse

/-! ## Arguments and items -/

/-- How far a list of arguments has come: plain ones and ones with a star come first, from the first
one with a name on no plain one may come, and from the first with two stars on no starred one. -/
inductive ArgumentStage where
  | plain
  | named
  | mapped
  deriving DecidableEq, Repr

/-- The arguments of a call so far, and how far it has come. -/
structure Arguments where
  stage : ArgumentStage
  positional : List Expr

/-- One argument. -/
def argument (sub : Reader) (args : Arguments) : Parser Arguments := do
  if ← accept "**" then
    let _ ← sub .expression
    return { args with stage := .mapped }
  else if ← accept "*" then
    require (args.stage ≠ .mapped)
    let e ← sub .expression
    return { args with positional := args.positional ++ [.starred e] }
  else if ← atNameThen "=" then
    advance
    advance
    let _ ← sub .expression
    return { args with stage := if args.stage = .mapped then .mapped else .named }
  else
    require (args.stage = .plain)
    let e ← namedExpression sub
    return { args with positional := args.positional ++ [e] }

/-- The arguments after the first one, up to the bracket. -/
def argumentsTail (bound : Nat) (sub : Reader) (args : Arguments) : Parser (List Expr) := do
  let args ← iterate (fun args => do
    if ← accept "," then
      if ← at? ")" then return none
      else return some (← argument sub args)
    else return none) bound args
  expect ")"
  return args.positional

/-- Arguments after their opening bracket; those that have neither a name nor two stars. -/
def arguments (bound : Nat) (sub : Reader) : Parser (List Expr) := do
  if ← accept ")" then return []
  else argumentsTail bound sub (← argument sub ⟨.plain, []⟩)

/-- The arguments of a call after their opening bracket: also a single comprehension. -/
def callTail (bound : Nat) (sub : Reader) : Parser Unit := do
  if ← accept ")" then return ()
  else
    let args ← argument sub ⟨.plain, []⟩
    match args.stage, args.positional with
    | .plain, [.starred _] =>
      let _ ← argumentsTail bound sub args
    | .plain, _ =>
      if ← atClause then
        clauses bound sub
        expect ")"
      else
        let _ ← argumentsTail bound sub args
    | _, _ =>
      let _ ← argumentsTail bound sub args

/-- Whether a bound of a slice is left out here. -/
def atSliceGap : Parser Bool := atAny [":", ",", "]"]

/-- The bounds of a slice after its first sign. -/
def sliceTail (sub : Reader) : Parser Unit := do
  if !(← atSliceGap) then
    let _ ← sub .expression
  if ← accept ":" then
    if !(← atSliceGap) then
      let _ ← sub .expression

/-- One item between square brackets behind an operand. -/
def slice (sub : Reader) : Parser Unit := do
  if ← accept "*" then
    let _ ← sub .expression
  else if ← accept ":" then sliceTail sub
  else
    match ← named? sub with
    | some _ => return ()
    | none =>
      let _ ← sub .expression
      if ← accept ":" then sliceTail sub

/-- Whether an item between square brackets starts here. -/
def startsSlice : Parser Bool := do
  if ← at? ":" then return true
  else startsItem

/-- What is attached to an operand next: an attribute, arguments or items. -/
def trailer? (bound : Nat) (sub : Reader) (e : Expr) : Parser (Option Expr) := do
  if ← accept "." then return some (.attribute e (← name))
  else if ← accept "(" then
    callTail bound sub
    return some (.call e)
  else if ← accept "[" then
    let _ ← commaList bound startsSlice (slice sub)
    expect "]"
    return some (.item e)
  else return none

/-- An operand with what is attached to it. -/
def primary (bound : Nat) (sub : Reader) : Parser Expr := do
  iterate (trailer? bound sub) bound (← atom bound sub)

/-! ## Operators -/

/-- The signs in front of an operand. -/
def frontSigns : List String := ["-", "+", "~"]

/-- The signs between operands that are no comparisons. -/
def joiningSigns : List String :=
  ["+", "-", "*", "/", "//", "%", "@", "**", "<<", ">>", "&", "|", "^"]

/-- The comparisons of one word. -/
def comparisonSigns : List String := ["==", "!=", "<", ">", "<=", ">=", "in"]

/-- Drops all words of a kind that are next, and tells whether there were any. -/
def dropAll (bound : Nat) (words : List String) : Parser Bool :=
  iterate (fun _ => do if ← acceptAny words then return some true else return none) bound false

/-- An operand that may wait for its value and may have signs in front. -/
def signed (bound : Nat) (sub : Reader) : Parser Expr := do
  let signs ← dropAll bound frontSigns
  let waits ← accept "await"
  let e ← primary bound sub
  return if signs || waits then .other else e

/-- Operands joined by arithmetic signs. -/
def sum (bound : Nat) (sub : Reader) : Parser Expr := do
  let first ← signed bound sub
  iterate (fun _ => do
    if ← acceptAny joiningSigns then
      let _ ← signed bound sub
      return some .other
    else return none) bound first

/-- Drops a comparison if one is next, and tells whether it was. -/
def acceptComparison : Parser Bool := do
  if ← acceptAny comparisonSigns then return true
  else if ← accept "not" then
    expect "in"
    return true
  else if ← accept "is" then
    let _ ← accept "not"
    return true
  else return false

/-- Sums joined by comparisons, with negations in front. -/
def comparison (bound : Nat) (sub : Reader) : Parser Expr := do
  let negated ← dropAll bound ["not"]
  let first ← sum bound sub
  let e ← iterate (fun _ => do
    if ← acceptComparison then
      let _ ← sum bound sub
      return some .other
    else return none) bound first
  return if negated then .other else e

/-- Comparisons joined by and and or. -/
def disjunction (bound : Nat) (sub : Reader) : Parser Expr := do
  let first ← comparison bound sub
  iterate (fun _ => do
    if ← acceptAny ["and", "or"] then
      let _ ← comparison bound sub
      return some .other
    else return none) bound first

/-! ## Parameters -/

/-- The parameters so far that can be given by place, whether the last one has a default, and whether
a slash has come. -/
structure ParameterStage where
  names : List String
  defaults : Bool
  positionalOnly : Bool

/-- Whether a list of parameters ends or goes on after a comma. -/
def parameterEnd (close : String) : Parser Unit := do
  if !(← accept ",") then require (← at? close)

/-- The parameters after a star, each to be given by name; `needed` tells that one must follow. -/
def namedParameters (typeHint default : Parser Unit) (close : String) (bound : Nat)
    (needed : Bool) : Parser Unit := do
  let needed ← iterate (fun _ => do
    match ← peek with
    | some (.name _ _) =>
      advance
      typeHint
      default
      parameterEnd close
      return some false
    | _ => return none) bound needed
  require !needed
  if ← accept "**" then
    let _ ← name
    typeHint
    parameterEnd close

/-- The parameters from a star on. -/
def starParameters (typeHint starTypeHint default : Parser Unit) (close : String)
    (bound : Nat) : Parser Unit := do
  if ← accept "*" then
    if ← accept "," then namedParameters typeHint default close bound true
    else
      let _ ← name
      starTypeHint
      parameterEnd close
      namedParameters typeHint default close bound false
  else namedParameters typeHint default close bound false

/-- One parameter that can be given by place, or the slash behind those that can be given only so. -/
def placeParameter? (typeHint default : Parser Unit) (close : String) (s : ParameterStage) :
    Parser (Option ParameterStage) := do
  if ← accept "/" then
    require (!s.names.isEmpty && !s.positionalOnly)
    parameterEnd close
    return some { s with positionalOnly := true }
  else
    match ← peek with
    | some (.name _ id) =>
      advance
      typeHint
      let given ← at? "="
      require (given || !s.defaults)
      default
      parameterEnd close
      return some { s with names := s.names ++ [id.text], defaults := given }
    | _ => return none

/-- Parameters up to the sign that closes them: the names of those that can be given by place. -/
def parameters (typeHint starTypeHint default : Parser Unit) (close : String) (bound : Nat) :
    Parser (List String) := do
  let s ← iterate (placeParameter? typeHint default close) bound ⟨[], false, false⟩
  if ← atAny ["*", "**"] then starParameters typeHint starTypeHint default close bound
  expect close
  return s.names

/-- A default, if there is one. -/
def defaultValue (sub : Reader) : Parser Unit := do
  if ← accept "=" then
    let _ ← sub .expression

/-- A function without a name. -/
def lambda (bound : Nat) (sub : Reader) : Parser Expr := do
  expect "lambda"
  let _ ← parameters (pure ()) (pure ()) (defaultValue sub) ":" bound
  let _ ← sub .expression
  return .other

/-! ## Expressions -/

/-- Anything without a comma: a function without a name, or a disjunction, perhaps chosen by a
condition. -/
def expression (bound : Nat) (sub : Reader) : Parser Expr := do
  if ← at? "lambda" then lambda bound sub
  else
    let e ← disjunction bound sub
    if ← accept "if" then
      let _ ← disjunction bound sub
      expect "else"
      let _ ← sub .expression
      return .other
    else return e

/-- The reader of each level; `sub` reads what lies deeper. -/
def level (bound : Nat) (sub : Reader) : Reader
  | .expression => expression bound sub
  | .disjunction => disjunction bound sub
  | .sum => sum bound sub
  | .primary => primary bound sub

/-- Reads an expression of a level. Every step deeper takes a token first, so that a bound above the
number of tokens is enough. -/
def expressions : (bound : Nat) → Reader
  | 0 => fun _ => refuse
  | bound + 1 => level (bound + 1) (expressions bound)

end Roster.Source
