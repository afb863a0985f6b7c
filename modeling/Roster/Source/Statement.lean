import Roster.Source.Expression
import Roster.Source.Pattern

/-! # Reading statements

Statements on one line with semicolons between, and statements with blocks of their own.

* `statements bound` reads statements as long as there are any; a block's are read with a smaller
  bound.
-/

namespace Roster.Source

open Roster.Source.Parser

/-- Reads the statements of a block. -/
abbrev BlockReader := Parser (List Stmt)

/-! ## Simple statements -/

/-- The signs that join an operation and an assignment. -/
def augmentingSigns : List String :=
  ["+=", "-=", "*=", "@=", "/=", "%=", "&=", "|=", "^=", "<<=", ">>=", "**=", "//="]

/-- The targets of an assignment after the first, up to the value. -/
def assignmentTail (bound : Nat) : (steps : Nat) → Parser (List Expr)
  | 0 => refuse
  | steps + 1 => do
    if ← at? "yield" then
      let _ ← yieldExpression bound (expressions bound)
      return []
    else
      let e ← starExpressions bound (expressions bound)
      if ← accept "=" then
        require (e.isTarget true)
        return e :: (← assignmentTail bound steps)
      else return []

/-- Whether the target of an annotation may be one that starts at `start`: a single target in
brackets must be the whole of it. -/
def annotatesWhole (bound : Nat) (start : List Token) : Bool :=
  if start.head?.any (·.lexeme = .fixed "(") then
    match atom bound (expressions bound) start with
    | some (e, rest) => !e.isSingleTarget || rest.head?.any (·.lexeme = .fixed ":")
    | none => false
  else true

/-- An assignment of any kind, or expressions. -/
def assignmentOrExpressions (bound : Nat) : Parser Stmt := do
  let start ← get
  let e ← starExpressions bound (expressions bound)
  if ← accept ":" then
    require (e.isSingleTarget && annotatesWhole bound start)
    let _ ← expressions bound .expression
    if ← accept "=" then
      let _ ← yieldOrExpressions bound (expressions bound)
    return .annotated e
  else if ← acceptAny augmentingSigns then
    require e.isSingleTarget
    let _ ← yieldOrExpressions bound (expressions bound)
    return .augmented e
  else if ← accept "=" then
    require (e.isTarget true)
    return .assign (e :: (← assignmentTail bound bound))
  else return .other

/-- Names with commas between. -/
def nameList (bound : Nat) : Parser Unit := do
  let _ ← name
  iterate (fun _ => do
    if ← accept "," then
      let _ ← name
      return some ()
    else return none) bound ()

/-- Names with dots between, in one text. -/
def dottedName (bound : Nat) : Parser String := do
  let first ← name
  iterate (fun text => do
    if ← accept "." then return some (text ++ "." ++ (← name))
    else return none) bound first

/-- A name with perhaps another name for it. -/
def aliased (read : Parser String) : Parser ImportedName := do
  let name ← read
  if ← accept "as" then return ⟨name, some (← Parser.name)⟩
  else return ⟨name, none⟩

/-- What an import of modules brings in. -/
def importNames (bound : Nat) : Parser Stmt := do
  let first ← aliased (dottedName bound)
  let names ← iterate (fun names => do
    if ← accept "," then return some (names ++ [← aliased (dottedName bound)])
    else return none) bound [first]
  return .importNames names

/-- How many dots stand in front of a module's name. -/
def leadingDots (bound : Nat) : Parser Nat :=
  iterate (fun count => do
    if ← accept "." then return some (count + 1)
    else if ← accept "..." then return some (count + 3)
    else return none) bound 0

/-- The name that stands for all names of a module. -/
def allNames : String := "*"

/-- What an import from a module brings in: all names, or a list that may be in brackets. Only in
brackets a comma may follow the last name. -/
def importedNames (bound : Nat) : Parser (List ImportedName) := do
  if ← accept "*" then return [⟨allNames, none⟩]
  else if ← accept "(" then
    let (names, _) ← commaList bound (do return !(← at? ")")) (aliased name)
    expect ")"
    return names
  else
    let first ← aliased name
    iterate (fun names => do
      if ← accept "," then return some (names ++ [← aliased name])
      else return none) bound [first]

/-- An import from a module. -/
def importFrom (bound : Nat) : Parser Stmt := do
  let level ← leadingDots bound
  let module ← if level > 0 && (← at? "import") then pure none
    else do pure (some (← dottedName bound))
  expect "import"
  return .importFrom level module (← importedNames bound)

/-- The targets of a deletion. -/
def deletion (bound : Nat) : Parser Unit := do
  let _ ← commaList bound startsItem (do
    let e ← expressions bound .primary
    require (e.isTarget false))

/-- A statement that has no block. -/
def simpleStatement (bound : Nat) : Parser Stmt := do
  if ← acceptAny ["pass", "break", "continue"] then return .other
  else if ← accept "return" then
    if ← startsItem then
      let _ ← starExpressions bound (expressions bound)
    return .other
  else if ← accept "import" then importNames bound
  else if ← accept "from" then importFrom bound
  else if ← accept "raise" then
    if ← startsItem then
      let _ ← expressions bound .expression
      if ← accept "from" then
        let _ ← expressions bound .expression
    return .other
  else if ← accept "del" then
    deletion bound
    return .other
  else if ← at? "yield" then
    let _ ← yieldExpression bound (expressions bound)
    return .other
  else if ← accept "assert" then
    let _ ← expressions bound .expression
    if ← accept "," then
      let _ ← expressions bound .expression
    return .other
  else if ← acceptAny ["global", "nonlocal"] then
    nameList bound
    return .other
  else assignmentOrExpressions bound

/-- The statements of a line after the first. -/
def lineTail (bound : Nat) : (steps : Nat) → Parser (List Stmt)
  | 0 => refuse
  | steps + 1 => do
    if ← accept ";" then
      if ← acceptLexeme .newline then return []
      else
        let s ← simpleStatement bound
        return s :: (← lineTail bound steps)
    else
      expectLexeme .newline
      return []

/-- The statements of a line. -/
def line (bound : Nat) : Parser (List Stmt) := do
  let s ← simpleStatement bound
  return s :: (← lineTail bound bound)

/-! ## Blocks -/

/-- A colon and what it opens: a block of lines, or the rest of the line. -/
def suite (bound : Nat) (block : BlockReader) : Parser (List Stmt) := do
  expect ":"
  if ← acceptLexeme .newline then
    expectLexeme .indent
    let body ← block
    expectLexeme .dedent
    return body
  else line bound

/-- An else with its block, if there is one. -/
def elseSuite (bound : Nat) (block : BlockReader) : Parser (List Stmt) := do
  if ← accept "else" then suite bound block
  else return []

/-- Decorators, each on a line of its own. -/
def decorators (bound : Nat) : Parser (List Expr) :=
  iterate (fun found => do
    if ← accept "@" then
      let e ← namedExpression (expressions bound)
      expectLexeme .newline
      return some (found ++ [e])
    else return none) bound []

/-- A class from its first word on. -/
def classDefinition (bound : Nat) (block : BlockReader) (decorators : List Expr) :
    Parser Stmt := do
  let line := ((← get).head?.map (·.line)).getD 0
  expect "class"
  let name ← identifier
  let bases ← if ← accept "(" then arguments bound (expressions bound) else pure []
  let body ← suite bound block
  return .classDef line name bases decorators body

/-- An annotation, if there is one. -/
def typeHint (bound : Nat) : Parser Unit := do
  if ← accept ":" then
    let _ ← expressions bound .expression

/-- An annotation that may have a star, if there is one. -/
def starTypeHint (bound : Nat) : Parser Unit := do
  if ← accept ":" then
    let _ ← starExpression (expressions bound)

/-- A function from its first word on. -/
def functionDefinition (bound : Nat) (block : BlockReader) : Parser Stmt := do
  expect "def"
  let name ← name
  expect "("
  let params ← parameters (typeHint bound) (starTypeHint bound)
    (defaultValue (expressions bound)) ")" bound
  if ← accept "->" then
    let _ ← expressions bound .expression
  let body ← suite bound block
  return .functionDef name params body

/-- The rest of a conditional after its first word. -/
def ifTail (bound : Nat) (block : BlockReader) : (steps : Nat) → Parser (List Stmt)
  | 0 => refuse
  | steps + 1 => do
    let _ ← namedExpression (expressions bound)
    let body ← suite bound block
    if ← accept "elif" then return body ++ (← ifTail bound block steps)
    else return body ++ (← elseSuite bound block)

/-- A loop with a condition, after its first word. -/
def whileTail (bound : Nat) (block : BlockReader) : Parser (List Stmt) := do
  let _ ← namedExpression (expressions bound)
  let body ← suite bound block
  return body ++ (← elseSuite bound block)

/-- A loop over items, after its first word. -/
def forTail (bound : Nat) (block : BlockReader) : Parser (List Stmt) := do
  starTargets bound (expressions bound)
  expect "in"
  let _ ← starExpressions bound (expressions bound)
  let body ← suite bound block
  return body ++ (← elseSuite bound block)

/-- What a with statement holds open, and the target that it is bound to. -/
def withItem (bound : Nat) : Parser Unit := do
  let _ ← expressions bound .expression
  if ← accept "as" then
    let _ ← starTarget (expressions bound)
    require (← atAny [",", ")", ":"])

/-- Items of a with statement in brackets, up to the colon. -/
def withItemsInBrackets (bound : Nat) : Parser Unit := do
  expect "("
  let _ ← commaList bound (do return !(← at? ")")) (withItem bound)
  expect ")"
  require (← at? ":")

/-- Items of a with statement without brackets. -/
def withItems (bound : Nat) : Parser Unit := do
  withItem bound
  iterate (fun _ => do
    if ← accept "," then
      withItem bound
      return some ()
    else return none) bound ()

/-- A with statement after its first word. Brackets around all items are tried first. -/
def withTail (bound : Nat) (block : BlockReader) : Parser (List Stmt) := do
  match ← attempt (withItemsInBrackets bound) with
  | some _ => suite bound block
  | none =>
    withItems bound
    suite bound block

/-- One except with its block; `group` tells whether a star follows the word, which needs a type. -/
def exceptBlock (bound : Nat) (block : BlockReader) (group : Bool) : Parser (List Stmt) := do
  expect "except"
  if group then expect "*"
  if group || !(← at? ":") then
    let _ ← expressions bound .expression
    if ← accept "as" then
      let _ ← name
  suite bound block

/-- The rest of a try statement after its first word. All excepts are of one kind, and without any
there must be a finally. -/
def tryTail (bound : Nat) (block : BlockReader) : Parser (List Stmt) := do
  let body ← suite bound block
  if ← accept "finally" then return body ++ (← suite bound block)
  else
    require (← at? "except")
    let group := (← peekSecond) = some (.fixed "*")
    let handled ← iterate (fun handled => do
      if ← at? "except" then return some (handled ++ (← exceptBlock bound block group))
      else return none) bound []
    let otherwise ← elseSuite bound block
    let last ← if ← accept "finally" then suite bound block else pure []
    return body ++ handled ++ otherwise ++ last

/-- The value that a match statement looks at. -/
def subject (bound : Nat) : Parser Unit := do
  let starred ← at? "*"
  let _ ← starNamed (expressions bound)
  if ← at? "," then
    let _ ← commaTail startsItem (starNamed (expressions bound)) bound
  else require !starred

/-- The first line of a match statement with the margin of its cases. -/
def matchHead (bound : Nat) : Parser Unit := do
  require (← atWritten "match")
  advance
  subject bound
  expect ":"
  expectLexeme .newline
  expectLexeme .indent

/-- One case with its block. -/
def caseBlock (bound : Nat) (block : BlockReader) : Parser (List Stmt) := do
  require (← atWritten "case")
  advance
  casePatterns bound
  if ← accept "if" then
    let _ ← namedExpression (expressions bound)
  suite bound block

/-- The cases of a match statement, at least one. -/
def caseBlocks (bound : Nat) (block : BlockReader) : Parser (List Stmt) := do
  let first ← caseBlock bound block
  let body ← iterate (fun body => do
    if ← acceptLexeme .dedent then return none
    else return some (body ++ (← caseBlock bound block))) bound first
  return body

/-- What may follow the word that makes a function, a loop or a with statement wait. -/
def asyncTail (bound : Nat) (block : BlockReader) : Parser Stmt := do
  if ← at? "def" then functionDefinition bound block
  else if ← accept "for" then return .block (← forTail bound block)
  else
    expect "with"
    return .block (← withTail bound block)

/-- A definition after its decorators. -/
def decorated (bound : Nat) (block : BlockReader) : Parser Stmt := do
  let found ← decorators bound
  if ← at? "class" then classDefinition bound block found
  else
    let _ ← accept "async"
    functionDefinition bound block

/-- A statement that has blocks, if one is next. -/
def compoundStatement? (bound : Nat) (block : BlockReader) : Parser (Option Stmt) := do
  if ← at? "@" then return some (← decorated bound block)
  else if ← at? "class" then return some (← classDefinition bound block [])
  else if ← at? "def" then return some (← functionDefinition bound block)
  else if ← accept "async" then return some (← asyncTail bound block)
  else if ← accept "if" then return some (.block (← ifTail bound block bound))
  else if ← accept "with" then return some (.block (← withTail bound block))
  else if ← accept "for" then return some (.block (← forTail bound block))
  else if ← accept "try" then return some (.block (← tryTail bound block))
  else if ← accept "while" then return some (.block (← whileTail bound block))
  else if ← atWritten "match" then
    match ← attempt (matchHead bound) with
    | some _ => return some (.block (← caseBlocks bound block))
    | none => return none
  else return none

/-- A statement with blocks, or a line of statements. -/
def statement (bound : Nat) (block : BlockReader) : Parser (List Stmt) := do
  match ← compoundStatement? bound block with
  | some s => return [s]
  | none => line bound

/-- Whether statements end here: with the block or with the text. -/
def atBlockEnd : Parser Bool := do
  if ← atLexeme .dedent then return true
  else atLexeme .finish

/-- The statements up to the end of a block or of the text; `sub` reads a block inside one. -/
def statementsFrom (bound : Nat) (sub : BlockReader) : (steps : Nat) → Parser (List Stmt)
  | 0 => refuse
  | steps + 1 => do
    if ← atBlockEnd then return []
    else
      let found ← statement bound sub
      return found ++ (← statementsFrom bound sub steps)

/-- Reads the statements of a block; a bound above the number of tokens is enough. -/
def statements : (bound : Nat) → BlockReader
  | 0 => refuse
  | bound + 1 => statementsFrom (bound + 1) (statements bound) (bound + 1)

end Roster.Source
