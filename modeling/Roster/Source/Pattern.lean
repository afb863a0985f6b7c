import Roster.Source.Parser

/-! # Reading patterns

The patterns of a match statement: literals, names, dotted values, groups, sequences, mappings and
classes, joined by bars and bound by a name. A pattern leaves no trace in the tree.
-/

namespace Roster.Source

open Roster.Source.Parser

/-- The name that matches anything. -/
def wildcard : String := "_"

/-- Reads a name that a pattern binds. -/
def captureName : Parser Unit := do
  require !(← atWritten wildcard)
  let _ ← name
  require !(← atAny [".", "(", "="])

/-- Reads a number with an optional sign; whether it is imaginary. -/
def signedNumber : Parser Bool := do
  let _ ← accept "-"
  match ← peek with
  | some (.number imaginary) =>
    advance
    return imaginary
  | _ => refuse

/-- Reads a number: with a sign in front, or a real and an imaginary part. -/
def numberPattern : Parser Unit := do
  let imaginary ← signedNumber
  if ← acceptAny ["+", "-"] then
    require !imaginary
    match ← peek with
    | some (.number part) =>
      require part
      advance
    | _ => refuse

/-- Reads a literal if one is next, and tells whether it was. -/
def literalPattern (bound : Nat) : Parser Bool := do
  match ← peek with
  | some (.literal _) =>
    literalRun bound
    return true
  | some (.number _) =>
    numberPattern
    return true
  | some (.fixed "-") =>
    numberPattern
    return true
  | _ => acceptAny ["None", "True", "False"]

/-- Reads names with dots between; whether there was a dot. -/
def dottedValue (bound : Nat) : Parser Bool := do
  let _ ← name
  iterate (fun _ => do
    if ← accept "." then
      let _ ← name
      return some true
    else return none) bound false

/-- Reads an item of a sequence: a pattern, or a star and the name that gets the rest; whether it
had a star. -/
def sequenceItem (pattern : Parser Unit) : Parser Bool := do
  if ← accept "*" then
    if ← atWritten wildcard then
      advance
    else captureName
    return true
  else
    pattern
    return false

/-- Whether a list of patterns ends here. -/
def startsPattern (close : String) : Parser Bool := do return !(← at? close)

/-- The rest of a sequence up to its bracket. -/
def sequenceTail (bound : Nat) (pattern : Parser Unit) (close : String) : Parser Unit := do
  let _ ← commaTail (startsPattern close) (sequenceItem pattern) bound
  expect close

/-- What stands between round brackets: a group or a sequence. -/
def roundPattern (bound : Nat) (pattern : Parser Unit) : Parser Unit := do
  if ← accept ")" then return ()
  else
    let starred ← sequenceItem pattern
    if ← at? "," then sequenceTail bound pattern ")"
    else
      require !starred
      expect ")"

/-- What stands between square brackets. -/
def squarePattern (bound : Nat) (pattern : Parser Unit) : Parser Unit := do
  if ← accept "]" then return ()
  else
    let _ ← sequenceItem pattern
    sequenceTail bound pattern "]"

/-- An entry of a mapping: a key and its pattern, or the name that gets the rest; whether it was the
latter. -/
def mappingEntry (bound : Nat) (pattern : Parser Unit) : Parser Bool := do
  if ← accept "**" then
    captureName
    return true
  else
    if !(← literalPattern bound) then
      require (← dottedValue bound)
    expect ":"
    pattern
    return false

/-- What stands between braces; nothing may follow the name that gets the rest. -/
def bracePattern (bound : Nat) (pattern : Parser Unit) : Parser Unit := do
  if ← accept "\x7d" then return ()
  else
    let last ← mappingEntry bound pattern
    let _ ← iterate (fun last => do
      if ← accept "," then
        if ← at? "\x7d" then return none
        else
          require !last
          return some (← mappingEntry bound pattern)
      else return none) bound last
    expect "\x7d"

/-- An argument of a class pattern, told whether it has a name. `before` tells the same of the
argument in front of it: behind one with a name all have names, and behind one without the wildcard
is never a name. -/
def classArgument (pattern : Parser Unit) (before : Option Bool) : Parser Bool := do
  if (← atNameThen "=") && !(before = some false && (← atWritten wildcard)) then
    advance
    advance
    pattern
    return true
  else
    require (before ≠ some true)
    pattern
    return false

/-- The arguments of a class pattern after their bracket. -/
def classArguments (bound : Nat) (pattern : Parser Unit) : Parser Unit := do
  if ← accept ")" then return ()
  else
    let named ← classArgument pattern none
    let _ ← iterate (fun named => do
      if ← accept "," then
        if ← at? ")" then return none
        else return some (← classArgument pattern (some named))
      else return none) bound named
    expect ")"

/-- A pattern that starts with a name: a binding, a dotted value or a class. -/
def namePattern (bound : Nat) (pattern : Parser Unit) : Parser Unit := do
  if ← atWritten wildcard then
    advance
  else
    let dotted ← dottedValue bound
    if ← accept "(" then classArguments bound pattern
    else
      require !(← at? "=")
      require (dotted || !(← at? "."))

/-- A pattern without bars. -/
def closedPattern (bound : Nat) (pattern : Parser Unit) : Parser Unit := do
  if ← accept "(" then roundPattern bound pattern
  else if ← accept "[" then squarePattern bound pattern
  else if ← accept "\x7b" then bracePattern bound pattern
  else
    match ← peek with
    | some (.name _ _) => namePattern bound pattern
    | _ => require (← literalPattern bound)

/-- Patterns with bars between, and the name that they bind. -/
def alternatives (bound : Nat) (pattern : Parser Unit) : Parser Unit := do
  closedPattern bound pattern
  iterate (fun _ => do
    if ← accept "|" then
      closedPattern bound pattern
      return some ()
    else return none) bound ()
  if ← accept "as" then captureName

/-- Reads a pattern; a bound above the number of tokens is enough. -/
def pattern : (bound : Nat) → Parser Unit
  | 0 => refuse
  | bound + 1 => alternatives (bound + 1) (pattern bound)

/-- The patterns of a case: one, or a sequence without brackets. -/
def casePatterns (bound : Nat) : Parser Unit := do
  let starred ← sequenceItem (pattern bound)
  if ← at? "," then
    let _ ← commaTail (do return !(← atAny [":", "if"])) (sequenceItem (pattern bound)) bound
  else require !starred

end Roster.Source
