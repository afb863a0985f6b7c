import Roster.Text.Numeral
import Roster.Text.Quoted
import Roster.Path

/-! # Command-line arguments

Options stand anywhere among the other arguments. A long option may be cut short as long as only one
option is meant, short flags may share a dash, and a value follows its option, is joined to it by an
equal sign, or follows its letter directly. After two dashes nothing is an option.

* `ArgumentShape.read` sorts arguments into option values, what the positional argument takes, and
  the rest.
* `ArgumentFault.message` is the wording of what can be wrong.
-/

namespace Roster

/-! ## Shapes -/

/-- What an option takes. The one that asks for help takes nothing either. -/
inductive OptionTakes where
  | help
  | nothing
  | text
  | number
  | oneOf (choices : List String)
  deriving DecidableEq, Repr

/-- Whether a value belongs to the option. -/
def OptionTakes.takesValue : OptionTakes → Bool
  | .help | .nothing => false
  | _ => true

/-- An option: its spellings, the key that its value is kept under, what it takes, and what it is
for. -/
structure OptionShape (κ : Type) where
  spellings : List String
  key : κ
  takes : OptionTakes
  purpose : String

/-- What stands beside the options: perhaps one argument, or a command with all that follows it. -/
inductive PositionalShape where
  | optional
  | command (name : String) (choices : List String)
  deriving DecidableEq, Repr

/-- What a program takes. -/
structure ArgumentShape (κ : Type) where
  program : String
  options : List (OptionShape κ)
  positional : PositionalShape

/-! ## Faults -/

/-- Why arguments are not read to their end: they ask for help, or something is wrong. -/
inductive ArgumentFault where
  | helpAsked
  | ambiguous (written : String) (candidates : List String)
  | missingValue (option : String)
  | unusedValue (option value : String)
  | notNumber (option value : String)
  | notChoice (argument value : String) (choices : List String)
  | missing (argument : String)
  | unrecognized (arguments : List String)
  deriving DecidableEq, Repr

namespace ArgumentFault

/-- The wording about one argument. -/
def about (argument detail : String) : String := "argument " ++ argument ++ ": " ++ detail

/-- The wording of a fault. -/
def message : ArgumentFault → String
  | .helpAsked => "help"
  | .ambiguous written candidates => "ambiguous option: " ++ written ++ " could match "
    ++ String.intercalate ", " candidates
  | .missingValue option => about option "expected one argument"
  | .unusedValue option value => about option ("ignored explicit argument " ++ Text.quoted value)
  | .notNumber option value => about option ("invalid int value: " ++ Text.quoted value)
  | .notChoice argument value choices => about argument ("invalid choice: " ++ Text.quoted value
    ++ " (choose from " ++ String.intercalate ", " (choices.map Text.quoted) ++ ")")
  | .missing argument => "the following arguments are required: " ++ argument
  | .unrecognized arguments => "unrecognized arguments: " ++ String.intercalate " " arguments

end ArgumentFault

/-! ## Marks -/

/-- The mark of an argument: an option with its shape, its spelling and a joined value, the two
dashes, or any other word. -/
inductive ArgumentMark (κ : Type) where
  | word
  | divider
  | option (shape : Option (OptionShape κ)) (spelling : String) (value : Option String)

namespace ArgumentMark

/-- Whether a mark is an option's. -/
def isOption {κ : Type} : ArgumentMark κ → Bool
  | .option _ _ _ => true
  | _ => false

end ArgumentMark

/-- The two dashes. -/
def dividerText : String := "--"

/-- Whether a text is a negative number in digits of any script, perhaps with a point. -/
def isNegativeNumber (arg : String) : Bool :=
  let isDigit := fun c => (Text.decimalDigit? c).isSome
  match arg.toList with
  | '-' :: rest =>
    let whole := rest.takeWhile isDigit
    let rest := rest.dropWhile isDigit
    let ends := fun cs => cs = [] || cs = ['\n']
    match rest with
    | '.' :: fraction => fraction.head?.any isDigit && ends (fraction.dropWhile isDigit)
    | rest => !whole.isEmpty && ends rest
  | _ => false

namespace ArgumentShape

variable {κ : Type}

/-- All spellings of options, each with its option. -/
def spellings (shape : ArgumentShape κ) : List (String × OptionShape κ) :=
  shape.options.flatMap fun o => o.spellings.map fun s => (s, o)

/-- The option of a full spelling. -/
def option? (shape : ArgumentShape κ) (spelling : String) : Option (OptionShape κ) :=
  shape.spellings.lookup spelling

/-- A text up to its first equal sign, and the text after it. -/
def splitEqual (arg : String) : String × Option String :=
  let before := arg.toList.takeWhile (· ≠ '=')
  match arg.toList.drop before.length with
  | [] => (arg, none)
  | _ :: value => (String.ofList before, some (String.ofList value))

/-- The options that a shortened long spelling may mean. -/
def longCandidates (shape : ArgumentShape κ) (arg : String) : List (String × ArgumentMark κ) :=
  let (start, value) := splitEqual arg
  (shape.spellings.filter fun e => e.1.startsWith start).map fun e =>
    (e.1, .option (some e.2) e.1 value)

/-- The options that an argument with one dash may mean: a letter with its value behind it, or a
spelling that it starts. -/
def shortCandidates (shape : ArgumentShape κ) (arg : String) : List (String × ArgumentMark κ) :=
  let letter := String.ofList (arg.toList.take 2)
  let value := String.ofList (arg.toList.drop 2)
  shape.spellings.filterMap fun e =>
    if e.1 = letter then some (e.1, .option (some e.2) e.1 (some value))
    else if e.1.startsWith arg then some (e.1, .option (some e.2) e.1 none)
    else none

/-- The options that an argument may mean. -/
def candidates (shape : ArgumentShape κ) (arg : String) : List (String × ArgumentMark κ) :=
  if arg.startsWith dividerText then shape.longCandidates arg else shape.shortCandidates arg

/-- The mark of an argument in full spelling, perhaps with a joined value. -/
def exactMark? (shape : ArgumentShape κ) (arg : String) : Option (ArgumentMark κ) :=
  match shape.option? arg with
  | some o => some (.option (some o) arg none)
  | none =>
    match splitEqual arg with
    | (spelling, some value) =>
      (shape.option? spelling).map fun o => .option (some o) spelling (some value)
    | (_, none) => none

/-- The mark of an argument before any two dashes. -/
def markOf (shape : ArgumentShape κ) (arg : String) : Except ArgumentFault (ArgumentMark κ) :=
  if !arg.startsWith "-" || arg.length = 1 then .ok .word
  else
    match shape.exactMark? arg with
    | some mark => .ok mark
    | none =>
      match shape.candidates arg with
      | [(_, mark)] => .ok mark
      | [] =>
        if isNegativeNumber arg || arg.contains ' ' then .ok .word
        else .ok (.option none arg none)
      | several => .error (.ambiguous arg (several.map (·.1)))

/-- The marks of arguments; after two dashes all are words. -/
def marks (shape : ArgumentShape κ) :
    List String → Except ArgumentFault (List (String × ArgumentMark κ))
  | [] => .ok []
  | arg :: rest =>
    if arg = dividerText then .ok ((arg, .divider) :: rest.map fun a => (a, .word))
    else do
      let mark ← shape.markOf arg
      .ok ((arg, mark) :: (← shape.marks rest))

/-! ## Reading -/

/-- What was read: options with their values in order, what the positional argument took, and what is
left over. -/
structure Reading (κ : Type) where
  values : List (κ × Option String)
  taken : Option (List String)
  extras : List String

/-- The options found at one place, and what follows them. -/
abbrev Found (κ : Type) := List (OptionShape κ × Option String) × List (String × ArgumentMark κ)

/-- The name of an option in messages. -/
def optionName (o : OptionShape κ) : String := String.intercalate "/" o.spellings

/-- Checks what an option is given. Two dashes as a value stand for none. -/
def checkValue (o : OptionShape κ) (value : Option String) :
    Except ArgumentFault (κ × Option String) :=
  match o.takes, value.filter (· ≠ dividerText) with
  | .help, _ => .error .helpAsked
  | .number, some value =>
    if (Text.integer? value).isSome then .ok (o.key, some value)
    else .error (.notNumber (optionName o) value)
  | .oneOf choices, some value =>
    if choices.contains value then .ok (o.key, some value)
    else .error (.notChoice (optionName o) value choices)
  | _, value => .ok (o.key, value)

/-- Reads an option without a joined value: if it takes one, the next word is it. -/
def takeNext (o : OptionShape κ) (rest : List (String × ArgumentMark κ)) :
    Except ArgumentFault (Found κ) :=
  if !o.takes.takesValue then .ok ([(o, none)], rest)
  else
    match rest with
    | (arg, .word) :: rest => .ok ([(o, some arg)], rest)
    | _ => .error (.missingValue (optionName o))

/-- Reads an option with a joined value. If a letter takes none, the value holds further letters, the
last of which may have a value. -/
def takeJoined (shape : ArgumentShape κ) (rest : List (String × ArgumentMark κ))
    (o : OptionShape κ) (short : Bool) : List Char → Except ArgumentFault (Found κ)
  | [] =>
    if o.takes.takesValue then .ok ([(o, some "")], rest)
    else .error (.unusedValue (optionName o) "")
  | letter :: more =>
    let value := String.ofList (letter :: more)
    if o.takes.takesValue then .ok ([(o, some value)], rest)
    else
      match (if short then shape.option? (String.ofList ['-', letter]) else none) with
      | none => .error (.unusedValue (optionName o) value)
      | some next =>
        let found := if more.isEmpty then takeNext next rest
          else takeJoined shape rest next true more
        found.map fun (found, rest) => ((o, none) :: found, rest)

/-- Whether a marked argument is the two dashes. -/
def isDivider (e : String × ArgumentMark κ) : Bool :=
  match e.2 with
  | .divider => true
  | _ => false

/-- Lets the positional argument take what it can from here, unless it has. -/
def takePositional (shape : ArgumentShape κ) (r : Reading κ)
    (rest : List (String × ArgumentMark κ)) : Reading κ × List (String × ArgumentMark κ) :=
  let after := rest.dropWhile isDivider
  match r.taken, shape.positional, after with
  | some _, _, _ => (r, rest)
  | none, .command _ _, (_, .word) :: _ => ({ r with taken := some (rest.map (·.1)) }, [])
  | none, .command _ _, _ => (r, rest)
  | none, .optional, (arg, .word) :: more =>
    ({ r with taken := some [arg] }, more.dropWhile isDivider)
  | none, .optional, _ => ({ r with taken := some [] }, after)

/-- Reads marked arguments from a place on; `fuel` bounds the number of steps. -/
def readFrom (shape : ArgumentShape κ) : (fuel : Nat) → Reading κ →
    List (String × ArgumentMark κ) → Except ArgumentFault (Reading κ)
  | 0, r, _ => .ok r
  | fuel + 1, r, rest =>
    if !rest.any (·.2.isOption) then
      let (r, rest) := shape.takePositional r rest
      .ok { r with extras := r.extras ++ rest.map (·.1) }
    else
      match rest with
      | (arg, .option none _ _) :: more =>
        shape.readFrom fuel { r with extras := r.extras ++ [arg] } more
      | (_, .option (some o) spelling value) :: more => do
        let (found, more) ← match value with
          | none => takeNext o more
          | some value =>
            shape.takeJoined more o (!spelling.startsWith dividerText) value.toList
        let values ← found.mapM fun (o, value) => checkValue o value
        shape.readFrom fuel { r with values := r.values ++ values } more
      | rest =>
        let (r, more) := shape.takePositional r rest
        if more.length < rest.length then shape.readFrom fuel r more
        else
          let skipped := rest.takeWhile (!·.2.isOption)
          shape.readFrom fuel { r with extras := r.extras ++ skipped.map (·.1) }
            (rest.drop skipped.length)

/-- Reads arguments. A command has to be there and to be one of the choices. -/
def read (shape : ArgumentShape κ) (args : List String) : Except ArgumentFault (Reading κ) := do
  let marked ← shape.marks args
  let r ← shape.readFrom (2 * marked.length + 1) ⟨[], none, []⟩ marked
  match shape.positional, r.taken with
  | .command name _, none => .error (.missing name)
  | .command name choices, some (chosen :: _) =>
    if choices.contains chosen then .ok r else .error (.notChoice name chosen choices)
  | _, _ => .ok r

/-! ## Help -/

/-- What a program takes, in words. -/
def help (shape : ArgumentShape κ) : String :=
  let takesWhat := match shape.positional with
    | .optional => "[path]"
    | .command _ choices => "\x7b" ++ String.intercalate "," choices ++ "\x7d ..."
  let options := shape.options.map fun o =>
    "  " ++ String.intercalate ", " o.spellings ++ "  " ++ o.purpose ++ "\n"
  "usage: " ++ shape.program ++ " [options] " ++ takesWhat ++ "\n\noptions:\n" ++ String.join options

end ArgumentShape

namespace ArgumentShape.Reading

variable {κ : Type} [DecidableEq κ]

/-- Whether an option was given. -/
def has (r : Reading κ) (key : κ) : Bool := r.values.any (·.1 = key)

/-- All values given under a key, in order. -/
def all (r : Reading κ) (key : κ) : List (Option String) :=
  (r.values.filter (·.1 = key)).map (·.2)

/-- The value given last under a key; an empty one counts as none. -/
def last? (r : Reading κ) (key : κ) : Option String :=
  ((r.all key).getLast?.bind id).filter (· ≠ "")

end ArgumentShape.Reading
end Roster
