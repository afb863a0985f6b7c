import Roster.Arguments
import Roster.Rendering

/-! # Requests

What a user asks for on the command line: to generate companions, or to list them. Options that both
commands know may stand before the command or after it; the ones after it count.

* `Request.read` reads arguments.
-/

namespace Roster

/-! ## What the program takes -/

/-- What an option is about. -/
inductive RequestKey where
  | help
  | verbose
  | logFile
  | output
  | language
  | option
  | workers
  | dryRun
  deriving DecidableEq, Repr

namespace RequestKey

/-- The options of the program and of both commands. -/
def shared : List (OptionShape RequestKey) := [
  ⟨["-h", "--help"], .help, .help, "show this help message and exit"⟩,
  ⟨["-v", "--verbose"], .verbose, .nothing, "Increase log verbosity for troubleshooting."⟩,
  ⟨["--log-file"], .logFile, .text, "Also write log records, with timestamps, to this file."⟩]

/-- The options of the command that generates. -/
def generating : List (OptionShape RequestKey) := [
  ⟨["-o", "--output"], .output, .text,
    "Output root for generated files (overrides .fielder.yml)."⟩,
  ⟨["--language"], .language, .oneOf Language.allNames,
    "Target language of the generated fielders."⟩,
  ⟨["-A", "--option"], .option, .text, "Processor option, e.g. -A fielder.debuggable=false."⟩,
  ⟨["--workers"], .workers, .number, "Number of worker threads for field collection."⟩,
  ⟨["--dry-run"], .dryRun, .nothing,
    "List the files that would be written without writing them."⟩]

end RequestKey

/-- The name of the program. -/
def programName : String := "fielder"

/-- The command that generates companions. -/
def generateName : String := "generate"

/-- The command that lists companions. -/
def listName : String := "list"

/-- What the program takes. -/
def programShape : ArgumentShape RequestKey where
  program := programName
  options := RequestKey.shared
  positional := .command "command" [generateName, listName]

/-- What a command takes. -/
def commandShape (command : String) : ArgumentShape RequestKey where
  program := programName ++ " " ++ command
  options := RequestKey.shared ++ if command = generateName then RequestKey.generating else []
  positional := .optional

/-! ## Requests -/

/-- What the command line says beside the settings file. Two dashes in the place of a value leave a
number of workers or an option without one. -/
structure Overrides where
  output : Option String
  language : Option String
  workers : Option (Option Int)
  options : List (Option String)
  deriving DecidableEq, Repr

/-- What to do. -/
inductive Command where
  | generate (overrides : Overrides) (dryRun : Bool)
  | list
  deriving DecidableEq, Repr

/-- What a user asks for. -/
structure Request where
  verbose : Bool
  logFile : Option String
  path : String
  command : Command
  deriving DecidableEq, Repr

/-- Why arguments are no request, and the program or command that says so. -/
structure RequestFault where
  shape : ArgumentShape RequestKey
  fault : ArgumentFault

namespace Request

/-- What the command line says beside the settings file. -/
def overridesOf (r : ArgumentShape.Reading RequestKey) : Overrides where
  output := r.last? .output
  language := r.last? .language
  workers := (r.all .workers).getLast?.map fun value => value.bind Text.integer?
  options := r.all .option

/-- The file to log to. One given after the command counts, even if it is empty. -/
def logFileOf (program command : ArgumentShape.Reading RequestKey) : Option String :=
  if command.has .logFile then command.last? .logFile else program.last? .logFile

/-- Reads arguments. -/
def read (args : List String) : Except RequestFault Request := do
  let program ← (programShape.read args).mapError (⟨programShape, ·⟩)
  let (name, rest) := match program.taken with
    | some (name :: rest) => (name, rest)
    | _ => ("", [])
  let shape := commandShape name
  let command ← (shape.read rest).mapError (⟨shape, ·⟩)
  match program.extras ++ command.extras with
  | [] => .ok {
      verbose := program.has .verbose || command.has .verbose
      logFile := logFileOf program command
      path := match command.taken with
        | some (path :: _) => path
        | _ => "."
      command := if name = generateName then
          .generate (overridesOf command) (command.has .dryRun)
        else .list }
  | extras => .error ⟨programShape, .unrecognized extras⟩

end Request
end Roster
