import Roster.LogSinks
import Roster.Request
import Roster.Round

/-! # The command line

A request is carried out in a tree of files: sinks for records are set up, the settings are read and
what the arguments say is put in their place, and a round runs. The exit status is 2 for arguments and
configurations that cannot be used, 1 for a round with errors, and else 0. Lines are shown one after the
other; a console that cannot show all characters ends the call at the first line that has another one.

* `CommandLine.run` is one call of the program.
-/

namespace Roster.CommandLine

/-! ## Outcomes -/

/-- How a call ends. -/
structure Ending where
  status : Nat
  output : String
  complaints : String
  deriving DecidableEq, Repr

/-- Why a call breaks down without an exit status of its own. -/
inductive Breakdown where
  | input (fault : InputFault)
  | workersWithoutValue
  | optionWithoutValue
  /-- A line cannot be shown. What was shown before stays, as do the complaints. -/
  | unprintable (output complaints : String) (fault : Text.EncodeFault)
  deriving DecidableEq, Repr

/-- The wording of a breakdown. -/
def Breakdown.message : Breakdown → String
  | .input fault => fault.message
  | .workersWithoutValue => "'<' not supported between instances of 'list' and 'int'"
  | .optionWithoutValue => "'list' object has no attribute 'partition'"
  | .unprintable _ _ fault => fault.message

/-- The end of a call that cannot begin its work. -/
def refusal (message : String) : Ending := ⟨2, "", programName ++ ": " ++ message ++ "\n"⟩

/-- The wording for a configuration that cannot be used. -/
def configurationError (message : String) : String := "configuration error: " ++ message

/-- The end of a call whose arguments are no request. -/
def argumentEnding (f : RequestFault) : Ending :=
  match f.fault with
  | .helpAsked => ⟨0, f.shape.help, ""⟩
  | fault => ⟨2, "", f.shape.program ++ ": error: " ++ fault.message ++ "\n"⟩

/-- Whether a fault in the settings is reported as such. The others break the call down: an unknown
home directory, scalars that do not fit their tag, and what the machine has no room for. -/
def isReported : InputFault → Bool
  | .unknownHome | .document .emptyNumber | .document (.badTruth _) | .document .badTimestamp
  | .document .hugeCharacter | .document .hugePlace | .document (.exhausted _) => false
  | _ => true

/-! ## Settings -/

/-- A path from the command line. -/
def pathOf (t : FileTree) (s : String) : Except Breakdown Path :=
  match (Path.parse s).expandHome t.home with
  | some path => .ok path
  | none => .error (.input .unknownHome)

/-- The number of workers that an override leaves. -/
def overrideWorkers (workers : Nat) : Option (Option Int) → Except Breakdown Nat
  | none => .ok workers
  | some none => .error .workersWithoutValue
  | some (some n) => if n < 1 then .error (.input (.config .workersArgument)) else .ok n.toNat

/-- Adds options from the command line. -/
def overrideOptions (options : OrderedMap String String) (pairs : List (Option String)) :
    Except Breakdown (OrderedMap String String) := do
  -- A pair before one without value is looked at first.
  let given := (pairs.takeWhile Option.isSome).filterMap id
  let added ← (parseOptions given).mapError fun fault => .input (.config fault)
  if given.length < pairs.length then .error .optionWithoutValue
  .ok (added.entries.foldl (fun options (key, value) => options.insert key value) options)

/-- Puts what the command line says in the place of what the settings say. -/
def override (t : FileTree) (s : Settings) (o : Overrides) : Except Breakdown Settings := do
  let output ← match o.output with
    | none => .ok s.output
    | some output =>
      ((t.resolve (← pathOf t output)).mapError fun fault => .input (.file fault)).map some
  let workers ← overrideWorkers s.workers o.workers
  let options ← overrideOptions s.options o.options
  .ok { s with output, language := o.language.getD s.language, workers, options }

/-- What the command line says beside the settings file. -/
def overridesOf : Command → Overrides
  | .generate overrides _ => overrides
  | .list => ⟨none, none, none, []⟩

/-- The settings that a request works with. -/
def settingsFor (t : FileTree) (r : Request) : Except Breakdown Settings := do
  let path ← pathOf t r.path
  let found ← (t.exists? path).mapError fun fault => .input (.file fault)
  if !found then .error (.input (.config (.projectNotFound r.path)))
  let settings ← (loadSettings t path).mapError .input
  override t settings (overridesOf r.command)

/-- A round that is set up with its settings. -/
structure Job where
  settings : Settings
  setup : RoundSetup
  language : Language

/-- Sets up the round of settings. -/
def jobOf (t : FileTree) (s : Settings) : Except InputFault Job := do
  let sources ← chooseSources t s [] s.discovery
  match Language.ofName? s.language with
  | some language => .ok ⟨s, ⟨sources, .standard, s.debuggable, s.workers⟩, language⟩
  | none => .error (.config (.stated (Language.unsupported s.language)))

/-- The round that a request asks for. -/
def jobFor (t : FileTree) (r : Request) : Except Breakdown Job := do
  let settings ← settingsFor t r
  (jobOf t settings).mapError .input

/-! ## Reports -/

/-- A path as it is shown: below the working directory without what leads there. -/
def shownPath (t : FileTree) (p : Path) : String :=
  match p.relativeTo? ⟨.slash, t.current⟩ with
  | some parts => (Path.mk .relative parts).text
  | none => p.text

/-- The lines about companions that were written, or would be. -/
def writtenLines (t : FileTree) (dryRun : Bool) (r : RoundResult) : List String :=
  let verb := if dryRun then "Would write " else "Wrote "
  r.written.entries.map fun (name, path) => verb ++ name ++ " -> " ++ shownPath t path ++ "\n"

/-- The lines about companions and their fields. -/
def listLines (r : RoundResult) : List String :=
  r.artifacts.entries.map fun (type, a) =>
    r.graph.nameOf type ++ " -> " ++ a.qualifiedName ++ ": ["
      ++ String.intercalate ", " a.fieldNames.toList ++ "]\n"

/-- What is shown of lines where only the characters that it `takes` can be shown, and what is in the way
of the next line. -/
def display (takes : Char → Bool) : List String → String × Option Text.EncodeFault
  | [] => ("", none)
  | line :: rest =>
    match Text.encodeFault? (fun c => !takes c) 0 line.toList with
    | some fault => ("", some fault)
    | none =>
      let (shown, fault?) := display takes rest
      (line ++ shown, fault?)

/-- The lines about what went wrong. -/
def problemText (ds : List Diagnostic) : String :=
  String.join ((ds.filter fun d => d.severity ≠ .note).map fun d => d.text ++ "\n")

/-- The exit status of a round, and the last words: a configuration error outweighs the others. -/
def verdict (generates : Bool) (ds : List Diagnostic) : Nat × String :=
  match (errorsOf ds).find? fun d => d.code = some ConfigFault.code with
  | some d => (2, programName ++ ": " ++ configurationError d.message ++ "\n")
  | none =>
    if succeeded ds then (0, "")
    else if generates then
      (1, programName ++ " " ++ generateName ++ " failed with "
        ++ toString (errorsOf ds).length ++ " error(s).\n")
    else (1, "")

/-! ## Calls -/

/-- The round of a command: the tree after it, its result, its records and its lines. -/
def perform (t : FileTree) (job : Job) (schedule : List Nat) :
    Command → FileTree × RoundResult × Log × List String
  | .generate _ dryRun =>
    let (r, emission, log) := Round.run job.setup (sourceEmitter job.language) schedule .empty t
      ⟨job.settings.outputRoot, dryRun, false, none⟩
    (emission.state, r, log, writtenLines t dryRun r)
  | .list =>
    let (r, log) := Round.inspect job.setup schedule t .empty
    (t, r, log, listLines r)

/-- Whether a command writes companions. -/
def generates : Command → Bool
  | .generate _ _ => true
  | .list => false

/-- Carries out a request once the sinks are set up. -/
def carryOut (takes : Char → Bool) (time : String) (schedule : List Nat) (sinks : LogSinks)
    (t : FileTree) (r : Request) : FileTree × Except Breakdown Ending :=
  match jobFor t r with
  | .error (.input fault) =>
    if isReported fault then (t, .ok (refusal (configurationError fault.message)))
    else (t, .error (.input fault))
  | .error other => (t, .error other)
  | .ok job =>
    let (t, result, log, lines) := perform t job schedule r.command
    let (status, words) := verdict (generates r.command) result.diagnostics
    let console := sinks.consoleText log
    (sinks.keep time t log, match display takes lines with
      | (output, none) => .ok ⟨status, output, console ++ problemText result.diagnostics ++ words⟩
      | (output, some fault) => .error (.unprintable output console fault))

/-- One call of the program: the tree after it, and how it ends. `takes` are the characters that its
output can show, `time` is written before records in a log file, `schedule` is the order in which several
workers report. -/
def run (takes : Char → Bool) (time : String) (schedule : List Nat) (t : FileTree) (args : List String) :
    FileTree × Except Breakdown Ending :=
  match Request.read args with
  | .error fault => (t, .ok (argumentEnding fault))
  | .ok r =>
    match r.logFile.mapM (pathOf t) with
    | .error breakdown => (t, .error breakdown)
    | .ok logFile =>
      match LogSinks.configure t r.verbose logFile with
      | (t, _, .error (.unfit fault)) => (t, .error (.input (.file (.unfit fault))))
      | (t, _, .error fault) => (t, .ok (refusal ("cannot open log file: " ++ fault.message)))
      | (t, sinks, .ok ()) => carryOut takes time schedule sinks t r

end Roster.CommandLine
