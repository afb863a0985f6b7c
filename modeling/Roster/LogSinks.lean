import Roster.FileTree
import Roster.Log

/-! # Log sinks

Where records go: to the console, and to a file if one was asked for. Setting up new sinks takes the
old ones away; if the file cannot be opened, the console is the only new one.

A logger reaches its sinks through handlers. They outlive a call, so each set-up takes away whatever
handlers it finds before it adds its own. A file takes only lines that can be encoded; another one is
lost to it.

* `LogSinks.configure` sets up sinks and makes the file with the directories above it.
* `Logger.configure` does so to a logger that may have been set up before.
* `LogSession.step` is one event in a sequence of set-ups and records.
-/

namespace Roster

/-- Where records go, and how weighty they have to be. -/
structure LogSinks where
  threshold : LogLevel
  console : Bool
  file : Option Place
  deriving DecidableEq, Repr

namespace LogSinks

/-- No sinks, as before anything was set up. -/
def none : LogSinks := ⟨.info, false, .none⟩

/-- How weighty records have to be. -/
def thresholdFor (verbose : Bool) : LogLevel := if verbose then .debug else .info

/-- Opens a log file at its end, making it if it is missing. The directories above it are made
first, and they stay when the file cannot be opened. -/
def openFile (t : FileTree) (path : Path) : FileTree × Except FileFault Place :=
  match t.makeDirectories path.parent with
  | (t, .error fault) => (t, .error fault)
  | (t, .ok ()) =>
    let target := t.absolute path
    match t.append target .empty, t.placeOf target with
    | .ok t, .ok place => (t, .ok place)
    | .error fault, _ => (t, .error fault)
    | _, .error fault => (t, .error fault)

/-- Sets up sinks: the console, and a file if one is asked for. -/
def configure (t : FileTree) (verbose : Bool) (path : Option Path) :
    FileTree × LogSinks × Except FileFault Unit :=
  let console : LogSinks := ⟨thresholdFor verbose, true, .none⟩
  match path with
  | .none => (t, console, .ok ())
  | some path =>
    match openFile t path with
    | (t, .ok place) => (t, { console with file := some place }, .ok ())
    | (t, .error fault) => (t, console, .error fault)

/-- Whether a record is weighty enough. -/
def accepts (s : LogSinks) (r : LogRecord) : Bool := r.level.atLeast s.threshold

/-- A record on the console. -/
def consoleLine (r : LogRecord) : String := "[fielder] " ++ r.level.name ++ " " ++ r.message ++ "\n"

/-- A record in a file, after the time that it was made at. -/
def fileLine (time : String) (r : LogRecord) : String := time ++ " " ++ r.text ++ "\n"

/-- What the console shows of records. -/
def consoleText (s : LogSinks) (log : Log) : String :=
  if s.console then String.join ((log.filter s.accepts).map consoleLine) else ""

/-- The line of a record in a file, nothing if the line cannot be encoded. -/
def keptLine (time : String) (r : LogRecord) : String :=
  if (Text.fileFault? (fileLine time r)).isSome then "" else fileLine time r

/-- What a log file gets of records. -/
def fileText (s : LogSinks) (time : String) (log : Log) : String :=
  String.join ((log.filter s.accepts).map (keptLine time))

/-- Adds records to the log file, if there is one. -/
def keep (s : LogSinks) (time : String) (t : FileTree) (log : Log) : FileTree :=
  match s.file with
  | some place => t.appendAt place (s.fileText time log).toUTF8
  | .none => t

end LogSinks

/-! ## Handlers -/

/-- Where a handler puts records: on the console, or into the file at a place. -/
inductive LogOutlet where
  | console
  | file (place : Place)
  deriving DecidableEq, Repr

/-- A handler: its outlet, and how weighty records have to be for it. -/
structure LogHandler where
  outlet : LogOutlet
  threshold : LogLevel
  deriving DecidableEq, Repr

/-- The logger that all components report to, with the handlers that it has at present. -/
structure Logger where
  threshold : LogLevel
  handlers : List LogHandler
  deriving DecidableEq, Repr

/-- The outlets that sinks stand for. -/
def LogSinks.outlets (s : LogSinks) : List LogOutlet :=
  (if s.console then [.console] else []) ++ s.file.toList.map .file

/-- The handlers that lead to sinks. -/
def LogSinks.logger (s : LogSinks) : Logger :=
  ⟨s.threshold, s.outlets.map fun o => ⟨o, s.threshold⟩⟩

namespace Logger

/-- The logger before anything was set up; what is recorded until then is left to the host. -/
def start : Logger := ⟨.warning, []⟩

/-- Adds a handler behind the others. -/
def add (l : Logger) (h : LogHandler) : Logger := { l with handlers := l.handlers ++ [h] }

/-- Takes a handler away. -/
def remove (l : Logger) (h : LogHandler) : Logger := { l with handlers := l.handlers.erase h }

/-- Takes the handlers away that are there, one after the other. -/
def removeAll (l : Logger) : Logger := l.handlers.foldl remove l

/-- Sets up the logger: the handlers that it has are taken away, then the console is added, and then the
file if one is asked for and can be opened. -/
def configure (l : Logger) (t : FileTree) (verbose : Bool) (path : Option Path) :
    FileTree × Logger × Except FileFault Unit :=
  let level := LogSinks.thresholdFor verbose
  let l := ({ l with threshold := level }.removeAll).add ⟨.console, level⟩
  match path with
  | none => (t, l, .ok ())
  | some path =>
    match LogSinks.openFile t path with
    | (t, .ok place) => (t, l.add ⟨.file place, level⟩, .ok ())
    | (t, .error fault) => (t, l, .error fault)

/-- The outlets that a record is handed to, in order: the logger asks for its weight, and then each
handler does. -/
def receivers (l : Logger) (r : LogRecord) : List LogOutlet :=
  if r.level.atLeast l.threshold then
    (l.handlers.filter fun h => r.level.atLeast h.threshold).map (·.outlet)
  else []

theorem foldl_remove (hs : List LogHandler) (l : Logger) (h : l.handlers = hs) :
    hs.foldl remove l = { l with handlers := [] } := by
  induction hs generalizing l with
  | nil => rw [List.foldl_nil, ← h]
  | cons first rest ih =>
    have hrest : (l.remove first).handlers = rest := by
      rw [remove, h, List.erase_cons_head]
    rw [List.foldl_cons, ih _ hrest, remove]

/-- No handler is left. -/
theorem removeAll_eq (l : Logger) : l.removeAll = { l with handlers := [] } :=
  foldl_remove l.handlers l rfl

/-- Whatever handlers a logger had, a set-up leaves those of the new sinks. -/
theorem configure_eq (l : Logger) (t : FileTree) (verbose : Bool) (path : Option Path) :
    l.configure t verbose path = ((LogSinks.configure t verbose path).1,
      (LogSinks.configure t verbose path).2.1.logger, (LogSinks.configure t verbose path).2.2) := by
  unfold configure LogSinks.configure
  simp only [removeAll_eq]
  cases path with
  | none => rfl
  | some path =>
    dsimp only
    rcases LogSinks.openFile t path with ⟨t', fault | place⟩ <;> rfl

/-- Handlers that ask for the same weight as the logger do not turn a record down that it lets
through. -/
theorem receivers_of_even {l : Logger} {outlets : List LogOutlet}
    (h : l.handlers = outlets.map fun o => ⟨o, l.threshold⟩) (r : LogRecord) :
    l.receivers r = if r.level.atLeast l.threshold then outlets else [] := by
  rw [receivers, h]
  split
  · rename_i hheard
    simp [List.filter_map, Function.comp_def, hheard]
  · rfl

end Logger

/-! ## Sequences of events -/

/-- The logger is set up, or a record is made at a time. -/
inductive LogEvent where
  | configure (verbose : Bool) (path : Option Path)
  | record (time : String) (r : LogRecord)
  deriving DecidableEq, Repr

/-- Where logging stands: the logger, the files and what the console showed. -/
structure LogSession where
  tree : FileTree
  logger : Logger
  console : String

namespace LogSession

/-- Logging before the first event. -/
def start (t : FileTree) : LogSession := ⟨t, .start, ""⟩

/-- Hands a record to an outlet. -/
def emit (time : String) (r : LogRecord) (s : LogSession) : LogOutlet → LogSession
  | .console => { s with console := s.console ++ LogSinks.consoleLine r }
  | .file place => { s with tree := s.tree.appendAt place (LogSinks.keptLine time r).toUTF8 }

/-- Carries out one event. -/
def step (s : LogSession) : LogEvent → LogSession
  | .configure verbose path =>
    let (tree, logger, _) := s.logger.configure s.tree verbose path
    { s with tree, logger }
  | .record time r => (s.logger.receivers r).foldl (emit time r) s

/-- Carries out events in order. -/
def run (s : LogSession) (events : List LogEvent) : LogSession := events.foldl step s

end LogSession
end Roster
