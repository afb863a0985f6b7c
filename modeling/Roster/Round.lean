import Roster.Diagnostic
import Roster.Emitter
import Roster.Lineage
import Roster.TypeSource
import Roster.WorkerPool

/-! # Rounds

A round discovers types, makes the companion of each, and hands the companions to an emitter. What
goes wrong with one type or one companion is a diagnostic and stops no other; a source that cannot be
read stops the round before any companion is made.

* `process`: companions of one qualified name are all dropped.
* `emit`: a cancellation stops the companions that were not handed over yet.
* `Round.run` is the whole round.
-/

namespace Roster

/-- How a round is set up. -/
structure RoundSetup where
  sources : List TypeSource
  bound : WalkBound
  debuggable : Bool
  workers : Nat

namespace RoundSetup

/-- How many workers there really are: at least one. -/
def effectiveWorkers (s : RoundSetup) : Nat := max 1 s.workers

end RoundSetup

/-- What came of a round: the companions by the types that they belong to, and where they were
written. -/
structure RoundResult where
  graph : TypeGraph
  artifacts : OrderedMap TypeId Artifact
  written : OrderedMap String Path
  diagnostics : List Diagnostic

namespace RoundResult

/-- What came of a round that has not begun. -/
def empty : RoundResult := ⟨.empty, .empty, .empty, []⟩

instance : Inhabited RoundResult := ⟨empty⟩

/-- Whether nothing went wrong. -/
def success (r : RoundResult) : Bool := succeeded r.diagnostics

end RoundResult

namespace Round

/-! ## Reports -/

/-- Diagnostics and records that belong together. -/
structure Report where
  diagnostics : List Diagnostic
  log : Log

namespace Report

/-- Nothing to report. -/
def none : Report := ⟨[], []⟩

/-- One report after the other. -/
def append (r s : Report) : Report := ⟨r.diagnostics ++ s.diagnostics, r.log ++ s.log⟩

instance : Append Report := ⟨append⟩

/-- A note. -/
def note (sourceType : Option String) (message : String) : Report :=
  ⟨[.note sourceType message], [⟨.debug, .round, message⟩]⟩

/-- An error. -/
def error (sourceType : Option String) (message : String) (code : Option String) : Report :=
  ⟨[.error sourceType message code], [⟨.error, .round, message⟩]⟩

/-- A failure of a type. -/
def failure (sourceType : Option String) (f : Failure) : Report :=
  error sourceType f.message (some f.code)

@[simp] theorem diagnostics_append (r s : Report) :
    (r ++ s).diagnostics = r.diagnostics ++ s.diagnostics := rfl

@[simp] theorem log_append (r s : Report) : (r ++ s).log = r.log ++ s.log := rfl

@[simp] theorem diagnostics_none : none.diagnostics = [] := rfl

@[simp] theorem diagnostics_note (sourceType : Option String) (message : String) :
    (note sourceType message).diagnostics = [.note sourceType message] := rfl

@[simp] theorem diagnostics_error (sourceType : Option String) (message : String)
    (code : Option String) :
    (error sourceType message code).diagnostics = [.error sourceType message code] := rfl

/-- Reports that are added one by one. -/
theorem diagnostics_foldl {α : Type} (f : α → Report) (items : List α) (r : Report) :
    (items.foldl (fun r item => r ++ f item) r).diagnostics
      = r.diagnostics ++ items.flatMap fun item => (f item).diagnostics := by
  induction items generalizing r with
  | nil => simp
  | cons item items ih => rw [List.foldl_cons, ih, diagnostics_append, List.flatMap_cons,
      List.append_assoc]

end Report

/-! ## Discovery -/

/-- Puts a type at the end unless it is there. -/
def addType (types : List (Option TypeId)) (type : Option TypeId) : List (Option TypeId) :=
  if type ∈ types then types else types ++ [type]

/-- What is reported of a source that cannot be read. -/
def sourceFailure (name : String) : InputFault → Report
  | .config fault =>
    .error none ("Discovery source " ++ name ++ ": " ++ fault.message) (some ConfigFault.code)
  | fault =>
    .error none ("Discovery source " ++ name ++ " failed: " ++ fault.message)
      (some "discovery-failed")

/-- What is reported of a source that was read. -/
def sourceNote (name : String) (count : Nat) : Report :=
  .note none (name ++ " discovered " ++ toString count ++ " types")

/-- Discovers the types of sources in order, each once; `none` if a source cannot be read. -/
def discoverFrom (t : FileTree) (types : List (Option TypeId)) (g : TypeGraph) :
    List TypeSource → TypeGraph × Option (List (Option TypeId)) × Report
  | [] => (g, some types, .none)
  | source :: rest =>
    match source.discover t g with
    | (.error fault, log) => (g, none, ⟨[], log⟩ ++ sourceFailure source.name fault)
    | (.ok findings, log) =>
      let (g, found, report) :=
        discoverFrom t (findings.found.foldl addType types) findings.graph rest
      (g, found, ⟨[], log⟩ ++ sourceNote source.name findings.found.length ++ report)

/-! ## Companions -/

/-- The name of a type, if there is one. -/
def nameOf? (g : TypeGraph) (type : Option TypeId) : Option String :=
  (type.bind g.get?).map (·.qualifiedName)

/-- The type that a failure is reported for: its own, or the one that was worked on. -/
def blamed (g : TypeGraph) (type : Option TypeId) (f : Failure) : Option String :=
  match f.sourceType.filter (· ≠ "") with
  | some name => some name
  | none => nameOf? g type

/-- What came of one type. -/
structure Outcome where
  made : Option (TypeId × Artifact)
  diagnostics : List Diagnostic

/-- Makes the companion of a type of a graph. -/
def companion? (setup : RoundSetup) (g : TypeGraph) (type : Option TypeId) (names : FieldNames) :
    Option (TypeId × Artifact) := do
  let i ← type
  let t ← g.get? i
  some (i, Artifact.build t names setup.debuggable)

/-- Collects the fields of a type and makes its companion. -/
def processType (setup : RoundSetup) (g : TypeGraph) (type : Option TypeId) : Outcome × Log :=
  match collect g setup.bound type with
  | (.error f, log) =>
    let report := Report.failure (blamed g type f) f
    (⟨none, report.diagnostics⟩, log ++ report.log)
  | (.ok names, log) =>
    let made := companion? setup g type names
    let report := Report.note (nameOf? g type) ("Collected " ++ toString names.size ++ " fields for "
      ++ (made.map (·.2.qualifiedName)).getD "")
    (⟨made, report.diagnostics⟩, log ++ report.log)

/-- What is reported of companions of one qualified name: every one of them is an error. -/
def collisionReport (members : List Artifact) : Report :=
  let sources := members.map (·.sourceType)
  members.foldl (fun report a =>
    report ++ Report.failure (some a.sourceType) (.collision a.qualifiedName sources)) .none

/-- The companions whose qualified names are their own. -/
def withoutCollisions (artifacts : OrderedMap TypeId Artifact) (groups : List (List Artifact)) :
    OrderedMap TypeId Artifact :=
  artifacts.filter fun _ a => !groups.any fun members =>
    members.any fun member => member.qualifiedName = a.qualifiedName

/-- Makes the companions of types. `schedule` is the order in which several workers report. -/
def process (setup : RoundSetup) (schedule : List Nat) (g : TypeGraph)
    (types : List (Option TypeId)) : OrderedMap TypeId Artifact × Report :=
  let (outcomes, log) := runTasks setup.effectiveWorkers schedule (processType setup g) types
  let artifacts := OrderedMap.ofList (outcomes.filterMap (·.made))
  let groups := collisions Artifact.qualifiedName artifacts.values
  let report : Report := ⟨outcomes.flatMap (·.diagnostics), log⟩
  (withoutCollisions artifacts groups,
    groups.foldl (fun report members => report ++ collisionReport members) report)

/-- Discovers types and makes their companions; nothing is written. -/
def inspect (setup : RoundSetup) (schedule : List Nat) (t : FileTree) (g : TypeGraph) :
    RoundResult × Log :=
  let start := Report.note none "Starting processing round"
  match discoverFrom t [] g setup.sources with
  | (g, none, report) =>
    let report := start ++ report
    (⟨g, .empty, .empty, report.diagnostics⟩, report.log)
  | (g, some types, report) =>
    let (artifacts, more) := process setup schedule g types
    let report := start ++ report ++ more
    (⟨g, artifacts, .empty, report.diagnostics⟩, report.log)

/-! ## Emission -/

/-- How companions are handed over: where to, whether anything is written at all, whether the
emitter can cancel it, and after how many companions someone else cancels it, if anyone does. -/
structure Delivery where
  output : Path
  dryRun : Bool
  cancellable : Bool
  interrupt : Option Nat

/-- Where a delivery stands: the emitter's state, whether the round is cancelled, whether the emitter
has asked for that, how many companions were handed over, and what was written and reported. -/
structure Emission (σ : Type) where
  state : σ
  cancelled : Bool
  asked : Bool
  handed : Nat
  written : OrderedMap String Path
  report : Report

namespace Emission

/-- A delivery before the first companion. -/
def start {σ : Type} (state : σ) (cancelled : Bool) : Emission σ :=
  ⟨state, cancelled, false, 0, .empty, .none⟩

/-- Sees whether someone else has cancelled the round by now. -/
def heed {σ : Type} (s : Emission σ) (d : Delivery) : Emission σ :=
  { s with cancelled := s.cancelled || d.interrupt.any (· ≤ s.handed) }

/-- Adds a report. -/
def add {σ : Type} (s : Emission σ) (report : Report) : Emission σ :=
  { s with report := s.report ++ report }

/-- Notes where a companion is. -/
def wrote {σ : Type} (s : Emission σ) (a : Artifact) (path : Path) : Emission σ :=
  { s with written := s.written.insert a.qualifiedName path }

end Emission

/-- What is reported when a round is cancelled. -/
def cancellation (remaining : Nat) : Report :=
  .error none ("Round cancelled; " ++ toString remaining ++ " fielders not written") none

/-- What is reported of a companion that was handed over. -/
def outcomeReport (a : Artifact) : WriteOutcome → Report
  | .written path =>
    ⟨[], [⟨.debug, .round, "Wrote " ++ a.qualifiedName ++ " to " ++ path.text⟩]⟩
  | .refused f => .failure (some a.sourceType) f
  | .crashed message =>
    .error (some a.sourceType) ("Unable to write fielder " ++ a.qualifiedName ++ ": " ++ message)
      none

/-- Hands over one companion. -/
def handOver {σ : Type} (e : Emitter σ) (d : Delivery) (s : Emission σ) (a : Artifact) :
    Emission σ :=
  let s := { s with handed := s.handed + 1 }
  if d.dryRun then s.wrote a (d.output / e.relativePath a)
  else
    let h := e.write s.state a d.output
    let s : Emission σ := { s with
      state := h.state
      cancelled := s.cancelled || (d.cancellable && h.cancels)
      asked := s.asked || h.cancels }
    let s := match h.outcome with
      | .written path => s.wrote a path
      | _ => s
    s.add (outcomeReport a h.outcome)

/-- Hands over companions in order, until the round is cancelled. -/
def emit {σ : Type} (e : Emitter σ) (d : Delivery) : Emission σ → List Artifact → Emission σ
  | s, [] => s
  | s, a :: rest =>
    let s := s.heed d
    if s.cancelled then s.add (cancellation (rest.length + 1))
    else emit e d (handOver e d s a) rest

/-! ## Whole rounds -/

/-- The record that ends a round. -/
def finished (r : RoundResult) : LogRecord :=
  ⟨.info, .round, "Round finished: " ++ toString r.artifacts.size ++ " fielders, "
    ++ toString r.written.size ++ " written, " ++ toString (errorsOf r.diagnostics).length
    ++ " errors"⟩

/-- Adds what was written and reported to what came of a round. -/
def withEmission {σ : Type} (r : RoundResult) (s : Emission σ) : RoundResult :=
  { r with
    written := s.written
    diagnostics := r.diagnostics ++ s.report.diagnostics }

/-- A round from discovery to the last companion; it starts without being cancelled. -/
def run {σ : Type} (setup : RoundSetup) (e : Emitter σ) (schedule : List Nat) (g : TypeGraph)
    (state : σ) (d : Delivery) : RoundResult × Emission σ × Log :=
  let (r, log) := inspect setup schedule (e.files state) g
  let s := emit e d (.start state false) r.artifacts.values
  let r := withEmission r s
  (r, s, log ++ s.report.log ++ [finished r])

end Round
end Roster
