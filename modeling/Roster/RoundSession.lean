import Roster.Round

/-! # Sessions of rounds

A host keeps one round set up and works with it step by step: it runs whole rounds, or processes types
and emits what came of it later. A cancellation holds until the next whole round begins.

* `RoundSession.step` carries out one step.
-/

namespace Roster

/-- Where a session stands. -/
structure RoundState (σ : Type) where
  emitter : σ
  cancelled : Bool
  last : RoundResult

/-- A step of a session. -/
inductive RoundStep where
  | run (output : Path) (dryRun : Bool)
  | inspect
  | cancel
  | process (types : List (Option TypeId))
  | emit (output : Path) (dryRun : Bool)
  /-- A round of its own over types of the host, with the same emitter. -/
  | separate (types : List (Option TypeId)) (output : Path) (dryRun : Bool)
  deriving DecidableEq, Repr

/-- What came of a step: a round's result, or nothing. -/
structure StepAnswer where
  result : Option RoundResult
  log : Log

namespace RoundSession

/-- A session before its first step. -/
def start {σ : Type} (emitter : σ) : RoundState σ := ⟨emitter, false, .empty⟩

/-- The name of a source that serves a fixed list. -/
def fixedName : String := "static"

/-- The setup of a round of its own over a list of types. -/
def separateSetup (debuggable : Bool) (types : List (Option TypeId)) : RoundSetup :=
  ⟨[.host fixedName (.ok types)], .standard, debuggable, 1⟩

/-- Carries out a step; `g` are the host's types. -/
def step {σ : Type} (setup : RoundSetup) (e : Emitter σ) (g : TypeGraph) (s : RoundState σ) :
    RoundStep → RoundState σ × StepAnswer
  | .run output dryRun =>
    let (r, emission, log) := Round.run setup e [] g s.emitter ⟨output, dryRun, true, none⟩
    (⟨emission.state, emission.cancelled, r⟩, ⟨some r, log⟩)
  | .inspect =>
    let (r, log) := Round.inspect setup [] (e.files s.emitter) g
    ({ s with last := r }, ⟨some r, log⟩)
  | .cancel => ({ s with cancelled := true }, ⟨none, []⟩)
  | .process types =>
    let (artifacts, report) := Round.process setup [] g types
    let r : RoundResult := ⟨g, artifacts, .empty, report.diagnostics⟩
    ({ s with last := r }, ⟨some r, report.log⟩)
  | .emit output dryRun =>
    let emission := Round.emit e ⟨output, dryRun, true, none⟩ (.start s.emitter s.cancelled)
      s.last.artifacts.values
    let r := Round.withEmission s.last emission
    (⟨emission.state, emission.cancelled, r⟩, ⟨some r, emission.report.log⟩)
  | .separate types output dryRun =>
    let (r, emission, log) :=
      Round.run (separateSetup setup.debuggable types) e [] g s.emitter ⟨output, dryRun, false, none⟩
    ({ s with emitter := emission.state, cancelled := s.cancelled || emission.asked },
      ⟨some r, log⟩)

/-- Carries out steps in order. -/
def steps {σ : Type} (setup : RoundSetup) (e : Emitter σ) (g : TypeGraph) (s : RoundState σ) :
    List RoundStep → RoundState σ × List StepAnswer
  | [] => (s, [])
  | first :: rest =>
    let (s, answer) := step setup e g s first
    let (s, answers) := steps setup e g s rest
    (s, answer :: answers)

end RoundSession
end Roster
