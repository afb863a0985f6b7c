import Roster.Proofs.DryRuns
import Roster.RoundSession

/-! # What a session remembers

A session keeps an emitter, a flag that tells whether it is cancelled, and the result that it has last
come to. If its types come from the host alone and the emitter's answers do not depend on what it was
given before, nothing of that can be told from the next whole round.

* `Emitter.Steady`: an emitter whose answers depend on the companion and the output directory.
* `HostMove`: a step, or turning to any result at all, so that any companions may be emitted.
* `Alike.handOver`, `Alike.emit`: two deliveries that differ in the emitter's state only.
* `cancelled_step`, `cancelled_after`: a cancellation holds until the next whole round.
* `next_run_is_a_first_run`: what a history leaves behind, and what it does not.
-/

namespace Roster

/-- What an emitter answers depends on the companion and the output directory alone. -/
structure Emitter.Steady {σ : Type} (e : Emitter σ) : Prop where
  outcome_eq : ∀ state state' a output,
    (e.write state a output).outcome = (e.write state' a output).outcome
  cancels_eq : ∀ state state' a output,
    (e.write state a output).cancels = (e.write state' a output).cancels

/-- Whether a source serves what a host gives it. -/
def TypeSource.IsHost : TypeSource → Prop
  | .host _ _ => True
  | .manifest _ => False
  | .modules _ _ => False

/-! ## Rounds without files -/

namespace Round

/-- What a host gives does not depend on files. -/
theorem discoverFrom_of_isHost {sources : List TypeSource} (h : ∀ source ∈ sources, source.IsHost)
    (t t' : FileTree) (types : List (Option TypeId)) (g : TypeGraph) :
    discoverFrom t' types g sources = discoverFrom t types g sources := by
  induction sources generalizing types g with
  | nil => rfl
  | cons source sources ih =>
    have hhost := h source List.mem_cons_self
    have hrest := ih fun source hsource => h source (List.mem_cons_of_mem _ hsource)
    cases source with
    | manifest path => contradiction
    | modules roots exclude => contradiction
    | host name outcome =>
      cases outcome with
      | error fault => rfl
      | ok found =>
        show (_, _, _) = (_, _, _)
        rw [hrest]

theorem inspect_of_isHost {setup : RoundSetup} (h : ∀ source ∈ setup.sources, source.IsHost)
    (schedule : List Nat) (t t' : FileTree) (g : TypeGraph) :
    inspect setup schedule t' g = inspect setup schedule t g := by
  rw [inspect, inspect, discoverFrom_of_isHost h t t']

/-! ## Deliveries that differ in the emitter's state -/

/-- Two deliveries stand alike, their emitters aside. -/
structure Alike {σ : Type} (s s' : Emission σ) : Prop where
  cancelled_eq : s.cancelled = s'.cancelled
  handed_eq : s.handed = s'.handed
  written_eq : s.written = s'.written
  diagnostics_eq : s.report.diagnostics = s'.report.diagnostics

variable {σ : Type} {e : Emitter σ} {d : Delivery} {s s' : Emission σ}

theorem Alike.heed (h : Alike s s') : Alike (s.heed d) (s'.heed d) where
  cancelled_eq := by
    rw [Emission.heed, Emission.heed, h.cancelled_eq, h.handed_eq]
  handed_eq := h.handed_eq
  written_eq := h.written_eq
  diagnostics_eq := h.diagnostics_eq

theorem Alike.add (h : Alike s s') (report : Report) : Alike (s.add report) (s'.add report) where
  cancelled_eq := h.cancelled_eq
  handed_eq := h.handed_eq
  written_eq := h.written_eq
  diagnostics_eq := by
    rw [Emission.add, Emission.add, Report.diagnostics_append, Report.diagnostics_append,
      h.diagnostics_eq]

/-- A steady emitter answers alike. -/
theorem outcomeOf_of_steady (he : e.Steady) (a : Artifact) :
    outcomeOf e d s a = outcomeOf e d s' a := by
  rw [outcomeOf, outcomeOf, he.outcome_eq s.state s'.state]

/-- One companion more. -/
theorem Alike.handOver (he : e.Steady) (h : Alike s s') (a : Artifact) :
    Alike (handOver e d s a) (handOver e d s' a) where
  cancelled_eq := by
    rw [cancelled_handOver, cancelled_handOver, h.cancelled_eq, he.cancels_eq s.state s'.state]
  handed_eq := by
    rw [handed_handOver, handed_handOver, h.handed_eq]
  written_eq := by
    rw [written_handOver, written_handOver, outcomeOf_of_steady he, h.written_eq]
  diagnostics_eq := by
    rw [diagnostics_handOver, diagnostics_handOver, outcomeOf_of_steady he, h.diagnostics_eq]

/-- All companions. -/
theorem Alike.emit (he : e.Steady) (h : Alike s s') (artifacts : List Artifact) :
    Alike (emit e d s artifacts) (emit e d s' artifacts) := by
  induction artifacts generalizing s s' with
  | nil => exact h
  | cons a rest ih =>
    -- the flags agree, so both deliveries end here or both go on
    have hheed : Alike (s.heed d) (s'.heed d) := h.heed
    cases hcancelled : (s.heed d).cancelled with
    | true =>
      rw [(emit_of_cancelled hcancelled a rest).1,
        (emit_of_cancelled (hheed.cancelled_eq ▸ hcancelled) a rest).1]
      exact hheed.add _
    | false =>
      rw [(emit_of_going hcancelled a rest).1,
        (emit_of_going (hheed.cancelled_eq ▸ hcancelled) a rest).1]
      exact ih (hheed.handOver he a)

/-- A round over a host's types with a steady emitter comes to the same result whatever the emitter
was given before, and in whatever order workers report. -/
theorem run_of_steady {setup : RoundSetup} (hhost : ∀ source ∈ setup.sources, source.IsHost)
    (he : e.Steady) (schedule schedule' : List Nat) (g : TypeGraph) (state state' : σ) :
    (run setup e schedule g state d).1 = (run setup e schedule' g state' d).1 := by
  have hinspect := inspect_again (discoverFrom_of_isHost hhost (e.files state') (e.files state) [] g)
    schedule' schedule
  -- the emitters differ from the start on, and nothing else ever does
  have hstart : Alike (.start state false : Emission σ) (.start state' false) := ⟨rfl, rfl, rfl, rfl⟩
  have halike := hstart.emit (d := d) he
    (inspect setup schedule' (e.files state') g).1.artifacts.values
  rw [result_run, result_run, hinspect, withEmission, withEmission, halike.written_eq,
    halike.diagnostics_eq]

/-- A delivery that is cancelled stays so. -/
theorem cancelled_emit (h : s.cancelled = true) (artifacts : List Artifact) :
    (emit e d s artifacts).cancelled = true := by
  cases artifacts with
  | nil => exact h
  | cons a rest =>
    have hheed : (s.heed d).cancelled = true := by
      rw [Emission.heed, h, Bool.true_or]
    rw [(emit_of_cancelled hheed a rest).1]
    exact hheed

end Round

/-! ## Histories -/

namespace RoundStep

/-- Whether a step begins a whole round of the session. -/
def IsRun : RoundStep → Prop
  | .run _ _ => True
  | _ => False

/-- Whether a step makes companions and hands none over. -/
def Looks : RoundStep → Prop
  | .inspect => True
  | .process _ => True
  | _ => False

end RoundStep

namespace RoundSession

/-- What a host does with a session: a step, or turning to a result, which may be of any other
session. Later steps emit the companions of that result. -/
inductive HostMove where
  | step (step : RoundStep)
  | turn (result : RoundResult)

section Session

variable {σ : Type} (setup : RoundSetup) (e : Emitter σ) (g : TypeGraph)

/-- Where a session stands after a move. -/
def move (s : RoundState σ) : HostMove → RoundState σ
  | .step step => (RoundSession.step setup e g s step).1
  | .turn result => { s with last := result }

/-- Where a session stands after moves. -/
def after (s : RoundState σ) (moves : List HostMove) : RoundState σ :=
  moves.foldl (move setup e g) s

variable {setup e g}

/-- The next whole round does not tell what was before it. -/
theorem result_step_run (hhost : ∀ source ∈ setup.sources, source.IsHost) (he : e.Steady)
    (s : RoundState σ) (schedule : List Nat) (fresh : σ) (output : Path) (dryRun : Bool) :
    (step setup e g s (.run output dryRun)).2.result
      = some (Round.run setup e schedule g fresh ⟨output, dryRun, true, none⟩).1 :=
  congrArg some (Round.run_of_steady hhost he [] schedule g s.emitter fresh)

/-- A step that hands nothing over answers the same in any state, and leaves the flag and the emitter
as they were. -/
theorem step_of_looks (hhost : ∀ source ∈ setup.sources, source.IsHost) (s s' : RoundState σ)
    {look : RoundStep} (hlook : look.Looks) :
    (step setup e g s look).2 = (step setup e g s' look).2 ∧
      (step setup e g s look).1.cancelled = s.cancelled ∧
      (step setup e g s look).1.emitter = s.emitter := by
  cases look with
  | inspect =>
    refine ⟨?_, rfl, rfl⟩
    simp only [step]
    rw [Round.inspect_of_isHost hhost [] (e.files s'.emitter) (e.files s.emitter)]
  | process types => exact ⟨rfl, rfl, rfl⟩
  | run output dryRun => contradiction
  | cancel => contradiction
  | emit output dryRun => contradiction
  | separate types output dryRun => contradiction

/-- A cancellation outlasts every step but a whole round of the session. -/
theorem cancelled_step {s : RoundState σ} (h : s.cancelled = true) {next : RoundStep}
    (hnext : ¬ next.IsRun) : (step setup e g s next).1.cancelled = true := by
  cases next with
  | run output dryRun => exact absurd trivial hnext
  | inspect => exact h
  | cancel => rfl
  | process types => exact h
  | emit output dryRun => exact Round.cancelled_emit h _
  | separate types output dryRun =>
    show (s.cancelled || _) = true
    rw [h, Bool.true_or]

theorem cancelled_move {s : RoundState σ} (h : s.cancelled = true) {next : HostMove}
    (hnext : ∀ step, next = .step step → ¬ step.IsRun) :
    (move setup e g s next).cancelled = true := by
  cases next with
  | step step => exact cancelled_step h (hnext step rfl)
  | turn result => exact h

/-- A cancellation outlasts all moves up to the next whole round of the session. -/
theorem cancelled_after {s : RoundState σ} (h : s.cancelled = true) {moves : List HostMove}
    (hmoves : ∀ step, HostMove.step step ∈ moves → ¬ step.IsRun) :
    (after setup e g s moves).cancelled = true := by
  induction moves generalizing s with
  | nil => exact h
  | cons next moves ih =>
    apply ih
    · apply cancelled_move h
      rintro step rfl
      exact hmoves step List.mem_cons_self
    · intro step hstep
      exact hmoves step (List.mem_cons_of_mem _ hstep)

/-- While a session is cancelled, companions are not written; one error tells how many there are. -/
theorem step_emit_of_cancelled {s : RoundState σ} (h : s.cancelled = true) (output : Path)
    (dryRun : Bool) (hsome : 0 < s.last.artifacts.size) :
    (step setup e g s (.emit output dryRun)).2.result
        = some { s.last with
            written := .empty
            diagnostics := s.last.diagnostics ++ [.error none ("Round cancelled; "
              ++ toString s.last.artifacts.size ++ " fielders not written") none] } ∧
      (step setup e g s (.emit output dryRun)).1.emitter = s.emitter := by
  rw [← OrderedMap.length_values] at hsome ⊢
  simp only [step]
  rcases hvalues : s.last.artifacts.values with _ | ⟨a, rest⟩
  · rw [hvalues] at hsome
    contradiction
  · have hheed : ((Round.Emission.start s.emitter s.cancelled).heed
        ⟨output, dryRun, true, none⟩).cancelled = true := by
      rw [Round.Emission.heed, h]
      rfl
    rw [(Round.emit_of_cancelled hheed a rest).1]
    exact ⟨rfl, rfl⟩

/-- After any moves of a host, in any state, with types that come from the host alone and a steady
emitter: the next whole round comes to the result of a first round, whatever was given to the emitter
and cancelled before. Steps that hand nothing over neither see nor change the flag or the emitter.
Once the session is cancelled, companions of any result are not written until its next whole round,
and one error tells how many there are. -/
theorem next_run_is_a_first_run {σ : Type} (setup : RoundSetup) (e : Emitter σ) (g : TypeGraph)
    (hhost : ∀ source ∈ setup.sources, source.IsHost) (he : e.Steady) (s : RoundState σ)
    (moves : List HostMove) :
    let now := after setup e g s moves
    (∀ output dryRun schedule fresh, (step setup e g now (.run output dryRun)).2.result
      = some (Round.run setup e schedule g fresh ⟨output, dryRun, true, none⟩).1) ∧
    (∀ look : RoundStep, look.Looks → ∀ other,
      (step setup e g now look).2 = (step setup e g other look).2 ∧
      (step setup e g now look).1.cancelled = now.cancelled ∧
      (step setup e g now look).1.emitter = now.emitter) ∧
    (∀ between : List HostMove, (∀ step, .step step ∈ between → ¬ step.IsRun) →
      ∀ (result : RoundResult) (output : Path) (dryRun : Bool), 0 < result.artifacts.size →
      let cancelled := after setup e g now (.step .cancel :: between ++ [.turn result])
      let emitted := step setup e g cancelled (.emit output dryRun)
      emitted.2.result = some { result with
        written := .empty
        diagnostics := result.diagnostics ++ [.error none ("Round cancelled; "
          ++ toString result.artifacts.size ++ " fielders not written") none] } ∧
      emitted.1.emitter = cancelled.emitter) := by
  intro now
  refine ⟨?_, ?_, ?_⟩
  · intro output dryRun schedule fresh
    exact result_step_run hhost he now schedule fresh output dryRun
  · intro look hlook other
    exact step_of_looks hhost now other hlook
  · intro between hbetween result output dryRun hsome cancelled emitted
    -- turning to a result is no whole round, so the flag holds up to the emission
    have hmoves : ∀ step, HostMove.step step ∈ between ++ [.turn result] → ¬ step.IsRun := by
      intro step hstep
      simp only [List.mem_append, List.mem_singleton, reduceCtorEq, or_false] at hstep
      exact hbetween step hstep
    have hcancelled : cancelled.cancelled = true :=
      cancelled_after (s := { now with cancelled := true }) rfl hmoves
    have hlast : cancelled.last = result := by
      show (after setup e g now (.step .cancel :: between ++ [.turn result])).last = result
      rw [after, List.foldl_append]
      rfl
    have hsome' : 0 < cancelled.last.artifacts.size := by rwa [hlast]
    have hemitted := @step_emit_of_cancelled _ setup e g _ hcancelled output dryRun hsome'
    rw [hlast] at hemitted
    exact hemitted

end Session

open Round (choosy hostOf)

/-- A session that was cancelled between two rounds: companions that are emitted then are not written,
and the next round writes what a first round would. -/
theorem run_after_cancellation :
    let host := hostOf ["A", "B", "C", "D"]
    let setup : RoundSetup := ⟨host.2, .standard, true, 2⟩
    let output := Path.parse "out"
    let first := (Round.run setup choosy [] host.1 [] ⟨output, true, true, none⟩).1
    let now := after setup choosy host.1 (start []) [.step (.run output false), .step .cancel]
    (∀ source ∈ setup.sources, source.IsHost) ∧ choosy.Steady ∧
      RoundStep.inspect.Looks ∧ 0 < first.artifacts.size ∧
      now.cancelled = true ∧ now.emitter.length = 4 ∧
      (step setup choosy host.1 now (.run output false)).2.result.map (·.written.keys)
        = some ["p.A_Fielder", "p.D_Fielder"] ∧
      (step setup choosy host.1 now .inspect).1.cancelled = true ∧
      (step setup choosy host.1 (after setup choosy host.1 now
          [.step .cancel, .step .inspect, .turn first]) (.emit output false)).2.result
        = some { first with
          written := .empty
          diagnostics := first.diagnostics
            ++ [.error none "Round cancelled; 4 fielders not written" none] } := by
  intro host setup output first now
  have hhost : ∀ source ∈ setup.sources, source.IsHost := by
    intro source hsource
    rw [List.mem_singleton.mp hsource]
    trivial
  have hsteady : choosy.Steady := ⟨fun _ _ _ _ => rfl, fun _ _ _ _ => rfl⟩
  obtain ⟨hrun, hlook, hemit⟩ := next_run_is_a_first_run setup choosy host.1 hhost hsteady (start [])
    [.step (.run output false), .step .cancel]
  have hsize : first.artifacts.size = 4 := by decide +kernel
  refine ⟨hhost, hsteady, trivial, by omega, rfl, by decide +kernel, ?_, ?_, ?_⟩
  · rw [hrun output false [] []]
    decide +kernel
  · rw [(hlook .inspect trivial now).2.1]
    rfl
  · have hbetween : ∀ step, HostMove.step step ∈ [.step .inspect] → ¬ step.IsRun := by
      intro step hstep
      cases List.mem_singleton.mp hstep
      exact not_false
    have hemitted := hemit [.step .inspect] hbetween first output false (by omega)
    rw [hsize] at hemitted
    exact hemitted.1

end RoundSession
end Roster
