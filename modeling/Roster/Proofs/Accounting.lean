import Mathlib.Data.List.Basic
import Mathlib.Data.List.Nodup
import Roster.Proofs.Emission

/-! # Every companion is accounted for once

A delivery as it looks from outside. What the emitter answers to a companion depends on the
companions that were handed over before it, and where a delivery stops depends on who cancels the
round and when. Neither is told by the state that the delivery keeps.

* `Reaches.handOver`: that state agrees with the view from outside, companion by companion.
* `stopsAt_outcomes`, `deliveries_eq_answersFrom`: companions are handed over up to the first point
  at which the round is seen to be cancelled, and their outcomes are the emitter's answers.
* `emit_accounts_for_every_companion`: each companion is written, has one error, or is counted among
  those that are left.
-/

namespace Roster
namespace Round

section Outside

variable {σ : Type} (e : Emitter σ) (d : Delivery) (state : σ) (cancelled : Bool)

/-- The emitter once companions were handed over. In a dry run it never sees one. -/
def emitterAfter (given : List Artifact) : σ :=
  given.foldl (fun state a => if d.dryRun then state else (e.write state a d.output).state) state

/-- The answer to a companion that comes after others. In a dry run it is the path that the emitter
would choose. -/
def answerAfter (given : List Artifact) (a : Artifact) : WriteOutcome :=
  if d.dryRun then .written (d.output / e.relativePath a)
  else (e.write (emitterAfter e d state given) a d.output).outcome

/-- Companions that come after others, each with its answer. -/
def answersFrom : (given : List Artifact) → List Artifact → List (Artifact × WriteOutcome)
  | _, [] => []
  | given, a :: rest => (a, answerAfter e d state given a) :: answersFrom (given ++ [a]) rest

/-- Whether the emitter has the round cancelled at a companion that comes after others. -/
def cancelsAt (given : List Artifact) (a : Artifact) : Bool :=
  !d.dryRun && d.cancellable && (e.write (emitterAfter e d state given) a d.output).cancels

/-- The round is seen to be cancelled once companions were handed over: it was cancelled from the
start, someone else has cancelled it by then, or the emitter did so at one of them. -/
def StopsAfter (given : List Artifact) : Prop :=
  cancelled = true ∨ (∃ n, d.interrupt = some n ∧ n ≤ given.length) ∨
    ∃ before a after, given = before ++ a :: after ∧ cancelsAt e d state before a = true

/-- Companions that come after others are handed over up to number `c`: the round is not seen to be
cancelled before any of them, and it is at number `c` if there is a companion of that number. -/
structure StopsAt (given rest : List Artifact) (c : Nat) : Prop where
  going : ∀ k < c, ¬ StopsAfter e d state cancelled (given ++ rest.take k)
  stops : c < rest.length → StopsAfter e d state cancelled (given ++ rest.take c)

/-- A delivery stands where it does once these companions were handed over. -/
structure Reaches (given : List Artifact) (s : Emission σ) : Prop where
  state_eq : s.state = emitterAfter e d state given
  handed_eq : s.handed = given.length
  stops_iff : (s.heed d).cancelled = true ↔ StopsAfter e d state cancelled given

end Outside

/-- The error about a companion that was not written. -/
def errorOf? : Artifact × WriteOutcome → Option Diagnostic
  | (_, .written _) => none
  | (a, .refused f) => some (.error (some a.sourceType) f.message (some f.code))
  | (a, .crashed message) =>
    some (.error (some a.sourceType)
      ("Unable to write fielder " ++ a.qualifiedName ++ ": " ++ message) none)

variable {σ : Type} {e : Emitter σ} {d : Delivery} {state : σ} {cancelled : Bool}

/-! ## One companion more -/

theorem emitterAfter_snoc (given : List Artifact) (a : Artifact) :
    emitterAfter e d state (given ++ [a])
      = if d.dryRun then emitterAfter e d state given
        else (e.write (emitterAfter e d state given) a d.output).state := by
  rw [emitterAfter, List.foldl_append]
  rfl

theorem stopsAfter_snoc (given : List Artifact) (a : Artifact) :
    StopsAfter e d state cancelled (given ++ [a]) ↔
      StopsAfter e d state cancelled given ∨
        (∃ n, d.interrupt = some n ∧ n ≤ given.length + 1) ∨
        cancelsAt e d state given a = true := by
  unfold StopsAfter
  rw [List.length_append, List.length_singleton]
  constructor
  · rintro (hstart | hinterrupt | ⟨before, b, after, hgiven, hcancels⟩)
    · exact .inl (.inl hstart)
    · exact .inr (.inl hinterrupt)
    · rcases List.eq_nil_or_concat after with rfl | ⟨front, last, rfl⟩
      · obtain ⟨rfl, hlast⟩ := List.append_inj' hgiven rfl
        obtain rfl : a = b := by simpa using hlast
        exact .inr (.inr hcancels)
      · rw [List.concat_eq_append, ← List.cons_append, ← List.append_assoc] at hgiven
        obtain ⟨rfl, -⟩ := List.append_inj' hgiven rfl
        exact .inl (.inr (.inr ⟨before, b, front, rfl, hcancels⟩))
  · rintro ((hstart | ⟨n, hn, hle⟩ | ⟨before, b, after, rfl, hcancels⟩) | hinterrupt | hcancels)
    · exact .inl hstart
    · exact .inr (.inl ⟨n, hn, by omega⟩)
    · exact .inr (.inr ⟨before, b, after ++ [a], by simp, hcancels⟩)
    · exact .inr (.inl hinterrupt)
    · exact .inr (.inr ⟨given, a, [], rfl, hcancels⟩)

theorem handed_handOver (s : Emission σ) (a : Artifact) :
    (handOver e d s a).handed = s.handed + 1 := by
  unfold handOver
  by_cases hdry : d.dryRun = true
  · simp [hdry, Emission.wrote]
  · simp only [hdry, Bool.false_eq_true, if_false]
    cases (e.write s.state a d.output).outcome <;> rfl

theorem cancelled_handOver (s : Emission σ) (a : Artifact) :
    (handOver e d s a).cancelled
      = (s.cancelled
        || (!d.dryRun && d.cancellable && (e.write s.state a d.output).cancels)) := by
  unfold handOver
  by_cases hdry : d.dryRun = true
  · simp [hdry, Emission.wrote]
  · simp only [hdry, Bool.false_eq_true, if_false]
    cases (e.write s.state a d.output).outcome <;> rfl

theorem heed_cancelled_iff (s : Emission σ) :
    (s.heed d).cancelled = true ↔
      s.cancelled = true ∨ ∃ n, d.interrupt = some n ∧ n ≤ s.handed := by
  cases hinterrupt : d.interrupt <;> simp [Emission.heed, hinterrupt]

theorem outcomeOf_of_reaches {given : List Artifact} {s : Emission σ}
    (h : Reaches e d state cancelled given s) (a : Artifact) :
    outcomeOf e d (s.heed d) a = answerAfter e d state given a := by
  rw [outcomeOf, answerAfter, state_heed, h.state_eq]

/-- A delivery that has not begun stands where it does. -/
theorem reaches_start : Reaches e d state cancelled [] (.start state cancelled) where
  state_eq := rfl
  handed_eq := rfl
  stops_iff := by
    rw [heed_cancelled_iff, StopsAfter]
    simp [Emission.start]

/-- Handing over one companion more keeps a delivery where it should be. -/
theorem Reaches.handOver {given : List Artifact} {s : Emission σ}
    (h : Reaches e d state cancelled given s) (hgoing : (s.heed d).cancelled = false)
    (a : Artifact) :
    Reaches e d state cancelled (given ++ [a]) (handOver e d (s.heed d) a) where
  state_eq := by
    rw [state_handOver, state_heed, h.state_eq, emitterAfter_snoc]
  handed_eq := by
    rw [handed_handOver, List.length_append, List.length_singleton, ← h.handed_eq]
    rfl
  stops_iff := by
    have hgiven : ¬ StopsAfter e d state cancelled given := by
      rw [← h.stops_iff, hgoing]
      exact Bool.false_ne_true
    have hhanded : (s.heed d).handed = given.length := h.handed_eq
    rw [heed_cancelled_iff, stopsAfter_snoc, cancelled_handOver, handed_handOver, hgoing, hhanded,
      state_heed, h.state_eq, Bool.false_or]
    simp only [hgiven, false_or]
    exact or_comm

/-! ## All companions -/

/-- Companions are handed over up to the first point at which the round is seen to be cancelled. -/
theorem stopsAt_outcomes {given : List Artifact} {s : Emission σ}
    (h : Reaches e d state cancelled given s) (rest : List Artifact) :
    StopsAt e d state cancelled given rest (outcomes e d s rest).length := by
  induction rest generalizing s given with
  | nil => exact ⟨by simp [outcomes], by simp⟩
  | cons a rest ih =>
    cases hcancelled : (s.heed d).cancelled with
    | true =>
      rw [(emit_of_cancelled hcancelled a rest).2.1]
      refine ⟨by simp, fun _ => ?_⟩
      simpa using h.stops_iff.mp hcancelled
    | false =>
      -- the companions before the next one are those given and the one handed over here
      have hrest := ih (h.handOver hcancelled a)
      rw [(emit_of_going hcancelled a rest).2.1, List.length_cons]
      constructor
      · intro k hk
        cases k with
        | zero =>
          rw [List.take_zero, List.append_nil, ← h.stops_iff, hcancelled]
          exact Bool.false_ne_true
        | succ k =>
          have hlater := hrest.going k (by omega)
          rwa [List.append_assoc, List.singleton_append] at hlater
      · intro hc
        rw [List.length_cons] at hc
        have hthere := hrest.stops (by omega)
        rwa [List.append_assoc, List.singleton_append] at hthere

/-- What becomes of the companions that are handed over is what the emitter answers. -/
theorem deliveries_eq_answersFrom {given : List Artifact} {s : Emission σ}
    (h : Reaches e d state cancelled given s) (rest : List Artifact) :
    deliveries e d s rest
      = answersFrom e d state given (rest.take (outcomes e d s rest).length) := by
  induction rest generalizing s given with
  | nil => rfl
  | cons a rest ih =>
    cases hcancelled : (s.heed d).cancelled with
    | true =>
      obtain ⟨-, houtcomes, hdeliveries⟩ := @emit_of_cancelled σ e d s hcancelled a rest
      rw [houtcomes, hdeliveries]
      rfl
    | false =>
      obtain ⟨-, houtcomes, hdeliveries⟩ := @emit_of_going σ e d s hcancelled a rest
      rw [houtcomes, hdeliveries, ih (h.handOver hcancelled a), outcomeOf_of_reaches h,
        List.length_cons, List.take_succ_cons, answersFrom]

/-- The emitter sees the companions that are handed over, in order, and no other. -/
theorem state_emit {given : List Artifact} {s : Emission σ}
    (h : Reaches e d state cancelled given s) (rest : List Artifact) :
    (emit e d s rest).handed = given.length + (outcomes e d s rest).length ∧
      (emit e d s rest).state
        = emitterAfter e d state (given ++ rest.take (outcomes e d s rest).length) := by
  induction rest generalizing s given with
  | nil => simpa [emit, outcomes] using ⟨h.handed_eq, h.state_eq⟩
  | cons a rest ih =>
    cases hcancelled : (s.heed d).cancelled with
    | true =>
      obtain ⟨hemit, houtcomes, -⟩ := @emit_of_cancelled σ e d s hcancelled a rest
      rw [hemit, houtcomes, List.length_nil, List.take_zero, List.append_nil, Nat.add_zero]
      exact ⟨h.handed_eq, h.state_eq⟩
    | false =>
      obtain ⟨hemit, houtcomes, -⟩ := @emit_of_going σ e d s hcancelled a rest
      obtain ⟨hhanded, hstate⟩ := ih (h.handOver hcancelled a)
      rw [hemit, houtcomes, hhanded, hstate, List.length_cons, List.take_succ_cons,
        List.length_append, List.length_singleton, List.append_assoc, List.singleton_append]
      exact ⟨by omega, rfl⟩

/-! ## The account -/

theorem diagnostics_outcomeReport (x : Artifact × WriteOutcome) :
    (outcomeReport x.1 x.2).diagnostics = (errorOf? x).toList := by
  obtain ⟨a, outcome⟩ := x
  cases outcome <;> rfl

/-- A companion that was handed over is written under its name or has one error, not both. -/
theorem account_of_mem {artifacts : List Artifact} (h : (artifacts.map (·.qualifiedName)).Nodup)
    {x : Artifact × WriteOutcome}
    (hx : x ∈ deliveries e d (.start state cancelled) artifacts) :
    (∃ path, x.2 = .written path ∧
      (emit e d (.start state cancelled) artifacts).written.get? x.1.qualifiedName = some path ∧
      errorOf? x = none) ∨
    (∃ error, errorOf? x = some error ∧ error.isError = true ∧
      error.sourceType = some x.1.sourceType ∧
      (emit e d (.start state cancelled) artifacts).written.get? x.1.qualifiedName = none) := by
  have hentries := entries_emit (e := e) (d := d) (.start state cancelled) artifacts
    (by simpa using h)
  rw [written_start, OrderedMap.entries_empty, List.nil_append] at hentries
  -- the names of the companions that were handed over differ, so one with this name is this one
  have hnames : ((deliveries e d (.start state cancelled) artifacts).map
      fun y => y.1.qualifiedName).Nodup := by
    have htake : ((artifacts.take (outcomes e d (.start state cancelled) artifacts).length).map
        (·.qualifiedName)).Nodup := h.sublist ((List.take_sublist _ _).map _)
    rw [← map_fst_deliveries, List.map_map] at htake
    exact htake
  have hnone : x.2.path? = none →
      (emit e d (.start state cancelled) artifacts).written.get? x.1.qualifiedName = none := by
    intro hpath
    rw [Option.eq_none_iff_forall_ne_some]
    intro path hget
    rw [OrderedMap.get?_eq_some_iff, hentries, List.mem_filterMap] at hget
    obtain ⟨y, hy, hentry⟩ := hget
    simp only [Option.map_eq_some_iff, Prod.mk.injEq] at hentry
    obtain ⟨path', hpath', hname, rfl⟩ := hentry
    obtain rfl : y = x := List.inj_on_of_nodup_map hnames hy hx hname
    rw [hpath] at hpath'
    cases hpath'
  obtain ⟨a, outcome⟩ := x
  cases outcome with
  | written path =>
    refine .inl ⟨path, rfl, ?_, rfl⟩
    rw [OrderedMap.get?_eq_some_iff, hentries, List.mem_filterMap]
    exact ⟨(a, .written path), hx, rfl⟩
  | refused f => exact .inr ⟨_, rfl, rfl, rfl, hnone rfl⟩
  | crashed message => exact .inr ⟨_, rfl, rfl, rfl, hnone rfl⟩

/-- Companions of different names are handed over up to the first point at which the round is seen to
be cancelled. Each one that was handed over is written under the path that the emitter answers, or
has one error about its type; the written ones are listed in order, and one more error tells how many
companions are left, if any are. -/
theorem emit_accounts_for_every_companion {σ : Type} (e : Emitter σ) (d : Delivery) (state : σ)
    (cancelled : Bool) (artifacts : List Artifact)
    (h : (artifacts.map (·.qualifiedName)).Nodup) :
    let s := emit e d (.start state cancelled) artifacts
    ∃ c ≤ artifacts.length,
      (∀ k < c, ¬ StopsAfter e d state cancelled (artifacts.take k)) ∧
      (c < artifacts.length → StopsAfter e d state cancelled (artifacts.take c)) ∧
      s.handed = c ∧
      s.state = emitterAfter e d state (artifacts.take c) ∧
      (let answers := answersFrom e d state [] (artifacts.take c)
      s.written.entries = answers.filterMap
          (fun x => x.2.path?.map fun path => (x.1.qualifiedName, path)) ∧
      s.report.diagnostics = answers.filterMap errorOf?
        ++ (if c < artifacts.length then
            [.error none ("Round cancelled; " ++ toString (artifacts.length - c)
              ++ " fielders not written") none]
          else []) ∧
      ∀ x ∈ answers,
        (∃ path, x.2 = .written path ∧ s.written.get? x.1.qualifiedName = some path ∧
          errorOf? x = none) ∨
        (∃ error, errorOf? x = some error ∧ error.isError = true ∧
          error.sourceType = some x.1.sourceType ∧
          s.written.get? x.1.qualifiedName = none)) := by
  intro s
  have hreaches : Reaches e d state cancelled [] (.start state cancelled) := reaches_start
  have hstops := stopsAt_outcomes hreaches artifacts
  have hanswers := deliveries_eq_answersFrom hreaches artifacts
  obtain ⟨hhanded, hstate⟩ := state_emit hreaches artifacts
  refine ⟨(outcomes e d (.start state cancelled) artifacts).length,
    length_outcomes_le _ artifacts, hstops.going, hstops.stops, by simpa using hhanded, hstate, ?_⟩
  intro answers
  have hanswers : deliveries e d (.start state cancelled) artifacts = answers := hanswers
  refine ⟨?_, ?_, ?_⟩
  · have hentries := entries_emit (e := e) (d := d) (.start state cancelled) artifacts
      (by simpa using h)
    rwa [hanswers] at hentries
  · have hdiagnostics := diagnostics_emit (e := e) (d := d) (.start state cancelled) artifacts
    simp only [hanswers, diagnostics_outcomeReport, ← List.filterMap_eq_flatMap_toList]
      at hdiagnostics
    exact hdiagnostics
  · intro x hx
    rw [← hanswers] at hx
    exact account_of_mem h hx

/-- Companions of one package. -/
def companionsOf (names : List String) : List Artifact :=
  names.map fun name => ⟨"p", name, .empty, true, "p." ++ name⟩

/-- An emitter that refuses one type, breaks down at another, and writes the rest. -/
def faltering : Emitter PlannedState :=
  plannedEmitter .python ⟨["p.B"], "read-only", ["p.C"], "emitter bug", none⟩

/-- A delivery of five companions that someone else cancels after the fourth: two are written, two
have an error each, and one is left. -/
theorem emit_interrupted :
    let artifacts := companionsOf ["A", "B", "C", "D", "E"]
    let d : Delivery := ⟨Path.parse "out", false, true, some 4⟩
    let state : PlannedState := ⟨⟨[], [], [], .ample⟩, 0⟩
    let s := emit faltering d (.start state false) artifacts
    (artifacts.map (·.qualifiedName)).Nodup ∧
      ¬ StopsAfter faltering d state false (artifacts.take 3) ∧
      StopsAfter faltering d state false (artifacts.take 4) ∧
      s.written.keys = ["p.A", "p.D"] ∧
      s.report.diagnostics.map (·.sourceType) = [some "p.B", some "p.C", none] ∧
      s.report.diagnostics.getLast?
        = some (.error none "Round cancelled; 1 fielders not written" none) := by
  intro artifacts d state s
  have hnames : (artifacts.map (·.qualifiedName)).Nodup := by decide +kernel
  obtain ⟨c, -, hgoing, hstops, hhanded, -, -, hdiagnostics, -⟩ :=
    emit_accounts_for_every_companion faltering d state false artifacts hnames
  obtain rfl : 4 = c := by
    rw [← hhanded]
    decide +kernel
  refine ⟨hnames, hgoing 3 (by omega), hstops (by decide), by decide +kernel, ?_, ?_⟩
  · rw [hdiagnostics]
    decide +kernel
  · rw [hdiagnostics]
    decide +kernel

end Round
end Roster
