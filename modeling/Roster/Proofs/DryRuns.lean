import Mathlib.Data.List.Basic
import Mathlib.Data.List.Forall2
import Mathlib.Data.List.Nodup
import Roster.Proofs.Accounting
import Roster.Proofs.Completeness
import Roster.Proofs.WorkerOrder

/-! # What a dry run tells

A dry run names the places of all companions and hands none to the emitter. If the emitter's answer
to a companion depends on that companion alone, and nobody cancels, a real run differs from it in one
way only: companions that are not written are missing from the written ones and have an error each.

* `Emitter.Foretold`: an emitter whose answers are given by a function of the companion.
* `entries_emit_of_answers`, `diagnostics_emit_of_answers`: a delivery that nobody cancels, told by
  the answers.
* `state_emit_of_dryRun`: a dry delivery leaves the emitter as it was.
* `dry_run_foretells_run`: the two runs side by side.
-/

namespace Roster

/-- What an emitter answers to a companion below an output directory is given by a function, and a
companion that it writes lies at the place that the emitter names. -/
structure Emitter.Foretold {σ : Type} (e : Emitter σ) (output : Path)
    (answer : Artifact → WriteOutcome) : Prop where
  outcome_eq : ∀ state a, (e.write state a output).outcome = answer a
  path_eq : ∀ a path, answer a = .written path → path = output / e.relativePath a

namespace Round

/-- Nobody cancels a delivery: no one from outside, and the emitter neither, if it can. -/
structure Uncancelled {σ : Type} (e : Emitter σ) (d : Delivery) : Prop where
  outside : d.interrupt = none
  inside : d.cancellable = true → ∀ state a, (e.write state a d.output).cancels = false

variable {σ : Type} {e : Emitter σ} {d : Delivery} {answer : Artifact → WriteOutcome}

/-! ## Deliveries that nobody cancels -/

theorem not_stopsAfter (h : Uncancelled e d) (state : σ) (given : List Artifact) :
    ¬ StopsAfter e d state false given := by
  rintro (hstart | ⟨n, hinterrupt, -⟩ | ⟨before, a, after, -, hcancels⟩)
  · contradiction
  · rw [h.outside] at hinterrupt
    contradiction
  · rw [cancelsAt, Bool.and_eq_true, Bool.and_eq_true] at hcancels
    rw [h.inside hcancels.1.2] at hcancels
    exact Bool.false_ne_true hcancels.2

/-- All companions are handed over. -/
theorem length_outcomes_of_uncancelled (h : Uncancelled e d) (state : σ)
    (artifacts : List Artifact) :
    (outcomes e d (.start state false) artifacts).length = artifacts.length := by
  have hstart : Reaches e d state false [] (.start state false) := reaches_start
  have hle := length_outcomes_le (e := e) (d := d) (.start state false) artifacts
  -- to stop short there would have to be a reason
  by_contra hne
  exact not_stopsAfter h state _ ((stopsAt_outcomes hstart artifacts).stops (by omega))

theorem answersFrom_eq_map {state : σ}
    (h : ∀ given a, answerAfter e d state given a = answer a) (given rest : List Artifact) :
    answersFrom e d state given rest = rest.map fun a => (a, answer a) := by
  induction rest generalizing given with
  | nil => rfl
  | cons a rest ih => rw [answersFrom, h, ih, List.map_cons]

/-- Each companion meets the answer that is given for it. -/
theorem deliveries_of_answers (h : Uncancelled e d) {state : σ}
    (hanswer : ∀ given a, answerAfter e d state given a = answer a) (artifacts : List Artifact) :
    deliveries e d (.start state false) artifacts = artifacts.map fun a => (a, answer a) := by
  rw [deliveries_eq_answersFrom reaches_start, length_outcomes_of_uncancelled h, List.take_length,
    answersFrom_eq_map hanswer]

/-- The companions whose answer is a path are written, in order. -/
theorem entries_emit_of_answers (h : Uncancelled e d) {state : σ}
    (hanswer : ∀ given a, answerAfter e d state given a = answer a) {artifacts : List Artifact}
    (hnames : (artifacts.map (·.qualifiedName)).Nodup) :
    (emit e d (.start state false) artifacts).written.entries
      = artifacts.filterMap fun a => (answer a).path?.map fun path => (a.qualifiedName, path) := by
  rw [entries_emit _ _ (by simpa using hnames), deliveries_of_answers h hanswer, written_start,
    OrderedMap.entries_empty, List.nil_append, List.filterMap_map]
  rfl

/-- The other companions have an error each, in order. -/
theorem diagnostics_emit_of_answers (h : Uncancelled e d) {state : σ}
    (hanswer : ∀ given a, answerAfter e d state given a = answer a) (artifacts : List Artifact) :
    (emit e d (.start state false) artifacts).report.diagnostics
      = artifacts.filterMap fun a => errorOf? (a, answer a) := by
  have hall : ¬ (outcomes e d (.start state false) artifacts).length < artifacts.length := by
    rw [length_outcomes_of_uncancelled h]
    exact Nat.lt_irrefl _
  rw [diagnostics_emit, if_neg hall, deliveries_of_answers h hanswer]
  simp only [diagnostics_outcomeReport, ← List.filterMap_eq_flatMap_toList, List.filterMap_map,
    report_start, Report.diagnostics_none, List.nil_append, List.append_nil]
  rfl

/-! ## Dry deliveries and real ones -/

theorem answerAfter_of_dryRun (hdry : d.dryRun = true) (state : σ) (given : List Artifact)
    (a : Artifact) : answerAfter e d state given a = .written (d.output / e.relativePath a) :=
  if_pos hdry

theorem answerAfter_of_foretold (hdry : d.dryRun = false) (h : e.Foretold d.output answer)
    (state : σ) (given : List Artifact) (a : Artifact) :
    answerAfter e d state given a = answer a := by
  rw [answerAfter, hdry]
  exact h.outcome_eq _ a

theorem emitterAfter_of_dryRun (hdry : d.dryRun = true) (state : σ) (given : List Artifact) :
    emitterAfter e d state given = state := by
  induction given with
  | nil => rfl
  | cons a given ih =>
    rw [emitterAfter, List.foldl_cons, if_pos hdry]
    exact ih

/-- A dry delivery leaves the emitter, and so the files, as they were. -/
theorem state_emit_of_dryRun (hdry : d.dryRun = true) (state : σ) (cancelled : Bool)
    (artifacts : List Artifact) :
    (emit e d (.start state cancelled) artifacts).state = state := by
  have hstart : Reaches e d state cancelled [] (.start state cancelled) := reaches_start
  rw [(state_emit hstart artifacts).2, emitterAfter_of_dryRun hdry]

/-- A companion has an error exactly when it is not written; the error is about its type. -/
theorem exists_errorOf? {a : Artifact} (h : (answer a).path? = none) :
    ∃ error, errorOf? (a, answer a) = some error ∧ error.isError = true ∧
      error.sourceType = some a.sourceType := by
  cases hanswer : answer a with
  | written path =>
    rw [hanswer] at h
    contradiction
  | refused f => exact ⟨_, rfl, rfl, rfl⟩
  | crashed message => exact ⟨_, rfl, rfl, rfl⟩

theorem errorOf?_of_written {a : Artifact} (h : (answer a).path? ≠ none) :
    errorOf? (a, answer a) = none := by
  cases hanswer : answer a with
  | written path => rfl
  | refused f =>
    rw [hanswer] at h
    exact absurd rfl h
  | crashed message =>
    rw [hanswer] at h
    exact absurd rfl h

/-- The errors of a delivery belong one by one to the companions that are not written. -/
theorem forall₂_errors (answer : Artifact → WriteOutcome) (artifacts : List Artifact) :
    List.Forall₂ (fun a error => errorOf? (a, answer a) = some error ∧ error.isError = true ∧
        error.sourceType = some a.sourceType)
      (artifacts.filter fun a => (answer a).path?.isNone)
      (artifacts.filterMap fun a => errorOf? (a, answer a)) := by
  induction artifacts with
  | nil => exact .nil
  | cons a artifacts ih =>
    rw [List.filter_cons, List.filterMap_cons]
    cases hpath : (answer a).path? with
    | none =>
      rcases exists_errorOf? hpath with ⟨error, herror, hrest⟩
      rw [herror]
      exact .cons ⟨herror, hrest⟩ ih
    | some path =>
      rw [errorOf?_of_written (by simp [hpath])]
      exact ih

/-- The companions that are written are at the places that the emitter names. -/
theorem filterMap_path (h : e.Foretold d.output answer) (artifacts : List Artifact) :
    (artifacts.filterMap fun a => (answer a).path?.map fun path => (a.qualifiedName, path))
      = (artifacts.filter fun a => (answer a).path?.isSome).map fun a =>
          (a.qualifiedName, d.output / e.relativePath a) := by
  induction artifacts with
  | nil => rfl
  | cons a artifacts ih =>
    rw [List.filter_cons, List.filterMap_cons, ih]
    cases hanswer : answer a with
    | written path =>
      rw [h.path_eq a path hanswer]
      rfl
    | refused f => rfl
    | crashed message => rfl

/-- Names tell companions apart, so whether a companion is written can be told of its name. -/
theorem any_written_iff {artifacts : List Artifact}
    (hnames : (artifacts.map (·.qualifiedName)).Nodup) {a : Artifact} (ha : a ∈ artifacts) :
    (artifacts.any fun b => b.qualifiedName = a.qualifiedName && (answer b).path?.isSome)
      = (answer a).path?.isSome := by
  rw [Bool.eq_iff_iff, List.any_eq_true]
  constructor
  · rintro ⟨b, hb, hboth⟩
    rw [Bool.and_eq_true, decide_eq_true_eq] at hboth
    obtain rfl : b = a := List.inj_on_of_nodup_map hnames hb ha hboth.1
    exact hboth.2
  · intro hsome
    exact ⟨a, ha, by simpa using hsome⟩

/-- Of entries at the places that the emitter names, those remain whose companion is written. -/
theorem entries_filter (h : e.Foretold d.output answer) {artifacts : List Artifact}
    (hnames : (artifacts.map (·.qualifiedName)).Nodup) :
    (artifacts.filterMap fun a => (answer a).path?.map fun path => (a.qualifiedName, path))
      = (artifacts.map fun a => (a.qualifiedName, d.output / e.relativePath a)).filter fun entry =>
          artifacts.any fun a => a.qualifiedName = entry.1 && (answer a).path?.isSome := by
  rw [filterMap_path h, List.filter_map]
  congr 1
  apply List.filter_congr
  intro a ha
  exact (any_written_iff hnames ha).symm

/-! ## Whole rounds -/

section Run

variable (setup : RoundSetup) (schedule : List Nat) (g : TypeGraph) (state : σ)

/-- A dry run lists every companion at the place that the emitter names, reports what discovery and
processing report, and leaves the emitter as it was. -/
theorem run_of_dryRun (h : Uncancelled e d) (hdry : d.dryRun = true) :
    let inspected := (inspect setup schedule (e.files state) g).1
    (run setup e schedule g state d).1.written.entries
        = inspected.artifacts.values.map (fun a => (a.qualifiedName, d.output / e.relativePath a)) ∧
      (run setup e schedule g state d).1.diagnostics = inspected.diagnostics ∧
      (run setup e schedule g state d).2.1.state = state := by
  intro inspected
  have hanswer := answerAfter_of_dryRun (e := e) hdry state
  have hnames : (inspected.artifacts.values.map (·.qualifiedName)).Nodup :=
    nodup_names_run setup e schedule g state d
  refine ⟨?_, ?_, state_emit_of_dryRun hdry state false _⟩
  · rw [← List.filterMap_eq_map]
    exact entries_emit_of_answers h hanswer hnames
  · rw [diagnostics_run, diagnostics_emit_of_answers h hanswer]
    simp [errorOf?, inspected]

end Run

/-! ## Two runs -/

/-- If nobody cancels and the emitter's answers are given by a function of the companion, a dry run
and a real run that discover the same make the same companions. The dry run lists all of them, each at
the place that the emitter names, and leaves the emitter as it was. The real run lists those of them
that were written, in the same order and at the same places, and reports what the dry run reports and
then one error for each companion that was not written, in order. -/
theorem dry_run_foretells_run {σ : Type} (setup : RoundSetup) (e : Emitter σ) (g : TypeGraph)
    (d : Delivery) (answer : Artifact → WriteOutcome) (schedule schedule' : List Nat)
    (state state' : σ) (hanswers : e.Foretold d.output answer) (hquiet : Uncancelled e d)
    (hfound : discoverFrom (e.files state') [] g setup.sources
      = discoverFrom (e.files state) [] g setup.sources) :
    let dry := run setup e schedule g state { d with dryRun := true }
    let real := run setup e schedule' g state' { d with dryRun := false }
    let artifacts := dry.1.artifacts.values
    real.1.artifacts = dry.1.artifacts ∧
    dry.1.written.entries
      = artifacts.map (fun a => (a.qualifiedName, d.output / e.relativePath a)) ∧
    real.1.written = dry.1.written.filter (fun name _ =>
      artifacts.any fun a => a.qualifiedName = name && (answer a).path?.isSome) ∧
    (∃ errors, real.1.diagnostics = dry.1.diagnostics ++ errors ∧
      List.Forall₂ (fun a error => errorOf? (a, answer a) = some error ∧ error.isError = true ∧
        error.sourceType = some a.sourceType)
        (artifacts.filter fun a => (answer a).path?.isNone) errors) ∧
    dry.2.1.state = state := by
  intro dry real artifacts
  -- both runs inspect the same, whatever the order in which their workers report
  have hinspect := inspect_again hfound schedule schedule'
  have hnames : (artifacts.map (·.qualifiedName)).Nodup := nodup_names_run ..
  have hsame : real.1.artifacts = dry.1.artifacts := by
    have hmade := congrArg RoundResult.artifacts hinspect
    exact hmade
  have hquiet' : ∀ dryRun, Uncancelled e { d with dryRun } := fun _ => ⟨hquiet.1, hquiet.2⟩
  have hanswer := answerAfter_of_foretold (d := { d with dryRun := false }) rfl hanswers state'
  obtain ⟨hentries, hclean, hstate⟩ :=
    run_of_dryRun setup schedule g state (hquiet' true) rfl
  refine ⟨hsame, hentries, ?_, ⟨_, ?_, forall₂_errors answer artifacts⟩, hstate⟩
  · -- both lists are told by the answers, so they can be compared entry by entry
    have hwritten : real.1.written
        = (emit e { d with dryRun := false } (.start state' false) artifacts).written := by
      rw [written_run, hsame]
    apply OrderedMap.eq_of_entries
    rw [hwritten, entries_emit_of_answers (hquiet' false) hanswer hnames,
      entries_filter hanswers hnames]
    exact congrArg (List.filter _) hentries.symm
  · rw [← diagnostics_emit_of_answers (hquiet' false) hanswer, diagnostics_run, hinspect]
    exact congrArg (· ++ _) hclean.symm

/-- What an emitter in memory answers: it refuses one type, breaks down at another, and takes the
rest. -/
def choosyAnswer (output : Path) (a : Artifact) : WriteOutcome :=
  if a.sourceType = "p.B" then .refused (.write a.qualifiedName "read-only" (some a.sourceType))
  else if a.sourceType = "p.C" then .crashed "emitter bug"
  else .written (output / relativePath .python a)

/-- The emitter of these answers; its state is what it has taken. -/
def choosy : Emitter (List Artifact) where
  relativePath := relativePath .python
  write taken a output := ⟨taken ++ [a], choosyAnswer output a, false⟩
  files _ := ⟨[], [], [], .ample⟩

/-- A host's list of types of one package. -/
def hostOf (names : List String) : TypeGraph × List TypeSource :=
  (.ofList (names.map fun name => ⟨"p." ++ name, name, "p", [some "x"], none, classKind, none⟩),
    [.host "static" (.ok ((List.range names.length).map some))])

/-- Of four companions that a dry run lists, two are written and two have an error each. -/
theorem dry_run_of_choosy :
    let host := hostOf ["A", "B", "C", "D"]
    let setup : RoundSetup := ⟨host.2, .standard, true, 2⟩
    let d : Delivery := ⟨Path.parse "out", false, true, none⟩
    let dry := run setup choosy [1] host.1 [] { d with dryRun := true }
    let real := run setup choosy [] host.1 [] { d with dryRun := false }
    choosy.Foretold d.output (choosyAnswer d.output) ∧ Uncancelled choosy d ∧
      dry.1.written.keys = ["p.A_Fielder", "p.B_Fielder", "p.C_Fielder", "p.D_Fielder"] ∧
      real.1.written.keys = ["p.A_Fielder", "p.D_Fielder"] ∧
      (∃ errors, real.1.diagnostics = dry.1.diagnostics ++ errors ∧
        errors.map (·.sourceType) = [some "p.B", some "p.C"]) ∧
      dry.2.1.state = [] := by
  intro host setup d dry real
  have hanswers : choosy.Foretold d.output (choosyAnswer d.output) := by
    constructor
    · intro taken a
      rfl
    · intro a path hpath
      unfold choosyAnswer at hpath
      split at hpath
      · contradiction
      · split at hpath
        · contradiction
        · exact (WriteOutcome.written.inj hpath).symm
  have hquiet : Uncancelled choosy d := ⟨rfl, fun _ _ _ => rfl⟩
  obtain ⟨-, -, hreal, ⟨errors, hdiagnostics, herrors⟩, hstate⟩ :=
    dry_run_foretells_run setup choosy host.1 d (choosyAnswer d.output) [1] [] [] [] hanswers hquiet
      rfl
  let artifacts := dry.1.artifacts.values
  have hcomputed : dry.1.written.keys
        = ["p.A_Fielder", "p.B_Fielder", "p.C_Fielder", "p.D_Fielder"] ∧
      (dry.1.written.filter fun name _ => artifacts.any fun a =>
        a.qualifiedName = name && (choosyAnswer d.output a).path?.isSome).keys
        = ["p.A_Fielder", "p.D_Fielder"] ∧
      (artifacts.filter fun a => (choosyAnswer d.output a).path?.isNone).map
        (fun a => some a.sourceType) = [some "p.B", some "p.C"] := by
    decide +kernel
  refine ⟨hanswers, hquiet, hcomputed.1, ?_, ⟨errors, hdiagnostics, ?_⟩, hstate⟩
  · rw [hreal]
    exact hcomputed.2.1
  · rw [← hcomputed.2.2, eq_comm, ← List.forall₂_eq_eq_eq, List.forall₂_map_left_iff,
      List.forall₂_map_right_iff]
    exact herrors.imp fun _ _ herror => herror.2.2.symm

end Round
end Roster
