import Mathlib.Data.List.Basic
import Roster.Proofs.Emission
import Roster.Proofs.ManifestEntries
import Roster.Proofs.ManifestFaults
import Roster.Proofs.WorkerOrder

/-! # Errors are logged as they are diagnosed

Whatever goes wrong in a round is told twice, as a diagnostic and as a record of the log. A report that
tells the same errors both ways goes on doing so when another such report is added to it, and every
part of a round reports like this: discovery, the work on each type, collisions, and emission. Several
workers only change the order of the records.

* `Report.Told`: the same errors both ways; `Told.append`, `told_flatMap` put reports together.
* `foreign_discover`, `foreign_collect`: what others log in between is no error of the round.
* `told_discoverFrom`, `told_process`, `told_emit`: the parts of a round.
* `errors_logged_as_diagnosed`: whole rounds, and emission after a look.
-/

namespace Roster

/-- The messages that a round logs as errors, in order. -/
def errorsLogged (log : Log) : List String :=
  (log.filter fun r => r.topic = .round && r.level = .error).map (·.message)

/-- The messages of the errors among diagnostics, in order. -/
def errorMessages (ds : List Diagnostic) : List String := (errorsOf ds).map (·.message)

/-- No record is the round's own. -/
def Foreign (log : Log) : Prop := ∀ r ∈ log, r.topic ≠ .round

@[simp] theorem errorsLogged_append (log more : Log) :
    errorsLogged (log ++ more) = errorsLogged log ++ errorsLogged more := by
  simp [errorsLogged]

@[simp] theorem errorMessages_append (ds es : List Diagnostic) :
    errorMessages (ds ++ es) = errorMessages ds ++ errorMessages es := by
  simp [errorMessages]

theorem errorsLogged_perm {log log' : Log} (h : log.Perm log') :
    (errorsLogged log).Perm (errorsLogged log') :=
  (h.filter _).map _

/-! ## What others log -/

theorem foreign_nil : Foreign [] := fun _ hr => absurd hr List.not_mem_nil

theorem foreign_singleton {r : LogRecord} (h : r.topic ≠ .round) : Foreign [r] := by
  intro r' hr'
  rwa [List.mem_singleton.mp hr']

theorem Foreign.append {log more : Log} (h : Foreign log) (hmore : Foreign more) :
    Foreign (log ++ more) := by
  intro r hr
  exact (List.mem_append.mp hr).elim (h r) (hmore r)

theorem Foreign.errorsLogged {log : Log} (h : Foreign log) : errorsLogged log = [] := by
  rw [Roster.errorsLogged, List.map_eq_nil_iff, List.filter_eq_nil_iff]
  intro r hr
  simp [h r hr]

namespace ClassIndex

theorem foreign_addClass (index : ClassIndex) (c : Source.ClassDeclaration) :
    Foreign (index.addClass c).2 := by
  unfold addClass
  split
  · exact foreign_singleton (by simp)
  · exact foreign_nil

theorem foreign_addClasses (index : ClassIndex) (classes : List Source.ClassDeclaration) :
    Foreign (index.addClasses classes).2 := by
  induction classes generalizing index with
  | nil => exact foreign_nil
  | cons c rest ih => exact (foreign_addClass index c).append (ih _)

theorem foreign_addFiles (t : FileTree) (index : ClassIndex) (files : List SourceFile) :
    Foreign (index.addFiles t files).2 := by
  induction files generalizing index with
  | nil => exact foreign_nil
  | cons file rest ih =>
    unfold addFiles
    cases declarationsIn? t file with
    | none => exact (foreign_singleton (by simp [skipped])).append (ih _)
    | some d => exact (foreign_addClasses _ _).append (ih _)

theorem foreign_addRoots (t : FileTree) (rules : List IgnoreRule) (index : ClassIndex)
    (roots : List Path) : Foreign (index.addRoots t rules roots).2.1 := by
  induction roots generalizing index with
  | nil => exact foreign_nil
  | cons root rest ih =>
    unfold addRoots
    cases scan t rules root with
    | error fault => exact foreign_nil
    | ok files =>
      dsimp only
      split
      · exact foreign_addFiles t index _
      · exact (foreign_addFiles t index files).append (ih _)

theorem foreign_toDiscovery (index : ClassIndex) : Foreign index.toDiscovery.log := by
  refine Foreign.append ?_ (foreign_singleton (by simp))
  intro r hr
  obtain ⟨c, -, rfl⟩ := List.mem_map.mp hr
  unfold ancestorRecord
  split <;> simp

end ClassIndex

theorem foreign_discoverManifest {t : FileTree} {path : Path} {d : Discovery}
    (h : discoverManifest t path = .ok d) : Foreign d.log := by
  obtain ⟨text, v, -, -, -, hvalue⟩ := discoverManifest_eq_ok_iff.mp h
  obtain ⟨items, -, rfl⟩ := Manifest.ofValue_eq_ok_iff.mp hvalue
  exact foreign_singleton (by simp)

/-- What a source logs is about its manifest or its modules. -/
theorem foreign_discover (t : FileTree) (g : TypeGraph) (source : TypeSource) :
    Foreign (source.discover t g).2 := by
  cases source with
  | host name outcome => exact foreign_nil
  | manifest path =>
    cases hgot : discoverManifest t path with
    | error fault =>
      simp only [TypeSource.discover, hgot]
      exact foreign_nil
    | ok d =>
      simp only [TypeSource.discover, hgot]
      exact foreign_discoverManifest hgot
  | modules roots exclude =>
    have hroots := ClassIndex.foreign_addRoots t (excludeRules exclude) .empty roots
    rcases hgot : ClassIndex.empty.addRoots t (excludeRules exclude) roots with
      ⟨index, log, _ | fault⟩
    · rw [hgot] at hroots
      simp only [TypeSource.discover, discoverClasses, hgot]
      exact hroots.append index.foreign_toDiscovery
    · rw [hgot] at hroots
      simp only [TypeSource.discover, discoverClasses, hgot]
      exact hroots

theorem foreign_gatherFields (typeName : String) {acc : Gathered} (h : Foreign acc.log)
    (index : Nat) (fields : List (Option String)) :
    Foreign (gatherFields typeName acc index fields).1.log := by
  induction fields generalizing acc index with
  | nil => exact h
  | cons field rest ih =>
    unfold gatherFields
    cases usableName? field with
    | none => exact h
    | some name =>
      dsimp only
      split
      · exact ih h _
      · exact ih (h.append (foreign_singleton (by simp))) _

theorem foreign_gather (g : TypeGraph) {acc : Gathered} (h : Foreign acc.log)
    (visited : List TypeId) : Foreign (gather g acc visited).1.log := by
  induction visited generalizing acc with
  | nil => exact h
  | cons i rest ih =>
    have hfields := foreign_gatherFields (g.nameOf i) h 0 (g.declaredFields i)
    unfold gather
    rcases hgot : gatherFields (g.nameOf i) acc 0 (g.declaredFields i) with ⟨next, _ | index⟩
    · rw [hgot] at hfields
      refine ih (hfields.append (foreign_singleton ?_))
      unfold stepRecord
      split <;> simp
    · rw [hgot] at hfields
      exact hfields

/-- What is logged on the way up from a type is about the collecting. -/
theorem foreign_collect (g : TypeGraph) (bound : WalkBound) (target : Option TypeId) :
    Foreign (collect g bound target).2 := by
  have hgather : Foreign (gather g ⟨FieldNames.empty, []⟩ (walk g bound target).visited).1.log :=
    foreign_gather g foreign_nil (walk g bound target).visited
  rcases hgot : gather g ⟨FieldNames.empty, []⟩ (walk g bound target).visited with
    ⟨acc, _ | ⟨i, index⟩⟩
  · rw [hgot] at hgather
    simp only [collect, hgot]
    -- a walk that fails at its end has logged what it met until then
    cases (walk g bound target).failure <;> exact hgather
  · rw [hgot] at hgather
    simp only [collect, hgot]
    exact hgather

namespace Round

/-! ## Reports -/

/-- The errors of a report are logged as they are diagnosed. -/
def Report.Told (r : Report) : Prop := errorsLogged r.log = errorMessages r.diagnostics

theorem Report.Told.append {r s : Report} (hr : r.Told) (hs : s.Told) : (r ++ s).Told := by
  rw [Report.Told, Report.log_append, Report.diagnostics_append, errorsLogged_append,
    errorMessages_append, hr, hs]

theorem told_none : Report.none.Told := rfl

theorem told_note (sourceType : Option String) (message : String) :
    (Report.note sourceType message).Told := rfl

theorem told_error (sourceType : Option String) (message : String) (code : Option String) :
    (Report.error sourceType message code).Told := rfl

/-- Records of others need no diagnostic. -/
theorem told_of_foreign {log : Log} (h : Foreign log) : Report.Told ⟨[], log⟩ := h.errorsLogged

/-- Reports one after the other, for each item of a list. -/
theorem told_flatMap {α : Type} {f : α → Report} (hf : ∀ item, (f item).Told) (items : List α) :
    Report.Told ⟨items.flatMap fun item => (f item).diagnostics,
      items.flatMap fun item => (f item).log⟩ := by
  induction items with
  | nil => rfl
  | cons item items ih =>
    simp only [List.flatMap_cons]
    exact (hf item).append ih

theorem report_ext {r s : Report} (hdiagnostics : r.diagnostics = s.diagnostics)
    (hlog : r.log = s.log) : r = s := by
  cases r
  cases s
  rw [Report.mk.injEq]
  exact ⟨hdiagnostics, hlog⟩

theorem foldl_report {α : Type} (f : α → Report) (items : List α) (r : Report) :
    items.foldl (fun r item => r ++ f item) r
      = r ++ ⟨items.flatMap fun item => (f item).diagnostics,
          items.flatMap fun item => (f item).log⟩ :=
  report_ext (Report.diagnostics_foldl f items r) (log_foldl f items r)

/-! ## Discovery -/

theorem told_sourceFailure (name : String) (fault : InputFault) :
    (sourceFailure name fault).Told := by
  cases fault <;> exact told_error _ _ _

theorem told_discoverFrom (t : FileTree) (types : List (Option TypeId)) (g : TypeGraph)
    (sources : List TypeSource) : (discoverFrom t types g sources).2.2.Told := by
  induction sources generalizing types g with
  | nil => exact told_none
  | cons source rest ih =>
    have hlog := foreign_discover t g source
    unfold discoverFrom
    rcases hgot : source.discover t g with ⟨fault | findings, log⟩
    · rw [hgot] at hlog
      exact (told_of_foreign hlog).append (told_sourceFailure _ fault)
    · rw [hgot] at hlog
      exact ((told_of_foreign hlog).append (told_note _ _)).append (ih _ _)

/-! ## Companions -/

section Companions

variable (setup : RoundSetup) (g : TypeGraph)

/-- What is reported of the work on one type. -/
def typeReport (type : Option TypeId) : Report :=
  ⟨(processType setup g type).1.diagnostics, (processType setup g type).2⟩

theorem told_typeReport (type : Option TypeId) : (typeReport setup g type).Told := by
  have hlog := told_of_foreign (foreign_collect g setup.bound type)
  unfold typeReport processType
  rcases hgot : collect g setup.bound type with ⟨f | names, log⟩
  · rw [hgot] at hlog
    exact hlog.append (told_error _ f.message (some f.code))
  · rw [hgot] at hlog
    exact hlog.append (told_note _ _)

theorem told_collisionReport (members : List Artifact) : (collisionReport members).Told := by
  rw [collisionReport, foldl_report]
  exact told_none.append (told_flatMap (fun a => told_error _ _ _) members)

variable (schedule : List Nat) (types : List (Option TypeId))

/-- What is reported of types: what the workers say of each, then the collisions. -/
theorem report_process :
    ∃ collided : Report, collided.Told ∧
      (process setup schedule g types).2
        = ⟨types.flatMap fun type => (typeReport setup g type).diagnostics,
            (runTasks setup.effectiveWorkers schedule (processType setup g) types).2⟩
          ++ collided := by
  rw [process_eq_settle, results_runTasks, settle, foldl_report, List.flatMap_map]
  exact ⟨_, told_flatMap told_collisionReport _, rfl⟩

/-- A single worker logs the errors as they are diagnosed. -/
theorem told_process (h : setup.effectiveWorkers = 1) :
    (process setup schedule g types).2.Told := by
  obtain ⟨collided, hcollided, hreport⟩ := report_process setup g schedule types
  -- a single worker takes one type after the other, whatever the schedule says
  have hlog : (runTasks setup.effectiveWorkers schedule (processType setup g) types).2
      = types.flatMap fun type => (typeReport setup g type).log := by
    rw [h, List.flatMap_def]
    simp [runTasks, runsInPool, interleave, typeReport, Function.comp_def]
  rw [hreport, hlog]
  exact (told_flatMap (told_typeReport setup g) types).append hcollided

/-- Several workers log the same errors in some order. -/
theorem errorsLogged_process_perm :
    (errorsLogged (process setup schedule g types).2.log).Perm
      (errorMessages (process setup schedule g types).2.diagnostics) := by
  obtain ⟨collided, hcollided, hreport⟩ := report_process setup g schedule types
  have hmixed : (runTasks setup.effectiveWorkers schedule (processType setup g) types).2.Perm
      (types.flatMap fun type => (typeReport setup g type).log) := mixed_perm _ _ types
  rw [hreport, Report.log_append, Report.diagnostics_append, errorsLogged_append,
    errorMessages_append, hcollided, ← told_flatMap (told_typeReport setup g) types]
  exact (errorsLogged_perm hmixed).append_right _

/-- A look reports the beginning and the discovery, and what comes of the types if there are any. -/
theorem report_inspect (t : FileTree) :
    ∃ before more : Report, before.Told ∧
      (more = .none ∨ ∃ g' types, more = (process setup schedule g' types).2) ∧
      (inspect setup schedule t g).1.diagnostics = before.diagnostics ++ more.diagnostics ∧
      (inspect setup schedule t g).2 = before.log ++ more.log := by
  have htold := (told_note none "Starting processing round").append
    (told_discoverFrom t [] g setup.sources)
  unfold inspect
  rcases hgot : discoverFrom t [] g setup.sources with ⟨g', _ | types, report⟩
  · rw [hgot] at htold
    exact ⟨_, .none, htold, .inl rfl, (List.append_nil _).symm, (List.append_nil _).symm⟩
  · rw [hgot] at htold
    exact ⟨_, _, htold, .inr ⟨g', types, rfl⟩, rfl, rfl⟩

variable {setup}

/-- A look with a single worker logs the errors as they are diagnosed. -/
theorem errorsLogged_inspect (h : setup.effectiveWorkers = 1) (t : FileTree) :
    errorsLogged (inspect setup schedule t g).2
      = errorMessages (inspect setup schedule t g).1.diagnostics := by
  obtain ⟨before, more, hbefore, hmore, hdiagnostics, hlog⟩ := report_inspect setup g schedule t
  have htold : more.Told := by
    rcases hmore with rfl | ⟨g', types, rfl⟩
    · exact told_none
    · exact told_process setup g' schedule types h
  rw [hdiagnostics, hlog, errorsLogged_append, errorMessages_append, hbefore, htold]

theorem errorsLogged_inspect_perm (t : FileTree) :
    (errorsLogged (inspect setup schedule t g).2).Perm
      (errorMessages (inspect setup schedule t g).1.diagnostics) := by
  obtain ⟨before, more, hbefore, hmore, hdiagnostics, hlog⟩ := report_inspect setup g schedule t
  rw [hdiagnostics, hlog, errorsLogged_append, errorMessages_append, hbefore]
  refine List.Perm.append_left _ ?_
  rcases hmore with rfl | ⟨g', types, rfl⟩
  · exact .refl _
  · exact errorsLogged_process_perm setup g' schedule types

end Companions

/-! ## Emission -/

theorem told_outcomeReport (a : Artifact) (outcome : WriteOutcome) :
    (outcomeReport a outcome).Told := by
  cases outcome <;> rfl

section Delivery

variable {σ : Type} {e : Emitter σ} {d : Delivery}

theorem told_handOver {s : Emission σ} (h : s.report.Told) (a : Artifact) :
    (handOver e d s a).report.Told := by
  unfold handOver
  by_cases hdry : d.dryRun = true
  · -- a dry run has nothing to report
    simp only [hdry, if_true]
    exact h
  · simp only [hdry, Bool.false_eq_true, if_false]
    have houtcome := told_outcomeReport a (e.write s.state a d.output).outcome
    cases hgot : (e.write s.state a d.output).outcome <;>
      · rw [hgot] at houtcome
        exact h.append houtcome

theorem told_emit {s : Emission σ} (h : s.report.Told) (artifacts : List Artifact) :
    (emit e d s artifacts).report.Told := by
  induction artifacts generalizing s with
  | nil => exact h
  | cons a rest ih =>
    cases hcancelled : (s.heed d).cancelled with
    | true =>
      -- the one error for all companions that are left
      rw [(emit_of_cancelled hcancelled a rest).1]
      exact h.append (told_error _ _ _)
    | false =>
      rw [(emit_of_going hcancelled a rest).1]
      exact ih (told_handOver (s := s.heed d) h a)

end Delivery

/-! ## Whole rounds -/

section Rounds

variable {σ : Type} (setup : RoundSetup) (e : Emitter σ) (schedule : List Nat) (g : TypeGraph)

/-- The record that ends a round is no error. -/
theorem errorsLogged_run (state : σ) (d : Delivery) :
    errorsLogged (run setup e schedule g state d).2.2
      = errorsLogged ((inspect setup schedule (e.files state) g).2
        ++ (emit e d (.start state false)
          (inspect setup schedule (e.files state) g).1.artifacts.values).report.log) := by
  simp only [run, errorsLogged_append _ [_]]
  exact List.append_nil _

/-- An emission after a look adds the same errors both ways. -/
theorem errorsLogged_withEmission (t : FileTree) (later : σ) (d : Delivery) (cancelled : Bool) :
    let seen := inspect setup schedule t g
    let s := emit e d (.start later cancelled) seen.1.artifacts.values
    (errorsLogged (seen.2 ++ s.report.log)).Perm
      (errorMessages (withEmission seen.1 s).diagnostics) ∧
    (setup.effectiveWorkers = 1 →
      errorsLogged (seen.2 ++ s.report.log)
        = errorMessages (withEmission seen.1 s).diagnostics) := by
  intro seen s
  have hemit : errorsLogged s.report.log = errorMessages s.report.diagnostics :=
    told_emit told_none seen.1.artifacts.values
  have hdiagnosed : errorMessages (withEmission seen.1 s).diagnostics
      = errorMessages seen.1.diagnostics ++ errorMessages s.report.diagnostics :=
    errorMessages_append _ _
  rw [hdiagnosed, errorsLogged_append, hemit]
  refine ⟨(errorsLogged_inspect_perm g schedule t).append_right _, fun hone => ?_⟩
  rw [errorsLogged_inspect g schedule hone t]

/-- A round logs the errors that it diagnoses and no other, and so does a look with an emission after
it: a single worker in the same order, several in some order. The emission may find the emitter in any
state, and the round cancelled. -/
theorem errors_logged_as_diagnosed (t : FileTree) (state later : σ) (d : Delivery)
    (cancelled : Bool) :
    let whole := run setup e schedule g state d
    let seen := inspect setup schedule t g
    let s := emit e d (.start later cancelled) seen.1.artifacts.values
    let emitted := withEmission seen.1 s
    (errorsLogged whole.2.2).Perm (errorMessages whole.1.diagnostics) ∧
    (errorsLogged (seen.2 ++ s.report.log)).Perm (errorMessages emitted.diagnostics) ∧
    (setup.effectiveWorkers = 1 →
      errorsLogged whole.2.2 = errorMessages whole.1.diagnostics ∧
      errorsLogged (seen.2 ++ s.report.log) = errorMessages emitted.diagnostics) := by
  intro whole seen s emitted
  obtain ⟨hwhole, hwholeAlone⟩ :=
    errorsLogged_withEmission setup e schedule g (e.files state) state d false
  obtain ⟨hlater, hlaterAlone⟩ := errorsLogged_withEmission setup e schedule g t later d cancelled
  rw [errorsLogged_run]
  exact ⟨hwhole, hlater, fun hone => ⟨hwholeAlone hone, hlaterAlone hone⟩⟩

end Rounds

/-- Three types that stand, after a malformed, a cyclic and an abstract one and two of one name. -/
def faultyTypes : TypeGraph := TypeGraph.ofList [
  ⟨"p.B", "B", "p", [none], none, classKind, none⟩,
  ⟨"p.C", "C", "p", [], some 1, classKind, none⟩,
  ⟨"p.I", "I", "p", [], none, interfaceKind, none⟩,
  ⟨"q.D", "D", "p", [], none, classKind, none⟩,
  ⟨"r.D", "D", "p", [], none, classKind, none⟩,
  ⟨"p.X", "X", "p", ["x"], none, classKind, none⟩,
  ⟨"p.Y", "Y", "p", [], none, classKind, none⟩,
  ⟨"p.Z", "Z", "p", [], none, classKind, none⟩]

/-- A round of one worker over the faulty types. -/
def faultySetup : RoundSetup :=
  ⟨[.host "static" (.ok ((List.range 8).map some))], .standard, true, 1⟩

/-- An emitter that refuses the first companion and breaks down at the second. -/
def faultyEmitter : Emitter PlannedState :=
  plannedEmitter .python ⟨["p.X"], "no room", ["p.Y"], "boom", none⟩

/-- The state of the emitter before the first companion. -/
def faultyState : PlannedState := ⟨⟨[], [], [], .ample⟩, 0⟩

/-- The faulty round is cancelled from outside once two companions were handed over; an emission after
a look finds the round cancelled. -/
theorem errors_of_faultySetup :
    let d : Delivery := ⟨Path.parse "out", false, true, some 2⟩
    let seen := inspect faultySetup [] faultyState.tree faultyTypes
    let s := emit faultyEmitter d (.start faultyState true) seen.1.artifacts.values
    let ofTypes := ["Field #0 declared on p.B has no usable name",
      "Cyclic ancestor chain for p.C: p.C -> p.C", "p.I is a interface, not a concrete class",
      "Generated type p.D_Fielder would be produced by more than one type: q.D, r.D",
      "Generated type p.D_Fielder would be produced by more than one type: q.D, r.D"]
    faultySetup.effectiveWorkers = 1 ∧
    errorsLogged (run faultySetup faultyEmitter [] faultyTypes faultyState d).2.2
      = ofTypes ++ ["Unable to write fielder p.X_Fielder: no room",
        "Unable to write fielder p.Y_Fielder: boom", "Round cancelled; 1 fielders not written"] ∧
    errorsLogged (seen.2 ++ s.report.log)
      = ofTypes ++ ["Round cancelled; 3 fielders not written"] := by
  intro d seen s ofTypes
  obtain ⟨-, -, halone⟩ := errors_logged_as_diagnosed faultySetup faultyEmitter [] faultyTypes
    faultyState.tree faultyState faultyState d true
  obtain ⟨hwhole, hemitted⟩ := halone rfl
  rw [hwhole, hemitted]
  exact ⟨rfl, by decide +kernel, by decide +kernel⟩

end Round
end Roster
