import Mathlib.Algebra.GroupWithZero.Nat
import Mathlib.Data.List.Basic
import Mathlib.Logic.Relation
import Roster.Round

/-! # Workers change only the order of the records

A pool as its workers drive it, step by step: some worker begins a task that waits, or reports the
next record of the task that it is at, or ends that task. Which step comes next is open, so the tasks
may be begun and ended in any order and their records mixed in any way. Results are read off the
tasks once all of them are done.

* `PoolStep.outcomes_eq`, `PoolStep.left_cases`: what a step keeps, and the one record that it moves.
* `results_of_run`, `log_of_run`: a finished run has the results of the tasks in their order, and its
  records are those of a schedule.
* `exists_finished_run`: no pool gets stuck.
* `process_same_for_all_workers`: processing types in a pool differs from processing them one by one
  in the order of the records only.
-/

namespace Roster

/-! ## Pools -/

/-- A task of a pool: waiting for a worker, under way with the records that it has still to report,
or done. -/
inductive PoolTask (α β : Type) where
  | waiting (input : α)
  | running (result : β) (left : Log)
  | done (result : β)

namespace PoolTask

variable {α β : Type}

/-- Whether a worker is at the task. -/
def isRunning : PoolTask α β → Bool
  | .running _ _ => true
  | _ => false

/-- The result of a task that is done. -/
def result? : PoolTask α β → Option β
  | .done result => some result
  | _ => none

/-- The result that a task has or will have. -/
def outcome (task : α → β × Log) : PoolTask α β → β
  | .waiting input => (task input).1
  | .running result _ => result
  | .done result => result

/-- The records that a task has still to report. -/
def left (task : α → β × Log) : PoolTask α β → Log
  | .waiting input => (task input).2
  | .running _ left => left
  | .done _ => []

/-- How many steps a task has still to take. -/
def stepsLeft (task : α → β × Log) : PoolTask α β → Nat
  | .waiting input => (task input).2.length + 2
  | .running _ left => left.length + 1
  | .done _ => 0

end PoolTask

/-- A pool: its tasks in the order in which they were handed in, and the records reported so far. -/
structure Pool (α β : Type) where
  tasks : List (PoolTask α β)
  log : Log

namespace Pool

variable {α β : Type}

/-- A pool that no worker has looked at. -/
def start (inputs : List α) : Pool α β := ⟨inputs.map .waiting, []⟩

/-- Every task is done. -/
def Finished (p : Pool α β) : Prop := ∀ t ∈ p.tasks, t.result?.isSome = true

/-- The results of the tasks that are done, in the order in which the tasks were handed in. -/
def results (p : Pool α β) : List β := p.tasks.filterMap PoolTask.result?

/-- The records that the tasks have still to report. -/
def left (task : α → β × Log) (p : Pool α β) : List Log := p.tasks.map (PoolTask.left task)

/-- How many steps there are still to take. -/
def stepsLeft (task : α → β × Log) (p : Pool α β) : Nat :=
  (p.tasks.map (PoolTask.stepsLeft task)).sum

end Pool

section Runs

variable {α β : Type} (workers : Nat) (task : α → β × Log)

/-- One step of a pool. A worker that is at no task begins any one that waits. -/
inductive PoolStep : Pool α β → Pool α β → Prop where
  | begins {before after : List (PoolTask α β)} {input : α} {log : Log}
      (free : (before ++ .waiting input :: after).countP PoolTask.isRunning < workers) :
      PoolStep ⟨before ++ .waiting input :: after, log⟩
        ⟨before ++ .running (task input).1 (task input).2 :: after, log⟩
  | reports {before after : List (PoolTask α β)} {result : β} {record : LogRecord} {more log : Log} :
      PoolStep ⟨before ++ .running result (record :: more) :: after, log⟩
        ⟨before ++ .running result more :: after, log ++ [record]⟩
  | ends {before after : List (PoolTask α β)} {result : β} {log : Log} :
      PoolStep ⟨before ++ .running result [] :: after, log⟩ ⟨before ++ .done result :: after, log⟩

/-- Any number of steps. -/
abbrev PoolRun : Pool α β → Pool α β → Prop := Relation.ReflTransGen (PoolStep workers task)

end Runs

variable {α β : Type} {workers : Nat} {task : α → β × Log} {p q : Pool α β}

/-! ## What a step does -/

/-- No step changes the result of a task. -/
theorem PoolStep.outcomes_eq (h : PoolStep workers task p q) :
    q.tasks.map (PoolTask.outcome task) = p.tasks.map (PoolTask.outcome task) := by
  cases h with
  | begins free => simp [PoolTask.outcome]
  | reports => simp [PoolTask.outcome]
  | ends => simp [PoolTask.outcome]

theorem takeRecord_append (before after : List Log) (record : LogRecord) (log : Log) :
    takeRecord before.length (before ++ (record :: log) :: after)
      = some (record, before ++ log :: after) := by
  induction before with
  | nil => rfl
  | cons first before ih => simp [takeRecord, ih]

/-- A step moves the first record of one task into the log, or leaves all records where they are. -/
theorem PoolStep.left_cases (h : PoolStep workers task p q) :
    (q.log = p.log ∧ q.left task = p.left task) ∨
      ∃ n record, q.log = p.log ++ [record] ∧
        takeRecord n (p.left task) = some (record, q.left task) := by
  cases h with
  | begins free => exact .inl ⟨rfl, by simp [Pool.left, PoolTask.left]⟩
  | @reports before after result record more log =>
    refine .inr ⟨(before.map (PoolTask.left task)).length, record, rfl, ?_⟩
    simp only [Pool.left, List.map_append, List.map_cons, PoolTask.left]
    exact takeRecord_append _ _ record more
  | ends => exact .inl ⟨rfl, by simp [Pool.left, PoolTask.left]⟩

/-- Every step brings the end nearer. -/
theorem PoolStep.stepsLeft_lt (h : PoolStep workers task p q) :
    q.stepsLeft task < p.stepsLeft task := by
  cases h with
  | begins free =>
    simp only [Pool.stepsLeft, List.map_append, List.map_cons, List.sum_append, List.sum_cons,
      PoolTask.stepsLeft]
    omega
  | reports =>
    simp only [Pool.stepsLeft, List.map_append, List.map_cons, List.sum_append, List.sum_cons,
      PoolTask.stepsLeft, List.length_cons]
    omega
  | ends =>
    simp only [Pool.stepsLeft, List.map_append, List.map_cons, List.sum_append, List.sum_cons,
      PoolTask.stepsLeft, List.length_nil]
    omega

/-! ## Finished runs -/

theorem Pool.Finished.results_eq (task : α → β × Log) (h : p.Finished) :
    p.results = p.tasks.map (PoolTask.outcome task) := by
  rw [Pool.results, ← List.filterMap_eq_map]
  refine List.filterMap_congr ?_
  intro t ht
  have hdone := h t ht
  cases t with
  | waiting input => simp [PoolTask.result?] at hdone
  | running result log => simp [PoolTask.result?] at hdone
  | done result => rfl

/-- Nothing is left to report in a finished pool. -/
theorem Pool.Finished.flatten_left (h : p.Finished) : (p.left task).flatten = [] := by
  rw [List.flatten_eq_nil_iff]
  intro log hlog
  obtain ⟨t, ht, rfl⟩ := List.mem_map.mp hlog
  have hdone := h t ht
  cases t with
  | waiting input => simp [PoolTask.result?] at hdone
  | running result log => simp [PoolTask.result?] at hdone
  | done result => rfl

/-- No run changes the result of a task. -/
theorem outcomes_of_run (h : PoolRun workers task p q) :
    q.tasks.map (PoolTask.outcome task) = p.tasks.map (PoolTask.outcome task) := by
  induction h with
  | refl => rfl
  | tail _ hstep ih => exact hstep.outcomes_eq.trans ih

/-- A finished run has the results of its tasks in the order of the tasks. -/
theorem results_of_run (h : PoolRun workers task p q) (hdone : q.Finished) :
    q.results = p.tasks.map (PoolTask.outcome task) := by
  rw [hdone.results_eq task, outcomes_of_run h]

/-- The records of a finished run are those of a schedule. -/
theorem log_of_run (h : PoolRun workers task p q) (hdone : q.Finished) :
    ∃ schedule, q.log = p.log ++ interleave schedule (p.left task) := by
  induction h using Relation.ReflTransGen.head_induction_on with
  | refl =>
    refine ⟨[], ?_⟩
    rw [interleave, hdone.flatten_left, List.append_nil]
  | head hstep _ ih =>
    obtain ⟨schedule, hlog⟩ := ih
    rcases hstep.left_cases with ⟨hsame, hleft⟩ | ⟨n, record, hmoved, htake⟩
    · exact ⟨schedule, by rw [hlog, hsame, hleft]⟩
    · refine ⟨n :: schedule, ?_⟩
      rw [hlog, hmoved, interleave, htake, List.append_assoc, List.singleton_append]

/-! ## Progress -/

/-- A pool with a worker has a next step unless it is finished. -/
theorem exists_poolStep (task : α → β × Log) (hworkers : 0 < workers) (hopen : ¬ p.Finished) :
    ∃ q, PoolStep workers task p q := by
  obtain ⟨tasks, log⟩ := p
  by_cases hrunning : ∃ t ∈ tasks, t.isRunning = true
  · obtain ⟨t, ht, hrun⟩ := hrunning
    obtain ⟨before, after, rfl⟩ := List.append_of_mem ht
    cases t with
    | waiting input => simp [PoolTask.isRunning] at hrun
    | running result left =>
      cases left with
      | nil => exact ⟨_, .ends⟩
      | cons record more => exact ⟨_, .reports⟩
    | done result => simp [PoolTask.isRunning] at hrun
  · -- no worker is at a task, so one of them can begin a task that is not done
    simp only [Pool.Finished, not_forall] at hopen
    obtain ⟨t, ht, hundone⟩ := hopen
    have hfree : tasks.countP PoolTask.isRunning < workers := by
      rw [List.countP_eq_zero.mpr fun u hu hrun => hrunning ⟨u, hu, hrun⟩]
      exact hworkers
    obtain ⟨before, after, rfl⟩ := List.append_of_mem ht
    cases t with
    | waiting input => exact ⟨_, .begins hfree⟩
    | running result left => exact absurd ⟨_, ht, rfl⟩ hrunning
    | done result => simp [PoolTask.result?] at hundone

/-- A pool with a worker is never stuck: however far it is, it can be driven to its end. -/
theorem exists_finished_run (hworkers : 0 < workers) (p : Pool α β) :
    ∃ q, PoolRun workers task p q ∧ q.Finished := by
  induction hsteps : p.stepsLeft task using Nat.strongRecOn generalizing p with
  | ind n ih =>
    by_cases hdone : p.Finished
    · exact ⟨p, .refl, hdone⟩
    · obtain ⟨next, hstep⟩ := exists_poolStep task hworkers hdone
      obtain ⟨q, hrun, hfinished⟩ := ih _ (hsteps ▸ hstep.stepsLeft_lt) next rfl
      exact ⟨q, .head hstep hrun, hfinished⟩

/-! ## From the start -/

/-- A run from the start to the end gives the results of the tasks in their order, and their records
in the order of a schedule. -/
theorem finished_from_start {inputs : List α} (h : PoolRun workers task (.start inputs) p)
    (hdone : p.Finished) :
    p.results = inputs.map (fun input => (task input).1) ∧
      ∃ schedule, p.log = interleave schedule ((inputs.map task).map (·.2)) := by
  obtain ⟨schedule, hlog⟩ := log_of_run h hdone
  have hresults := results_of_run h hdone
  have hleft : (Pool.start inputs : Pool α β).left task = (inputs.map task).map (·.2) := by
    simp [Pool.start, Pool.left, PoolTask.left]
  rw [hleft] at hlog
  refine ⟨?_, schedule, hlog⟩
  rw [hresults, Pool.start, List.map_map]
  rfl

theorem results_runTasks (workers : Nat) (schedule : List Nat) (task : α → β × Log)
    (inputs : List α) :
    (runTasks workers schedule task inputs).1 = inputs.map fun input => (task input).1 :=
  List.map_map

/-- However the records of tasks are mixed, they are those of the tasks one after the other. -/
theorem mixed_perm (schedule : List Nat) (task : α → β × Log) (inputs : List α) :
    (interleave schedule ((inputs.map task).map (·.2))).Perm
      (inputs.flatMap fun input => (task input).2) := by
  rw [List.flatMap_def, ← Function.comp_def Prod.snd task, ← List.map_map]
  exact interleave_perm _ _

/-- A run from the start to the end is what `runTasks` gives for some schedule. -/
theorem exists_schedule_of_run {inputs : List α} (hpool : runsInPool workers inputs.length = true)
    (h : PoolRun workers task (.start inputs) p) (hdone : p.Finished) :
    ∃ schedule, runTasks workers schedule task inputs = (p.results, p.log) := by
  obtain ⟨hresults, schedule, hlog⟩ := finished_from_start h hdone
  refine ⟨schedule, ?_⟩
  rw [runTasks, if_pos hpool, ← hlog, hresults, List.map_map]
  rfl

/-! ## Processing types -/

namespace Round

/-- What comes of types, given what came of each and the records in the order of their report. -/
def settle (outcomes : List Outcome) (log : Log) : OrderedMap TypeId Artifact × Report :=
  let artifacts := OrderedMap.ofList (outcomes.filterMap (·.made))
  let groups := collisions Artifact.qualifiedName artifacts.values
  (withoutCollisions artifacts groups,
    groups.foldl (fun report members => report ++ collisionReport members)
      ⟨outcomes.flatMap (·.diagnostics), log⟩)

theorem process_eq_settle (setup : RoundSetup) (schedule : List Nat) (g : TypeGraph)
    (types : List (Option TypeId)) :
    process setup schedule g types
      = settle (runTasks setup.effectiveWorkers schedule (processType setup g) types).1
          (runTasks setup.effectiveWorkers schedule (processType setup g) types).2 := rfl

/-- Two outcomes of a list agree in everything but the order of their records. -/
structure SameButOrder (x y : OrderedMap TypeId Artifact × Report) : Prop where
  artifacts_eq : x.1 = y.1
  diagnostics_eq : x.2.diagnostics = y.2.diagnostics
  log_perm : x.2.log.Perm y.2.log

theorem log_foldl {γ : Type} (f : γ → Report) (items : List γ) (r : Report) :
    (items.foldl (fun r item => r ++ f item) r).log
      = r.log ++ items.flatMap fun item => (f item).log := by
  induction items generalizing r with
  | nil => simp
  | cons item items ih => rw [List.foldl_cons, ih, Report.log_append, List.flatMap_cons,
      List.append_assoc]

/-- What comes of types depends on the order of the records only in its own records. -/
theorem settle_of_perm (outcomes : List Outcome) {log log' : Log} (h : log.Perm log') :
    SameButOrder (settle outcomes log) (settle outcomes log') where
  artifacts_eq := rfl
  diagnostics_eq := by
    simp only [settle, Report.diagnostics_foldl]
  log_perm := by
    simp only [settle, log_foldl]
    exact h.append_right _

section Process

variable (setup : RoundSetup) (g : TypeGraph) (types : List (Option TypeId))

/-- The results in the order of the types, with the records in any order, differ from processing the
types one by one in the order of the records only. -/
theorem settle_sameButOrder_alone {log : Log}
    (h : log.Perm (types.flatMap fun type => (processType setup g type).2)) :
    SameButOrder (settle (types.map fun type => (processType setup g type).1) log)
      (process { setup with workers := 1 } [] g types) := by
  have halone : process { setup with workers := 1 } [] g types
      = settle (types.map fun type => (processType setup g type).1)
          (runTasks 1 [] (processType setup g) types).2 := by
    rw [← results_runTasks 1 [] (processType setup g) types]
    exact process_eq_settle _ _ _ _
  have hone : (runTasks 1 [] (processType setup g) types).2.Perm
      (types.flatMap fun type => (processType setup g type).2) := mixed_perm _ _ types
  rw [halone]
  exact settle_of_perm _ (h.trans hone.symm)

/-- What is processed does not depend on the order in which workers report. -/
theorem process_schedule (schedule schedule' : List Nat) :
    (process setup schedule' g types).1 = (process setup schedule g types).1 ∧
      (process setup schedule' g types).2.diagnostics
        = (process setup schedule g types).2.diagnostics := by
  have hsame : ∀ order, SameButOrder (process setup order g types)
      (process { setup with workers := 1 } [] g types) := by
    intro order
    rw [process_eq_settle, results_runTasks]
    exact settle_sameButOrder_alone setup g types (mixed_perm _ (processType setup g) types)
  constructor
  · rw [(hsame schedule').artifacts_eq, (hsame schedule).artifacts_eq]
  · rw [(hsame schedule').diagnostics_eq, (hsame schedule).diagnostics_eq]

/-- A finished run of a pool is what `process` gives for some schedule. -/
theorem exists_schedule_of_pool {workers : Nat} {p : Pool (Option TypeId) Outcome}
    (hpool : runsInPool workers types.length = true)
    (hrun : PoolRun workers (processType setup g) (.start types) p) (hdone : p.Finished) :
    ∃ schedule, process { setup with workers } schedule g types = settle p.results p.log := by
  have hworkers : max 1 workers = workers := by
    simp only [runsInPool, Bool.and_eq_true, decide_eq_true_eq] at hpool
    omega
  obtain ⟨schedule, hsame⟩ := exists_schedule_of_run hpool hrun hdone
  have hprocess : process { setup with workers } schedule g types
      = settle (runTasks (max 1 workers) schedule (processType setup g) types).1
          (runTasks (max 1 workers) schedule (processType setup g) types).2 :=
    process_eq_settle _ _ _ _
  exact ⟨schedule, by rw [hprocess, hworkers, hsame]⟩

end Process

/-- Where the same is discovered, the same companions are made. -/
theorem inspect_again {setup : RoundSetup} {g : TypeGraph} {t t' : FileTree}
    (h : discoverFrom t' [] g setup.sources = discoverFrom t [] g setup.sources)
    (schedule schedule' : List Nat) :
    (inspect setup schedule' t' g).1 = (inspect setup schedule t g).1 := by
  unfold inspect
  rw [h]
  rcases discoverFrom t [] g setup.sources with ⟨g', types | _, report⟩
  · rfl
  · rename_i types
    obtain ⟨hartifacts, hdiagnostics⟩ := process_schedule setup g' types schedule schedule'
    simp only [Report.diagnostics_append, hartifacts, hdiagnostics]

/-- Processing types with any number of workers differs from processing them one by one in the order
of the records only. The workers may take any way through the pool: none of them gets stuck, and the
end of each is an outcome that `process` gives for some schedule. -/
theorem process_same_for_all_workers (setup : RoundSetup) (g : TypeGraph)
    (types : List (Option TypeId)) (workers : Nat) :
    let task := processType setup g
    let alone := process { setup with workers := 1 } [] g types
    (∀ schedule, SameButOrder (process { setup with workers } schedule g types) alone) ∧
    (∀ p, PoolRun workers task (.start types) p → p.Finished →
      SameButOrder (settle p.results p.log) alone ∧
      (runsInPool workers types.length = true →
        ∃ schedule, process { setup with workers } schedule g types = settle p.results p.log)) ∧
    (0 < workers → ∀ p, PoolRun workers task (.start types) p →
      ∃ q, PoolRun workers task p q ∧ q.Finished) := by
  intro task alone
  refine ⟨?_, ?_, fun hworkers p _ => exists_finished_run hworkers p⟩
  · intro schedule
    rw [process_eq_settle, results_runTasks]
    exact settle_sameButOrder_alone setup g types (mixed_perm _ task types)
  · intro p hrun hdone
    obtain ⟨hresults, schedule, hlog⟩ := finished_from_start hrun hdone
    refine ⟨?_, fun hpool => exists_schedule_of_pool setup g types hpool hrun hdone⟩
    rw [hresults, hlog]
    exact settle_sameButOrder_alone setup g types (mixed_perm schedule task types)

end Round
end Roster
